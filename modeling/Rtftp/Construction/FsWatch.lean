import Rtftp.Construction.Cursor
import Rtftp.Library.Words

namespace Rtftp
open Library

/-- A leading byte has the width of its sequence and the bounds of the byte behind it. -/
def leadingByte (byte : UInt8) : Option (Nat × UInt8 × UInt8) :=
  if 0xC2 ≤ byte ∧ byte ≤ 0xDF then some (2, 0x80, 0xBF)
  else if byte = 0xE0 then some (3, 0xA0, 0xBF)
  else if byte = 0xED then some (3, 0x80, 0x9F)
  else if 0xE1 ≤ byte ∧ byte ≤ 0xEF then some (3, 0x80, 0xBF)
  else if byte = 0xF0 then some (4, 0x90, 0xBF)
  else if 0xF1 ≤ byte ∧ byte ≤ 0xF3 then some (4, 0x80, 0xBF)
  else if byte = 0xF4 then some (4, 0x80, 0x8F)
  else none

/-- These are the bytes that continue a sequence, up to the number that is left. -/
def continuation : (left : Nat) → (low high : UInt8) → List UInt8 → List UInt8
  | left + 1, low, high, byte :: rest =>
      if low ≤ byte ∧ byte ≤ high then byte :: continuation left 0x80 0xBF rest else []
  | _, _, _, _ => []

/-- A sequence that breaks off is replaced as a whole, and the byte that breaks it starts anew. -/
def replaceInvalid : (fuel : Nat) → List UInt8 → List Char
  | 0, _ => []
  | _, [] => []
  | fuel + 1, byte :: rest =>
      if byte < 0x80 then Char.ofNat byte.toNat :: replaceInvalid fuel rest
      else
        match leadingByte byte with
        | none => Char.ofNat 0xFFFD :: replaceInvalid fuel rest
        | some (width, low, high) =>
            let read := continuation (width - 1) low high rest
            let char :=
              if read.length = width - 1 then
                Char.ofNat (read.foldl (fun code next => code * 64 + next.toNat % 64)
                  (byte.toNat % 2 ^ (7 - width)))
              else Char.ofNat 0xFFFD
            char :: replaceInvalid fuel (rest.drop read.length)

/-- This is `to_string_lossy`, which keeps every valid text. -/
def toStringLossy (bytes : List UInt8) : String :=
  match fromUtf8 bytes with
  | some text => text
  | none => String.ofList (replaceInvalid bytes.length bytes)

def inCloseWrite : UInt32 := 0x8

def inMovedTo : UInt32 := 0x80

/-- An event of the watched directory itself has no name. -/
structure InotifyEvent where
  mask : UInt32
  storedName : Option String
  deriving DecidableEq, Repr

/-- These are the fields of `struct inotify_event` before the name. -/
structure InotifyEventHeader where
  wd : Int32
  mask : UInt32
  cookie : UInt32
  len : UInt32
  deriving DecidableEq, Repr

/-- Four words of four bytes stand before the name. -/
def eventHeaderSize : Nat := 16

/-- The cast of the pointer reads the fields in the byte order of the machine. -/
def InotifyEventHeader.cast (order : ByteOrder) (bytes : List UInt8) : InotifyEventHeader :=
  ⟨(order.wordAt bytes 0).toInt32, order.wordAt bytes 4, order.wordAt bytes 8,
    order.wordAt bytes 12⟩

inductive ParseError where
  | notEnoughBytes
  deriving DecidableEq, Repr

/-- This is `CStr::from_bytes_until_nul`, which fails without a NUL. -/
def fromBytesUntilNul (bytes : List UInt8) : Option (List UInt8) :=
  if 0 ∈ bytes then some (bytes.takeWhile (· != 0)) else none

namespace InotifyEvent

/-- This is `InotifyEvent::from`. The name is unwrapped, so that a name without a NUL panics. -/
def ofBuffer (order : ByteOrder) (buffer : List UInt8) :
    Outcome ParseError (InotifyEvent × Nat) :=
  if buffer.length < eventHeaderSize then .err .notEnoughBytes
  else
    match slice buffer 0 eventHeaderSize with
    | none => .panic
    | some header =>
        let eventHeader := InotifyEventHeader.cast order header
        if 0 < eventHeader.len then
          let messageOffset := eventHeaderSize + eventHeader.len.toNat
          if buffer.length < messageOffset then .err .notEnoughBytes
          else
            match (slice buffer eventHeaderSize messageOffset).bind fromBytesUntilNul with
            | none => .panic
            | some name => .ok (⟨eventHeader.mask, some (toStringLossy name)⟩, messageOffset)
        else .ok (⟨eventHeader.mask, none⟩, eventHeaderSize)

def fileName (event : InotifyEvent) : String := event.storedName.getD ""

def isModify (event : InotifyEvent) : Bool := decide (event.mask &&& (inMovedTo ||| inCloseWrite) > 0)

end InotifyEvent

/-- This is the loop of `parse_events`. It has no outcome when it needs more passes. -/
def parseEventsLoop (order : ByteOrder) (buffer : List UInt8) (bytesRead : Nat) :
    (passes : Nat) → (offset : Nat) → (result : List InotifyEvent) →
      Option (Outcome Empty (List InotifyEvent))
  | 0, _, _ => none
  | passes + 1, offset, result =>
      match slice buffer offset bytesRead with
      | none => some .panic
      | some bytes =>
          match InotifyEvent.ofBuffer order bytes with
          | .ok (event, eventSize) =>
              parseEventsLoop order buffer bytesRead passes (offset + eventSize) (result ++ [event])
          | .err .notEnoughBytes => some (.ok result)
          | .panic => some .panic

def parseEvents (order : ByteOrder) (passes : Nat) (buffer : List UInt8) (bytesRead : Nat) :
    Option (Outcome Empty (List InotifyEvent)) :=
  parseEventsLoop order buffer bytesRead passes 0 []

end Rtftp

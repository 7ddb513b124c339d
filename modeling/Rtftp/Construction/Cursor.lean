import Rtftp.Library.Overwrite
import Rtftp.Library.Serial

namespace Rtftp
open Library

/-- A call returns a value, returns the source's error, or panics. -/
inductive Outcome (Failure A : Type) where
  | ok (value : A)
  | err (failure : Failure)
  | panic
  deriving DecidableEq, Repr

/-- The question mark operator passes every failure on, together with the state it left. -/
def Outcome.andThen {Failure A B State : Type} (call : Outcome Failure A × State)
    (next : A → State → Outcome Failure B × State) : Outcome Failure B × State :=
  match call with
  | (.ok value, state) => next value state
  | (.err failure, state) => (.err failure, state)
  | (.panic, state) => (.panic, state)

def Outcome.ofExcept {Failure A : Type} : Except Failure A → Outcome Failure A
  | .ok value => .ok value
  | .error failure => .err failure

/-- These are the kinds of `io::Error` that the program creates or inspects. -/
inductive ErrorKind where
  | notFound
  | permissionDenied
  | notADirectory
  | unexpectedEof
  | invalidData
  | timedOut
  | connectionReset
  | other
  deriving DecidableEq, Repr

/-- An error made from its kind alone has no message of its own. -/
structure IoError where
  kind : ErrorKind
  message : String
  deriving DecidableEq, Repr

/-- The bytes of a string are its UTF-8 encoding. -/
def utf8 (text : String) : List UInt8 := text.toByteArray.data.toList

/-- This function is `String::from_utf8`. -/
def fromUtf8 (bytes : List UInt8) : Option String := String.fromUTF8? ⟨bytes.toArray⟩

@[simp] theorem fromUtf8_utf8 (text : String) : fromUtf8 (utf8 text) = some text := by
  simp [fromUtf8, utf8, String.fromUTF8?, text.isValidUTF8, String.fromUTF8]

/-- A decoded text has the bytes that it was decoded from. -/
theorem utf8_of_fromUtf8 {bytes : List UInt8} {text : String} (decoded : fromUtf8 bytes = some text) :
    utf8 text = bytes := by
  unfold fromUtf8 String.fromUTF8? at decoded
  split at decoded
  · cases decoded
    rfl
  · cases decoded

/-- A slice of the source panics when its ends lie outside the bytes. -/
def slice (bytes : List UInt8) (start stop : Nat) : Option (List UInt8) :=
  if start ≤ stop ∧ stop ≤ bytes.length then some ((bytes.drop start).take (stop - start)) else none

theorem slice_inside {bytes : List UInt8} {start stop : Nat} (ordered : start ≤ stop)
    (inside : stop ≤ bytes.length) :
    slice bytes start stop = some ((bytes.drop start).take (stop - start)) :=
  if_pos ⟨ordered, inside⟩

theorem slice_length {buffer bytes : List UInt8} {start stop : Nat}
    (seen : slice buffer start stop = some bytes) :
    start ≤ stop ∧ bytes.length = stop - start := by
  rw [slice] at seen
  split at seen
  · next ends =>
    cases seen
    rw [List.length_take, List.length_drop]
    omega
  · cases seen

structure ReadCursor where
  datagram : List UInt8
  index : Nat
  deriving DecidableEq, Repr

def ReadCursor.new (datagram : List UInt8) : ReadCursor := ⟨datagram, 0⟩

def ReadCursor.extractUshort (cursor : ReadCursor) : Except IoError UInt16 × ReadCursor :=
  match cursor.datagram.drop cursor.index with
  | high :: low :: _ => (.ok (fromBeBytes high low), { cursor with index := cursor.index + 2 })
  | _ => (.error ⟨.unexpectedEof, ""⟩, cursor)

/-- The string ends before the first NUL, and the cursor moves past it. -/
def ReadCursor.extractString (cursor : ReadCursor) : Except IoError String × ReadCursor :=
  if cursor.datagram.length ≤ cursor.index then (.error ⟨.unexpectedEof, ""⟩, cursor)
  else
    let rest := cursor.datagram.drop cursor.index
    match rest.findIdx? (· == 0) with
    | some relativeNullIndex =>
        match fromUtf8 (rest.take relativeNullIndex) with
        | some string =>
            (.ok string, { cursor with index := cursor.index + relativeNullIndex + 1 })
        | none => (.error ⟨.invalidData, "Can't parse UTF-8"⟩, cursor)
    | none => (.error ⟨.invalidData, "Null-terminated string is not found"⟩, cursor)

structure BufferError where
  message : String
  deriving DecidableEq, Repr

structure WriteCursor where
  buffer : List UInt8
  offset : Nat
  deriving DecidableEq, Repr

def WriteCursor.new (buffer : List UInt8) : WriteCursor := ⟨buffer, 0⟩

def WriteCursor.putUshort (cursor : WriteCursor) (value : UInt16) :
    Outcome BufferError Nat × WriteCursor :=
  let endIndex := cursor.offset + 2
  if cursor.buffer.length < endIndex then (.err ⟨"Too little data left to write u16"⟩, cursor)
  else
    let high := ((value &&& 0xFF00) >>> 8).toUInt8
    let low := (value &&& 0xFF).toUInt8
    (.ok endIndex, ⟨(cursor.buffer.set cursor.offset high).set (cursor.offset + 1) low, endIndex⟩)

/-- The terminator goes to `buffer[end_index]`, one byte past the space that the check reserves.
That index is outside the buffer when the string fits exactly. -/
def WriteCursor.putString (cursor : WriteCursor) (string : String) :
    Outcome BufferError Nat × WriteCursor :=
  let stringSize := (utf8 string).length
  let endIndex := cursor.offset + stringSize + 1
  if cursor.buffer.length < endIndex then
    (.err ⟨s!"Too little data left to write a string {stringSize} bytes size"⟩, cursor)
  else
    let copied := overwrite cursor.buffer cursor.offset (utf8 string)
    if endIndex < copied.length then (.ok endIndex, ⟨copied.set endIndex 0, endIndex⟩)
    else (.panic, ⟨copied, cursor.offset⟩)

namespace WriteCursor

/-- A write keeps the length of the buffer, whatever it returns. -/
theorem putUshort_length (cursor : WriteCursor) (value : UInt16) :
    (cursor.putUshort value).2.buffer.length = cursor.buffer.length := by
  unfold putUshort
  dsimp only
  split
  · rfl
  · rw [List.length_set, List.length_set]

theorem putString_length (cursor : WriteCursor) (string : String) :
    (cursor.putString string).2.buffer.length = cursor.buffer.length := by
  unfold putString
  dsimp only
  split
  · rfl
  · split
    · rw [List.length_set, overwrite_length]
    · rw [overwrite_length]

end WriteCursor

/-- What both calls of a sequence keep is kept by the sequence. -/
theorem Outcome.andThen_keeps {Failure A B State : Type} (Keeps : State → Prop)
    (call : Outcome Failure A × State) (next : A → State → Outcome Failure B × State)
    (first : Keeps call.2) (second : ∀ value state, Keeps state → Keeps (next value state).2) :
    Keeps (Outcome.andThen call next).2 := by
  obtain ⟨outcome, state⟩ := call
  cases outcome with
  | ok value => exact second value state first
  | err failure => exact first
  | panic => exact first

end Rtftp

import Rtftp.Construction.Messages
import Rtftp.Construction.Options
import Rtftp.Construction.Session

namespace Rtftp.Client
open Library PeerHandler

def bufferSize : Nat := 1536

def defaultBlockSize : Nat := 512

def dataOpcode : UInt16 := 0x03

/-- These are the errors of the client that do not come from its socket or its clock. -/
inductive TFTPClientError where
  | clientError (code : UInt16) (message : String)
  | parseError (error : String)
  | unexpectedData (data : List UInt8)
  deriving DecidableEq, Repr

def TFTPClientError.fmt : TFTPClientError → String
  | .clientError code message => "ACK: [" ++ toString code ++ "] " ++ message
  | .parseError error => "ParseError: " ++ error
  | .unexpectedData data => "UnexpectedData: " ++ toString (data.map UInt8.toNat)

/-- The socket cuts a datagram that is longer than the buffer. A datagram with the expected opcode
is kept, and the fields of an ERROR are unwrapped. -/
def readExpected (opcode : UInt16) (datagram : List UInt8) :
    Outcome TFTPClientError (List UInt8) :=
  let received := datagram.take bufferSize
  match (ReadCursor.new received).extractUshort with
  | (.error _, _) => .err (.parseError "NotEnoughData")
  | (.ok code, cursor) =>
      if code = opcode then .ok received
      else if code = errorOpcode then
        match cursor.extractUshort with
        | (.error _, _) => .panic
        | (.ok errorCode, cursor) =>
            match cursor.extractString with
            | (.error _, _) => .panic
            | (.ok message, _) => .err (.clientError errorCode message)
      else .err (.unexpectedData received)

def readNext (datagram : List UInt8) : Outcome TFTPClientError (List UInt8) :=
  readExpected dataOpcode datagram

def readOack (datagram : List UInt8) : Outcome TFTPClientError (List UInt8) :=
  readExpected oackOpcode datagram

/-- This is `Block::data`, which panics for a block without its number. -/
def blockData (block : List UInt8) : Option (List UInt8) := slice block 4 block.length

/-- This is `Block::acknowledge`, which answers with the number of the block. -/
def acknowledge (block : List UInt8) : List UInt8 :=
  ackDatagram (fromBeBytes (block.getD 2 0) (block.getD 3 0))

/-- A name without a value panics. -/
def fieldsLoop (cursor : ReadCursor) (fields : Table String String) :
    Option (Table String String) :=
  match _named : cursor.extractString with
  | (.error _, _) => some fields
  | (.ok option, middle) =>
      match _valued : middle.extractString with
      | (.error _, _) => none
      | (.ok value, next) => fieldsLoop next (fields.insert option value)
termination_by cursor.datagram.length - cursor.index
decreasing_by
  obtain ⟨same, first, inside⟩ := ReadCursor.extractString_progress _named
  obtain ⟨same', second, _⟩ := ReadCursor.extractString_progress _valued
  rw [same', same]
  omega

/-- This is `OACK::fields`. -/
def fields (oack : List UInt8) : Option (Table String String) :=
  match slice oack 2 oack.length with
  | some options => fieldsLoop (ReadCursor.new options) .empty
  | none => none

/-- This is `u16::from_str`. -/
def parseU16 (text : String) : Option UInt16 :=
  match parseUsize text with
  | some number => if number < 2 ^ 16 then some (UInt16.ofNat number) else none
  | none => none

/-- A client takes one datagram of the server and sends its answers. -/
class Peer (C : Type) where
  receive : C → (datagram : List UInt8) → List (List UInt8) × C

/-- A coroutine waits for the answer to its request, waits for a block, or has returned. -/
inductive DownloadStatus where
  | requesting
  | reading
  | returned (result : Outcome String (List UInt8))
  deriving DecidableEq, Repr

/-- This is the coroutine of `download`. -/
structure Download where
  readData : List UInt8
  status : DownloadStatus
  deriving DecidableEq, Repr

namespace Download

def new : Download := ⟨[], .requesting⟩

/-- Only a full block is followed by another one. -/
def take (download : Download) (datagram : List UInt8) : List (List UInt8) × Download :=
  match readNext datagram with
  | .err error => ([], { download with status := .returned (.err error.fmt) })
  | .panic => ([], { download with status := .returned .panic })
  | .ok block =>
      match blockData block with
      | none => ([], { download with status := .returned .panic })
      | some data =>
          let readData := download.readData ++ data
          ([acknowledge block], ⟨readData,
            if data.length = defaultBlockSize then .reading else .returned (.ok readData)⟩)

/-- The stream of the client passes over runt datagrams. -/
def receive (download : Download) (datagram : List UInt8) : List (List UInt8) × Download :=
  match download.status with
  | .requesting => download.take datagram
  | .reading => if datagram.length < 4 then ([], download) else download.take datagram
  | .returned _ => ([], download)

instance : Peer Download := ⟨receive⟩

end Download

/-- The loop over one window has some of its rounds left. -/
inductive WindowStatus where
  | requesting
  | reading (rounds : Nat)
  | returned (result : Outcome String (List UInt8))
  deriving DecidableEq, Repr

/-- This is the coroutine of `download_window`. -/
structure DownloadWindow where
  windowSize : UInt16
  readData : List UInt8
  status : WindowStatus
  deriving DecidableEq, Repr

namespace DownloadWindow

def new (windowSize : UInt16) : DownloadWindow := ⟨windowSize, [], .requesting⟩

def options (windowSize : UInt16) : Table String String :=
  Table.insert .empty "windowsize" (toString windowSize.toNat)

/-- An empty window has no block to acknowledge, and its acknowledge is unwrapped. -/
def enterWindow (download : DownloadWindow) : DownloadWindow :=
  { download with status :=
      if download.windowSize = 0 then .returned .panic
      else .reading download.windowSize.toNat }

/-- The OACK has to name the window size of the request. -/
def checkWindow (download : DownloadWindow) (oack : List UInt8) :
    List (List UInt8) × DownloadWindow :=
  match fields oack with
  | none => ([], { download with status := .returned .panic })
  | some fields =>
      match fields.get "windowsize" with
      | none => ([], { download with status := .returned (.err "Window size not set") })
      | some text =>
          match parseU16 text with
          | none => ([], { download with
              status := .returned (.err ("Window size not recognized: " ++ text)) })
          | some received =>
              if received ≠ download.windowSize then
                ([], { download with status := .returned (.err ("Window size mismatch: Received " ++
                  toString received ++ ", expected " ++ toString download.windowSize)) })
              else ([ackDatagram 0], download.enterWindow)

/-- The last block of a window is acknowledged, and so is the last block of the file. -/
def take (download : DownloadWindow) (rounds : Nat) (datagram : List UInt8) :
    List (List UInt8) × DownloadWindow :=
  match readNext datagram with
  | .err error => ([], { download with status := .returned (.err error.fmt) })
  | .panic => ([], { download with status := .returned .panic })
  | .ok block =>
      match blockData block with
      | none => ([], { download with status := .returned .panic })
      | some data =>
          let readData := download.readData ++ data
          if data.length < defaultBlockSize then
            ([acknowledge block],
              { download with readData := readData, status := .returned (.ok readData) })
          else if rounds ≤ 1 then
            ([acknowledge block], { download with readData := readData }.enterWindow)
          else ([], { download with readData := readData, status := .reading (rounds - 1) })

def receive (download : DownloadWindow) (datagram : List UInt8) :
    List (List UInt8) × DownloadWindow :=
  match download.status with
  | .requesting =>
      match readOack datagram with
      | .err error => ([], { download with status := .returned (.err error.fmt) })
      | .panic => ([], { download with status := .returned .panic })
      | .ok oack => download.checkWindow oack
  | .reading rounds =>
      if datagram.length < 4 then ([], download) else download.take rounds datagram
  | .returned _ => ([], download)

instance : Peer DownloadWindow := ⟨receive⟩

end DownloadWindow

end Rtftp.Client

import Rtftp.Construction.Error

namespace Rtftp.PeerHandler
open Library

def ackOpcode : UInt16 := 0x04

inductive RecvError where
  | network
  | timeout
  | clientError (code : UInt16) (message : String)
  | ackError
  deriving DecidableEq, Repr

/-- This is what one call of `read_acknowledge` returns. -/
abbrev AckResult := Except RecvError UInt16

/-- The socket yields datagrams of the peer and of other senders, or an error. -/
inductive Arrival where
  | datagram (fromPeer : Bool) (bytes : List UInt8)
  | failed
  deriving DecidableEq, Repr

/-- The stream passes over alien and runt datagrams, but the buffer keeps their bytes. It gives no
value when the arrivals end before a datagram of the peer. -/
def recv (minSize : Nat) : List Arrival → (buffer : List UInt8) →
    Option (Except ErrorKind Nat) × List UInt8
  | [], buffer => (none, buffer)
  | .failed :: _, buffer => (some (.error .other), buffer)
  | .datagram fromPeer bytes :: rest, buffer =>
      let recvSize := min bytes.length buffer.length
      let received := overwrite buffer 0 bytes
      if !fromPeer then recv minSize rest received
      else if recvSize < minSize then recv minSize rest received
      else (some (.ok recvSize), received)

/-- The cursor reads the whole buffer, not only the bytes of the datagram. -/
def parseAcknowledge (buffer : List UInt8) : AckResult :=
  let opcode := (ReadCursor.new buffer).extractUshort
  match opcode.1 with
  | .error _ => .error .ackError
  | .ok value =>
      if value = ackOpcode then
        match opcode.2.extractUshort.1 with
        | .ok index => .ok index
        | .error _ => .error .ackError
      else if value = errorOpcode then
        let code := opcode.2.extractUshort
        match code.1, code.2.extractString.1 with
        | .ok errorCode, .ok errorMessage => .error (.clientError errorCode errorMessage)
        | _, _ => .error .ackError
      else .error .ackError

/-- The arrivals are those within the timeout of the call. -/
def readAcknowledge (arrivals : List Arrival) (buffer : List UInt8) : AckResult × List UInt8 :=
  match recv 4 arrivals buffer with
  | (none, received) => (.error .timeout, received)
  | (some (.error _), received) => (.error .network, received)
  | (some (.ok _), received) => (parseAcknowledge received, received)

end Rtftp.PeerHandler

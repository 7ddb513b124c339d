import Rtftp.Construction.SendFile

namespace Rtftp.PeerHandler
open Library

/-- This receiver keeps only the next expected block. -/
structure Receiver where
  blocks : Nat
  data : List UInt8
  deriving DecidableEq, Repr

def Receiver.accept (receiver : Receiver) : List UInt8 → Receiver
  | 0x00 :: 0x03 :: high :: low :: payload =>
      if fromBeBytes high low = UInt16.ofNat (receiver.blocks + 1) then
        ⟨receiver.blocks + 1, receiver.data ++ payload⟩
      else receiver
  | _ => receiver

def Receiver.receive (datagrams : List (List UInt8)) : Receiver :=
  datagrams.foldl Receiver.accept ⟨0, []⟩

/-- This is the acknowledge of a block. -/
def ackDatagram (index : UInt16) : List UInt8 := [0x00, 0x04] ++ beBytes index

/-- The receiver answers the current block and every block that it has received. -/
def Receiver.reply (receiver : Receiver) : List UInt8 → List (List UInt8)
  | 0x00 :: 0x03 :: high :: low :: _ =>
      if (List.range (receiver.blocks + 1)).any
          fun before => UInt16.ofNat (before + 1) == fromBeBytes high low then
        [ackDatagram (fromBeBytes high low)]
      else []
  | _ => []

variable {O : Type}

/-- A lockstep session is the server, the receiver and the datagrams between them. -/
structure Session (O : Type) where
  server : Sending O
  buffer : List UInt8
  receiver : Receiver
  data : List (List UInt8)
  acks : List (List UInt8)

/-- The network delivers any datagram in flight next, or the server times out. -/
inductive Event where
  | timeout
  | deliverData (place : Nat)
  | deliverAck (place : Nat)
  deriving DecidableEq, Repr

/-- These are the DATA datagrams among the sent ones. -/
def dataSent (sent : List Emission) : List (List UInt8) :=
  sent.filterMap fun emission => match emission with
    | .block _ datagram => some datagram
    | .error _ => none

/-- The function `send` also fires the error that `send_file` returns. -/
def Sending.transmitted (sending : Sending O) : List Emission :=
  sending.line.sent ++ match sending.status with
    | .returned (.error error) => [.error error]
    | _ => []

variable [OpenedFile O]

/-- The server takes the result of `read_acknowledge`, and its new datagrams are in flight. -/
def Session.serve (session : Session O) (read : AckResult × List UInt8) : Session O :=
  let server := session.server.resume read.1
  { session with
    server := server
    buffer := read.2
    data := session.data ++
      dataSent (server.line.sent.drop session.server.line.sent.length) }

def Session.step (session : Session O) : Event → Session O
  | .timeout => session.serve (readAcknowledge [] session.buffer)
  | .deliverData place =>
      match session.data[place]? with
      | some datagram => { session with
          receiver := session.receiver.accept datagram
          data := session.data.eraseIdx place
          acks := session.acks ++ session.receiver.reply datagram }
      | none => session
  | .deliverAck place =>
      match session.acks[place]? with
      | some ack =>
          { session with acks := session.acks.eraseIdx place }.serve
            (readAcknowledge [.datagram true ack] session.buffer)
      | none => session

/-- The session starts with the first block in flight. -/
def Session.start (openedFile : O) (blockSize : UInt16) (buffer : List UInt8) : Session O :=
  let server := Sending.start openedFile (Window.new blockSize 1 (by decide)) []
  ⟨server, buffer, ⟨0, []⟩, dataSent server.line.sent, []⟩

end Rtftp.PeerHandler

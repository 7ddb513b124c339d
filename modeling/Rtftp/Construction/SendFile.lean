import Rtftp.Construction.Acknowledge
import Rtftp.Construction.Window

namespace Rtftp.PeerHandler
open Library

def sendAttempts : Nat := 5

inductive SendError where
  | network
  | timeout
  | clientError (code : UInt16) (message : String)
  | ackError
  deriving DecidableEq, Repr

/-- A datagram handed to the stream is a buffer of the window or a serialized error. -/
inductive Emission where
  | block (index : UInt16) (datagram : List UInt8)
  | error (error : TFTPError)
  deriving DecidableEq, Repr

/-- The line records every datagram handed to the stream. The verdicts tell which of the next
sends succeed, and every later send succeeds. -/
structure Line where
  verdicts : List Bool
  sent : List Emission
  deriving DecidableEq, Repr

def Line.send (line : Line) (emission : Emission) : Bool × Line :=
  match line.verdicts with
  | [] => (true, ⟨[], line.sent ++ [emission]⟩)
  | verdict :: rest => (verdict, ⟨rest, line.sent ++ [emission]⟩)

/-- A failed send of an error is only logged. -/
def fireError (error : TFTPError) (line : Line) : Line := (line.send (.error error)).2

/-- These are the variables of `send_file` that live across an await. The ghost `blocksRead`
counts the successful calls of `push_block`. -/
structure Transfer (O : Type) where
  openedFile : O
  window : Window
  bytesSent : Nat
  blocksSent : Nat
  lastAcknowledgedIndex : UInt16
  lastReadIndex : UInt16
  done : Bool
  blocksRead : Nat

variable {O : Type} [OpenedFile O]

def Transfer.new (openedFile : O) (window : Window) : Transfer O :=
  ⟨openedFile, window, 0, 0, 0, 0, false, 0⟩

/-- This is the first index of the burst that `send_file` passes to `send_reliably`. -/
def Transfer.windowIndex (transfer : Transfer O) : UInt16 := transfer.lastAcknowledgedIndex + 1

def Transfer.unacknowledgedCount (transfer : Transfer O) : UInt16 :=
  transfer.lastReadIndex - transfer.lastAcknowledgedIndex

/-- The body of the fill loop reads one block and tells whether it was the last one. -/
def Transfer.readBlock (transfer : Transfer O) : Except IoError (Transfer O × Bool) :=
  let lastReadIndex := transfer.lastReadIndex + 1
  match transfer.window.pushBlock transfer.openedFile lastReadIndex with
  | .ok ((readBytes, isLast), window, openedFile) =>
      .ok ({ transfer with
        openedFile := openedFile
        window := window
        lastReadIndex := lastReadIndex
        bytesSent := transfer.bytesSent + readBytes
        done := transfer.done || isLast
        blocksRead := transfer.blocksRead + 1 }, isLast)
  | .error error => .error error

/-- The loop `while to_send < window.size()` has `room` rounds left, and the last block ends it
early. -/
def fillWindow : (room : Nat) → Transfer O → (toSend : UInt16) →
    Except TFTPError UInt16 × Transfer O
  | 0, transfer, toSend => (.ok toSend, transfer)
  | room + 1, transfer, toSend =>
      match transfer.readBlock with
      | .ok (next, isLast) =>
          if isLast then (.ok (toSend + 1), next) else fillWindow room next (toSend + 1)
      | .error _ => (.error (.undefined "Read file error occurred"), transfer)

/-- One pass of the outer loop fills the window up to its size. -/
def Transfer.fill (transfer : Transfer O) : Except TFTPError UInt16 × Transfer O :=
  fillWindow (transfer.window.size.toNat - transfer.unacknowledgedCount.toNat) transfer
    transfer.unacknowledgedCount

/-- These are the indices `window_index.wrapping_add(v)` for `v` in `0..count`. -/
def burstIndices (windowIndex count : UInt16) : List UInt16 :=
  (List.range count.toNat).map fun v => windowIndex + UInt16.ofNat v

/-- The sends of one attempt stop at the first network error. -/
def sendBlocks (window : Window) : List UInt16 → Line → Bool × Line
  | [], line => (true, line)
  | blockIndex :: rest, line =>
      match line.send (.block blockIndex (window.send blockIndex)) with
      | (true, line) => sendBlocks window rest line
      | (false, line) => (false, line)

/-- This is the match of `send_reliably` on one received acknowledge. It gives no value when the
next attempt follows. -/
def answer (windowIndex : UInt16) (line : Line) :
    AckResult → Option (Except SendError UInt16) × Line
  | .ok receivedAck =>
      if windowIndex ≤ receivedAck then (some (.ok receivedAck), line)
      else (some (.error .ackError), fireError (.undefined "Received ACK from the past") line)
  | .error .timeout => (none, line)
  | .error (.clientError errorCode errorMessage) =>
      (some (.error (.clientError errorCode errorMessage)), line)
  | .error _ => (some (.error .network), line)

/-- A call waits for its next acknowledge, or has returned with the unread acknowledges. -/
inductive Reply where
  | waiting (line : Line)
  | returned (result : Except SendError UInt16) (line : Line) (rest : List AckResult)

def sendReliably (window : Window) (windowIndex count : UInt16) :
    (attempts : Nat) → Line → List AckResult → Reply
  | 0, line, acks => .returned (.error .timeout) line acks
  | attempts + 1, line, acks =>
      match sendBlocks window (burstIndices windowIndex count) line with
      | (false, line) => .returned (.error .network) line acks
      | (true, line) =>
          match acks with
          | [] => .waiting line
          | ack :: rest =>
              match answer windowIndex line ack with
              | (none, line) => sendReliably window windowIndex count attempts line rest
              | (some result, line) => .returned result line rest

/-- This is the match of `send_file` on the errors of `send_reliably`. -/
def Transfer.failed (transfer : Transfer O) (toSend : UInt16) :
    SendError → Except TFTPError (Nat × Nat)
  | .timeout => .error (.undefined "Send timeout occurred")
  | .clientError _ _ => .ok (transfer.bytesSent, transfer.blocksSent + toSend.toNat)
  | _ => .error (.undefined "Unknown error occurred")

/-- A run of `send_file` waits for its next acknowledge, or has returned. -/
inductive FileReply where
  | waiting (line : Line)
  | returned (result : Except TFTPError (Nat × Nat)) (line : Line)
  deriving DecidableEq

/-- Every pass of the loop reads an acknowledge, so the passes are at most one more than the
acknowledges. -/
def sendFileLoop : (passes : Nat) → Transfer O → Line → List AckResult → FileReply
  | 0, _, line, _ => .waiting line
  | passes + 1, transfer, line, acks =>
      if transfer.done then .returned (.ok (transfer.bytesSent, transfer.blocksSent)) line
      else
        match transfer.fill with
        | (.error error, _) => .returned (.error error) line
        | (.ok toSend, transfer) =>
            match sendReliably transfer.window transfer.windowIndex toSend sendAttempts line acks with
            | .waiting line => .waiting line
            | .returned (.ok receivedAcknowledged) line rest =>
                sendFileLoop passes
                  { transfer with lastAcknowledgedIndex := receivedAcknowledged } line rest
            | .returned (.error error) line _ => .returned (transfer.failed toSend error) line

/-- The acknowledges are the results of the successive calls of `read_acknowledge`. -/
def sendFile (openedFile : O) (window : Window) (verdicts : List Bool) (acks : List AckResult) :
    FileReply :=
  sendFileLoop (acks.length + 1) (Transfer.new openedFile window) ⟨verdicts, []⟩ acks

/-- A suspended `send_file` waits inside `read_acknowledge` with its attempts left. -/
inductive Status where
  | awaiting (toSend : UInt16) (attempts : Nat)
  | returned (result : Except TFTPError (Nat × Nat))
  deriving DecidableEq

/-- This is the coroutine that the compiler makes of `send_file` and `send_reliably`. -/
structure Sending (O : Type) where
  transfer : Transfer O
  line : Line
  status : Status

/-- This is the head of the loop over the attempts. -/
def attempt (transfer : Transfer O) (toSend : UInt16) (line : Line) :
    (attempts : Nat) → Sending O
  | 0 => ⟨transfer, line, .returned (transfer.failed toSend .timeout)⟩
  | attempts + 1 =>
      match sendBlocks transfer.window (burstIndices transfer.windowIndex toSend) line with
      | (false, line) => ⟨transfer, line, .returned (transfer.failed toSend .network)⟩
      | (true, line) => ⟨transfer, line, .awaiting toSend attempts⟩

/-- This is the head of the loop `while !done`. -/
def enterLoop (transfer : Transfer O) (line : Line) : Sending O :=
  if transfer.done then
    ⟨transfer, line, .returned (.ok (transfer.bytesSent, transfer.blocksSent))⟩
  else
    match transfer.fill with
    | (.error error, next) => ⟨next, line, .returned (.error error)⟩
    | (.ok toSend, next) => attempt next toSend line sendAttempts

/-- The coroutine runs from one received acknowledge to the next wait. -/
def Sending.resume (sending : Sending O) (ack : AckResult) : Sending O :=
  match sending.status with
  | .returned _ => sending
  | .awaiting toSend attempts =>
      match answer sending.transfer.windowIndex sending.line ack with
      | (none, line) => attempt sending.transfer toSend line attempts
      | (some (.ok receivedAcknowledged), line) =>
          enterLoop { sending.transfer with lastAcknowledgedIndex := receivedAcknowledged } line
      | (some (.error error), line) =>
          ⟨sending.transfer, line, .returned (sending.transfer.failed toSend error)⟩

def Sending.start (openedFile : O) (window : Window) (verdicts : List Bool) : Sending O :=
  enterLoop (Transfer.new openedFile window) ⟨verdicts, []⟩

def Sending.run (sending : Sending O) (acks : List AckResult) : Sending O :=
  acks.foldl Sending.resume sending

/-- A caller sees only the line and the result. -/
def Sending.reply (sending : Sending O) : FileReply :=
  match sending.status with
  | .awaiting _ _ => .waiting sending.line
  | .returned result => .returned result sending.line

end Rtftp.PeerHandler

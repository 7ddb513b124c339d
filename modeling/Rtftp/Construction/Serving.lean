import Rtftp.Construction.Negotiation
import Rtftp.Construction.Session

namespace Rtftp.PeerHandler
open Library

/-- The log of a session has every datagram that it sends and the result of every call of
`read_acknowledge`. -/
inductive Entry where
  | sent (transmission : Transmission)
  | received (arrivals : List Arrival) (result : AckResult)
  deriving DecidableEq

/-- These are the places where `send` waits. -/
inductive Stage (O : Type) where
  | negotiating (negotiation : Negotiation O)
  | transferring (ackTimeout : AckTimeout) (buffer : List UInt8) (sending : Sending O)
  | closed

structure Serving (O : Type) where
  stage : Stage O
  log : List Entry

/-- An error of the transfer is serialized into the buffer of the session. -/
def render : List Emission → (buffer : List UInt8) → List Transmission × List UInt8
  | [], buffer => ([], buffer)
  | .block index datagram :: rest, buffer =>
      let rendered := render rest buffer
      (.data index datagram :: rendered.1, rendered.2)
  | .error error :: rest, buffer =>
      let fired := fireErrorFrom error buffer
      let rendered := render rest fired.2
      (fired.1 ++ rendered.1, rendered.2)

variable {O : Type}

namespace Serving

/-- The session sends what is new in the transfer, and it ends with the transfer. -/
def settle (log : List Entry) (ackTimeout : AckTimeout) (buffer : List UInt8)
    (alreadySent : Nat) (sending : Sending O) : Serving O :=
  let rendered := render (sending.transmitted.drop alreadySent) buffer
  { stage := match sending.status with
      | .awaiting _ _ => .transferring ackTimeout rendered.2 sending
      | .returned _ => .closed
    log := log ++ rendered.1.map .sent }

variable [OpenedFile O]

/-- A negotiation that succeeds is followed by the transfer. -/
def proceed (log : List Entry) (negotiation : Negotiation O) : Serving O :=
  match negotiation.result with
  | none => ⟨.negotiating negotiation, log⟩
  | some none => ⟨.closed, log⟩
  | some (some (window, ackTimeout)) =>
      settle log ackTimeout negotiation.offering.buffer 0
        (Sending.start negotiation.terms.openedFile window negotiation.offering.verdicts)

/-- This is the coroutine of `send` up to its first wait. -/
def start (openedFile : O) (options : Table String String) (buffer : List UInt8)
    (verdicts : List Bool) : Serving O :=
  let negotiation := negotiateOptions openedFile options buffer verdicts
  proceed (negotiation.offering.sent.map .sent) negotiation

/-- The coroutine takes the arrivals of one call of `read_acknowledge`. -/
def resume (serving : Serving O) (arrivals : List Arrival) : Serving O :=
  match serving.stage with
  | .closed => serving
  | .negotiating negotiation =>
      let read := readAcknowledge arrivals negotiation.offering.buffer
      let next := negotiation.resume arrivals
      proceed (serving.log ++ .received arrivals read.1 ::
        (next.offering.sent.drop negotiation.offering.sent.length).map .sent) next
  | .transferring ackTimeout buffer sending =>
      let read := readAcknowledge arrivals buffer
      settle (serving.log ++ [.received arrivals read.1]) ackTimeout read.2
        sending.line.sent.length (sending.resume read.1)

end Serving

end Rtftp.PeerHandler

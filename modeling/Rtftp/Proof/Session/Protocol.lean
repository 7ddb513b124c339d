import Rtftp.Construction.Serving

namespace Rtftp.PeerHandler
open Library

/-- These are the blocks of a window as they are sent in one attempt. -/
def burst (acknowledged count : UInt16) (bytes : UInt16 → List UInt8) : List Transmission :=
  (burstIndices (acknowledged + 1) count).map fun index => .data index (bytes index)

/-- A session has an OACK or a burst out with some attempts left, or it is over. -/
inductive Phase where
  | offered (left : Nat)
  | bursting (acknowledged count : UInt16) (bytes : UInt16 → List UInt8) (left : Nat)
  | over

/-- One error is sent, unless it cannot be serialized. -/
def Fired (sent : List Transmission) : Prop :=
  sent = [] ∨ ∃ error datagram, sent = [.error error datagram]

/-- The next attempt sends the whole burst, or a part of it before the line breaks, or an error
when there is none left. -/
inductive Repeats (acknowledged count : UInt16) (bytes : UInt16 → List UInt8) :
    Nat → List Transmission → Phase → Prop where
  | whole {left : Nat} :
      Repeats acknowledged count bytes (left + 1) (burst acknowledged count bytes)
        (.bursting acknowledged count bytes left)
  | broken {left : Nat} (taken : Nat) {fired : List Transmission} (error : Fired fired) :
      Repeats acknowledged count bytes (left + 1)
        ((burst acknowledged count bytes).take taken ++ fired) .over
  | exhausted {fired : List Transmission} (error : Fired fired) :
      Repeats acknowledged count bytes 0 fired .over

/-- The loop of the transfer sends the next burst, or it ends, with an error or without. -/
inductive Begins (acknowledged : UInt16) : List Transmission → Phase → Prop where
  | burst {count : UInt16} {bytes : UInt16 → List UInt8} {sent : List Transmission} {next : Phase}
      (repeats : Repeats acknowledged count bytes sendAttempts sent next) :
      Begins acknowledged sent next
  | ended {fired : List Transmission} (error : Fired fired) : Begins acknowledged fired .over

/-- A session starts with an OACK, or with the transfer when it has accepted no option. -/
inductive Launch (unoptioned : Prop) : List Transmission → Phase → Prop where
  | offer (datagram : List UInt8) {left : Nat} (attempts : left + 1 = sendAttempts) :
      Launch unoptioned [.oack datagram] (.offered left)
  | broken (datagram : List UInt8) : Launch unoptioned [.oack datagram] .over
  | failed {fired : List Transmission} (error : Fired fired) : Launch unoptioned fired .over
  | transfer (none : unoptioned) {sent : List Transmission} {next : Phase}
      (begins : Begins 0 sent next) : Launch unoptioned sent next

/-- This is what a session may send after one result of `read_acknowledge`. -/
inductive Move : Phase → AckResult → List Transmission → Phase → Prop where
  | repeatOffer (datagram : List UInt8) {left : Nat} :
      Move (.offered (left + 1)) (.error .timeout) [.oack datagram] (.offered left)
  | breakOffer (datagram : List UInt8) {left : Nat} :
      Move (.offered (left + 1)) (.error .timeout) [.oack datagram] .over
  | abandonOffer {fired : List Transmission} (error : Fired fired) :
      Move (.offered 0) (.error .timeout) fired .over
  | acceptOffer {left : Nat} {sent : List Transmission} {next : Phase} (begins : Begins 0 sent next) :
      Move (.offered left) (.ok 0) sent next
  | refuseOffer {left : Nat} {index : UInt16} {fired : List Transmission} (nonzero : index ≠ 0)
      (error : Fired fired) : Move (.offered left) (.ok index) fired .over
  | dropOffer {left : Nat} {failure : RecvError} (final : failure ≠ .timeout) :
      Move (.offered left) (.error failure) [] .over
  | acknowledge {acknowledged count index : UInt16} {bytes : UInt16 → List UInt8} {left : Nat}
      {sent : List Transmission} {next : Phase} (present : acknowledged + 1 ≤ index)
      (begins : Begins index sent next) :
      Move (.bursting acknowledged count bytes left) (.ok index) sent next
  | past {acknowledged count index : UInt16} {bytes : UInt16 → List UInt8} {left : Nat}
      {first second : List Transmission} (late : ¬ acknowledged + 1 ≤ index) (report : Fired first)
      (error : Fired second) :
      Move (.bursting acknowledged count bytes left) (.ok index) (first ++ second) .over
  | repeatBurst {acknowledged count : UInt16} {bytes : UInt16 → List UInt8} {left : Nat}
      {sent : List Transmission} {next : Phase}
      (repeats : Repeats acknowledged count bytes left sent next) :
      Move (.bursting acknowledged count bytes left) (.error .timeout) sent next
  | terminate {acknowledged count : UInt16} {bytes : UInt16 → List UInt8} {left : Nat}
      {code : UInt16} {message : String} :
      Move (.bursting acknowledged count bytes left) (.error (.clientError code message)) [] .over
  | fail {acknowledged count : UInt16} {bytes : UInt16 → List UInt8} {left : Nat}
      {failure : RecvError} {fired : List Transmission}
      (broken : failure = .network ∨ failure = .ackError) (error : Fired fired) :
      Move (.bursting acknowledged count bytes left) (.error failure) fired .over

/-- A datagram of the peer starts with this acknowledge. -/
def Acknowledges (arrivals : List Arrival) (index : UInt16) : Prop :=
  ∃ rest, .datagram true (ackDatagram index ++ rest) ∈ arrivals

/-- A transcript is the log of a session whose moves are all permitted. -/
inductive Transcript (unoptioned : Prop) (Permitted : Phase → AckResult → Prop) :
    Phase → List Entry → Prop where
  | launch {sent : List Transmission} {phase : Phase} (launched : Launch unoptioned sent phase) :
      Transcript unoptioned Permitted phase (sent.map .sent)
  | move {phase next : Phase} {log : List Entry} {arrivals : List Arrival} {result : AckResult}
      {sent : List Transmission} (earlier : Transcript unoptioned Permitted phase log)
      (permitted : Permitted phase result)
      (genuine : ∀ index, result = .ok index → Acknowledges arrivals index)
      (moved : Move phase result sent next) :
      Transcript unoptioned Permitted next (log ++ .received arrivals result :: sent.map .sent)

end Rtftp.PeerHandler

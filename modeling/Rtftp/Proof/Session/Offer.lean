import Rtftp.Construction.Negotiation
import Rtftp.Library.Machine
import Rtftp.Proof.OptionsDatagram

namespace Rtftp.PeerHandler
open Library

/-- These are the OACK datagrams among the sent ones. -/
def oacksSent (sent : List Transmission) : List (List UInt8) :=
  sent.filterMap fun transmission => match transmission with
    | .oack datagram => some datagram
    | _ => none

theorem oacksSent_append (first second : List Transmission) :
    oacksSent (first ++ second) = oacksSent first ++ oacksSent second :=
  List.filterMap_append

/-- An error is the only datagram that the session fires. -/
theorem fireErrorFrom_sent (error : TFTPError) (buffer : List UInt8) :
    (fireErrorFrom error buffer).1 = [] ∨
      ∃ datagram, (fireErrorFrom error buffer).1 = [.error error datagram] := by
  unfold fireErrorFrom
  split
  · exact .inr ⟨_, rfl⟩
  · exact .inl rfl

theorem fireErrorFrom_oacks (error : TFTPError) (buffer : List UInt8) :
    oacksSent (fireErrorFrom error buffer).1 = [] := by
  rcases fireErrorFrom_sent error buffer with none | ⟨datagram, one⟩
  · rw [none]
    rfl
  · rw [one]
    rfl

/-- This is the byte that the last datagram to reach the position left there. -/
def lastWritten (position : Nat) : List Arrival → Option UInt8
  | [] => none
  | .failed :: _ => none
  | .datagram _ bytes :: rest => (lastWritten position rest).or bytes[position]?

/-- The buffer keeps the bytes of every datagram that the stream passes over. -/
theorem recv_passed {minSize : Nat} {arrivals : List Arrival} {buffer received : List UInt8}
    (passed : recv minSize arrivals buffer = (none, received)) :
    received.length = buffer.length ∧ ∀ position < buffer.length,
      received[position]? = (lastWritten position arrivals).or buffer[position]? := by
  induction arrivals generalizing buffer with
  | nil =>
      obtain ⟨_, rfl⟩ := Prod.mk.inj passed
      exact ⟨rfl, fun position _ => rfl⟩
  | cons arrival rest ih =>
      cases arrival with
      | failed => cases passed
      | datagram fromPeer bytes =>
          have later : recv minSize rest (overwrite buffer 0 bytes) = (none, received) := by
            rw [recv] at passed
            split at passed
            · exact passed
            · split at passed
              · exact passed
              · cases passed
          obtain ⟨length, written⟩ := ih later
          rw [overwrite_length] at length written
          refine ⟨length, fun position inside => ?_⟩
          rw [written position inside, overwrite_getElem? _ _ inside, lastWritten, Option.or_assoc]

theorem parseAcknowledge_timeout (buffer : List UInt8) :
    parseAcknowledge buffer ≠ .error .timeout := by
  intro parsed
  unfold parseAcknowledge at parsed
  dsimp only at parsed
  split at parsed
  · cases parsed
  · split at parsed
    · split at parsed
      · cases parsed
      · cases parsed
    · split at parsed
      · split at parsed
        · cases parsed
        · cases parsed
      · cases parsed

/-- A call times out only when the stream passed over all arrivals. -/
theorem readAcknowledge_timeout {arrivals : List Arrival} {buffer received : List UInt8}
    (read : readAcknowledge arrivals buffer = (.error .timeout, received)) :
    recv 4 arrivals buffer = (none, received) := by
  unfold readAcknowledge at read
  split at read
  · rename_i passed
    rw [passed, (Prod.mk.inj read).2]
  · cases read
  · exact absurd (Prod.mk.inj read).1 (parseAcknowledge_timeout _)

namespace Offering

/-- A waiting coroutine does one of five things with what `read_acknowledge` returns. -/
theorem resume_cases (offering : Offering) (arrivals : List Arrival) {attempts : Nat}
    (waiting : offering.status = .awaiting attempts) {ack : AckResult} {received : List UInt8}
    (read : readAcknowledge arrivals offering.buffer = (ack, received)) :
    (ack = .error .timeout ∧
      offering.resume arrivals = { offering with buffer := received }.attempt attempts) ∨
    (ack = .ok 0 ∧
      offering.resume arrivals =
        { offering with buffer := received, status := .returned (.ok ()) }) ∨
    (∃ ackNum tftpError error, ack = .ok ackNum ∧ ackNum ≠ 0 ∧
      offering.resume arrivals = { offering with buffer := received }.fail tftpError error) ∨
    (∃ code message error, ack = .error (.clientError code message) ∧
      offering.resume arrivals =
        { offering with buffer := received, status := .returned (.error error) }) ∨
    ∃ error, (ack = .error .network ∨ ack = .error .ackError) ∧
      offering.resume arrivals =
        { offering with buffer := received, status := .returned (.error error) } := by
  simp only [resume, waiting, read]
  cases ack with
  | ok ackNum =>
      by_cases zero : ackNum = 0
      · exact .inr (.inl ⟨by rw [zero], if_pos zero⟩)
      · exact .inr (.inr (.inl ⟨ackNum, _, _, rfl, zero, if_neg zero⟩))
  | error failure =>
      cases failure with
      | timeout => exact .inl ⟨rfl, rfl⟩
      | clientError code message => exact .inr (.inr (.inr (.inl ⟨code, message, _, rfl, rfl⟩)))
      | network => exact .inr (.inr (.inr (.inr ⟨_, .inl rfl, rfl⟩)))
      | ackError => exact .inr (.inr (.inr (.inr ⟨_, .inr rfl, rfl⟩)))

theorem resume_returned (offering : Offering) (arrivals : List Arrival)
    {result : Except IoError Unit} (returned : offering.status = .returned result) :
    offering.resume arrivals = offering := by
  simp only [resume, returned]

/-- Nothing that was sent is taken back. -/
theorem resume_extends (offering : Offering) (arrivals : List Arrival) :
    ∃ more, (offering.resume arrivals).sent = offering.sent ++ more := by
  cases status : offering.status with
  | returned result =>
      rw [offering.resume_returned arrivals status]
      exact ⟨[], (List.append_nil _).symm⟩
  | awaiting attempts =>
      cases read : readAcknowledge arrivals offering.buffer with
      | mk ack received =>
          rcases offering.resume_cases arrivals status read with
            ⟨_, resumed⟩ | ⟨_, resumed⟩ | ⟨_, _, _, _, _, resumed⟩ | ⟨_, _, _, _, resumed⟩ |
            ⟨_, _, resumed⟩
          · rw [resumed]
            cases attempts with
            | zero => exact ⟨_, rfl⟩
            | succ attempts => exact ⟨_, rfl⟩
          · rw [resumed]
            exact ⟨[], (List.append_nil _).symm⟩
          · rw [resumed]
            exact ⟨_, rfl⟩
          · rw [resumed]
            exact ⟨[], (List.append_nil _).symm⟩
          · rw [resumed]
            exact ⟨[], (List.append_nil _).symm⟩

/-- Every transmission of the OACK has the same bytes. -/
def Identical (offering : Offering) : Prop :=
  ∀ first ∈ oacksSent offering.sent, ∀ second ∈ oacksSent offering.sent, first = second

/-- The datagrams of a wait that another attempt follows leave the bytes of the OACK as they
were. -/
def Harmless (offering : Offering) (arrivals : List Arrival) : Prop :=
  ∀ attempts, offering.status = .awaiting (attempts + 1) →
    (readAcknowledge arrivals offering.buffer).1 = .error .timeout →
      ∀ position < offering.oackSize, ∀ old byte, offering.buffer[position]? = some old →
        lastWritten position arrivals = some byte → byte = old

/-- A waiting coroutine has sent what its buffer still holds. -/
structure Repeating (offering : Offering) : Prop where
  identical : offering.Identical
  held : ∀ attempts, offering.status = .awaiting attempts →
    offering.buffer.take offering.oackSize ∈ oacksSent offering.sent

/-- The OACK survives a wait exactly when no datagram of the wait changes one of its bytes. -/
theorem harmless_iff (offering : Offering) (arrivals : List Arrival) {attempts : Nat}
    (waiting : offering.status = .awaiting (attempts + 1)) {received : List UInt8}
    (read : readAcknowledge arrivals offering.buffer = (.error .timeout, received)) :
    offering.Harmless arrivals ↔
      received.take offering.oackSize = offering.buffer.take offering.oackSize := by
  obtain ⟨length, written⟩ := recv_passed (readAcknowledge_timeout read)
  constructor
  · intro harmless
    apply List.ext_getElem?
    intro position
    rw [List.getElem?_take, List.getElem?_take]
    split
    · rename_i inside
      by_cases covered : position < offering.buffer.length
      · rw [written position covered]
        cases found : lastWritten position arrivals with
        | none => rw [Option.none_or]
        | some byte =>
            have old := List.getElem?_eq_getElem covered
            rw [old, Option.some_or,
              harmless attempts waiting (by rw [read]) position inside _ byte old found]
      · rw [List.getElem?_eq_none (by omega), List.getElem?_eq_none (by omega)]
    · rfl
  · intro same remaining _ _ position inside old byte held found
    have covered := (List.getElem?_eq_some_iff.mp held).1
    have equal := congrArg (·[position]?) same
    simp only [List.getElem?_take, if_pos inside] at equal
    rw [written position covered, found, Option.some_or, held] at equal
    exact Option.some.inj equal

/-- A coroutine that sends no further OACK stays identical. -/
theorem Identical.of_oacks {offering next : Offering} (identical : offering.Identical)
    (same : oacksSent next.sent = oacksSent offering.sent) : next.Identical := by
  rw [Identical, same]
  exact identical

theorem fail_oacks (offering : Offering) (tftpError : TFTPError) (error : IoError) :
    oacksSent (offering.fail tftpError error).sent = oacksSent offering.sent := by
  simp only [fail, oacksSent_append, fireErrorFrom_oacks, List.append_nil]

/-- Another attempt sends the bytes that the buffer holds now. -/
theorem attempt_oacks (offering : Offering) (attempts : Nat) :
    oacksSent (offering.attempt (attempts + 1)).sent =
      oacksSent offering.sent ++ [offering.buffer.take offering.oackSize] := by
  simp only [attempt, oacksSent_append]
  rfl

/-- A wait is followed by another OACK, or it is the last one. -/
theorem resume_again_or_last (offering : Offering) (arrivals : List Arrival) {attempts : Nat}
    (waiting : offering.status = .awaiting attempts) :
    (∃ remaining received, attempts = remaining + 1 ∧
      readAcknowledge arrivals offering.buffer = (.error .timeout, received) ∧
      offering.resume arrivals =
        { offering with buffer := received }.attempt (remaining + 1)) ∨
    (((readAcknowledge arrivals offering.buffer).1 = .error .timeout → attempts = 0) ∧
      oacksSent (offering.resume arrivals).sent = oacksSent offering.sent ∧
      ∃ result, (offering.resume arrivals).status = .returned result) := by
  cases read : readAcknowledge arrivals offering.buffer with
  | mk ack received =>
      rcases offering.resume_cases arrivals waiting read with
        ⟨rfl, resumed⟩ | ⟨rfl, resumed⟩ | ⟨_, _, _, rfl, _, resumed⟩ | ⟨_, _, _, rfl, resumed⟩ |
        ⟨_, broken, resumed⟩
      · cases attempts with
        | zero =>
            right
            rw [resumed, attempt, fail_oacks]
            exact ⟨fun _ => rfl, rfl, _, rfl⟩
        | succ remaining => exact .inl ⟨remaining, received, rfl, rfl, resumed⟩
      · right
        rw [resumed]
        exact ⟨fun timeout => (nomatch timeout), rfl, _, rfl⟩
      · right
        rw [resumed, fail_oacks]
        exact ⟨fun timeout => (nomatch timeout), rfl, _, rfl⟩
      · right
        rw [resumed]
        exact ⟨fun timeout => (nomatch timeout), rfl, _, rfl⟩
      · right
        rw [resumed]
        refine ⟨fun timeout => ?_, rfl, _, rfl⟩
        obtain rfl : ack = .error .timeout := timeout
        rcases broken with network | ackError
        · cases network
        · cases ackError

/-- A repeated OACK is identical exactly when it has the bytes of the last one. -/
theorem Repeating.attempt_identical {offering : Offering} (repeating : offering.Repeating)
    {attempts : Nat} (waiting : offering.status = .awaiting attempts) (received : List UInt8)
    (remaining : Nat) :
    ({ offering with buffer := received }.attempt (remaining + 1)).Identical ↔
      received.take offering.oackSize = offering.buffer.take offering.oackSize := by
  have held := repeating.held attempts waiting
  rw [Identical, attempt_oacks]
  constructor
  · intro identical
    exact identical _ (List.mem_append_right _ (List.mem_singleton_self _)) _
      (List.mem_append_left _ held)
  · intro same
    have every (datagram : List UInt8) (member : datagram ∈ oacksSent offering.sent ++
        [received.take offering.oackSize]) : datagram = offering.buffer.take offering.oackSize := by
      rcases List.mem_append.mp member with old | new
      · exact repeating.identical datagram old _ held
      · rw [List.mem_singleton.mp new, same]
    intro first member second member'
    rw [every first member, every second member']

/-- One wait keeps the OACK identical exactly when its datagrams are harmless. -/
theorem Repeating.resume_iff {offering : Offering} (repeating : offering.Repeating)
    (arrivals : List Arrival) :
    (offering.resume arrivals).Identical ↔ offering.Harmless arrivals := by
  cases status : offering.status with
  | returned result =>
      rw [offering.resume_returned arrivals status]
      refine ⟨fun _ attempts waiting => ?_, fun _ => repeating.identical⟩
      rw [status] at waiting
      cases waiting
  | awaiting attempts =>
      rcases offering.resume_again_or_last arrivals status with
        ⟨remaining, received, rfl, read, resumed⟩ | ⟨last, same, _⟩
      · rw [resumed, repeating.attempt_identical status, offering.harmless_iff arrivals status read]
      · refine ⟨fun _ remaining waiting timeout => ?_, fun _ => repeating.identical.of_oacks same⟩
        rw [status] at waiting
        cases waiting
        exact absurd (last timeout) (Nat.succ_ne_zero _)

/-- A coroutine that waits again has just sent the OACK. -/
theorem resume_held {offering : Offering} (arrivals : List Arrival) {attempts : Nat}
    (waiting : (offering.resume arrivals).status = .awaiting attempts) :
    (offering.resume arrivals).buffer.take (offering.resume arrivals).oackSize ∈
      oacksSent (offering.resume arrivals).sent := by
  cases status : offering.status with
  | returned result =>
      rw [offering.resume_returned arrivals status, status] at waiting
      cases waiting
  | awaiting remaining =>
      rcases offering.resume_again_or_last arrivals status with
        ⟨_, received, _, _, resumed⟩ | ⟨_, _, result, returned⟩
      · rw [resumed, attempt_oacks]
        exact List.mem_append_right _ (List.mem_singleton_self _)
      · rw [returned] at waiting
        cases waiting

/-- The first OACK is the only one. -/
theorem start_repeating (oack : OptionsAcknowledge) (buffer : List UInt8) (verdicts : List Bool) :
    (start oack buffer verdicts).Repeating := by
  unfold start
  split
  · rename_i size serialized _
    have only : oacksSent (attempt ⟨size, serialized, verdicts, [], .awaiting sendAttempts⟩
        sendAttempts).sent = [serialized.take size] :=
      attempt_oacks _ _
    constructor
    · intro first member second member'
      rw [only, List.mem_singleton] at member member'
      rw [member, member']
    · intro attempts _
      rw [only]
      exact List.mem_singleton_self _
  · constructor
    · intro first member
      rw [fail_oacks] at member
      cases member
    · intro attempts waiting
      cases waiting
  · constructor
    · intro first member
      cases member
    · intro attempts waiting
      cases waiting

/-- A run whose waits are all harmless keeps its OACK. -/
theorem Reach.repeating {oack : OptionsAcknowledge} {buffer : List UInt8} {verdicts : List Bool}
    {offering : Offering}
    (reached : Reach resume Harmless (start oack buffer verdicts) offering) :
    offering.Repeating := by
  apply reached.invariant Repeating (start_repeating oack buffer verdicts)
  intro offering arrivals repeating harmless
  exact ⟨(repeating.resume_iff arrivals).mpr harmless, fun _ => resume_held arrivals⟩

/-- All transmissions of the OACK are identical in a run whose waits are harmless, and the first
harmful wait makes them differ. -/
theorem oackTransmissions_identical_iff (oack : OptionsAcknowledge) (buffer : List UInt8)
    (verdicts : List Bool) {offering : Offering}
    (reached : Reach resume Harmless (start oack buffer verdicts) offering) :
    offering.Identical ∧ ∀ arrivals,
      (offering.resume arrivals).Identical ↔ offering.Harmless arrivals :=
  ⟨(Reach.repeating reached).identical, (Reach.repeating reached).resume_iff⟩

/-- The buffer of a new session starts with the OACK. -/
theorem start_zeroed (oack : OptionsAcknowledge) (size : Nat) (verdicts : List Bool)
    (offered : oack.options ≠ []) (room : oack.body.length < size) :
    start oack (List.replicate size 0) verdicts =
      attempt ⟨oack.body.length, oack.body ++ List.replicate (size - oack.body.length) 0, verdicts,
        [], .awaiting sendAttempts⟩ sendAttempts := by
  rw [start, oack.serialize_zeroed size offered room]

/-- This is the OACK of one option in the buffer of a session. -/
def offered : Offering := start ⟨[("blksize", "1024")]⟩ (List.replicate 65535 0) []

theorem offered_eq : offered =
    attempt ⟨15, OptionsAcknowledge.body ⟨[("blksize", "1024")]⟩ ++ List.replicate 65520 0, [], [],
      .awaiting sendAttempts⟩ sendAttempts :=
  start_zeroed _ 65535 [] (by decide) (by decide)

/-- A lone zero of a stranger falls on the zero that the OACK starts with. -/
theorem oackTransmissions_identical_zero :
    (offered.resume [.datagram false [0x00]]).Identical := by
  have harmless : offered.Harmless [.datagram false [0x00]] := by
    rw [offered_eq]
    intro attempts _ _ position _ old byte held written
    cases position with
    | zero =>
        obtain rfl := Option.some.inj held
        exact (Option.some.inj written).symm
    | succ position => cases written
  exact (oackTransmissions_identical_iff ⟨[("blksize", "1024")]⟩ (List.replicate 65535 0) []
    (.next .start harmless)).1

/-- A stranger that sends an OACK of its own has the server repeat it to the client. -/
theorem oackTransmissions_forged : ¬ (offered.resume
    [.datagram false (OptionsAcknowledge.body ⟨[("blksize", "2048")]⟩)]).Identical := by
  have repeating : offered.Repeating := start_repeating _ _ _
  rw [repeating.resume_iff, offered_eq]
  intro harmless
  have same := harmless 3 rfl rfl 10 (by decide) 0x31 0x32 (by
    simp only [attempt, sendAttempts]
    rw [List.getElem?_append_left (by decide)]
    decide) (by decide)
  exact absurd same (by decide)

end Offering

end Rtftp.PeerHandler

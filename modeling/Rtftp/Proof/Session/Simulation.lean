import Rtftp.Proof.Session.Offer
import Rtftp.Proof.Session.Protocol
import Rtftp.Proof.Session.StaleBytes
import Rtftp.Proof.Transfer.Tracking

namespace Rtftp.PeerHandler
open Library

theorem render_append (first second : List Emission) (buffer : List UInt8) :
    (render (first ++ second) buffer).1 =
      (render first buffer).1 ++ (render second (render first buffer).2).1 := by
  induction first generalizing buffer with
  | nil => rfl
  | cons emission rest ih =>
      cases emission with
      | block index datagram => simp only [List.cons_append, render, ih]
      | error error => simp only [List.cons_append, render, ih, List.append_assoc]

/-- The blocks are sent as they are, and the buffer of the session is left alone. -/
theorem render_emissions (window : Window) (indices : List UInt16) (buffer : List UInt8) :
    render (emissions window indices) buffer =
      (indices.map fun index => .data index (window.send index), buffer) := by
  induction indices with
  | nil => rfl
  | cons index rest ih => simp only [emissions_cons, render, ih, List.map_cons]

/-- A lone error is fired. -/
theorem render_error (error : TFTPError) (buffer : List UInt8) :
    Fired (render [.error error] buffer).1 := by
  simp only [render, List.append_nil]
  rcases fireErrorFrom_sent error buffer with none | ⟨datagram, one⟩
  · exact .inl none
  · exact .inr ⟨error, datagram, one⟩

theorem fireErrorFrom_fired (error : TFTPError) (buffer : List UInt8) :
    Fired (fireErrorFrom error buffer).1 := by
  rcases fireErrorFrom_sent error buffer with none | ⟨datagram, one⟩
  · exact .inl none
  · exact .inr ⟨error, datagram, one⟩

/-- A received datagram is one of the peer, and it covers the front of the buffer. -/
theorem recv_received {minSize size : Nat} {arrivals : List Arrival} {buffer received : List UInt8}
    (read : recv minSize arrivals buffer = (some (.ok size), received)) :
    ∃ bytes old, .datagram true bytes ∈ arrivals ∧ received = overwrite old 0 bytes ∧
      minSize ≤ bytes.length ∧ minSize ≤ old.length := by
  induction arrivals generalizing buffer with
  | nil => cases read
  | cons arrival rest ih =>
      cases arrival with
      | failed => cases read
      | datagram fromPeer bytes =>
          have later (passed : recv minSize rest (overwrite buffer 0 bytes) =
              (some (.ok size), received)) : ∃ bytes' old,
                .datagram true bytes' ∈ .datagram fromPeer bytes :: rest ∧
                received = overwrite old 0 bytes' ∧ minSize ≤ bytes'.length ∧
                minSize ≤ old.length := by
            obtain ⟨other, old, member, written⟩ := ih passed
            exact ⟨other, old, List.mem_cons_of_mem _ member, written⟩
          rw [recv] at read
          split at read
          · exact later read
          · split at read
            · exact later read
            · rename_i peer enough
              obtain ⟨_, rfl⟩ := Prod.mk.inj read
              rw [Bool.not_eq_true', Bool.not_eq_false] at peer
              obtain rfl := peer
              exact ⟨bytes, buffer, List.mem_cons_self, rfl, by omega, by omega⟩

/-- An acknowledge was in a datagram of the peer. -/
theorem readAcknowledge_genuine {arrivals : List Arrival} {buffer received : List UInt8}
    {index : UInt16} (read : readAcknowledge arrivals buffer = (.ok index, received)) :
    Acknowledges arrivals index := by
  unfold readAcknowledge at read
  split at read
  · cases read
  · cases read
  · rename_i got
    obtain ⟨parsed, rfl⟩ := Prod.mk.inj read
    obtain ⟨bytes, old, member, rfl, long, wide⟩ := recv_received got
    match bytes, long with
    | a :: b :: c :: d :: rest, _ =>
        have front : overwrite old 0 (a :: b :: c :: d :: rest) = a :: b :: c :: d ::
            (rest.take (old.length - 4) ++ old.drop (a :: b :: c :: d :: rest).length) := by
          obtain ⟨room, sized⟩ := Nat.exists_eq_add_of_le wide
          rw [overwrite_front, sized, Nat.add_comm 4 room]
          rfl
        rw [front, parseAcknowledge_header] at parsed
        split at parsed
        · rename_i opcode
          have first := (fromBeBytes_eq_iff a b ackOpcode).mp opcode
          have second := (fromBeBytes_eq_iff c d index).mp (Except.ok.inj parsed)
          refine ⟨rest, ?_⟩
          rw [ackDatagram, second, show [0x00, 0x04] = [a, b] from first]
          exact member
        · split at parsed
          · split at parsed
            · cases parsed
            · cases parsed
          · cases parsed

variable {O : Type}

/-- This is what the protocol sees of a session. -/
def Serving.phase (serving : Serving O) : Phase :=
  match serving.stage with
  | .closed => .over
  | .negotiating negotiation =>
      match negotiation.offering.status with
      | .awaiting left => .offered left
      | .returned _ => .over
  | .transferring _ _ sending =>
      match sending.status with
      | .awaiting toSend left =>
          .bursting sending.transfer.lastAcknowledgedIndex toSend sending.transfer.window.send left
      | .returned _ => .over

/-- An attempt of the offer waits, or its line is broken. -/
theorem Offering.attempt_status (offering : Offering) (left : Nat) :
    (offering.attempt (left + 1)).status = .awaiting left ∨
      ∃ error, (offering.attempt (left + 1)).status = .returned (.error error) := by
  simp only [Offering.attempt]
  split
  · exact .inr ⟨_, rfl⟩
  · exact .inl rfl

namespace Serving

/-- A transfer that has returned an error sends that error last. -/
theorem settle_failed (log : List Entry) (ackTimeout : AckTimeout) (buffer : List UInt8)
    (alreadySent new : List Emission) (sending : Sending O) {error : TFTPError}
    (line : sending.line.sent = alreadySent ++ new)
    (returned : sending.status = .returned (.error error)) :
    ∃ fired, Fired fired ∧
      settle log ackTimeout buffer alreadySent.length sending =
        ⟨.closed, log ++ ((render new buffer).1 ++ fired).map .sent⟩ := by
  have transmitted : sending.transmitted.drop alreadySent.length = new ++ [.error error] := by
    simp only [Sending.transmitted, line, returned, List.append_assoc, List.drop_left]
  refine ⟨_, render_error error (render new buffer).2, ?_⟩
  simp only [settle, returned, transmitted, render_append]

/-- One attempt of the transfer is one attempt of the protocol. -/
theorem settle_attempt (log : List Entry) (ackTimeout : AckTimeout) (buffer : List UInt8)
    (transfer : Transfer O) (toSend : UInt16) (line : Line) (attempts : Nat) :
    ∃ sent, (settle log ackTimeout buffer line.sent.length
        (attempt transfer toSend line attempts)).log = log ++ sent.map .sent ∧
      Repeats transfer.lastAcknowledgedIndex toSend transfer.window.send attempts sent
        (settle log ackTimeout buffer line.sent.length
          (attempt transfer toSend line attempts)).phase := by
  cases attempts with
  | zero =>
      obtain ⟨fired, error, settled⟩ := settle_failed log ackTimeout buffer line.sent []
        (attempt transfer toSend line 0) (List.append_nil _).symm rfl
      rw [settled]
      exact ⟨fired, rfl, .exhausted error⟩
  | succ left =>
      obtain ⟨taken, appended, complete⟩ := sendBlocks_sent transfer.window
        (burstIndices transfer.windowIndex toSend) line
      cases blocks : sendBlocks transfer.window (burstIndices transfer.windowIndex toSend) line with
      | mk verdict next =>
          rw [blocks] at appended complete
          cases verdict with
          | false =>
              have attempted : attempt transfer toSend line (left + 1) =
                  ⟨transfer, next, .returned (transfer.failed toSend .network)⟩ := by
                simp only [attempt, blocks]
              obtain ⟨fired, error, settled⟩ := settle_failed log ackTimeout buffer line.sent _
                (attempt transfer toSend line (left + 1))
                (by rw [attempted]; exact appended) (by rw [attempted]; rfl)
              rw [settled, emissions, ← List.map_take]
              change ∃ sent, log ++ ((render (emissions transfer.window _) buffer).1 ++ fired).map _ =
                _ ∧ _
              rw [render_emissions, List.map_take]
              exact ⟨_, rfl, .broken taken error⟩
          | true =>
              have attempted : attempt transfer toSend line (left + 1) =
                  ⟨transfer, next, .awaiting toSend left⟩ := by
                simp only [attempt, blocks]
              have all : next.sent = line.sent ++
                  emissions transfer.window (burstIndices transfer.windowIndex toSend) := by
                rw [appended, List.take_of_length_le]
                rw [emissions, List.length_map]
                exact complete rfl
              have new : (attempt transfer toSend line (left + 1)).transmitted.drop
                  line.sent.length =
                    emissions transfer.window (burstIndices transfer.windowIndex toSend) := by
                simp only [attempted, Sending.transmitted, all, List.append_nil, List.drop_left]
              simp only [settle, new, render_emissions]
              rw [attempted]
              exact ⟨_, rfl, .whole⟩

variable [OpenedFile O]

/-- The head of the loop is the beginning of the next burst. -/
theorem settle_enterLoop (log : List Entry) (ackTimeout : AckTimeout) (buffer : List UInt8)
    (transfer : Transfer O) (line : Line) :
    ∃ sent, (settle log ackTimeout buffer line.sent.length
        (enterLoop transfer line)).log = log ++ sent.map .sent ∧
      Begins transfer.lastAcknowledgedIndex sent
        (settle log ackTimeout buffer line.sent.length (enterLoop transfer line)).phase := by
  unfold enterLoop
  split
  · refine ⟨[], ?_, .ended (.inl rfl)⟩
    simp [settle, Sending.transmitted, render]
  · cases filled : transfer.fill with
    | mk result next =>
        have kept := Transfer.fill_acknowledged filled
        cases result with
        | error error =>
            obtain ⟨fired, reported, settled⟩ := settle_failed log ackTimeout buffer line.sent []
              ⟨next, line, .returned (.error error)⟩ (List.append_nil _).symm rfl
            dsimp only
            rw [settled]
            exact ⟨fired, rfl, .ended reported⟩
        | ok toSend =>
            obtain ⟨sent, logged, repeats⟩ :=
              settle_attempt log ackTimeout buffer next toSend line sendAttempts
            rw [kept] at repeats
            exact ⟨sent, logged, .burst repeats⟩

/-- A successful negotiation is followed by the first burst. -/
theorem proceed_begins (log : List Entry) {negotiation : Negotiation O}
    (accepted : negotiation.offering.status = .returned (.ok ())) :
    ∃ sent, (proceed log negotiation).log = log ++ sent.map .sent ∧
      Begins 0 sent (proceed log negotiation).phase := by
  simp only [proceed, Negotiation.result, accepted]
  exact settle_enterLoop log _ _ _ _

/-- A negotiation that has failed is the end of the session. -/
theorem proceed_closed (log : List Entry) {negotiation : Negotiation O} {error : IoError}
    (failed : negotiation.offering.status = .returned (.error error)) :
    proceed log negotiation = ⟨.closed, log⟩ := by
  simp only [proceed, Negotiation.result, failed]

theorem proceed_waits (log : List Entry) {negotiation : Negotiation O} {attempts : Nat}
    (waiting : negotiation.offering.status = .awaiting attempts) :
    proceed log negotiation = ⟨.negotiating negotiation, log⟩ := by
  simp only [proceed, Negotiation.result, waiting]

/-- After an attempt the session waits, or its line is broken. -/
theorem proceed_attempt (log : List Entry) (terms : Terms O) (offering : Offering) (left : Nat) :
    (proceed log ⟨terms, offering.attempt (left + 1)⟩).log = log ∧
      ((proceed log ⟨terms, offering.attempt (left + 1)⟩).phase = .offered left ∨
        (proceed log ⟨terms, offering.attempt (left + 1)⟩).phase = .over) := by
  rcases offering.attempt_status left with waiting | ⟨error, failed⟩
  · rw [proceed_waits log waiting]
    refine ⟨rfl, .inl ?_⟩
    simp only [phase, waiting]
  · rw [proceed_closed log failed]
    exact ⟨rfl, .inr rfl⟩

/-- The session starts as the protocol does. -/
theorem start_launch (openedFile : O) (options : Table String String) (buffer : List UInt8)
    (verdicts : List Bool) :
    ∃ sent, (start openedFile options buffer verdicts).log = sent.map .sent ∧
      Launch ((acceptOptions openedFile options).oack.options = []) sent
        (start openedFile options buffer verdicts).phase := by
  unfold start negotiateOptions
  dsimp only
  split
  · unfold Offering.start
    split
    · rename_i size serialized _
      obtain ⟨logged, offered | ended⟩ := proceed_attempt
        [.sent (.oack (serialized.take size))] (acceptOptions openedFile options)
        ⟨size, serialized, verdicts, [], .awaiting sendAttempts⟩ 4
      · exact ⟨[.oack (serialized.take size)], logged,
          (congrArg (Launch _ _) offered).mpr (.offer _ rfl)⟩
      · exact ⟨[.oack (serialized.take size)], logged,
          (congrArg (Launch _ _) ended).mpr (.broken _)⟩
    · rename_i error serialized _
      rw [proceed_closed _ rfl]
      exact ⟨_, rfl, .failed (fireErrorFrom_fired _ _)⟩
    · rw [proceed_closed _ rfl]
      exact ⟨[], rfl, .failed (.inl rfl)⟩
  · rename_i none
    have empty : (acceptOptions openedFile options).oack.options = [] := by
      simpa [OptionsAcknowledge.hasOptions] using none
    obtain ⟨sent, logged, begins⟩ := proceed_begins []
      (show (Negotiation.mk (acceptOptions openedFile options)
        ⟨0, buffer, verdicts, [], .returned (.ok ())⟩).offering.status = _ from rfl)
    exact ⟨sent, logged, .transfer empty begins⟩

/-- The session reads its acknowledges into this buffer. -/
def buffer (serving : Serving O) : List UInt8 :=
  match serving.stage with
  | .closed => []
  | .negotiating negotiation => negotiation.offering.buffer
  | .transferring _ buffer _ => buffer

/-- A negotiating session moves as the protocol does. -/
theorem resume_negotiating {serving : Serving O} {negotiation : Negotiation O} {left : Nat}
    (stage : serving.stage = .negotiating negotiation)
    (waiting : negotiation.offering.status = .awaiting left) (arrivals : List Arrival) :
    ∃ sent, (serving.resume arrivals).log = serving.log ++
        .received arrivals (readAcknowledge arrivals serving.buffer).1 :: sent.map .sent ∧
      Move (.offered left) (readAcknowledge arrivals serving.buffer).1 sent
        (serving.resume arrivals).phase := by
  have buffer : serving.buffer = negotiation.offering.buffer := by
    simp only [Serving.buffer, stage]
  rw [buffer]
  simp only [resume, stage]
  cases read : readAcknowledge arrivals negotiation.offering.buffer with
  | mk ack received =>
      dsimp only
      simp only [Negotiation.resume]
      rcases negotiation.offering.resume_cases arrivals waiting read with
        ⟨rfl, resumed⟩ | ⟨rfl, resumed⟩ | ⟨index, _, _, rfl, nonzero, resumed⟩ |
        ⟨_, _, _, rfl, resumed⟩ | ⟨_, broken, resumed⟩
      · rw [resumed]
        cases left with
        | zero =>
            rw [proceed_closed _ rfl]
            simp only [Offering.attempt, Offering.fail, List.drop_left]
            exact ⟨_, rfl, .abandonOffer (fireErrorFrom_fired _ _)⟩
        | succ left =>
            have new : ({ negotiation.offering with buffer := received }.attempt (left + 1)).sent.drop
                negotiation.offering.sent.length =
                  [.oack (received.take negotiation.offering.oackSize)] := by
              simp only [Offering.attempt, List.drop_left]
            rw [new]
            rcases proceed_attempt _ negotiation.terms _ left with ⟨logged, offered | ended⟩
            · rw [logged, offered]
              exact ⟨[_], rfl, .repeatOffer _⟩
            · rw [logged, ended]
              exact ⟨[_], rfl, .breakOffer _⟩
      · rw [resumed]
        simp only [List.drop_length, List.map_nil]
        obtain ⟨sent, logged, begins⟩ := proceed_begins
          (serving.log ++ [.received arrivals (.ok 0)])
          (show (Negotiation.mk negotiation.terms { negotiation.offering with
            buffer := received, status := .returned (.ok ()) }).offering.status = _ from rfl)
        refine ⟨sent, ?_, .acceptOffer begins⟩
        rw [logged, List.append_assoc, List.singleton_append]
      · rw [resumed, proceed_closed _ rfl]
        simp only [Offering.fail, List.drop_left]
        exact ⟨_, rfl, .refuseOffer nonzero (fireErrorFrom_fired _ _)⟩
      · rw [resumed, proceed_closed _ rfl]
        simp only [List.drop_length]
        exact ⟨[], rfl, .dropOffer (by simp)⟩
      · rw [resumed, proceed_closed _ rfl]
        simp only [List.drop_length]
        rcases broken with rfl | rfl
        · exact ⟨[], rfl, .dropOffer (by simp)⟩
        · exact ⟨[], rfl, .dropOffer (by simp)⟩

/-- A transfer that cannot read its acknowledge ends with an error. -/
theorem settle_broken (log : List Entry) (ackTimeout : AckTimeout) (buffer : List UInt8)
    {sending : Sending O} {toSend : UInt16} {left : Nat} {failure : RecvError}
    (waiting : sending.status = .awaiting toSend left)
    (broken : failure = .network ∨ failure = .ackError) :
    ∃ fired, Fired fired ∧
      settle log ackTimeout buffer sending.line.sent.length (sending.resume (.error failure)) =
        ⟨.closed, log ++ fired.map .sent⟩ := by
  have ended : sending.resume (.error failure) = ⟨sending.transfer, sending.line,
      .returned (.error (.undefined "Unknown error occurred"))⟩ := by
    rcases broken with rfl | rfl
    · simp only [Sending.resume, waiting, answer, Transfer.failed]
    · simp only [Sending.resume, waiting, answer, Transfer.failed]
  rw [ended]
  exact settle_failed log ackTimeout buffer sending.line.sent [] _ (List.append_nil _).symm rfl

/-- A transferring session moves as the protocol does. -/
theorem resume_transferring {serving : Serving O} {ackTimeout : AckTimeout} {buffer : List UInt8}
    {sending : Sending O} {toSend : UInt16} {left : Nat}
    (stage : serving.stage = .transferring ackTimeout buffer sending)
    (waiting : sending.status = .awaiting toSend left) (arrivals : List Arrival) :
    ∃ sent, (serving.resume arrivals).log = serving.log ++
        .received arrivals (readAcknowledge arrivals buffer).1 :: sent.map .sent ∧
      Move (.bursting sending.transfer.lastAcknowledgedIndex toSend sending.transfer.window.send left)
        (readAcknowledge arrivals buffer).1 sent (serving.resume arrivals).phase := by
  simp only [resume, stage]
  cases read : readAcknowledge arrivals buffer with
  | mk ack received =>
      dsimp only
      cases ack with
      | ok index =>
          by_cases present : sending.transfer.windowIndex ≤ index
          · rw [Sending.resume_accepted waiting present]
            obtain ⟨sent, logged, begins⟩ := settle_enterLoop
              (serving.log ++ [.received arrivals (.ok index)]) ackTimeout received
              { sending.transfer with lastAcknowledgedIndex := index } sending.line
            refine ⟨sent, ?_, .acknowledge present begins⟩
            rw [logged, List.append_assoc, List.singleton_append]
          · rw [Sending.resume_past waiting present]
            obtain ⟨fired, error, settled⟩ := settle_failed
              (serving.log ++ [.received arrivals (.ok index)]) ackTimeout received
              sending.line.sent _ ⟨sending.transfer,
                fireError (.undefined "Received ACK from the past") sending.line,
                .returned (.error (.undefined "Unknown error occurred"))⟩
              (fireError_sent _ _) rfl
            rw [settled, List.append_assoc, List.singleton_append]
            exact ⟨_, rfl, .past present (render_error _ _) error⟩
      | error failure =>
          cases failure with
          | timeout =>
              rw [Sending.resume_timeout waiting]
              obtain ⟨sent, logged, repeats⟩ := settle_attempt
                (serving.log ++ [.received arrivals (.error .timeout)]) ackTimeout received
                sending.transfer toSend sending.line left
              refine ⟨sent, ?_, .repeatBurst repeats⟩
              rw [logged, List.append_assoc, List.singleton_append]
          | clientError code message =>
              have ended : sending.resume (.error (.clientError code message)) =
                  ⟨sending.transfer, sending.line, .returned (.ok (sending.transfer.bytesSent,
                    sending.transfer.blocksSent + toSend.toNat))⟩ := by
                simp only [Sending.resume, waiting, answer, Transfer.failed]
              rw [ended]
              refine ⟨[], ?_, .terminate⟩
              simp [settle, Sending.transmitted, render]
          | network =>
              obtain ⟨fired, error, settled⟩ := settle_broken
                (serving.log ++ [.received arrivals (.error .network)]) ackTimeout received waiting
                (.inl rfl)
              rw [settled, List.append_assoc, List.singleton_append]
              exact ⟨fired, rfl, .fail (.inl rfl) error⟩
          | ackError =>
              obtain ⟨fired, error, settled⟩ := settle_broken
                (serving.log ++ [.received arrivals (.error .ackError)]) ackTimeout received waiting
                (.inr rfl)
              rw [settled, List.append_assoc, List.singleton_append]
              exact ⟨fired, rfl, .fail (.inr rfl) error⟩

omit [OpenedFile O] in
theorem settle_waits (log : List Entry) (ackTimeout : AckTimeout) (buffer : List UInt8)
    (alreadySent : Nat) (sending : Sending O)
    (ended : (settle log ackTimeout buffer alreadySent sending).phase = .over) :
    (settle log ackTimeout buffer alreadySent sending).stage = .closed := by
  cases status : sending.status with
  | awaiting toSend left => simp [settle, phase, status] at ended
  | returned result => simp only [settle, status]

theorem proceed_over (log : List Entry) (negotiation : Negotiation O)
    (ended : (proceed log negotiation).phase = .over) :
    (proceed log negotiation).stage = .closed := by
  cases status : negotiation.offering.status with
  | awaiting attempts =>
      rw [proceed_waits log status] at ended
      simp [phase, status] at ended
  | returned result =>
      cases result with
      | error error => rw [proceed_closed log status]
      | ok _ =>
          simp only [proceed, Negotiation.result, status] at ended ⊢
          exact settle_waits _ _ _ _ _ ended

/-- A session that is over is closed. -/
theorem resume_over {serving : Serving O} (arrivals : List Arrival)
    (settled : serving.phase = .over → serving.stage = .closed)
    (ended : (serving.resume arrivals).phase = .over) :
    (serving.resume arrivals).stage = .closed := by
  unfold resume at ended ⊢
  split at ended
  · exact settled ended
  · exact proceed_over _ _ ended
  · exact settle_waits _ _ _ _ _ ended

/-- A session simulates the protocol while it waits. -/
structure Simulates (unoptioned : Prop) (Permitted : Phase → AckResult → Prop)
    (serving : Serving O) : Prop where
  settled : serving.phase = .over → serving.stage = .closed
  transcript : Transcript unoptioned Permitted serving.phase serving.log

/-- One step of the session is one move of the protocol. -/
theorem Simulates.resume {unoptioned : Prop} {Permitted : Phase → AckResult → Prop}
    {serving : Serving O} (simulates : Simulates unoptioned Permitted serving)
    (arrivals : List Arrival)
    (permitted : Permitted serving.phase (readAcknowledge arrivals serving.buffer).1) :
    Simulates unoptioned Permitted (serving.resume arrivals) := by
  refine ⟨resume_over arrivals simulates.settled, ?_⟩
  have genuine (index : UInt16)
      (read : (readAcknowledge arrivals serving.buffer).1 = .ok index) :
      Acknowledges arrivals index :=
    readAcknowledge_genuine (Prod.ext read rfl)
  cases stage : serving.stage with
  | closed =>
      have same : serving.resume arrivals = serving := by
        simp only [Serving.resume, stage]
      rw [same]
      exact simulates.transcript
  | negotiating negotiation =>
      cases status : negotiation.offering.status with
      | returned result =>
          have closed := simulates.settled (by simp only [phase, stage, status])
          rw [stage] at closed
          cases closed
      | awaiting left =>
          have offered : serving.phase = .offered left := by
            simp only [phase, stage, status]
          obtain ⟨sent, logged, moved⟩ := resume_negotiating stage status arrivals
          rw [← offered] at moved
          rw [logged]
          exact .move simulates.transcript permitted genuine moved
  | transferring ackTimeout buffer sending =>
      cases status : sending.status with
      | returned result =>
          have closed := simulates.settled (by simp only [phase, stage, status])
          rw [stage] at closed
          cases closed
      | awaiting toSend left =>
          have bursting : serving.phase = .bursting sending.transfer.lastAcknowledgedIndex toSend
              sending.transfer.window.send left := by
            simp only [phase, stage, status]
          have reads : serving.buffer = buffer := by
            simp only [Serving.buffer, stage]
          obtain ⟨sent, logged, moved⟩ := resume_transferring stage status arrivals
          rw [← bursting, ← reads] at moved
          rw [logged, ← reads]
          exact .move simulates.transcript permitted genuine moved

theorem start_simulates (openedFile : O) (options : Table String String) (buffer : List UInt8)
    (verdicts : List Bool) (Permitted : Phase → AckResult → Prop) :
    Simulates ((acceptOptions openedFile options).oack.options = []) Permitted
      (start openedFile options buffer verdicts) := by
  obtain ⟨sent, logged, launched⟩ := start_launch openedFile options buffer verdicts
  refine ⟨proceed_over _ _, ?_⟩
  rw [logged]
  exact .launch launched

/-- Every run of a session is a transcript of the protocol. -/
theorem reach_simulates {openedFile : O} {options : Table String String} {buffer : List UInt8}
    {verdicts : List Bool} (Permitted : Phase → AckResult → Prop) {serving : Serving O}
    (reached : Reach resume (fun serving arrivals =>
        Permitted serving.phase (readAcknowledge arrivals serving.buffer).1)
      (start openedFile options buffer verdicts) serving) :
    Simulates ((acceptOptions openedFile options).oack.options = []) Permitted serving := by
  apply reached.invariant _ (start_simulates openedFile options buffer verdicts Permitted)
  intro serving arrivals simulates permitted
  exact simulates.resume arrivals permitted

end Serving

end Rtftp.PeerHandler

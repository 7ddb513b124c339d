import Mathlib.Algebra.BigOperators.Intervals
import Mathlib.Order.Interval.Finset.Nat
import Rtftp.Proof.Transfer.Completion

namespace Rtftp.PeerHandler
open Library

variable {O : Type}

/-- A waiting transfer has just sent the last blocks that it has read. They are told by their
positions in the file, because their indices wrap. -/
def burstPositions (sending : Sending O) : Finset Nat :=
  match sending.status with
  | .awaiting toSend _ =>
      Finset.Ioc (sending.transfer.blocksRead - toSend.toNat) sending.transfer.blocksRead
  | .returned _ => ∅

variable [OpenedFile O] {file : O} {window : Window} {sending : Sending O} {transfer : Transfer O}
  {toSend : UInt16} {attempts acked : Nat}

/-- These are the distinct blocks that a run has sent. -/
def transmitted : Sending O → List AckResult → Finset Nat
  | sending, [] => burstPositions sending
  | sending, ack :: rest => burstPositions sending ∪ transmitted (sending.resume ack) rest

/-- The run waits after the earlier outcomes, and the last one makes it return its totals. -/
structure Returns (start : Sending O) (earlier : List AckResult) (last : AckResult)
    (totals : Nat × Nat) : Prop where
  permitted : Permits Sending.resume InBurst start (earlier ++ [last])
  waits : ∃ toSend attempts, (start.run earlier).status = .awaiting toSend attempts
  returned : ((start.run earlier).resume last).status = .returned (.ok totals)

/-- A run that is acknowledged to its end totals the whole file. A run that the peer ends early totals
the blocks that it has sent. -/
def RightTotals (file : O) (size length : Nat) (start : Sending O) (earlier : List AckResult)
    (last : AckResult) (totals : Nat × Nat) : Prop :=
  match last with
  | .ok _ => totals = (length, length / size + 1)
  | .error _ =>
      totals = (∑ position ∈ transmitted start earlier, (payload file size position).length,
        (transmitted start earlier).card)

/-- The head of the loop keeps what is acknowledged. -/
theorem Flying.enterLoop_flying (flying : Flying file acked transfer) (line : Line)
    (waiting : (PeerHandler.enterLoop transfer line).status = .awaiting toSend attempts) :
    Flying file acked (PeerHandler.enterLoop transfer line).transfer := by
  unfold PeerHandler.enterLoop at waiting ⊢
  cases finished : transfer.done with
  | true =>
      rw [finished, if_pos rfl] at waiting
      cases waiting
  | false =>
      cases filled : transfer.fill with
      | mk result next =>
          have after := flying.fill finished filled
          simp only [finished, filled, Bool.false_eq_true, if_false] at waiting ⊢
          cases result with
          | error error => cases waiting
          | ok toSend =>
              dsimp only
              rwa [attempt_transfer]

/-- A transfer has one acknowledged position. -/
theorem Flying.acked_unique {other : Nat} (flying : Flying file acked transfer)
    (same : Flying file other transfer) : acked = other := by
  have first := flying.unacknowledgedCount
  have second := same.unacknowledgedCount
  have ordered := flying.ordered
  have bounded := same.ordered
  omega

/-- The blocks of a burst are those behind the acknowledged position. -/
theorem Burst.positions (burst : Burst file sending toSend acked)
    (waiting : sending.status = .awaiting toSend attempts) :
    burstPositions sending = Finset.Ioc acked sending.transfer.blocksRead := by
  have count := burst.unacknowledgedCount
  have ordered := burst.ordered
  have start : sending.transfer.blocksRead - toSend.toNat = acked := by
    rw [burst.count]
    omega
  simp only [burstPositions, waiting, start]

/-- A step from one wait to the next keeps the acknowledged position at a timeout, and it moves this
position into the burst at an acknowledge. -/
theorem Burst.resume (burst : Burst file sending toSend acked)
    (waiting : sending.status = .awaiting toSend attempts) (sound : Sound file sending)
    {ack : AckResult} (permitted : InBurst sending ack) {count : UInt16} {left : Nat}
    (waits : (sending.resume ack).status = .awaiting count left) :
    ∃ moved, Burst file (sending.resume ack) count moved ∧ moved ≤ sending.transfer.blocksRead ∧
      (ack = .error .timeout ∧ moved = acked ∨ ack ≠ .error .timeout ∧ acked < moved) := by
  obtain ⟨moved, after⟩ := (sound.resume ack permitted.bounded).burst count left waits
  have ordered := burst.ordered
  rcases ack with error | index
  · by_cases timeout : error = .timeout
    · subst error
      have same : (sending.resume (.error .timeout)).transfer = sending.transfer := by
        rw [Sending.resume_timeout waiting, attempt_transfer]
      have flying := after.toFlying
      rw [same] at flying
      have unmoved := flying.acked_unique burst.toFlying
      exact ⟨moved, after, by omega, .inl ⟨rfl, unmoved⟩⟩
    · obtain ⟨failure, failed, -⟩ := Sending.resume_failed waiting timeout
      rw [failed] at waits
      cases waits
  · obtain ⟨v, inside, rfl⟩ := permitted index toSend attempts rfl waiting
    rw [burst.count, burst.unacknowledgedCount] at inside
    by_cases accepted :
        sending.transfer.windowIndex ≤ sending.transfer.windowIndex + UInt16.ofNat v
    · have entered := Sending.resume_accepted waiting accepted
      have flying := (burst.toFlying.acknowledge inside).enterLoop_flying sending.line
        (by rw [← entered]; exact waits)
      rw [← entered] at flying
      have place := after.toFlying.acked_unique flying
      exact ⟨moved, after, by omega, .inr ⟨by simp, by omega⟩⟩
    · rw [Sending.resume_past waiting accepted] at waits
      cases waits

/-- A run that still waits has waited after each of its outcomes. -/
theorem Sending.run_waits {ack : AckResult} {rest : List AckResult}
    (waits : (sending.run (ack :: rest)).status = .awaiting toSend attempts) :
    ∃ count left, (sending.resume ack).status = .awaiting count left := by
  cases status : (sending.resume ack).status with
  | awaiting count left => exact ⟨count, left, rfl⟩
  | returned result =>
      rw [run_cons, run_returned result status, status] at waits
      cases waits

/-- Every run only adds blocks. -/
theorem Sending.run_blocksRead (sending : Sending O) (acks : List AckResult) :
    sending.transfer.blocksRead ≤ (sending.run acks).transfer.blocksRead := by
  induction acks generalizing sending with
  | nil => exact Nat.le_refl _
  | cons ack rest ih => exact Nat.le_trans (sending.resume_blocksRead ack) (ih (sending.resume ack))

/-- A run from one wait to another sends all blocks between the first acknowledged position and the
last block read. It acknowledges nothing exactly when it only meets timeouts. -/
theorem Burst.run (burst : Burst file sending toSend acked)
    (waiting : sending.status = .awaiting toSend attempts) (sound : Sound file sending)
    (acks : List AckResult) (permitted : Permits Sending.resume InBurst sending acks)
    {count : UInt16} {left : Nat} (waits : (sending.run acks).status = .awaiting count left) :
    ∃ moved, Burst file (sending.run acks) count moved ∧
      transmitted sending acks = Finset.Ioc acked (sending.run acks).transfer.blocksRead ∧
      acked ≤ moved ∧ (moved = acked ↔ ∀ ack ∈ acks, ack = .error .timeout) := by
  induction acks generalizing sending toSend attempts acked with
  | nil =>
      have same := waiting.symm.trans waits
      cases same
      exact ⟨acked, burst, burst.positions waiting, Nat.le_refl _, by simp⟩
  | cons ack rest ih =>
      obtain ⟨size, more, waitsNext⟩ := Sending.run_waits waits
      obtain ⟨step, after, within, moves⟩ := burst.resume waiting sound permitted.1 waitsNext
      obtain ⟨moved, final, sent, ordered, quiet⟩ :=
        ih after waitsNext (sound.resume ack permitted.1.bounded) permitted.2 waits
      have first := burst.ordered
      have grown := (sending.resume ack).run_blocksRead rest
      have before := sending.resume_blocksRead ack
      rw [List.forall_mem_cons, Sending.run_cons]
      refine ⟨moved, final, ?_, by omega, ?_⟩
      · rw [transmitted, burst.positions waiting, sent]
        ext position
        rw [Finset.mem_union, Finset.mem_Ioc, Finset.mem_Ioc, Finset.mem_Ioc]
        omega
      · rcases moves with ⟨timeout, same⟩ | ⟨answered, less⟩
        · rw [← quiet, same]
          simp only [timeout, true_and]
        · simp only [answered, false_and, iff_false]
          omega

/-- The payloads of the blocks sent are counted from the first block on. -/
theorem Reading.bytes_positions (reading : Reading file transfer) :
    transfer.bytesSent = ∑ position ∈ Finset.Ioc 0 transfer.blocksRead,
      (payload file transfer.window.blockSize.toNat position).length := by
  rw [reading.bytesSent]
  generalize transfer.blocksRead = count
  induction count with
  | zero => rfl
  | succ count ih =>
      rw [List.range_succ, List.map_append, List.sum_append, ih, List.map_singleton,
        List.sum_singleton, Finset.sum_Ioc_succ_top (Nat.zero_le _)]

/-- A run that waits has sent the first blocks of its file, and its last burst holds all of them
exactly when nothing was acknowledged. -/
theorem start_run (openedFile : O) (window : Window) (verdicts : List Bool) {acks : List AckResult}
    (permitted : Permits Sending.resume InBurst (Sending.start openedFile window verdicts) acks)
    (waits : ((Sending.start openedFile window verdicts).run acks).status =
      .awaiting toSend attempts) :
    let sending := (Sending.start openedFile window verdicts).run acks
    transmitted (Sending.start openedFile window verdicts) acks =
        Finset.Ioc 0 sending.transfer.blocksRead ∧
      (toSend.toNat = sending.transfer.blocksRead ↔ ∀ ack ∈ acks, ack = .error .timeout) := by
  intro sending
  have sound := sound_of_reach openedFile window verdicts .start
  cases begun : (Sending.start openedFile window verdicts).status with
  | returned result =>
      rw [Sending.run_returned result begun, begun] at waits
      cases waits
  | awaiting first left =>
      obtain ⟨acked, burst⟩ := sound.burst first left begun
      have fresh := (Flying.new openedFile window).enterLoop_flying _ begun
      obtain rfl := burst.toFlying.acked_unique fresh
      obtain ⟨moved, final, sent, -, quiet⟩ := burst.run begun sound acks permitted waits
      have count : toSend.toNat = sending.transfer.blocksRead - moved := by
        rw [final.count]
        exact final.unacknowledgedCount
      have pending : moved < sending.transfer.blocksRead := final.pending
      refine ⟨sent, ?_⟩
      rw [← quiet]
      omega

theorem Returns.permitted_earlier {start : Sending O} {earlier : List AckResult} {last : AckResult}
    {totals : Nat × Nat} (returns : Returns start earlier last totals) :
    Permits Sending.resume InBurst start earlier :=
  ((permits_append earlier [last]).mp returns.permitted).1

theorem Returns.tracked {verdicts : List Bool} {earlier : List AckResult} {last : AckResult}
    {totals : Nat × Nat} (returns : Returns (Sending.start file window verdicts) earlier last totals) :
    Tracked file window ((Sending.start file window verdicts).run earlier) :=
  tracked_of_reach file window verdicts (Reach.permits returns.permitted_earlier)

/-- Success never counts a block, and an ERROR counts the last burst only. -/
theorem Returns.totals_eq {start : Sending O} {earlier : List AckResult} {last : AckResult}
    {totals : Nat × Nat} (tracked : Tracked file window (start.run earlier))
    (returns : Returns start earlier last totals) :
    (∃ index, last = .ok index ∧ (start.run earlier).transfer.done = true ∧
      totals = ((start.run earlier).transfer.bytesSent, 0)) ∨
    ∃ code message toSend attempts, last = .error (.clientError code message) ∧
      (start.run earlier).status = .awaiting toSend attempts ∧
      totals = ((start.run earlier).transfer.bytesSent, toSend.toNat) := by
  obtain ⟨toSend, attempts, waiting⟩ := returns.waits
  have returned := returns.returned
  have none := tracked.blocksSent
  rcases last with error | index
  · right
    by_cases timeout : error = .timeout
    · subst error
      rw [Sending.resume_timeout waiting] at returned
      obtain ⟨error, impossible⟩ := attempt_returned returned
      cases impossible
    · obtain ⟨failure, failed, origin⟩ := Sending.resume_failed waiting timeout
      rw [failed] at returned
      cases failure with
      | clientError code message =>
          refine ⟨code, message, toSend, attempts, congrArg _ (origin code message rfl), waiting, ?_⟩
          simp only [Transfer.failed, none, Nat.zero_add, Status.returned.injEq, Except.ok.injEq]
            at returned
          exact returned.symm
      | network => cases returned
      | timeout => cases returned
      | ackError => cases returned
  · left
    refine ⟨index, rfl, ?_⟩
    by_cases accepted : (start.run earlier).transfer.windowIndex ≤ index
    · rw [Sending.resume_accepted waiting accepted] at returned
      have done := enterLoop_returned returned
      rw [enterLoop_done _ _ done] at returned
      simp only [none, Status.returned.injEq, Except.ok.injEq] at returned
      exact ⟨done, returned.symm⟩
    · rw [Sending.resume_past waiting accepted] at returned
      cases returned

/-- The totals are right exactly when the peer sends an ERROR before any acknowledge. No success has
right totals, whatever the length of the file is. -/
theorem transferTotals_right_iff (openedFile : O) (blockSize windowSize : UInt16)
    (positive : 0 < windowSize.toNat) (verdicts : List Bool) (length : Nat)
    (earlier : List AckResult) (last : AckResult) (totals : Nat × Nat)
    (returns : Returns (Sending.start openedFile (Window.new blockSize windowSize positive) verdicts)
      earlier last totals) :
    RightTotals openedFile blockSize.toNat length
        (Sending.start openedFile (Window.new blockSize windowSize positive) verdicts) earlier last
        totals ↔
      (∃ code message, last = .error (.clientError code message)) ∧
        ∀ ack ∈ earlier, ack = .error .timeout := by
  have tracked := returns.tracked
  rcases returns.totals_eq tracked with
    ⟨index, rfl, -, counted⟩ | ⟨code, message, toSend, attempts, rfl, waiting, counted⟩
  · have unequal : totals ≠ (length, length / blockSize.toNat + 1) := by
      rw [counted]
      intro same
      have blocks := congrArg Prod.snd same
      exact absurd blocks.symm (Nat.succ_ne_zero _)
    simp only [RightTotals, unequal, reduceCtorEq, exists_const, false_and]
  · obtain ⟨sent, quiet⟩ := start_run openedFile _ verdicts returns.permitted_earlier waiting
    have bytes := tracked.toReading.bytes_positions
    rw [tracked.blockSize] at bytes
    change totals = (∑ position ∈ transmitted _ earlier,
      (payload openedFile blockSize.toNat position).length, (transmitted _ earlier).card) ↔ _
    rw [counted, sent, Prod.mk.injEq, Nat.card_Ioc, Nat.sub_zero, ← quiet]
    constructor
    · intro same
      exact ⟨⟨code, message, rfl⟩, same.2⟩
    · intro same
      exact ⟨bytes, same.2⟩

/-- A success over full reads counts every byte of the file and no block. -/
theorem successTotals_eq [FullReads O] (openedFile : O) (blockSize windowSize : UInt16)
    (positive : 0 < windowSize.toNat) (sized : 0 < blockSize.toNat) (verdicts : List Bool)
    {earlier : List AckResult} {index : UInt16} {totals : Nat × Nat}
    (returns : Returns (Sending.start openedFile (Window.new blockSize windowSize positive) verdicts)
      earlier (.ok index) totals) :
    totals = ((FullReads.remaining openedFile).length, 0) := by
  have tracked := returns.tracked
  rcases returns.totals_eq tracked with ⟨-, -, done, counted⟩ | ⟨code, message, -, -, impossible, -⟩
  · have last := tracked.toReading.done_iff (by rw [tracked.blockSize]; exact sized)
    have bytes := tracked.toReading.bytes
    have covered := blockCount_covers (FullReads.remaining openedFile) blockSize.toNat sized
    rw [last.mp done, tracked.blockSize] at bytes
    rw [counted, bytes]
    exact congrArg (·, 0) (Nat.min_eq_right (Nat.le_of_lt covered))
  · cases impossible

omit [OpenedFile O] in
/-- Only an acknowledge can lie outside the burst. -/
theorem inBurst_error (sending : Sending O) (error : RecvError) :
    InBurst sending (.error error) := by
  intro index toSend attempts same _
  cases same

/-- The peer gives up after a timeout, and the one block that was sent twice is counted once. -/
theorem transferTotals_right_unanswered :
    let file := VirtualOpenedFile.new (List.replicate 12 7)
    let start := Sending.start file (Window.new 8 1 (by decide)) []
    Returns start [.error .timeout] (.error (.clientError 0 "")) (8, 1) ∧
      RightTotals file 8 12 start [.error .timeout] (.error (.clientError 0 "")) (8, 1) := by
  intro file start
  have returns : Returns start [.error .timeout] (.error (.clientError 0 "")) (8, 1) :=
    ⟨⟨inBurst_error _ _, inBurst_error _ _, trivial⟩, ⟨1, 3, by decide⟩, by decide⟩
  refine ⟨returns, (transferTotals_right_iff file 8 1 (by decide) [] 12 _ _ _ returns).mpr ?_⟩
  exact ⟨⟨0, "", rfl⟩, by simp⟩

/-- A file of two blocks that are both acknowledged is reported with no block. -/
theorem transferTotals_without_blocks :
    let file := VirtualOpenedFile.new (List.replicate 12 7)
    let start := Sending.start file (Window.new 8 1 (by decide)) []
    Returns start [.ok 1] (.ok 2) (12, 0) ∧ ¬ RightTotals file 8 12 start [.ok 1] (.ok 2) (12, 0) := by
  intro file start
  have first : InBurst start (.ok 1) :=
    inBurst_ok (show _ = Status.awaiting 1 4 by decide) ⟨0, by decide, by decide⟩
  have second : InBurst (start.resume (.ok 1)) (.ok 2) :=
    inBurst_ok (show _ = Status.awaiting 1 4 by decide) ⟨0, by decide, by decide⟩
  refine ⟨⟨⟨first, second, trivial⟩, ⟨1, 4, by decide⟩, by decide⟩, ?_⟩
  intro (right : ((12, 0) : Nat × Nat) = (12, 12 / 8 + 1))
  exact absurd right (by decide)

end Rtftp.PeerHandler

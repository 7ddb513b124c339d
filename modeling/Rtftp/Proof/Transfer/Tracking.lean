import Rtftp.Proof.Transfer.Alignment
import Rtftp.Proof.Transfer.Coroutine

namespace Rtftp.PeerHandler
open Library

variable {O : Type} {transfer next : Transfer O}

/-- An attempt leaves the transfer as it is. -/
@[simp] theorem attempt_transfer (transfer : Transfer O) (toSend : UInt16) (line : Line)
    (attempts : Nat) : (attempt transfer toSend line attempts).transfer = transfer := by
  cases attempts with
  | zero => rfl
  | succ attempts =>
      unfold attempt
      dsimp only
      split <;> rfl

/-- A waiting attempt keeps its burst and has one attempt less. -/
theorem attempt_awaiting {toSend count : UInt16} {line : Line} {attempts left : Nat}
    (waiting : (attempt transfer toSend line attempts).status = .awaiting count left) :
    count = toSend ∧ attempts = left + 1 := by
  cases attempts with
  | zero => cases waiting
  | succ attempts =>
      unfold attempt at waiting
      dsimp only at waiting
      split at waiting
      · cases waiting
      · simp only [Status.awaiting.injEq] at waiting
        exact ⟨waiting.1.symm, by rw [waiting.2]⟩

/-- An attempt over a clear line waits for its acknowledge. -/
theorem attempt_clear (transfer : Transfer O) (toSend : UInt16) (line : Line) (attempts : Nat)
    (clear : line.verdicts = []) :
    attempt transfer toSend line (attempts + 1) =
      ⟨transfer, ⟨[], line.sent ++ emissions transfer.window
        (burstIndices transfer.windowIndex toSend)⟩, .awaiting toSend attempts⟩ := by
  obtain ⟨verdicts, sent⟩ := line
  change verdicts = [] at clear
  subst verdicts
  rw [attempt, sendBlocks_clear]

variable [OpenedFile O] {file : O} {window : Window} {sending : Sending O}

/-- The window keeps its shape while the transfer reads its file, and no block is counted as
sent. -/
structure Shaped (file : O) (window : Window) (transfer : Transfer O) : Prop
    extends Reading file transfer where
  blockSize : transfer.window.blockSize = window.blockSize
  length : transfer.window.buffers.length = window.buffers.length
  blocksSent : transfer.blocksSent = 0

/-- A waiting transfer has a burst of all its unacknowledged blocks, whatever was acknowledged. -/
structure Tracked (file : O) (window : Window) (sending : Sending O) : Prop
    extends Shaped file window sending.transfer where
  count : ∀ toSend attempts, sending.status = .awaiting toSend attempts →
    toSend = sending.transfer.unacknowledgedCount

theorem Shaped.fill (shaped : Shaped file window transfer) (unfinished : transfer.done = false)
    {result : Except TFTPError UInt16} (filled : transfer.fill = (result, next)) :
    Shaped file window next := by
  obtain ⟨rounds, _, shape, _⟩ := fillWindow_filled _ _ _ _ _ filled
  exact ⟨shaped.toReading.fill unfinished filled, shape.blockSize.trans shaped.blockSize,
    shape.length.trans shaped.length, shape.blocksSent.trans shaped.blocksSent⟩

theorem Shaped.new (file : O) (window : Window) :
    Shaped file window (Transfer.new file window) :=
  ⟨Reading.new file window, rfl, rfl, rfl⟩

/-- An acknowledge changes nothing that was read. -/
theorem Shaped.acknowledge (shaped : Shaped file window transfer) (index : UInt16) :
    Shaped file window { transfer with lastAcknowledgedIndex := index } :=
  ⟨⟨shaped.opened, shaped.lastReadIndex, shaped.readable, shaped.done, shaped.bytesSent⟩,
    shaped.blockSize, shaped.length, shaped.blocksSent⟩

/-- The head of the loop tracks every shaped transfer. -/
theorem Shaped.enterLoop (shaped : Shaped file window transfer) (line : Line) :
    Tracked file window (enterLoop transfer line) := by
  unfold PeerHandler.enterLoop
  cases finished : transfer.done with
  | true => exact ⟨shaped, fun _ _ waiting => by cases waiting⟩
  | false =>
      cases filled : transfer.fill with
      | mk result next =>
          have after := shaped.fill finished filled
          simp only [Bool.false_eq_true, if_false]
          cases result with
          | error error => exact ⟨after, fun _ _ waiting => by cases waiting⟩
          | ok toSend =>
              constructor
              · rw [attempt_transfer]
                exact after
              · intro count left waiting
                rw [attempt_transfer, (attempt_awaiting waiting).1]
                exact Transfer.fill_count filled

/-- Every outcome keeps the transfer tracked. -/
theorem Tracked.resume (tracked : Tracked file window sending) (ack : AckResult) :
    Tracked file window (sending.resume ack) := by
  have ended (line : Line) (result : Except TFTPError (Nat × Nat)) :
      Tracked file window ⟨sending.transfer, line, .returned result⟩ :=
    ⟨tracked.toShaped, fun _ _ waiting => by cases waiting⟩
  cases status : sending.status with
  | returned result => rwa [Sending.resume_returned status]
  | awaiting toSend attempts =>
      rcases ack with error | index
      · by_cases timeout : error = .timeout
        · subst error
          rw [Sending.resume_timeout status]
          refine ⟨by rw [attempt_transfer]; exact tracked.toShaped, ?_⟩
          intro count left waiting
          rw [attempt_transfer, (attempt_awaiting waiting).1]
          exact tracked.count toSend attempts status
        · obtain ⟨failure, failed, _⟩ := Sending.resume_failed status timeout
          rw [failed]
          exact ended _ _
      · by_cases accepted : sending.transfer.windowIndex ≤ index
        · rw [Sending.resume_accepted status accepted]
          apply Shaped.enterLoop
          exact tracked.toShaped.acknowledge index
        · rw [Sending.resume_past status accepted]
          exact ended _ _

/-- The head of the loop only adds blocks. -/
theorem enterLoop_blocksRead (transfer : Transfer O) (line : Line) :
    transfer.blocksRead ≤ (enterLoop transfer line).transfer.blocksRead := by
  unfold enterLoop
  split
  · exact Nat.le_refl _
  · cases filled : transfer.fill with
    | mk result next =>
        obtain ⟨rounds, _, shape, _⟩ := fillWindow_filled _ _ _ _ _ filled
        have added := shape.blocksRead
        cases result with
        | error error =>
            change transfer.blocksRead ≤ next.blocksRead
            omega
        | ok toSend =>
            dsimp only
            rw [attempt_transfer]
            omega

/-- Every outcome only adds blocks. -/
theorem Sending.resume_blocksRead (sending : Sending O) (ack : AckResult) :
    sending.transfer.blocksRead ≤ (sending.resume ack).transfer.blocksRead := by
  unfold Sending.resume
  split
  · exact Nat.le_refl _
  · split
    · rw [attempt_transfer]
    · rename_i received line _
      exact enterLoop_blocksRead { sending.transfer with lastAcknowledgedIndex := received } line
    · exact Nat.le_refl _

/-- Every state of every run is tracked. -/
theorem tracked_of_reach (openedFile : O) (window : Window) (verdicts : List Bool)
    {allowed : Sending O → AckResult → Prop}
    (reached : Reach Sending.resume allowed (Sending.start openedFile window verdicts) sending) :
    Tracked openedFile window sending := by
  apply reached.invariant (Tracked openedFile window)
  · exact (Shaped.new openedFile window).enterLoop _
  · intro state ack tracked _
    exact tracked.resume ack

/-- A file with fewer blocks than one cycle never wraps the read index. -/
theorem Tracked.unwrapped (tracked : Tracked file window sending)
    (short : ¬ Readable file window.blockSize.toNat 65536) :
    sending.transfer.blocksRead ≤ 65535 := by
  by_contra more
  apply short
  have readable := tracked.readable
  rw [tracked.blockSize] at readable
  exact readable.mono (by omega)

end Rtftp.PeerHandler

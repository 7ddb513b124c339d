import Rtftp.Proof.Transfer.Soundness
import Rtftp.Proof.Transfer.Tracking

namespace Rtftp.PeerHandler
open Library

variable {O : Type} [OpenedFile O] {file : O} {window : Window} {transfer : Transfer O}
  {sending : Sending O} {acked count : Nat}

/-- The transfer waits over a clear line with the blocks from `acked` to `read` in flight. -/
structure Waiting (file : O) (window : Window) (acked read : Nat) (sending : Sending O) : Prop where
  shaped : Shaped file window sending.transfer
  flying : Flying file acked sending.transfer
  read : sending.transfer.blocksRead = read
  clear : sending.line.verdicts = []
  status : ∃ attempts, sending.status = .awaiting sending.transfer.unacknowledgedCount attempts

/-- The head of the loop fills the window of an unfinished transfer, sends it and waits. -/
theorem Flying.enterLoop_fills (flying : Flying file acked transfer)
    (shaped : Shaped file window transfer) (unfinished : transfer.done = false) (line : Line)
    (clear : line.verdicts = []) (within : transfer.blocksRead ≤ count)
    (readable : Readable file window.blockSize.toNat count)
    (enough : acked + window.buffers.length ≤ count ∨ Ends file window.blockSize.toNat count) :
    ∃ next, Shaped file window next ∧ Flying file acked next ∧
      next.blocksRead = min (acked + window.buffers.length) count ∧
      PeerHandler.enterLoop transfer line =
        ⟨next, ⟨[], line.sent ++ emissions next.window
          (PeerHandler.burstIndices next.windowIndex next.unacknowledgedCount)⟩,
          .awaiting next.unacknowledgedCount 4⟩ := by
  have ordered := flying.ordered
  have room := flying.room
  rw [shaped.length] at room
  have size := flying.unacknowledgedCount
  obtain ⟨toSend, next, filled, read⟩ := fillWindow_readable
    (transfer.window.size.toNat - transfer.unacknowledgedCount.toNat) transfer
    transfer.unacknowledgedCount flying.toReading (by rw [shaped.blockSize]; exact readable)
    unfinished within (by
      rw [Window.size_toNat, shaped.length, size, shaped.blockSize]
      rcases enough with inside | ending
      · exact .inl (by omega)
      · exact .inr ⟨ending.short, ending.some⟩)
  rw [Window.size_toNat, shaped.length, size] at read
  have full : transfer.fill = (.ok toSend, next) := filled
  have entered : PeerHandler.enterLoop transfer line =
      PeerHandler.attempt next toSend line sendAttempts := by
    simp only [PeerHandler.enterLoop, unfinished, full, Bool.false_eq_true, if_false]
  refine ⟨next, shaped.fill unfinished full, flying.fill unfinished full, by omega, ?_⟩
  rw [entered, sendAttempts, attempt_clear next toSend line 4 clear, Transfer.fill_count full]

/-- The head of the loop waits with a full window. -/
theorem Flying.enterLoop_waits (flying : Flying file acked transfer)
    (shaped : Shaped file window transfer) (unfinished : transfer.done = false) (line : Line)
    (clear : line.verdicts = []) (within : transfer.blocksRead ≤ count)
    (readable : Readable file window.blockSize.toNat count)
    (enough : acked + window.buffers.length ≤ count ∨ Ends file window.blockSize.toNat count) :
    Waiting file window acked (min (acked + window.buffers.length) count)
      (PeerHandler.enterLoop transfer line) := by
  obtain ⟨next, shape, flight, read, entered⟩ :=
    flying.enterLoop_fills shaped unfinished line clear within readable enough
  rw [entered]
  exact ⟨shape, flight, read, rfl, 4, rfl⟩

/-- A transfer starts with as many blocks in flight as the window and the file allow. -/
theorem waiting_start (openedFile : O) (window : Window)
    (readable : Readable openedFile window.blockSize.toNat count)
    (enough : window.buffers.length ≤ count ∨ Ends openedFile window.blockSize.toNat count) :
    Waiting openedFile window 0 (min window.buffers.length count)
      (Sending.start openedFile window []) := by
  have flying := Flying.new openedFile window
  have started : Waiting openedFile window 0 (min (0 + window.buffers.length) count)
      (Sending.start openedFile window []) :=
    flying.enterLoop_waits (Shaped.new openedFile window) rfl ⟨[], []⟩ rfl (Nat.zero_le count)
      readable (by rwa [Nat.zero_add])
  rwa [Nat.zero_add] at started

/-- Acknowledges of the first block of each burst move the window one block at a time. -/
theorem waiting_reached (openedFile : O) (window : Window) (acked : Nat)
    (readable : Readable openedFile window.blockSize.toNat (acked + window.buffers.length)) :
    ∃ sending, Reach Sending.resume (fun state ack => InBurst state ack ∧ NoPeerError ack)
        (Sending.start openedFile window []) sending ∧
      Waiting openedFile window acked (acked + window.buffers.length) sending := by
  induction acked with
  | zero =>
      have started := waiting_start openedFile window readable (.inl (by omega))
      rw [Nat.zero_add, Nat.min_self] at started
      rw [Nat.zero_add]
      exact ⟨_, .start, started⟩
  | succ acked ih =>
      obtain ⟨sending, reached, waiting⟩ := ih (readable.mono (by omega))
      have occupied := window.occupied
      have flying := waiting.flying
      have shaped := waiting.shaped
      have read := waiting.read
      have flight : sending.transfer.unacknowledgedCount.toNat = window.buffers.length := by
        rw [flying.unacknowledgedCount, read]
        omega
      have unfinished : sending.transfer.done = false := by
        rw [Bool.eq_false_iff]
        intro finished
        have short := (flying.done.mp finished).2
        rw [read, shaped.blockSize, readable.full _ (by omega) (by omega)] at short
        exact absurd short (Nat.lt_irrefl _)
      obtain ⟨attempts, status⟩ := waiting.status
      have first : sending.transfer.windowIndex ≤
          sending.transfer.windowIndex + UInt16.ofNat 0 := by
        rw [show UInt16.ofNat 0 = 0 from rfl, UInt16.add_zero]
        exact UInt16.le_refl _
      have advanced := (flying.acknowledge (v := 0) (by omega)).enterLoop_waits
        (shaped.acknowledge _) unfinished sending.line waiting.clear (by dsimp only; omega) readable (.inl (by omega))
      rw [← Sending.resume_accepted status first, Nat.add_zero, Nat.min_self] at advanced
      have permitted := inBurst_ok status ⟨0, by omega, rfl⟩
      exact ⟨_, reached.next ⟨permitted, fun _ _ same => by cases same⟩, advanced⟩

end Rtftp.PeerHandler

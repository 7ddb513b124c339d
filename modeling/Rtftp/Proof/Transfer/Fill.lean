import Rtftp.Library.Blocks
import Rtftp.Library.Slots
import Rtftp.Construction.SendFile
import Rtftp.Proof.Transfer.WindowBuffers

namespace Rtftp.PeerHandler
open Library

variable {O : Type} {transfer next : Transfer O}

theorem Window.size_toNat (window : Window) : window.size.toNat = window.buffers.length :=
  serial_toNat _ window.narrow

/-- The window keeps its shape, and the reads advance together. -/
structure Filled (transfer next : Transfer O) (rounds : Nat) : Prop where
  blockSize : next.window.blockSize = transfer.window.blockSize
  length : next.window.buffers.length = transfer.window.buffers.length
  lastAcknowledgedIndex : next.lastAcknowledgedIndex = transfer.lastAcknowledgedIndex
  lastReadIndex : next.lastReadIndex = transfer.lastReadIndex + UInt16.ofNat rounds
  blocksRead : next.blocksRead = transfer.blocksRead + rounds
  blocksSent : next.blocksSent = transfer.blocksSent

theorem Filled.none (transfer : Transfer O) : Filled transfer transfer 0 :=
  ⟨rfl, rfl, rfl, (UInt16.add_zero _).symm, rfl, rfl⟩

theorem Filled.trans {last : Transfer O} {first second : Nat} (front : Filled transfer next first)
    (back : Filled next last second) : Filled transfer last (first + second) where
  blockSize := back.blockSize.trans front.blockSize
  length := back.length.trans front.length
  lastAcknowledgedIndex := back.lastAcknowledgedIndex.trans front.lastAcknowledgedIndex
  lastReadIndex := by
    rw [back.lastReadIndex, front.lastReadIndex, UInt16.add_assoc, serial_add]
  blocksRead := by rw [back.blocksRead, front.blocksRead, Nat.add_assoc]
  blocksSent := back.blocksSent.trans front.blocksSent

variable [OpenedFile O]

/-- One read pushes the next block and moves nothing else. -/
theorem Transfer.readBlock_cases {isLast : Bool} (read : transfer.readBlock = .ok (next, isLast)) :
    ∃ bytes rest window,
      OpenedFile.readTo transfer.openedFile transfer.window.blockSize.toNat = .ok (bytes, rest) ∧
      transfer.window.Pushed window (transfer.lastReadIndex + 1) bytes ∧
      isLast = decide (bytes.length < transfer.window.blockSize.toNat) ∧
      next = { transfer with
        openedFile := rest
        window := window
        lastReadIndex := transfer.lastReadIndex + 1
        bytesSent := transfer.bytesSent + bytes.length
        done := transfer.done || isLast
        blocksRead := transfer.blocksRead + 1 } := by
  unfold readBlock at read
  dsimp only at read
  split at read
  · rename_i readBytes last window rest pushed
    obtain ⟨bytes, taken, rfl, rfl, changed⟩ := Window.pushBlock_pushed pushed
    simp only [Except.ok.injEq, Prod.mk.injEq] at read
    obtain ⟨rfl, rfl⟩ := read
    exact ⟨bytes, rest, window, taken, changed, rfl, rfl⟩
  · cases read

theorem Transfer.readBlock_filled {isLast : Bool} (read : transfer.readBlock = .ok (next, isLast)) :
    Filled transfer next 1 := by
  obtain ⟨bytes, rest, window, _, changed, _, rfl⟩ := transfer.readBlock_cases read
  exact ⟨changed.blockSize, changed.length, rfl, rfl, rfl, rfl⟩

/-- The fill loop counts its reads, and it stops early only at the last block. -/
theorem fillWindow_filled (room : Nat) (transfer next : Transfer O) (toSend : UInt16)
    (result : Except TFTPError UInt16) (filled : fillWindow room transfer toSend = (result, next)) :
    ∃ rounds ≤ room, Filled transfer next rounds ∧
      ∀ count, result = .ok count → count = toSend + UInt16.ofNat rounds ∧
        (0 < room → 0 < rounds) ∧ (next.done = false → rounds = room) := by
  induction room generalizing transfer toSend with
  | zero =>
      simp only [fillWindow, Prod.mk.injEq] at filled
      obtain ⟨rfl, rfl⟩ := filled
      refine ⟨0, Nat.le_refl 0, Filled.none transfer, ?_⟩
      intro count returned
      obtain rfl := Except.ok.inj returned
      exact ⟨(UInt16.add_zero _).symm, fun positive => positive, fun _ => rfl⟩
  | succ room ih =>
      unfold fillWindow at filled
      split at filled
      · rename_i middle isLast read
        have one := transfer.readBlock_filled read
        split at filled
        · rename_i last
          simp only [Prod.mk.injEq] at filled
          obtain ⟨rfl, rfl⟩ := filled
          obtain ⟨_, _, _, _, _, _, rfl⟩ := transfer.readBlock_cases read
          refine ⟨1, by omega, one, ?_⟩
          intro count returned
          obtain rfl := Except.ok.inj returned
          refine ⟨rfl, fun _ => Nat.one_pos, ?_⟩
          intro unfinished
          simp only [last, Bool.or_true, Bool.true_eq_false] at unfinished
        · obtain ⟨rounds, bounded, rest, counted⟩ := ih middle (toSend + 1) filled
          refine ⟨1 + rounds, by omega, one.trans rest, ?_⟩
          intro count returned
          obtain ⟨total, _, complete⟩ := counted count returned
          refine ⟨?_, by omega, ?_⟩
          · rw [total, UInt16.add_assoc, ← serial_add]
            rfl
          · intro unfinished
            rw [complete unfinished, Nat.add_comm]
      · simp only [Prod.mk.injEq] at filled
        obtain ⟨rfl, rfl⟩ := filled
        exact ⟨0, Nat.zero_le _, Filled.none transfer, fun count returned => by cases returned⟩

/-- A property that every read keeps holds after the fill loop, with some rounds left. -/
theorem fillWindow_invariant (Holds : Nat → Transfer O → Prop)
    (preserved : ∀ room transfer next isLast, Holds (room + 1) transfer → transfer.done = false →
      transfer.readBlock = .ok (next, isLast) → Holds room next)
    (room : Nat) (transfer next : Transfer O) (toSend : UInt16) (result : Except TFTPError UInt16)
    (filled : fillWindow room transfer toSend = (result, next)) (initial : Holds room transfer)
    (unfinished : transfer.done = false) : ∃ left, Holds left next := by
  induction room generalizing transfer toSend with
  | zero =>
      simp only [fillWindow, Prod.mk.injEq] at filled
      obtain ⟨_, rfl⟩ := filled
      exact ⟨0, initial⟩
  | succ room ih =>
      unfold fillWindow at filled
      split at filled
      · rename_i middle isLast read
        have kept := preserved room transfer middle isLast initial unfinished read
        split at filled
        · simp only [Prod.mk.injEq] at filled
          obtain ⟨_, rfl⟩ := filled
          exact ⟨room, kept⟩
        · rename_i more
          obtain ⟨_, _, _, _, _, _, rfl⟩ := transfer.readBlock_cases read
          exact ih _ (toSend + 1) filled kept (by simp [unfinished, more])
      · simp only [Prod.mk.injEq] at filled
        obtain ⟨_, rfl⟩ := filled
        exact ⟨room + 1, initial⟩

theorem Transfer.fill_acknowledged {result : Except TFTPError UInt16}
    (filled : transfer.fill = (result, next)) :
    next.lastAcknowledgedIndex = transfer.lastAcknowledgedIndex := by
  obtain ⟨rounds, _, shape, _⟩ := fillWindow_filled _ _ _ _ _ filled
  exact shape.lastAcknowledgedIndex

/-- After a fill the burst is exactly what is unacknowledged. -/
theorem Transfer.fill_count {toSend : UInt16} (filled : transfer.fill = (.ok toSend, next)) :
    toSend = next.unacknowledgedCount := by
  obtain ⟨rounds, _, shape, counted⟩ := fillWindow_filled _ _ _ _ _ filled
  rw [(counted toSend rfl).1, unacknowledgedCount, unacknowledgedCount, shape.lastReadIndex,
    shape.lastAcknowledgedIndex]
  grind

end Rtftp.PeerHandler

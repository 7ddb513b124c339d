import Rtftp.Proof.Transfer.Advance
import Rtftp.Proof.Transfer.Completion

namespace Rtftp.PeerHandler
open Library

variable {O : Type} [OpenedFile O] {file : O} {window : Window} {transfer : Transfer O}
  {acked : Nat}

/-- The peer lets some attempts for a block time out and then acknowledges the block. -/
def lockstepAcks (timeouts : Nat → Nat) (position : Nat) : List AckResult :=
  List.replicate (timeouts position) (.error .timeout) ++ [.ok (UInt16.ofNat position)]

/-- This is the datagram that a lockstep transfer sends for a block. -/
def lockstepSend (file : O) (size position : Nat) : Emission :=
  .block (UInt16.ofNat position) (blockDatagram file size position)

/-- A block goes out once and once more after every timeout. -/
def lockstepSends (file : O) (size : Nat) (timeouts : Nat → Nat) (position : Nat) :
    List Emission :=
  List.replicate (timeouts position + 1) (lockstepSend file size position)

/-- Every timeout with attempts left sends the same burst again. -/
theorem timeouts_run (transfer : Transfer O) (toSend : UInt16) (sent : List Emission)
    (attempts count : Nat) :
    Sending.run ⟨transfer, ⟨[], sent⟩, .awaiting toSend (attempts + count)⟩
        (List.replicate count (.error .timeout)) =
      ⟨transfer, ⟨[], sent ++ (List.replicate count (emissions transfer.window
        (burstIndices transfer.windowIndex toSend))).flatten⟩, .awaiting toSend attempts⟩ := by
  induction count generalizing sent with
  | zero => simp [Sending.run]
  | succ count ih =>
      rw [List.replicate_succ, Sending.run_cons, Sending.resume_timeout rfl]
      dsimp only
      rw [show attempts + (count + 1) = attempts + count + 1 from rfl, attempt_clear _ _ _ _ rfl,
        ih, List.replicate_succ, List.flatten_cons, List.append_assoc]

/-- The burst of a single block is its exact datagram. -/
theorem Flying.emissions_single (flying : Flying file acked transfer)
    (one : transfer.window.buffers.length = 1) (read : transfer.blocksRead = acked + 1) :
    emissions transfer.window
        (PeerHandler.burstIndices transfer.windowIndex transfer.unacknowledgedCount) =
      [lockstepSend file transfer.window.blockSize.toNat (acked + 1)] := by
  have exact_ : Exact transfer := .inl (by rw [one]; exact Nat.one_dvd _)
  rw [flying.burstIndices, read, Nat.add_sub_cancel_left, List.range_one, List.map_singleton,
    Nat.add_zero, emissions, List.map_singleton,
    flying.held exact_ (acked + 1) (Nat.lt_succ_self _) (by omega), lockstepSend]

/-- An answered block has all its copies on the line, and the loop goes on with it. -/
theorem Flying.answered (flying : Flying file acked transfer)
    (one : transfer.window.buffers.length = 1) (read : transfer.blocksRead = acked + 1)
    (timeouts : Nat → Nat) (few : timeouts (acked + 1) < sendAttempts) (earlier : List Emission) :
    Sending.run ⟨transfer, ⟨[], earlier ++
          [lockstepSend file transfer.window.blockSize.toNat (acked + 1)]⟩,
          .awaiting transfer.unacknowledgedCount 4⟩ (lockstepAcks timeouts (acked + 1)) =
      PeerHandler.enterLoop
        { transfer with lastAcknowledgedIndex := UInt16.ofNat (acked + 1) }
        ⟨[], earlier ++
          lockstepSends file transfer.window.blockSize.toNat timeouts (acked + 1)⟩ := by
  have attempts : 4 = 4 - timeouts (acked + 1) + timeouts (acked + 1) := by
    unfold sendAttempts at few
    omega
  have accepted : transfer.windowIndex ≤ UInt16.ofNat (acked + 1) := by
    rw [Transfer.windowIndex, flying.acknowledged, serial_succ]
    exact UInt16.le_refl _
  rw [lockstepAcks, Sending.run_append, attempts, timeouts_run, flying.emissions_single one read,
    List.flatten_replicate_singleton, Sending.run_cons, Sending.resume_accepted rfl accepted,
    List.append_assoc, List.singleton_append, lockstepSends, List.replicate_succ]
  rfl

/-- After its first blocks a lockstep transfer waits for the acknowledge of the next one. -/
theorem lockstep_waits (openedFile : O) (window : Window) (one : window.buffers.length = 1)
    (timeouts : Nat → Nat) (few : ∀ position, timeouts position < sendAttempts) (acked : Nat)
    (readable : Readable openedFile window.blockSize.toNat (acked + 1)) :
    ∃ transfer, Shaped openedFile window transfer ∧ Flying openedFile acked transfer ∧
      transfer.blocksRead = acked + 1 ∧
      (Sending.start openedFile window []).run
          ((List.range' 1 acked).flatMap (lockstepAcks timeouts)) =
        ⟨transfer, ⟨[], (List.range' 1 acked).flatMap
            (lockstepSends openedFile window.blockSize.toNat timeouts) ++
          [lockstepSend openedFile window.blockSize.toNat (acked + 1)]⟩,
          .awaiting transfer.unacknowledgedCount 4⟩ := by
  induction acked with
  | zero =>
      have flying := Flying.new openedFile window
      obtain ⟨next, shaped, flight, read, entered⟩ :=
        flying.enterLoop_fills (Shaped.new openedFile window) rfl ⟨[], []⟩ rfl (Nat.zero_le _)
          readable (.inl (by omega))
      rw [one, Nat.min_self] at read
      rw [flight.emissions_single (shaped.length.trans one) read, shaped.blockSize] at entered
      exact ⟨next, shaped, flight, read, entered⟩
  | succ acked ih =>
      obtain ⟨transfer, shaped, flying, read, before⟩ := ih (readable.mono (by omega))
      have unfinished : transfer.done = false := by
        rw [Bool.eq_false_iff]
        intro finished
        have short := (flying.done.mp finished).2
        rw [read, shaped.blockSize, readable.full _ (by omega) (by omega)] at short
        exact absurd short (Nat.lt_irrefl _)
      have advanced := flying.acknowledge (v := 0) (by omega)
      rw [flying.index] at advanced
      obtain ⟨next, shape, flight, total, entered⟩ := advanced.enterLoop_fills
        (shaped.acknowledge _) unfinished ⟨[], _⟩ rfl (by dsimp only; omega) readable (.inl (by omega))
      rw [one, Nat.add_zero, Nat.min_self] at total
      rw [Nat.add_zero] at flight
      rw [flight.emissions_single (shape.length.trans one) total, shape.blockSize] at entered
      refine ⟨next, shape, flight, total, ?_⟩
      rw [List.range'_concat, Nat.one_mul, Nat.add_comm 1 acked, List.flatMap_append,
        List.flatMap_append, Sending.run_append, before, ← shaped.blockSize,
        List.flatMap_singleton, List.flatMap_singleton,
        flying.answered (shaped.length.trans one) read timeouts (few _), shaped.blockSize]
      exact entered

/-- Neighbouring blocks have different indices, also across the wrap. -/
theorem lockstepSend_ne (file : O) (size position : Nat) :
    lockstepSend file size position ≠ lockstepSend file size (position + 1) := by
  intro equal
  rw [lockstepSend, lockstepSend, Emission.block.injEq] at equal
  have same := serial_inj position (position + 1) (by omega) (by omega) equal.1
  omega

variable [FullReads O]

/-- A lockstep transfer whose blocks are all answered sends every block and succeeds. -/
theorem lockstep_completes (openedFile : O) (window : Window) (one : window.buffers.length = 1)
    (positive : 0 < window.blockSize.toNat) (timeouts : Nat → Nat)
    (few : ∀ position, timeouts position < sendAttempts) :
    sendFile openedFile window [] ((List.range' 1
        (blockCount (FullReads.remaining openedFile) window.blockSize.toNat)).flatMap
          (lockstepAcks timeouts)) =
      .returned (.ok ((FullReads.remaining openedFile).length, 0))
        ⟨[], (List.range' 1
          (blockCount (FullReads.remaining openedFile) window.blockSize.toNat)).flatMap
            (lockstepSends openedFile window.blockSize.toNat timeouts)⟩ := by
  obtain ⟨transfer, shaped, flying, read, before⟩ := lockstep_waits openedFile window one timeouts few
    ((FullReads.remaining openedFile).length / window.blockSize.toNat)
    ((readable_iff openedFile positive).mpr (Nat.le_refl _))
  have finished : transfer.done = true := by
    rw [flying.toReading.done_iff (by rw [shaped.blockSize]; exact positive), shaped.blockSize,
      read, blockCount]
  have covered := blockCount_covers (FullReads.remaining openedFile) window.blockSize.toNat positive
  have bytes : transfer.bytesSent = (FullReads.remaining openedFile).length := by
    rw [flying.toReading.bytes, shaped.blockSize, read]
    exact Nat.min_eq_right (Nat.le_of_lt covered)
  have answered := flying.answered (shaped.length.trans one) read timeouts (few _)
    ((List.range' 1 ((FullReads.remaining openedFile).length / window.blockSize.toNat)).flatMap
      (lockstepSends openedFile window.blockSize.toNat timeouts))
  rw [shaped.blockSize] at answered
  have ended := answered.trans (enterLoop_done _ _ finished)
  rw [sendFile_run, blockCount, List.range'_concat, Nat.one_mul, Nat.add_comm 1,
    List.flatMap_append, List.flatMap_append, List.flatMap_singleton, List.flatMap_singleton,
    Sending.run_append, before, ended]
  simp only [Sending.reply, bytes, shaped.blocksSent]

/-- A lockstep transfer of any length is exact, also when its indices wrap. -/
theorem lockstepTransfer_exact (openedFile : O) (blockSize : UInt16)
    (positive : 0 < blockSize.toNat) (timeouts : Nat → Nat)
    (few : ∀ i, timeouts i < sendAttempts) :
    let content := FullReads.remaining openedFile
    let count := content.length / blockSize.toNat + 1
    let slice (i : Nat) := (content.take (min (i * blockSize.toNat) content.length)).drop
      ((i - 1) * blockSize.toNat)
    ∃ line, sendFile openedFile (Window.new blockSize 1 (by decide)) []
        ((List.range' 1 count).flatMap fun i =>
          List.replicate (timeouts i) (.error .timeout) ++ [.ok (UInt16.ofNat i)]) =
        .returned (.ok (content.length, 0)) line ∧
      line.sent.destutter (· ≠ ·) = (List.range' 1 count).map (fun i =>
        .block (UInt16.ofNat i) ([0x00, 0x03] ++ beBytes (UInt16.ofNat i) ++ slice i)) ∧
      (∀ i ∈ List.range' 1 count, (slice i).length < blockSize.toNat ↔ i = count) ∧
      (blockSize.toNat ∣ content.length → slice count = []) ∧
      (List.range' 1 count).flatMap slice = content := by
  intro content count slice
  have sliced (i : Nat) (counted : 0 < i) : block content blockSize.toNat i = slice i :=
    block_slice content blockSize.toNat i counted
  refine ⟨_, lockstep_completes openedFile (Window.new blockSize 1 (by decide)) rfl positive
    timeouts few, ?_, ?_, ?_, ?_⟩
  · have collapsed := destutter_copies (lockstepSend openedFile blockSize.toNat) timeouts
      (lockstepSend_ne openedFile blockSize.toNat) 1 count
    refine collapsed.trans ?_
    apply List.map_congr_left
    intro i member
    rw [List.mem_range'_1] at member
    rw [lockstepSend, blockDatagram_slice openedFile blockSize.toNat i member.1]
  · intro i member
    rw [List.mem_range'_1] at member
    obtain ⟨before, rfl⟩ := Nat.exists_eq_succ_of_ne_zero (Nat.ne_of_gt member.1)
    rw [← sliced _ (Nat.succ_pos _)]
    exact block_short content blockSize.toNat before positive (by
      change before < count
      omega)
  · rintro ⟨blocks, length⟩
    rw [← sliced count (Nat.succ_pos _), List.eq_nil_iff_length_eq_zero,
      show count = blocks + 1 by
        change content.length / blockSize.toNat + 1 = _
        rw [length, Nat.mul_div_cancel_left _ positive],
      block_length, length, Nat.mul_comm, Nat.sub_self, Nat.min_zero]
  · rw [List.range'_eq_map_range, List.flatMap_map]
    refine Eq.trans ?_ (blocks_flatten_all content blockSize.toNat positive)
    apply List.flatMap_congr
    intro i _
    rw [Nat.add_comm 1 i, sliced _ (Nat.succ_pos _)]

/-- A file of two full blocks ends with an empty third one, and one timeout changes nothing. -/
theorem lockstepTransfer_exact_aligned :
    ∃ line, sendFile (VirtualOpenedFile.new (List.replicate 16 7)) (Window.new 8 1 (by decide)) []
        [.ok 1, .error .timeout, .ok 2, .ok 3] = .returned (.ok (16, 0)) line ∧
      line.sent.destutter (· ≠ ·) =
        [.block 1 ([0, 3, 0, 1] ++ List.replicate 8 7),
          .block 2 ([0, 3, 0, 2] ++ List.replicate 8 7), .block 3 [0, 3, 0, 3]] := by
  obtain ⟨line, returned, sent, _⟩ := lockstepTransfer_exact
    (VirtualOpenedFile.new (List.replicate 16 7)) 8 (by decide)
    (fun position => if position = 2 then 1 else 0) (by intro i; split <;> decide)
  exact ⟨line, returned, sent⟩

end Rtftp.PeerHandler

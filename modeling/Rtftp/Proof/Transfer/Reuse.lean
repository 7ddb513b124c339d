import Rtftp.Proof.Transfer.Advance

namespace Rtftp.PeerHandler
open Library

variable {O : Type} {sending : Sending O}

/-- The blocks in flight of a waiting transfer occupy different slots, each of their buffers has
its own header, and so had every buffer that was sent. -/
structure Separated (sending : Sending O) : Prop where
  slots : ∀ toSend attempts, sending.status = .awaiting toSend attempts →
    (burstIndices sending.transfer.windowIndex sending.transfer.unacknowledgedCount).Pairwise
      fun first second => sending.transfer.window.slot first ≠ sending.transfer.window.slot second
  buffers : ∀ toSend attempts, sending.status = .awaiting toSend attempts →
    ∀ index ∈ burstIndices sending.transfer.windowIndex sending.transfer.unacknowledgedCount,
      Window.header index <+: sending.transfer.window.send index
  sent : ∀ index datagram, .block index datagram ∈ sending.line.sent →
    Window.header index <+: datagram

/-- A relation holds along a burst when it holds for every two of its offsets in order. -/
theorem pairwise_burstIndices (windowIndex count : UInt16) (Related : UInt16 → UInt16 → Prop) :
    (burstIndices windowIndex count).Pairwise Related ↔
      ∀ first second, first < second → second < count.toNat →
        Related (windowIndex + UInt16.ofNat first) (windowIndex + UInt16.ofNat second) := by
  rw [burstIndices, List.pairwise_map, List.pairwise_iff_getElem]
  simp only [List.length_range, List.getElem_range]
  constructor
  · intro related first second before inside
    exact related first second (by omega) inside before
  · intro related first second _ inside before
    exact related first second before inside

theorem slot_eq_iff (window : Window) (first second : UInt16) :
    window.slot first = window.slot second ↔
      first.toNat % window.buffers.length = second.toNat % window.buffers.length := by
  rw [Fin.ext_iff]
  rfl

variable [OpenedFile O] {file : O}

/-- The blocks in flight are separate while the slots are exact. -/
theorem Sound.separated (sound : Sound file sending) (exact_ : Exact sending.transfer) :
    Separated sending := by
  constructor
  case slots =>
    intro toSend attempts waiting
    obtain ⟨acked, burst⟩ := sound.burst toSend attempts waiting
    have room := burst.room
    rw [pairwise_burstIndices]
    intro first second before inside
    rw [burst.unacknowledgedCount] at inside
    rw [ne_eq, slot_eq_iff, burst.index, burst.index]
    apply slot_ne_of_exact _ _ _ _ (by omega) (by omega)
    exact exact_.imp_right fun unwrapped => by omega
  case buffers =>
    intro toSend attempts waiting index member
    obtain ⟨acked, burst⟩ := sound.burst toSend attempts waiting
    rw [burst.toFlying.burstIndices, List.mem_map] at member
    obtain ⟨v, inside, rfl⟩ := member
    rw [List.mem_range] at inside
    rw [burst.held exact_ _ (by omega) (by omega)]
    exact List.prefix_append _ _
  case sent =>
    intro index datagram member
    obtain ⟨position, _, _, rfl, exactly⟩ := sound.traced index datagram member
    rw [exactly exact_]
    exact List.prefix_append _ _

/-- Without a common divisor the first wrapped block takes the slot of a block in flight. -/
theorem separated_fails (openedFile : O) (window : Window)
    (indivisible : ¬ window.buffers.length ∣ 65536)
    (long : Readable openedFile window.blockSize.toNat 65536) :
    ∃ sending, Reach Sending.resume InBurst (Sending.start openedFile window []) sending ∧
      ¬ Separated sending := by
  have narrow := window.narrow
  obtain ⟨sending, reached, waiting⟩ := waiting_reached openedFile window
    (65536 - window.buffers.length) (by rwa [Nat.sub_add_cancel (by omega)])
  obtain ⟨position, before, close, same⟩ :=
    ringSlot_collides 65536 window.buffers.length window.occupied indivisible
  obtain ⟨attempts, status⟩ := waiting.status
  have flying := waiting.flying
  have count := flying.unacknowledgedCount
  rw [waiting.read] at count
  refine ⟨sending, reached.mono fun _ _ permitted => permitted.1, ?_⟩
  intro separated
  have different := (pairwise_burstIndices _ _ _).mp (separated.slots _ attempts status)
    (position - (65536 - window.buffers.length) - 1) (window.buffers.length - 1)
    (by omega) (by omega)
  apply different
  rw [slot_eq_iff, flying.index, flying.index, UInt16.toNat_ofNat', UInt16.toNat_ofNat',
    waiting.shaped.length]
  have first : 65536 - window.buffers.length + 1 +
      (position - (65536 - window.buffers.length) - 1) = position := by omega
  have second : 65536 - window.buffers.length + 1 + (window.buffers.length - 1) = 65536 := by
    have occupied := window.occupied
    omega
  rw [first, second]
  exact same

/-- Runs with acknowledges of their own bursts never reuse the buffer of a block in flight exactly
when the window size divides 65536 or the file has fewer than 65536 blocks. -/
theorem reusedBuffers_separated_iff (openedFile : O) (blockSize windowSize : UInt16)
    (positive : 0 < windowSize.toNat) :
    (∀ verdicts sending, Reach Sending.resume InBurst
      (Sending.start openedFile (Window.new blockSize windowSize positive) verdicts) sending →
        Separated sending) ↔
      windowSize.toNat ∣ 65536 ∨ ¬ Readable openedFile blockSize.toNat 65536 := by
  have length := Window.new_length blockSize windowSize positive
  constructor
  · intro separated
    by_contra neither
    rw [not_or, not_not] at neither
    obtain ⟨sending, reached, mixed⟩ := separated_fails openedFile
      (Window.new blockSize windowSize positive) (by rw [length]; exact neither.1) neither.2
    exact mixed (separated [] sending reached)
  · intro condition verdicts sending reached
    have sound := sound_of_reach openedFile _ verdicts reached
    have tracked := tracked_of_reach openedFile _ verdicts reached
    apply sound.separated
    rw [Exact, tracked.length, length]
    exact condition.imp_right tracked.unwrapped

/-- A window of four buffers divides the cycle, so it is safe after an acknowledge of two blocks. -/
theorem reusedBuffers_separated_four :
    Separated ((Sending.start (VirtualOpenedFile.new (List.replicate 60 7))
      (Window.new 8 4 (by decide)) []).resume (.ok 2)) := by
  have inside : InBurst (Sending.start (VirtualOpenedFile.new (List.replicate 60 7))
      (Window.new 8 4 (by decide)) []) (.ok 2) :=
    inBurst_ok (show _ = Status.awaiting 4 4 by decide) ⟨1, by decide, by decide⟩
  exact (reusedBuffers_separated_iff (VirtualOpenedFile.new (List.replicate 60 7)) 8 4
    (by decide)).mpr (.inl (by decide)) [] _ (.next .start inside)

/-- A window of three buffers mixes the blocks of a file with 65536 blocks of eight bytes. -/
theorem reusedBuffers_mixed :
    ¬ ∀ verdicts sending, Reach Sending.resume InBurst
      (Sending.start (VirtualOpenedFile.new (List.replicate (65535 * 8) 0))
        (Window.new 8 3 (by decide)) verdicts) sending → Separated sending := by
  intro separated
  have long : Readable (VirtualOpenedFile.new (List.replicate (65535 * 8) 0)) 8 65536 :=
    readable_replicate 65535 0 (by decide)
  obtain ⟨sending, reached, mixed⟩ := separated_fails
    (VirtualOpenedFile.new (List.replicate (65535 * 8) 0)) (Window.new 8 3 (by decide))
    (by decide) long
  exact mixed (separated [] sending reached)

end Rtftp.PeerHandler

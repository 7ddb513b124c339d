import Rtftp.Construction.LocalFs
import Rtftp.Proof.Transfer.Completion

namespace Rtftp
open Library

/-- Every read of one size before the end gives a whole block or all that is left. -/
def ReadCounts.Whole (counts : ReadCounts) (length size : Nat) : Prop :=
  ∀ index, index * size ≤ length →
    counts.count index size (length - index * size) = min size (length - index * size)

/-- These reads never give more than three bytes. -/
def ReadCounts.three : ReadCounts where
  count _ room left := min 3 (min room left)
  fits _ _ _ := Nat.min_le_right _ _
  progress _ room left some rest := by omega

/-- Reads are whole when none of them is the first that is not. -/
theorem ReadCounts.whole_of_first {counts : ReadCounts} {length size : Nat}
    (none : ∀ index, index * size ≤ length →
      (∀ earlier < index, counts.count earlier size (length - earlier * size) =
        min size (length - earlier * size)) →
      ¬ counts.count index size (length - index * size) < min size (length - index * size)) :
    counts.Whole length size := by
  intro index
  induction index using Nat.strong_induction_on with
  | h index ih =>
      intro fits
      have most := counts.fits index size (length - index * size)
      have first := none index fits (by
        intro earlier less
        have before := Nat.mul_le_mul_right size (Nat.le_of_lt less)
        exact ih earlier less (by omega))
      omega

variable {content : List UInt8} {counts : ReadCounts} {size index : Nat}

/-- Whole blocks move the position by one size at a time. -/
theorem fileAfter_whole (fits : index * size ≤ content.length)
    (whole : ∀ earlier < index, counts.count earlier size (content.length - earlier * size) =
      min size (content.length - earlier * size)) :
    fileAfter (LocalOpenedFile.mk (File.opened content counts)) size index =
      ⟨⟨content, index * size, counts, index⟩⟩ := by
  induction index with
  | zero => rw [Nat.zero_mul]; rfl
  | succ index ih =>
      have span : (index + 1) * size = index * size + size := by ring
      have count := whole index (Nat.lt_succ_self index)
      rw [Nat.min_eq_left (by omega)] at count
      have before := ih (by omega) fun earlier less => whole earlier (by omega)
      rw [fileAfter, before]
      dsimp only [OpenedFile.readTo, LocalOpenedFile.readTo, File.read, File.nextCount]
      rw [count, span]

/-- After whole blocks the next one is what its read gives. -/
theorem payload_whole (fits : index * size ≤ content.length)
    (whole : ∀ earlier < index, counts.count earlier size (content.length - earlier * size) =
      min size (content.length - earlier * size)) :
    payload (LocalOpenedFile.mk (File.opened content counts)) size (index + 1) =
      (content.drop (index * size)).take
        (counts.count index size (content.length - index * size)) := by
  rw [payload, Nat.add_sub_cancel, fileAfter_whole fits whole]
  rfl

/-- Whole reads give the blocks of the content. -/
theorem ReadCounts.Whole.payload_eq_block (whole : counts.Whole content.length size)
    (fits : index * size ≤ content.length) :
    payload (LocalOpenedFile.mk (File.opened content counts)) size (index + 1) =
      block content size (index + 1) := by
  rw [payload_whole fits, whole index fits, block_succ, ← List.length_drop, List.take_eq_take_iff]
  · omega
  · intro earlier less
    apply whole
    have before := Nat.mul_le_mul_right size (Nat.le_of_lt less)
    omega

/-- Every position before the last block lies in the content. -/
theorem mul_le_of_lt_blockCount (within : index < blockCount content size) :
    index * size ≤ content.length := by
  have most := Nat.div_mul_le_self content.length size
  have less := Nat.mul_le_mul_right size (Nat.le_of_lt_succ within)
  omega

/-- Whole reads end with the last block of the content. -/
theorem ReadCounts.Whole.ends (whole : counts.Whole content.length size) (positive : 0 < size)
    {count : Nat} (ends : Ends (LocalOpenedFile.mk (File.opened content counts)) size count) :
    count = blockCount content size := by
  have some := ends.some
  by_contra other
  by_cases fewer : count < blockCount content size
  · obtain ⟨index, rfl⟩ := Nat.exists_eq_succ_of_ne_zero (Nat.ne_of_gt some)
    have short := ends.short
    rw [Nat.succ_eq_add_one, whole.payload_eq_block (mul_le_of_lt_blockCount (by omega)),
      block_short content size index positive (by omega)] at short
    exact other short
  · have last : content.length / size + 1 = blockCount content size := rfl
    have full := ends.readable.full (content.length / size + 1) (Nat.succ_pos _) (by omega)
    rw [whole.payload_eq_block (mul_le_of_lt_blockCount (by omega))] at full
    have short := (block_short content size (content.length / size) positive (by omega)).mpr last
    omega

/-- The payloads of whole reads are the content. -/
theorem ReadCounts.Whole.blocks (whole : counts.Whole content.length size) (positive : 0 < size) :
    (List.range (blockCount content size)).flatMap (fun index =>
      payload (LocalOpenedFile.mk (File.opened content counts)) size (index + 1)) = content := by
  calc
    _ = (List.range (blockCount content size)).flatMap
        (fun index => block content size (index + 1)) := by
          apply List.flatMap_congr
          intro index inside
          exact whole.payload_eq_block (mul_le_of_lt_blockCount (List.mem_range.mp inside))
    _ = content := blocks_flatten_all content size positive

/-- The payloads before a read that is not whole are a prefix of the content. -/
theorem payloads_whole (fits : index * size ≤ content.length)
    (whole : ∀ earlier < index, counts.count earlier size (content.length - earlier * size) =
      min size (content.length - earlier * size)) :
    (List.range index).flatMap (fun earlier =>
      payload (LocalOpenedFile.mk (File.opened content counts)) size (earlier + 1)) =
        content.take (index * size) := by
  rw [← blocks_flatten]
  apply List.flatMap_congr
  intro earlier inside
  rw [List.mem_range] at inside
  have before := Nat.mul_le_mul_right size (Nat.le_of_lt inside)
  rw [payload_whole (by omega) fun first less => whole first (by omega),
    whole earlier inside, block_succ, ← List.length_drop, List.take_eq_take_iff]
  omega

/-- A read that is not whole ends the transfer, and the rest of the content is left out. -/
theorem ends_short (fits : index * size ≤ content.length)
    (whole : ∀ earlier < index, counts.count earlier size (content.length - earlier * size) =
      min size (content.length - earlier * size))
    (short : counts.count index size (content.length - index * size) <
      min size (content.length - index * size)) :
    Ends (LocalOpenedFile.mk (File.opened content counts)) size (index + 1) ∧
      (List.range (index + 1)).flatMap (fun earlier =>
        payload (LocalOpenedFile.mk (File.opened content counts)) size (earlier + 1)) ≠ content := by
  constructor
  · constructor
    · exact Nat.succ_pos index
    · intro position inside
      have before := Nat.mul_le_mul_right size (Nat.le_of_lt_succ inside)
      rw [fileAfter_whole (by omega) fun earlier less => whole earlier (by omega)]
      refine ⟨_, _, rfl, ?_⟩
      intro earlier
      have count := whole position (by omega)
      have span : (position + 1) * size = position * size + size := by ring
      have next := Nat.mul_le_mul_right size (show position + 1 ≤ index by omega)
      rw [Nat.min_eq_left (by omega)] at count
      dsimp only [File.read, File.nextCount]
      rw [count, List.length_take, List.length_drop]
      omega
    · rw [payload_whole fits whole, List.length_take]
      omega
  · intro same
    have length := congrArg List.length same
    rw [List.range_succ, List.flatMap_append, List.flatMap_singleton, payloads_whole fits whole,
      payload_whole fits whole, List.length_append, List.length_take, List.length_take,
      List.length_drop] at length
    omega

end Rtftp

namespace Rtftp.PeerHandler
open Library

/-- The payloads of every finished transfer of a local file are its content exactly when every read
before the end gives a whole block or all that is left. While the indices do not wrap, the DATA
datagrams of bursts carry these payloads. -/
theorem shortReads_harmless_iff (content : List UInt8) (counts : ReadCounts)
    (blockSize windowSize : UInt16) (sized : 0 < blockSize.toNat) (positive : 0 < windowSize.toNat) :
    ((∀ verdicts sending, Reach Sending.resume (fun _ _ => True)
        (Sending.start (LocalOpenedFile.mk (File.opened content counts))
          (Window.new blockSize windowSize positive) verdicts) sending →
        sending.transfer.done = true →
        (List.range sending.transfer.blocksRead).flatMap (fun index =>
          payload (LocalOpenedFile.mk (File.opened content counts)) blockSize.toNat (index + 1)) =
            content) ↔
      counts.Whole content.length blockSize.toNat) ∧
    (∀ verdicts sending, Reach Sending.resume InBurst
        (Sending.start (LocalOpenedFile.mk (File.opened content counts))
          (Window.new blockSize windowSize positive) verdicts) sending →
        sending.transfer.blocksRead ≤ 65535 →
        ∀ index datagram, .block index datagram ∈ sending.line.sent →
          datagram = Window.header index ++
            payload (LocalOpenedFile.mk (File.opened content counts)) blockSize.toNat
              index.toNat) := by
  refine ⟨⟨?_, ?_⟩, ?_⟩
  · intro harmless
    apply ReadCounts.whole_of_first
    intro index fits whole short
    -- The first read that is not whole ends a transfer that acknowledges bring to its last burst.
    obtain ⟨ends, different⟩ := ends_short fits whole short
    obtain ⟨sending, reached, waiting, finished⟩ :=
      waiting_last _ (Window.new blockSize windowSize positive) ends
    apply different
    rw [← waiting.read]
    exact harmless [] sending (reached.mono fun _ _ _ => trivial) finished
  · intro whole verdicts sending reached finished
    have tracked := tracked_of_reach _ _ verdicts reached
    have ends := tracked.ends finished
    rw [tracked.blockSize] at ends
    rw [whole.ends sized ends]
    exact whole.blocks sized
  · intro verdicts sending reached unwrapped index datagram sent
    have sound := sound_of_reach _ _ verdicts reached
    have tracked := tracked_of_reach _ _ verdicts reached
    obtain ⟨position, counted, within, rfl, exactly⟩ := sound.traced index datagram sent
    rw [exactly (.inr unwrapped), serial_toNat position (by omega), tracked.blockSize]
    rfl

/-- A file of twenty bytes with full reads comes whole. -/
theorem shortReads_harmless_full :
    ReadCounts.full.Whole 20 8 ∧
      ∀ verdicts sending, Reach Sending.resume (fun _ _ => True)
        (Sending.start (LocalOpenedFile.mk (File.opened (List.replicate 20 7) .full))
          (Window.new 8 2 (by decide)) verdicts) sending →
        sending.transfer.done = true →
        (List.range sending.transfer.blocksRead).flatMap (fun index =>
          payload (LocalOpenedFile.mk (File.opened (List.replicate 20 7) .full)) 8 (index + 1)) =
            List.replicate 20 7 :=
  have whole : ReadCounts.full.Whole 20 8 := fun _ _ => rfl
  ⟨whole, (shortReads_harmless_iff (List.replicate 20 7) .full 8 2 (by decide) (by decide)).1.mpr
    whole⟩

/-- A first read of three bytes ends the transfer of a file of ten bytes. -/
theorem shortReads_harmless_truncated :
    let file := LocalOpenedFile.mk (File.opened (List.replicate 10 7) ReadCounts.three)
    let sending := Sending.start file (Window.new 8 1 (by decide)) []
    sending.transfer.done = true ∧
      sending.line.sent = [.block 1 [0, 3, 0, 1, 7, 7, 7]] ∧
      (List.range sending.transfer.blocksRead).flatMap (fun index => payload file 8 (index + 1)) ≠
        List.replicate 10 7 := by
  decide

end Rtftp.PeerHandler

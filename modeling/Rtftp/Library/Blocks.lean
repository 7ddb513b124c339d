import Mathlib.Data.List.Basic
import Mathlib.Data.List.Destutter
import Mathlib.Tactic.Ring

namespace Rtftp.Library
variable {A : Type}

/-- Blocks count from one, and only the last block is shorter than the block size. -/
def block (content : List A) (size index : Nat) : List A :=
  (content.drop ((index - 1) * size)).take size

/-- A content that the size divides still ends with one empty block. -/
def blockCount (content : List A) (size : Nat) : Nat := content.length / size + 1

/-- A reader that has passed `count` blocks takes the next one. -/
theorem block_succ (content : List A) (size count : Nat) :
    block content size (count + 1) = (content.drop (count * size)).take size := by
  rw [block, Nat.add_sub_cancel]

/-- A block is the slice between two multiples of the size. -/
theorem block_slice (content : List A) (size index : Nat) (positive : 0 < index) :
    block content size index =
      (content.take (min (index * size) content.length)).drop ((index - 1) * size) := by
  obtain ⟨count, rfl⟩ := Nat.exists_eq_succ_of_ne_zero (Nat.ne_of_gt positive)
  have span : (count + 1) * size = count * size + size := by ring
  rw [Nat.succ_eq_add_one, block_succ, Nat.add_sub_cancel, List.drop_take, List.take_eq_take_iff,
    List.length_drop, span]
  omega

theorem block_length (content : List A) (size count : Nat) :
    (block content size (count + 1)).length = min size (content.length - count * size) := by
  rw [block_succ, List.length_take, List.length_drop]

/-- The first short block is the last one. -/
theorem block_short (content : List A) (size count : Nat) (positive : 0 < size)
    (within : count < blockCount content size) :
    (block content size (count + 1)).length < size ↔ count + 1 = blockCount content size := by
  have span : (count + 1) * size = count * size + size := by ring
  have short : content.length / size < count + 1 ↔ content.length < count * size + size := by
    rw [Nat.div_lt_iff_lt_mul positive, span]
  rw [block_length]
  unfold blockCount at *
  omega

/-- The bytes of the first blocks are counted one block at a time. -/
theorem block_bytes (content : List A) (size count : Nat) :
    min (count * size) content.length + (block content size (count + 1)).length =
      min ((count + 1) * size) content.length := by
  have span : (count + 1) * size = count * size + size := by ring
  rw [block_length, span]
  omega

/-- The first blocks together are as long as the prefix that they cover. -/
theorem blocks_length (content : List A) (size count : Nat) :
    ((List.range count).map fun index => (block content size (index + 1)).length).sum =
      min (count * size) content.length := by
  induction count with
  | zero => simp
  | succ count ih =>
      rw [List.range_succ, List.map_append, List.sum_append, ih, List.map_singleton,
        List.sum_singleton, block_bytes]

/-- All blocks together hold every entry of the content. -/
theorem blockCount_covers (content : List A) (size : Nat) (positive : 0 < size) :
    content.length < blockCount content size * size := by
  have covered := Nat.lt_div_mul_add (a := content.length) positive
  unfold blockCount
  rw [Nat.add_mul, Nat.one_mul]
  exact covered

/-- The first blocks in order are a prefix of the content. -/
theorem blocks_flatten (content : List A) (size count : Nat) :
    (List.range count).flatMap (fun index => block content size (index + 1)) =
      content.take (count * size) := by
  induction count with
  | zero => simp
  | succ count ih =>
      have span : (count + 1) * size = count * size + size := by ring
      rw [List.range_succ, List.flatMap_append, ih, List.flatMap_singleton, block_succ, span,
        List.take_add]

/-- All blocks in order are the content. -/
theorem blocks_flatten_all (content : List A) (size : Nat) (positive : 0 < size) :
    (List.range (blockCount content size)).flatMap
      (fun index => block content size (index + 1)) = content := by
  rw [blocks_flatten, List.take_of_length_le]
  exact Nat.le_of_lt (blockCount_covers content size positive)

section Copies
variable [DecidableEq A]

/-- Copies of the current entry are dropped. -/
theorem destutter_replicate (entry : A) (copies : Nat) (rest : List A) :
    (List.replicate copies entry ++ rest).destutter' (· ≠ ·) entry =
      rest.destutter' (· ≠ ·) entry := by
  induction copies with
  | zero => rfl
  | succ copies ih =>
      rw [List.replicate_succ, List.cons_append, List.destutter'_cons_neg _ (by simp), ih]

/-- A sequence whose neighbours differ is what is left of its copies. -/
theorem destutter_copies (entry : Nat → A) (copies : Nat → Nat)
    (different : ∀ index, entry index ≠ entry (index + 1)) (first count : Nat) :
    ((List.range' first count).flatMap fun index =>
      List.replicate (copies index + 1) (entry index)).destutter (· ≠ ·) =
        (List.range' first count).map entry := by
  cases count with
  | zero => rfl
  | succ count =>
      rw [List.range'_succ, List.flatMap_cons, List.replicate_succ, List.cons_append,
        List.destutter_cons', destutter_replicate]
      induction count generalizing first with
      | zero => rfl
      | succ count ih =>
          rw [List.range'_succ, List.flatMap_cons, List.replicate_succ, List.cons_append,
            List.destutter'_cons_pos _ (different first), destutter_replicate, ih (first + 1)]
          rfl

end Copies

end Rtftp.Library

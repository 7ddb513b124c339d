import Rtftp.Library.Blocks
import Rtftp.Construction.OpenedFile

namespace Rtftp
open Library

variable {O : Type} [OpenedFile O] {file next : O} {size count : Nat} {bytes : List UInt8}

/-- This is the file after a number of reads of one size. A failed read leaves the file as it is. -/
def fileAfter (file : O) (size : Nat) : Nat → O
  | 0 => file
  | count + 1 =>
      match OpenedFile.readTo (fileAfter file size count) size with
      | .ok (_, next) => next
      | .error _ => fileAfter file size count

/-- These are the bytes of the read at a position. Positions count from one. -/
def payload (file : O) (size position : Nat) : List UInt8 :=
  match OpenedFile.readTo (fileAfter file size (position - 1)) size with
  | .ok (bytes, _) => bytes
  | .error _ => []

/-- The file gives its first `count` blocks, and only the last of them may be short. -/
def Readable (file : O) (size count : Nat) : Prop :=
  ∀ position < count, ∃ bytes next,
    OpenedFile.readTo (fileAfter file size position) size = .ok (bytes, next) ∧
      (position + 1 < count → bytes.length = size)

/-- The file gives `count` blocks, and the last of them is short. -/
structure Ends (file : O) (size count : Nat) : Prop where
  some : 0 < count
  readable : Readable file size count
  short : (payload file size count).length < size

theorem fileAfter_succ
    (read : OpenedFile.readTo (fileAfter file size count) size = .ok (bytes, next)) :
    fileAfter file size (count + 1) = next := by
  rw [fileAfter, read]

theorem payload_succ
    (read : OpenedFile.readTo (fileAfter file size count) size = .ok (bytes, next)) :
    payload file size (count + 1) = bytes := by
  rw [payload, Nat.add_sub_cancel, read]

/-- A file that gives many blocks also gives fewer. -/
theorem Readable.mono {fewer : Nat} (readable : Readable file size count) (less : fewer ≤ count) :
    Readable file size fewer := by
  intro position inside
  obtain ⟨bytes, next, read, full⟩ := readable position (by omega)
  exact ⟨bytes, next, read, fun before => full (by omega)⟩

/-- A successful read after full blocks gives one block more. -/
theorem Readable.succ (readable : Readable file size count)
    (full : 0 < count → (payload file size count).length = size)
    (read : OpenedFile.readTo (fileAfter file size count) size = .ok (bytes, next)) :
    Readable file size (count + 1) := by
  intro position inside
  by_cases newest : position = count
  · subst position
    exact ⟨bytes, next, read, fun before => by omega⟩
  · obtain ⟨older, rest, earlier, short⟩ := readable position (by omega)
    refine ⟨older, rest, earlier, ?_⟩
    intro _
    by_cases last : position + 1 = count
    · rw [← payload_succ earlier, last]
      exact full (by omega)
    · exact short (by omega)

/-- Every block before the last one of a readable file is full. -/
theorem Readable.full (readable : Readable file size count) (position : Nat)
    (positive : 0 < position) (before : position < count) : (payload file size position).length = size := by
  obtain ⟨index, rfl⟩ := Nat.exists_eq_succ_of_ne_zero (Nat.ne_of_gt positive)
  obtain ⟨bytes, next, read, full⟩ := readable index (by omega)
  rw [payload_succ read]
  exact full before

section FullReads
variable [FullReads O]

/-- Full reads move through the file by one size at a time. -/
theorem remaining_fileAfter (file : O) (size count : Nat) :
    FullReads.remaining (fileAfter file size count) =
      (FullReads.remaining file).drop (count * size) := by
  induction count with
  | zero => rw [Nat.zero_mul, List.drop_zero, fileAfter]
  | succ count ih =>
      obtain ⟨next, read, left⟩ := FullReads.readTo_full (fileAfter file size count) size
      rw [fileAfter_succ read, left, ih, List.drop_drop]
      congr 1
      ring

/-- Full reads give the blocks of the file. -/
theorem payload_eq_block (file : O) (size position : Nat) (positive : 0 < position) :
    payload file size position = block (FullReads.remaining file) size position := by
  obtain ⟨count, rfl⟩ := Nat.exists_eq_succ_of_ne_zero (Nat.ne_of_gt positive)
  obtain ⟨next, read, _⟩ := FullReads.readTo_full (fileAfter file size count) size
  rw [Nat.succ_eq_add_one, payload_succ read, remaining_fileAfter, block_succ]

/-- Full reads give exactly as many blocks as the file has. -/
theorem readable_iff (file : O) (positive : 0 < size) :
    Readable file size count ↔ count ≤ blockCount (FullReads.remaining file) size := by
  constructor
  · intro readable
    by_contra more
    have full := readable.full (blockCount (FullReads.remaining file) size)
      (Nat.succ_pos _) (by omega)
    rw [payload_eq_block file size (blockCount _ _) (Nat.succ_pos _)] at full
    have short := (block_short (FullReads.remaining file) size _ positive
      (Nat.lt_succ_self _)).mpr rfl
    unfold blockCount at full
    omega
  · intro within position inside
    obtain ⟨next, read, _⟩ := FullReads.readTo_full (fileAfter file size position) size
    refine ⟨_, next, read, ?_⟩
    intro before
    rw [← payload_succ read, payload_eq_block file size (position + 1) (Nat.succ_pos _)]
    have bounded := block_length (FullReads.remaining file) size position
    have short := block_short (FullReads.remaining file) size position positive (by omega)
    omega

end FullReads

/-- A file of some full blocks gives one more block, which is empty. -/
theorem readable_replicate (full : Nat) (byte : UInt8) (positive : 0 < size) :
    Readable (VirtualOpenedFile.new (List.replicate (full * size) byte)) size (full + 1) := by
  rw [readable_iff _ positive, VirtualOpenedFile.remaining_new, blockCount, List.length_replicate,
    Nat.mul_div_cancel full positive]

end Rtftp

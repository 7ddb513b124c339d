import Rtftp.Construction.Cursor

namespace Rtftp

/-- A read returns the bytes that it put into a buffer with `room` bytes. A size has 64 bits. -/
class OpenedFile (O : Type) where
  readTo : O → (room : Nat) → Except IoError (List UInt8 × O)
  getSize : O → Except IoError UInt64 × O
  readTo_fits : ∀ (file : O) (room : Nat) (bytes : List UInt8) (next : O),
    readTo file room = .ok (bytes, next) → bytes.length ≤ room

/-- A file with full reads returns fewer bytes than asked only at its end. -/
class FullReads (O : Type) [OpenedFile O] where
  remaining : O → List UInt8
  readTo_full : ∀ (file : O) (room : Nat), ∃ next : O,
    OpenedFile.readTo file room = .ok ((remaining file).take room, next) ∧
      remaining next = (remaining file).drop room

/-- This file serves a buffer in memory. -/
structure VirtualOpenedFile where
  buffer : List UInt8
  offset : Nat
  deriving DecidableEq, Repr

def VirtualOpenedFile.new (buffer : List UInt8) : VirtualOpenedFile := ⟨buffer, 0⟩

instance : OpenedFile VirtualOpenedFile where
  readTo file room :=
    .ok ((file.buffer.drop file.offset).take room,
      { file with offset := file.offset + min room (file.buffer.length - file.offset) })
  getSize file := (.ok (UInt64.ofNat file.buffer.length), file)
  readTo_fits file room bytes next read := by
    obtain ⟨rfl, _⟩ := Prod.mk.inj (Except.ok.inj read)
    exact List.length_take_le room _

instance : FullReads VirtualOpenedFile where
  remaining file := file.buffer.drop file.offset
  readTo_full file room := by
    refine ⟨_, rfl, ?_⟩
    simp only [List.drop_drop]
    by_cases enough : room ≤ file.buffer.length - file.offset
    · rw [Nat.min_eq_left enough]
    · rw [Nat.min_eq_right (by omega), List.drop_eq_nil_of_le (by omega),
        List.drop_eq_nil_of_le (by omega)]

@[simp] theorem VirtualOpenedFile.remaining_new (buffer : List UInt8) :
    FullReads.remaining (VirtualOpenedFile.new buffer) = buffer := rfl

end Rtftp

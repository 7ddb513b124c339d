import Rtftp.Construction.Window

namespace Rtftp.Window
open Library

/-- A push changes one slot, and every other slot keeps its bytes. -/
structure Pushed (window next : Window) (index : UInt16) (bytes : List UInt8) : Prop where
  blockSize : next.blockSize = window.blockSize
  length : next.buffers.length = window.buffers.length
  written : ∀ other : UInt16,
    other.toNat % window.buffers.length = index.toNat % window.buffers.length →
      next.send other = header index ++ bytes
  kept : ∀ other : UInt16,
    other.toNat % window.buffers.length ≠ index.toNat % window.buffers.length →
      next.send other = window.send other

@[simp] theorem header_length (index : UInt16) : (header index).length = 4 := rfl

/-- A truncated buffer holds the header and the bytes that were read. -/
theorem filled_asSlice (vec : ByteVec) (index : UInt16) (bytes : List UInt8)
    (fits : 4 + bytes.length ≤ vec.capacity) :
    (((vec.extend.write 0 (header index)).write 4 bytes).truncate (bytes.length + 4)).asSlice =
      header index ++ bytes := by
  have joined : overwrite (overwrite vec.memory 0 (header index)) 4 bytes =
      overwrite vec.memory 0 (header index ++ bytes) :=
    overwrite_append vec.memory 0 (header index) bytes
  have size : (header index ++ bytes).length = bytes.length + 4 := by
    rw [List.length_append, header_length, Nat.add_comm]
  change (overwrite (overwrite vec.memory 0 (header index)) 4 bytes).take
    (min (bytes.length + 4) vec.capacity) = _
  rw [joined, overwrite_eq _ _ _ (by rw [size, Nat.zero_add, Nat.add_comm]; exact fits),
    Nat.min_eq_left (by omega)]
  simp only [List.take_zero, List.nil_append]
  rw [← size, List.take_left]

theorem replace_send_same (window : Window) (index other : UInt16) (vec : ByteVec)
    (fits : vec.capacity = window.blockSize.toNat + 4)
    (same : other.toNat % window.buffers.length = index.toNat % window.buffers.length) :
    (window.replace index vec fits).send other = vec.asSlice := by
  simp only [send, slot, replace, List.get_eq_getElem, List.length_set, same]
  rw [List.getElem_set_self]

theorem replace_send_other (window : Window) (index other : UInt16) (vec : ByteVec)
    (fits : vec.capacity = window.blockSize.toNat + 4)
    (different : other.toNat % window.buffers.length ≠ index.toNat % window.buffers.length) :
    (window.replace index vec fits).send other = window.send other := by
  simp only [send, slot, replace, List.get_eq_getElem, List.length_set]
  rw [List.getElem_set_ne (Ne.symm different)]

theorem new_length (blockSize windowSize : UInt16) (positive : 0 < windowSize.toNat) :
    (new blockSize windowSize positive).buffers.length = windowSize.toNat :=
  List.length_replicate

/-- The read asks for exactly one block. -/
theorem headed_room (window : Window) (index : UInt16) :
    (window.headed index).length - 4 = window.blockSize.toNat := by
  change (window.buffer index).capacity - 4 = _
  rw [buffer_capacity, Nat.add_sub_cancel]

/-- Filling one slot with a block that fits is a push. -/
theorem filled_pushed (window : Window) (index : UInt16) (bytes : List UInt8)
    (fits : bytes.length ≤ window.blockSize.toNat) :
    Pushed window (window.filled index bytes) index bytes where
  blockSize := rfl
  length := List.length_set
  written other same := by
    have capacity := window.buffer_capacity index
    change (window.buffers.get (window.slot index)).capacity = _ at capacity
    rw [filled, replace_send_same _ _ _ _ _ same]
    exact filled_asSlice _ index bytes (by omega)
  kept other different := replace_send_other _ _ _ _ _ different

variable {O : Type} [OpenedFile O]

/-- A push reads one block, and it fails only when this read fails. -/
theorem pushBlock_eq (window : Window) (file : O) (index : UInt16) :
    window.pushBlock file index =
      match OpenedFile.readTo file window.blockSize.toNat with
      | .ok (bytes, rest) =>
          .ok ((bytes.length, decide (bytes.length < window.blockSize.toNat)),
            window.filled index bytes, rest)
      | .error error => .error error := by
  rcases read : OpenedFile.readTo file window.blockSize.toNat with error | ⟨bytes, rest⟩
  · simp only [pushBlock, headed_room, read]
  · simp only [pushBlock, headed_room, read]

/-- A push that returns has read one block into the slot of its index. -/
theorem pushBlock_pushed {window next : Window} {file rest : O} {index : UInt16}
    {readBytes : Nat} {isLast : Bool}
    (pushed : window.pushBlock file index = .ok ((readBytes, isLast), next, rest)) :
    ∃ bytes, OpenedFile.readTo file window.blockSize.toNat = .ok (bytes, rest) ∧
      readBytes = bytes.length ∧ isLast = decide (bytes.length < window.blockSize.toNat) ∧
      Pushed window next index bytes := by
  rw [pushBlock_eq] at pushed
  split at pushed
  · rename_i bytes rest' read
    simp only [Except.ok.injEq, Prod.mk.injEq] at pushed
    obtain ⟨⟨rfl, rfl⟩, rfl, rfl⟩ := pushed
    have fits := OpenedFile.readTo_fits file _ bytes rest' read
    exact ⟨bytes, read, rfl, rfl, filled_pushed window index bytes fits⟩
  · cases pushed

end Rtftp.Window

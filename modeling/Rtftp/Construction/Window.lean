import Rtftp.Construction.OpenedFile

namespace Rtftp
open Library

def dataOpcode : UInt16 := 0x03

/-- A byte vector keeps the bytes past its length until they are overwritten. -/
structure ByteVec where
  memory : List UInt8
  length : Nat
  within : length ≤ memory.length
  deriving DecidableEq

namespace ByteVec

/-- This is `vec![0; capacity]`, whose capacity is exactly its length. -/
def zeroed (capacity : Nat) : ByteVec :=
  ⟨List.replicate capacity 0, capacity, by rw [List.length_replicate]⟩

def capacity (vec : ByteVec) : Nat := vec.memory.length

def asSlice (vec : ByteVec) : List UInt8 := vec.memory.take vec.length

/-- This is `set_len(capacity())`, which shows the old bytes again. -/
def extend (vec : ByteVec) : ByteVec := ⟨vec.memory, vec.capacity, Nat.le_refl _⟩

def write (vec : ByteVec) (offset : Nat) (bytes : List UInt8) : ByteVec :=
  ⟨overwrite vec.memory offset bytes, vec.length, by rw [overwrite_length]; exact vec.within⟩

def truncate (vec : ByteVec) (length : Nat) : ByteVec :=
  ⟨vec.memory, min length vec.length, Nat.le_trans (Nat.min_le_right _ _) vec.within⟩

end ByteVec

/-- A window has at least one buffer and no more than its 16-bit size allows. Every buffer has
room for a header and a block. -/
structure Window where
  blockSize : UInt16
  buffers : List ByteVec
  occupied : 0 < buffers.length
  narrow : buffers.length < 65536
  sized : ∀ buffer ∈ buffers, buffer.capacity = blockSize.toNat + 4

namespace Window

def new (blockSize windowSize : UInt16) (positive : 0 < windowSize.toNat) : Window where
  blockSize := blockSize
  buffers := List.replicate windowSize.toNat (ByteVec.zeroed (blockSize.toNat + 4))
  occupied := by rwa [List.length_replicate]
  narrow := by rw [List.length_replicate]; exact windowSize.toNat_lt
  sized buffer member := by
    rw [List.eq_of_mem_replicate member, ByteVec.capacity, ByteVec.zeroed, List.length_replicate]

/-- The vector of buffers was collected from a range, so its capacity is its length. -/
def size (window : Window) : UInt16 := UInt16.ofNat window.buffers.length

/-- This is `index as usize % window_length`. -/
def slot (window : Window) (index : UInt16) : Fin window.buffers.length :=
  ⟨index.toNat % window.buffers.length, Nat.mod_lt _ window.occupied⟩

/-- The chosen buffer gets its full length back. -/
def buffer (window : Window) (index : UInt16) : ByteVec :=
  (window.buffers.get (window.slot index)).extend

/-- This is the DATA header of a block. -/
def header (index : UInt16) : List UInt8 :=
  [0, dataOpcode.toUInt8, (index >>> 8).toUInt8, index.toUInt8]

/-- One slot receives a vector of the same capacity. -/
def replace (window : Window) (index : UInt16) (vec : ByteVec)
    (fits : vec.capacity = window.blockSize.toNat + 4) : Window where
  blockSize := window.blockSize
  buffers := window.buffers.set (window.slot index) vec
  occupied := by rw [List.length_set]; exact window.occupied
  narrow := by rw [List.length_set]; exact window.narrow
  sized buffer member := by
    rcases List.mem_or_eq_of_mem_set member with old | new
    · exact window.sized buffer old
    · rw [new, fits]

theorem buffer_capacity (window : Window) (index : UInt16) :
    (window.buffer index).capacity = window.blockSize.toNat + 4 :=
  window.sized (window.buffers.get (window.slot index)) (List.get_mem _ _)

/-- The header goes to the first four bytes of the buffer, before the read. -/
def headed (window : Window) (index : UInt16) : ByteVec :=
  (window.buffer index).write 0 (header index)

/-- The bytes that were read follow the header, and the buffer ends with them. -/
def filled (window : Window) (index : UInt16) (bytes : List UInt8) : Window :=
  window.replace index (((window.headed index).write 4 bytes).truncate (bytes.length + 4)) (by
    rw [← window.buffer_capacity index]
    exact (overwrite_length _ _ _).trans (overwrite_length _ _ _))

/-- The result is the number of bytes read and whether the block is the last one. -/
def pushBlock {O : Type} [OpenedFile O] (window : Window) (openedFile : O) (index : UInt16) :
    Except IoError ((Nat × Bool) × Window × O) :=
  match OpenedFile.readTo openedFile ((window.headed index).length - 4) with
  | .ok (bytes, openedFile) =>
      let readBytes := bytes.length
      .ok ((readBytes, decide (readBytes < window.blockSize.toNat)),
        window.filled index bytes, openedFile)
  | .error error => .error error

/-- These are the bytes that `send` hands to the datagram stream. -/
def send (window : Window) (index : UInt16) : List UInt8 :=
  (window.buffers.get (window.slot index)).asSlice

end Window

end Rtftp

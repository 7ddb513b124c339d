import Rtftp.Construction.RemoteFs

namespace Rtftp.FileReader

/-- The remote side gives some of the next bytes of the content, on every call as many as it
likes, and nothing past the end. -/
def Cuts (handle : ReadChunk) (content : List UInt8) : Prop :=
  ∀ call offset, ∃ piece, handle call offset = .ok piece ∧ piece <+: content.drop offset ∧
    (offset < content.length → piece ≠ [])

/-- This remote side gives a chosen number of bytes more than one on each call. -/
def cutAt (content : List UInt8) (size : Nat → Nat) : ReadChunk := fun call offset =>
  .ok ((content.drop offset).take (size call + 1))

theorem cutAt_cuts (content : List UInt8) (size : Nat → Nat) : Cuts (cutAt content size) content := by
  intro call offset
  refine ⟨_, rfl, List.take_prefix _ _, ?_⟩
  intro left
  apply List.ne_nil_of_length_pos
  rw [List.length_take, List.length_drop]
  omega

/-- The bytes that wait in the chunk are the next ones of the content. -/
structure Aligned (content : List UInt8) (reader : FileReader) : Prop where
  cuts : Cuts reader.handle content
  size : reader.fileSize = content.length
  offset : reader.currentOffset ≤ content.length
  ahead : reader.chunk.availableBytes <+: content.drop reader.currentOffset

/-- The bytes read so far begin at the offset where the call started. -/
structure Reading (content : List UInt8) (room start : Nat) (reader : FileReader)
    (read : List UInt8) : Prop where
  aligned : Aligned content reader
  position : start + read.length = reader.currentOffset
  bytes : read <+: content.drop start
  fits : read.length ≤ room

/-- A finished call has read all that its buffer and the content allow. -/
structure Read (content : List UInt8) (room start : Nat) (outcome : Except IoError (List UInt8))
    (reader : FileReader) : Prop where
  aligned : Aligned content reader
  bytes : outcome = .ok ((content.drop start).take room)
  position : reader.currentOffset = min (start + room) content.length

variable {content : List UInt8} {room start : Nat} {reader : FileReader}

/-- Two pieces of the content follow each other. -/
theorem append_isPrefix_drop {first second : List UInt8} (before : first <+: content.drop start)
    (behind : second <+: content.drop (start + first.length)) :
    first ++ second <+: content.drop start := by
  obtain ⟨rest, split⟩ := before
  have dropped : content.drop (start + first.length) = rest := by
    rw [← List.drop_drop, ← split, List.drop_left]
  rw [dropped] at behind
  rw [← split]
  exact (List.prefix_append_right_inj first).mpr behind

/-- What is left of a piece is behind what was taken of it. -/
theorem drop_isPrefix_drop {piece : List UInt8} (ahead : piece <+: content.drop start)
    (count : Nat) : piece.drop count <+: content.drop (start + (piece.take count).length) := by
  by_cases fits : count ≤ piece.length
  · rw [List.length_take, Nat.min_eq_left fits, ← List.drop_drop]
    exact ahead.drop count
  · rw [List.drop_eq_nil_of_le (by omega)]
    exact List.nil_prefix

/-- Nothing is left behind the end of the content. -/
theorem drop_min_length (content : List UInt8) (position more : Nat) :
    content.drop (min position content.length + more) = content.drop (position + more) := by
  by_cases within : position ≤ content.length
  · rw [Nat.min_eq_left within]
  · rw [List.drop_eq_nil_of_le (by omega), List.drop_eq_nil_of_le (by omega)]

/-- The loop keeps its three positions together. -/
theorem loopInvariant_aligned (content : List UInt8) (room start : Nat) :
    LoopInvariant room (Reading content room start) (Read content room start) where
  copy reader read chunk reading inside left rest := by
    have taken : reader.chunk.availableBytes.take (room - read.length) <+:
        content.drop reader.currentOffset := (List.take_prefix _ _).trans reading.aligned.ahead
    have position := reading.position
    have inContent := taken.length_le
    rw [List.length_drop] at inContent
    have offset := reading.aligned.offset
    constructor
    · refine ⟨reading.aligned.cuts, reading.aligned.size, by dsimp only; omega, ?_⟩
      dsimp only
      rw [rest]
      exact drop_isPrefix_drop reading.aligned.ahead _
    · rw [List.length_append]
      dsimp only
      omega
    · apply append_isPrefix_drop reading.bytes
      rwa [position]
    · rw [List.length_append, List.length_take]
      have fits := inside.2
      omega
  refill reader read nextChunk reading inside copied answer some := by
    obtain ⟨piece, same, ahead, _⟩ := reading.aligned.cuts reader.calls reader.currentOffset
    rw [answer] at same
    cases same
    exact ⟨⟨reading.aligned.cuts, reading.aligned.size, reading.aligned.offset, ahead⟩,
      reading.position, reading.bytes, reading.fits⟩
  full reader read reading outside := by
    have position := reading.position
    have size := reading.aligned.size
    have offset := reading.aligned.offset
    have fits := reading.fits
    have length := reading.bytes.length_le
    rw [List.length_drop] at length
    have whole : read.length = room ∨ reader.currentOffset = content.length := by
      by_cases more : read.length < room
      · right
        have past := not_and.mp outside
        omega
      · left
        omega
    refine ⟨reading.aligned, congrArg Except.ok ?_, by omega⟩
    rw [List.prefix_iff_eq_take.mp reading.bytes, List.take_eq_take_iff, List.length_drop]
    omega
  dry reader read reading inside copied answer := by
    obtain ⟨piece, same, _, some⟩ := reading.aligned.cuts reader.calls reader.currentOffset
    rw [answer] at same
    cases same
    exact absurd rfl (some (reading.aligned.size ▸ inside.1))
  failed reader read error reading inside copied answer := by
    obtain ⟨piece, same, _⟩ := reading.aligned.cuts reader.calls reader.currentOffset
    rw [answer] at same
    cases same

/-- A call reads the next bytes of the content. -/
theorem Aligned.readTo (aligned : Aligned content reader) (room : Nat) :
    Read content room reader.currentOffset (reader.readTo room).1 (reader.readTo room).2 :=
  (loopInvariant_aligned content room reader.currentOffset).readTo reader
    ⟨aligned, rfl, List.nil_prefix, Nat.zero_le room⟩

/-- A reader of the whole content starts aligned. -/
theorem aligned_openFile {handle : ReadChunk} (cuts : Cuts handle content) :
    ∃ reader, openFile handle content.length = .ok reader ∧ Aligned content reader ∧
      reader.currentOffset = 0 := by
  obtain ⟨piece, answer, ahead, _⟩ := cuts 0 0
  exact ⟨⟨handle, 1, content.length, 0, FileChunk.new piece⟩, by rw [openFile, answer],
    ⟨cuts, rfl, Nat.zero_le _, ahead⟩, rfl⟩

/-- These are the results of calls of `read_to` with one buffer after the other. -/
def readAll : FileReader → (rooms : List Nat) → List (Except IoError (List UInt8))
  | _, [] => []
  | reader, room :: rest =>
      (reader.readTo room).1 :: (reader.readTo room).2.readAll rest

@[simp] theorem readAll_length (reader : FileReader) (rooms : List Nat) :
    (reader.readAll rooms).length = rooms.length := by
  induction rooms generalizing reader with
  | nil => rfl
  | cons room rest ih => rw [readAll, List.length_cons, List.length_cons, ih]

/-- These are the bytes that a caller gets of a result. -/
def bytesOf : Except IoError (List UInt8) → List UInt8
  | .ok bytes => bytes
  | .error _ => []

/-- The i-th call continues where the buffers before it end. -/
theorem Aligned.readAll_getElem (aligned : Aligned content reader) (rooms : List Nat) (index : Nat)
    (room : Nat) (asked : rooms[index]? = some room) :
    (reader.readAll rooms)[index]? =
      some (.ok ((content.drop (reader.currentOffset + (rooms.take index).sum)).take room)) := by
  induction rooms generalizing reader index with
  | nil => cases asked
  | cons first rest ih =>
      have read := aligned.readTo first
      cases index with
      | zero =>
          cases asked
          simp [readAll, read.bytes]
      | succ index =>
          rw [readAll, List.getElem?_cons_succ, ih read.aligned index asked, read.position,
            drop_min_length, List.take_succ_cons, List.sum_cons, Nat.add_assoc]

/-- The calls together give a prefix of the content. -/
theorem Aligned.readAll_flatMap (aligned : Aligned content reader) (rooms : List Nat) :
    (reader.readAll rooms).flatMap bytesOf =
      (content.drop reader.currentOffset).take rooms.sum := by
  induction rooms generalizing reader with
  | nil => simp [readAll]
  | cons first rest ih =>
      have read := aligned.readTo first
      rw [readAll, List.flatMap_cons, ih read.aligned, read.bytes, read.position, bytesOf,
        List.sum_cons, List.take_add, List.drop_drop, ← Nat.add_zero (min _ _), drop_min_length,
        Nat.add_zero]

/-- Every call of a reader that was opened with the size of the content returns the next bytes of
the content, as many as are asked for while so many are left. All calls together give the content,
and the loop of a call ends within two passes for every byte of its buffer and two more. -/
theorem chunkedReads_exact (content : List UInt8) (handle : ReadChunk)
    (cuts : Cuts handle content) :
    (∃ reader, openFile handle content.length = .ok reader ∧
      ∀ rooms : List Nat,
        (reader.readAll rooms).length = rooms.length ∧
        (∀ index room, rooms[index]? = some room → ∃ bytes,
          (reader.readAll rooms)[index]? = some (.ok bytes) ∧
          bytes = (content.drop (rooms.take index).sum).take room ∧
          bytes.length = min room (content.length - (rooms.take index).sum) ∧
          (bytes.length < room → content.length ≤ (rooms.take (index + 1)).sum)) ∧
        (reader.readAll rooms).flatMap bytesOf = content.take rooms.sum ∧
        (content.length ≤ rooms.sum → (reader.readAll rooms).flatMap bytesOf = content)) ∧
    ∀ (reader : FileReader) (room : Nat), (readLoop room (2 * room + 2) reader []).isSome := by
  obtain ⟨reader, opened, aligned, start⟩ := aligned_openFile cuts
  refine ⟨⟨reader, opened, ?_⟩, ?_⟩
  · intro rooms
    have together := aligned.readAll_flatMap rooms
    rw [start, List.drop_zero] at together
    refine ⟨readAll_length reader rooms, ?_, together, ?_⟩
    · intro index room asked
      have read := aligned.readAll_getElem rooms index room asked
      rw [start, Nat.zero_add] at read
      have length : ((content.drop (rooms.take index).sum).take room).length =
          min room (content.length - (rooms.take index).sum) := by
        rw [List.length_take, List.length_drop]
      refine ⟨_, read, rfl, length, ?_⟩
      intro short
      have next : (rooms.take (index + 1)).sum = (rooms.take index).sum + room := by
        rw [List.take_add_one, asked, Option.toList_some, List.sum_append, List.sum_singleton]
      omega
    · intro enough
      rw [together, List.take_of_length_le enough]
  · intro reader room
    exact readLoop_ends room _ reader [] (reader.passesLeft_le room)

/-- Five bytes in pieces of one and two bytes fill two buffers of three bytes. -/
theorem chunkedReads_exact_five :
    ∃ reader, openFile (cutAt [1, 2, 3, 4, 5] (· % 2)) 5 = .ok reader ∧
      (reader.readAll [3, 0, 3]).flatMap bytesOf = [1, 2, 3, 4, 5] := by
  obtain ⟨⟨reader, opened, exact⟩, _⟩ :=
    chunkedReads_exact [1, 2, 3, 4, 5] _ (cutAt_cuts [1, 2, 3, 4, 5] (· % 2))
  exact ⟨reader, opened, (exact [3, 0, 3]).2.2.2 (by decide)⟩

end Rtftp.FileReader

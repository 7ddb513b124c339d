import Rtftp.Proof.Files.Chunks
import Rtftp.Proof.Transfer.Tracking

namespace Rtftp.FileReader
open Library

/-- An error gives no bytes. -/
def replyLength : Except String (List UInt8) → Nat
  | .ok bytes => bytes.length
  | .error _ => 0

/-- Every call of `read_chunk` continues where the answers before it end. -/
def fetchOffset (handle : ReadChunk) : (call : Nat) → Nat
  | 0 => 0
  | call + 1 => fetchOffset handle call + replyLength (handle call (fetchOffset handle call))

/-- No answer to a call before the announced size reaches past it. -/
def WithinSize (handle : ReadChunk) (fileSize : Nat) : Prop :=
  ∀ call, fetchOffset handle call < fileSize → fetchOffset handle (call + 1) ≤ fileSize

/-- The offset and the bytes that wait in the chunk make up what was fetched. -/
structure Fetched (handle : ReadChunk) (fileSize : Nat) (reader : FileReader) : Prop where
  source : reader.handle = handle
  size : reader.fileSize = fileSize
  offset : reader.currentOffset + reader.chunk.availableBytes.length =
    fetchOffset handle reader.calls

/-- The offset and every chunk before the announced size end within it. -/
structure Bounded (handle : ReadChunk) (fileSize : Nat) (reader : FileReader) : Prop
    extends Fetched handle fileSize reader where
  within : reader.currentOffset ≤ fileSize
  ahead : reader.currentOffset < fileSize → fetchOffset handle reader.calls ≤ fileSize

variable {handle : ReadChunk} {fileSize : Nat} {reader : FileReader}

theorem fetched_openFile (opened : openFile handle fileSize = .ok reader) :
    Fetched handle fileSize reader ∧ reader.calls = 1 ∧ reader.currentOffset = 0 := by
  unfold openFile at opened
  split at opened
  · next firstChunk answer =>
      cases opened
      refine ⟨⟨rfl, rfl, ?_⟩, rfl, rfl⟩
      dsimp only
      rw [FileChunk.availableBytes_new, fetchOffset, fetchOffset, answer, replyLength]
  · cases opened

/-- A call that gives nothing leaves everything but the number of the calls. -/
theorem Fetched.nothing (fetched : Fetched handle fileSize reader)
    (copied : reader.chunk.availableBytes = [])
    (nothing : replyLength (reader.handle reader.calls reader.currentOffset) = 0) :
    fetchOffset handle (reader.calls + 1) = fetchOffset handle reader.calls ∧
      Fetched handle fileSize { reader with calls := reader.calls + 1 } := by
  have offset := fetched.offset
  rw [copied, List.length_nil, Nat.add_zero] at offset
  rw [fetched.source, offset] at nothing
  have same : fetchOffset handle (reader.calls + 1) = fetchOffset handle reader.calls := by
    rw [fetchOffset, nothing, Nat.add_zero]
  exact ⟨same, fetched.source, fetched.size, by dsimp only; rw [same, fetched.offset]⟩

/-- A new chunk begins at the offset. -/
theorem Fetched.refill (fetched : Fetched handle fileSize reader)
    (copied : reader.chunk.availableBytes = []) {nextChunk : List UInt8}
    (answer : reader.handle reader.calls reader.currentOffset = .ok nextChunk) :
    Fetched handle fileSize
      { reader with calls := reader.calls + 1, chunk := FileChunk.new nextChunk } := by
  have offset := fetched.offset
  rw [copied, List.length_nil, Nat.add_zero] at offset
  refine ⟨fetched.source, fetched.size, ?_⟩
  dsimp only
  rw [FileChunk.availableBytes_new, fetchOffset, ← offset, ← fetched.source, answer, replyLength]

/-- A copy moves bytes of the chunk before the offset. -/
theorem Fetched.copy (fetched : Fetched handle fileSize reader) {chunk : FileChunk} {count : Nat}
    (rest : chunk.availableBytes = reader.chunk.availableBytes.drop count) :
    Fetched handle fileSize { reader with
      chunk := chunk
      currentOffset := reader.currentOffset +
        (reader.chunk.availableBytes.take count).length } := by
  refine ⟨fetched.source, fetched.size, ?_⟩
  have offset := fetched.offset
  dsimp only
  rw [rest, ← offset, List.length_take, List.length_drop]
  omega

/-- The loop keeps within the announced size when the answers do. -/
theorem loopInvariant_bounded (within : WithinSize handle fileSize) (room start : Nat) :
    LoopInvariant room
      (fun reader read => Bounded handle fileSize reader ∧
        start + read.length = reader.currentOffset)
      (fun outcome reader => Bounded handle fileSize reader ∧
        start + (bytesOf outcome).length ≤ reader.currentOffset) where
  copy reader read chunk holds inside left rest := by
    obtain ⟨bounded, position⟩ := holds
    have before := inside.1
    rw [bounded.size] at before
    have ahead := bounded.ahead before
    have offset := bounded.offset
    have taken := List.length_take_le' (room - read.length) reader.chunk.availableBytes
    refine ⟨⟨bounded.toFetched.copy rest, ?_, ?_⟩, ?_⟩
    · dsimp only
      omega
    · intro _
      exact ahead
    · dsimp only
      rw [List.length_append]
      omega
  refill reader read nextChunk holds inside copied answer some := by
    obtain ⟨bounded, position⟩ := holds
    have before := inside.1
    rw [bounded.size] at before
    have offset := bounded.offset
    rw [copied, List.length_nil, Nat.add_zero] at offset
    refine ⟨⟨bounded.toFetched.refill copied answer, bounded.within, ?_⟩, position⟩
    intro _
    exact within reader.calls (offset ▸ before)
  full reader read holds outside := by
    obtain ⟨bounded, position⟩ := holds
    exact ⟨bounded, Nat.le_of_eq position⟩
  dry reader read holds inside copied answer := by
    obtain ⟨bounded, position⟩ := holds
    obtain ⟨same, fetched⟩ := bounded.toFetched.nothing copied (by rw [answer]; rfl)
    refine ⟨⟨fetched, bounded.within, ?_⟩, Nat.le_of_eq position⟩
    intro before
    dsimp only
    rw [same]
    exact bounded.ahead before
  failed reader read error holds inside copied answer := by
    obtain ⟨bounded, position⟩ := holds
    obtain ⟨same, fetched⟩ := bounded.toFetched.nothing copied (by rw [answer]; rfl)
    refine ⟨⟨fetched, bounded.within, ?_⟩, ?_⟩
    · intro before
      dsimp only
      rw [same]
      exact bounded.ahead before
    · dsimp only [bytesOf, List.length_nil]
      omega

/-- A call keeps within the announced size. -/
theorem Bounded.readTo (bounded : Bounded handle fileSize reader)
    (within : WithinSize handle fileSize) (room : Nat) :
    Bounded handle fileSize (reader.readTo room).2 ∧
      reader.currentOffset + (bytesOf (reader.readTo room).1).length ≤
        (reader.readTo room).2.currentOffset :=
  (loopInvariant_bounded within room reader.currentOffset).readTo reader ⟨bounded, rfl⟩

/-- All calls together keep within the announced size. -/
theorem Bounded.readAll (bounded : Bounded handle fileSize reader)
    (within : WithinSize handle fileSize) (rooms : List Nat) :
    reader.currentOffset + ((reader.readAll rooms).flatMap bytesOf).length ≤ fileSize := by
  induction rooms generalizing reader with
  | nil => exact bounded.within
  | cons room rest ih =>
      obtain ⟨next, moved⟩ := bounded.readTo within room
      have later := ih next
      rw [FileReader.readAll, List.flatMap_cons, List.length_append]
      omega

/-- A reader starts within the announced size. -/
theorem bounded_openFile (within : WithinSize handle fileSize)
    (opened : openFile handle fileSize = .ok reader) : Bounded handle fileSize reader := by
  obtain ⟨fetched, calls, start⟩ := fetched_openFile opened
  refine ⟨fetched, by omega, ?_⟩
  intro before
  rw [calls]
  exact within 0 (by rw [fetchOffset]; omega)

/-- A result stands after fewer passes only if it stands after more. -/
theorem readLoop_more {room passes : Nat} {read : List UInt8}
    {result : Except IoError (List UInt8) × FileReader}
    (ended : readLoop room passes reader read = some result) (more : Nat) :
    readLoop room (passes + more) reader read = some result := by
  induction passes generalizing reader read with
  | zero => cases ended
  | succ passes ih =>
      rw [Nat.succ_add, readLoop]
      rw [readLoop] at ended
      split at ended
      · exact ended
      · exact ih ended

/-- A call gives the result of its loop. -/
theorem readTo_eq {room : Nat} {result : Except IoError (List UInt8) × FileReader} (passes : Nat)
    (few : passes ≤ 2 * room + 2) (ended : readLoop room passes reader [] = some result) :
    reader.readTo room = result := by
  obtain ⟨more, total⟩ := Nat.exists_eq_add_of_le few
  have same := readLoop_more ended more
  rw [← total] at same
  exact Option.get_of_eq_some _ same

/-- All that was fetched with the first calls has been copied. -/
structure Drained (handle : ReadChunk) (fileSize call : Nat) (reader : FileReader) : Prop
    extends Fetched handle fileSize reader where
  calls : reader.calls = call
  empty : reader.chunk.availableBytes = []

/-- A buffer of the length of the chunk takes it whole. -/
theorem Fetched.readLoop_chunk (fetched : Fetched handle fileSize reader)
    (before : reader.currentOffset < fileSize) (left : reader.chunk.availableBytes ≠ []) :
    ∃ next, readLoop reader.chunk.availableBytes.length 2 reader [] =
        some (.ok reader.chunk.availableBytes, next) ∧
      Drained handle fileSize reader.calls next := by
  have inside : reader.Inside reader.chunk.availableBytes.length [] :=
    ⟨fetched.size ▸ before, List.length_pos_iff.mpr left⟩
  obtain ⟨chunk, rest, copied⟩ := pass_copy inside left
  have drained := fetched.copy rest
  rw [List.length_nil, Nat.sub_zero, List.take_length, List.nil_append] at copied
  rw [List.length_nil, Nat.sub_zero, List.take_length] at drained
  rw [List.length_nil, Nat.sub_zero, List.drop_length] at rest
  refine ⟨_, ?_, drained, rfl, rest⟩
  rw [readLoop, copied]
  dsimp only
  rw [readLoop, pass_outside]
  exact fun more => Nat.lt_irrefl _ more.2

/-- One more call drains one more answer. -/
theorem Drained.next {call : Nat} (drained : Drained handle fileSize call reader)
    (before : fetchOffset handle call < fileSize) :
    ∃ room, Drained handle fileSize (call + 1) (reader.readTo room).2 ∧
      fetchOffset handle call + (bytesOf (reader.readTo room).1).length =
        fetchOffset handle (call + 1) := by
  obtain ⟨fetched, rfl, empty⟩ := drained
  have offset := fetched.offset
  rw [empty, List.length_nil, Nat.add_zero] at offset
  rw [← offset] at before
  have inside : reader.Inside 1 [] := ⟨fetched.size ▸ before, Nat.zero_lt_one⟩
  have passed := pass_refill inside empty
  cases answer : reader.handle reader.calls reader.currentOffset with
  | error error =>
      rw [answer] at passed
      obtain ⟨same, next⟩ := fetched.nothing empty (by rw [answer]; rfl)
      have call : reader.readTo 1 =
          (.error ⟨.other, error⟩, { reader with calls := reader.calls + 1 }) := by
        apply readTo_eq 1 (by decide)
        rw [readLoop, passed]
      exact ⟨1, by rw [call]; exact ⟨next, rfl, empty⟩, by rw [call, same]; rfl⟩
  | ok nextChunk =>
      by_cases nothing : nextChunk = []
      · subst nextChunk
        rw [answer] at passed
        obtain ⟨same, next⟩ := fetched.nothing empty (by rw [answer]; rfl)
        have call : reader.readTo 1 = (.ok [], { reader with calls := reader.calls + 1 }) := by
          apply readTo_eq 1 (by decide)
          rw [readLoop, passed]
          rfl
        exact ⟨1, by rw [call]; exact ⟨next, rfl, empty⟩, by rw [call, same]; rfl⟩
      · have refilled := fetched.refill empty answer
        have positive := List.length_pos_iff.mpr nothing
        obtain ⟨last, ended, drained⟩ := refilled.readLoop_chunk before nothing
        have again : reader.pass nextChunk.length [] = _ :=
          pass_refill ⟨fetched.size ▸ before, positive⟩ empty
        rw [answer] at again
        have call : reader.readTo nextChunk.length = (.ok nextChunk, last) := by
          apply readTo_eq 3 (by omega)
          rw [readLoop, again]
          dsimp only
          rw [if_neg nothing]
          exact ended
        refine ⟨nextChunk.length, by rw [call]; exact drained, ?_⟩
        rw [call, fetchOffset, ← offset, ← fetched.source, answer]
        rfl

/-- This is the reader after calls with one buffer after the other. -/
def readerAfter (reader : FileReader) (rooms : List Nat) : FileReader :=
  rooms.foldl (fun reader room => (reader.readTo room).2) reader

theorem readAll_append (reader : FileReader) (rooms more : List Nat) :
    reader.readAll (rooms ++ more) =
      reader.readAll rooms ++ (reader.readerAfter rooms).readAll more := by
  induction rooms generalizing reader with
  | nil => rfl
  | cons room rest ih =>
      rw [List.cons_append, readAll, readAll, ih, List.cons_append]
      rfl

theorem fetchOffset_mono (handle : ReadChunk) (call : Nat) :
    fetchOffset handle call ≤ fetchOffset handle (call + 1) := Nat.le_add_right _ _

/-- Some calls take all that was fetched and nothing is lost. -/
theorem drained_reached (opened : openFile handle fileSize = .ok reader) (call : Nat)
    (before : fetchOffset handle call < fileSize) :
    ∃ rooms, Drained handle fileSize (call + 1) (reader.readerAfter rooms) ∧
      ((reader.readAll rooms).flatMap bytesOf).length = fetchOffset handle (call + 1) := by
  induction call with
  | zero =>
      obtain ⟨fetched, calls, start⟩ := fetched_openFile opened
      have first := fetched.offset
      rw [start, Nat.zero_add, calls] at first
      by_cases empty : reader.chunk.availableBytes = []
      · rw [empty] at first
        exact ⟨[], ⟨fetched, calls, empty⟩, first⟩
      · obtain ⟨next, ended, drained⟩ := fetched.readLoop_chunk (start ▸ before) empty
        have call := readTo_eq 2 (by omega) ended
        refine ⟨[reader.chunk.availableBytes.length], ?_, ?_⟩
        · rw [readerAfter, List.foldl_cons, List.foldl_nil, call]
          rwa [calls] at drained
        · rw [readAll, readAll, call, List.flatMap_singleton]
          exact first
  | succ call ih =>
      have earlier := fetchOffset_mono handle call
      obtain ⟨rooms, drained, total⟩ := ih (by omega)
      obtain ⟨room, next, added⟩ := drained.next before
      refine ⟨rooms ++ [room], ?_, ?_⟩
      · rw [readerAfter, List.foldl_append, List.foldl_cons, List.foldl_nil]
        exact next
      · rw [readAll_append, List.flatMap_append, List.length_append, total, readAll, readAll,
          List.flatMap_singleton]
        exact added

/-- A file after some reads is within the announced size, and so are its blocks. -/
theorem Bounded.fileAfter (bounded : Bounded handle fileSize reader)
    (within : WithinSize handle fileSize) (size count : Nat) :
    Bounded handle fileSize (fileAfter reader size count) ∧
      reader.currentOffset + ((List.range count).map fun index =>
        (payload reader size (index + 1)).length).sum ≤
          (Rtftp.fileAfter reader size count).currentOffset := by
  induction count with
  | zero => exact ⟨bounded, Nat.le_refl _⟩
  | succ count ih =>
      obtain ⟨earlier, moved⟩ := ih
      obtain ⟨next, more⟩ := earlier.readTo within size
      rw [List.range_succ, List.map_append, List.sum_append, List.map_singleton, List.sum_singleton]
      cases call : (Rtftp.fileAfter reader size count).readTo size with
      | mk outcome rest =>
          rw [call] at next more
          cases outcome with
          | ok bytes =>
              have read := readTo_ok call
              rw [fileAfter_succ read, payload_succ read]
              exact ⟨next, by dsimp only [bytesOf] at more; omega⟩
          | error error =>
              rw [Rtftp.fileAfter, payload, Nat.add_sub_cancel, readTo_error call]
              exact ⟨earlier, moved⟩

/-- The calls of a reader give at most its announced size, whatever the buffers are, exactly when
no chunk that it asks for before the announced size reaches past it. Then no transfer of the file
counts more bytes. -/
theorem announcedSize_kept_iff (handle : ReadChunk) (fileSize : Nat) (reader : FileReader)
    (opened : openFile handle fileSize = .ok reader) :
    ((∀ rooms, ((reader.readAll rooms).flatMap bytesOf).length ≤ fileSize) ↔
      WithinSize handle fileSize) ∧
    (WithinSize handle fileSize → ∀ window verdicts sending,
      Reach PeerHandler.Sending.resume (fun _ _ => True)
        (PeerHandler.Sending.start reader window verdicts) sending →
      sending.transfer.bytesSent ≤ fileSize) := by
  refine ⟨⟨?_, ?_⟩, ?_⟩
  · intro kept call before
    obtain ⟨rooms, _, total⟩ := drained_reached opened call before
    rw [← total]
    exact kept rooms
  · intro within rooms
    have kept := (bounded_openFile within opened).readAll within rooms
    omega
  · intro within window verdicts sending reached
    have tracked := PeerHandler.tracked_of_reach reader window verdicts reached
    have bounded := bounded_openFile within opened
    obtain ⟨after, moved⟩ := bounded.fileAfter within sending.transfer.window.blockSize.toNat
      sending.transfer.blocksRead
    have kept := after.within
    rw [tracked.bytesSent]
    omega

/-- A file of one byte that has grown to three keeps its announced size no more. -/
theorem announcedSize_exceeded :
    ∃ reader, openFile (fun _ offset => .ok ([1, 2, 3].drop offset)) 1 = .ok reader ∧
      ¬ ((reader.readAll [8]).flatMap bytesOf).length ≤ 1 :=
  ⟨⟨_, 1, 1, 0, FileChunk.new [1, 2, 3]⟩, rfl, by decide⟩

/-- A file that does not change keeps the size of its content. -/
theorem Cuts.withinSize {content : List UInt8} (cuts : Cuts handle content) :
    WithinSize handle content.length := by
  intro call before
  obtain ⟨piece, answer, ahead, _⟩ := cuts call (fetchOffset handle call)
  have fits := ahead.length_le
  rw [List.length_drop] at fits
  rw [fetchOffset, answer, replyLength]
  omega

/-- A file of five bytes in pieces of one and two bytes keeps its announced size. -/
theorem announcedSize_kept_five :
    ∃ reader, openFile (cutAt [1, 2, 3, 4, 5] (· % 2)) 5 = .ok reader ∧
      ∀ rooms, ((reader.readAll rooms).flatMap bytesOf).length ≤ 5 := by
  refine ⟨⟨cutAt [1, 2, 3, 4, 5] (· % 2), 1, 5, 0, FileChunk.new [1]⟩, rfl, ?_⟩
  apply (announcedSize_kept_iff (cutAt [1, 2, 3, 4, 5] (· % 2)) 5 _ rfl).1.mpr
  exact (cutAt_cuts [1, 2, 3, 4, 5] (· % 2)).withinSize

end Rtftp.FileReader

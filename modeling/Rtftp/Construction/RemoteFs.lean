import Rtftp.Construction.OpenedFile

namespace Rtftp

/-- The bytes of a chunk before its offset were copied. -/
structure FileChunk where
  buffer : List UInt8
  offset : Nat
  within : offset ≤ buffer.length
  deriving Repr

namespace FileChunk

def new (buffer : List UInt8) : FileChunk := ⟨buffer, 0, Nat.zero_le _⟩

def availableBytes (chunk : FileChunk) : List UInt8 := chunk.buffer.drop chunk.offset

@[simp] theorem availableBytes_new (buffer : List UInt8) : (new buffer).availableBytes = buffer := rfl

theorem availableBytes_length (chunk : FileChunk) :
    chunk.availableBytes.length = chunk.buffer.length - chunk.offset := List.length_drop

/-- The result is the bytes that were copied into a buffer with `room` bytes. -/
def fill (chunk : FileChunk) (room : Nat) : List UInt8 × FileChunk :=
  if chunk.availableBytes = [] then ([], chunk)
  else if fits : chunk.availableBytes.length ≤ room then
    (chunk.availableBytes, { chunk with
      offset := chunk.offset + chunk.availableBytes.length
      within := by
        have within := chunk.within
        rw [availableBytes_length]
        omega })
  else
    (chunk.availableBytes.take room, { chunk with
      offset := chunk.offset + room
      within := by
        rw [availableBytes_length] at fits
        omega })

/-- A copy takes what fits and leaves the rest. -/
theorem fill_spec (chunk : FileChunk) (room : Nat) :
    (chunk.fill room).1 = chunk.availableBytes.take room ∧
      (chunk.fill room).2.availableBytes = chunk.availableBytes.drop room := by
  unfold fill
  split
  · next empty => simp [empty]
  · split
    · next fits =>
        have emptied : chunk.buffer.drop (chunk.offset + chunk.availableBytes.length) = [] := by
          apply List.drop_eq_nil_of_le
          rw [availableBytes_length]
          omega
        exact ⟨(List.take_of_length_le fits).symm, by rw [List.drop_eq_nil_of_le fits]; exact emptied⟩
    · exact ⟨rfl, List.drop_drop.symm⟩

end FileChunk

/-- The handle answers every `read_chunk` of one path. An answer may depend on the number of the
calls before it and on the offset. A failed call gives the text of its error. -/
abbrev ReadChunk := (call offset : Nat) → Except String (List UInt8)

/-- The ghost `calls` counts the calls of `read_chunk`. -/
structure FileReader where
  handle : ReadChunk
  calls : Nat
  fileSize : Nat
  currentOffset : Nat
  chunk : FileChunk

namespace FileReader

/-- The first chunk is read at once. -/
def openFile (handle : ReadChunk) (fileSize : Nat) : Except String FileReader :=
  match handle 0 0 with
  | .ok firstChunk => .ok ⟨handle, 1, fileSize, 0, FileChunk.new firstChunk⟩
  | .error error => .error error

def bufferNewChunk (reader : FileReader) : Except String Bool × FileReader :=
  match reader.handle reader.calls reader.currentOffset with
  | .error error => (.error error, { reader with calls := reader.calls + 1 })
  | .ok nextChunk =>
      if nextChunk = [] then (.ok false, { reader with calls := reader.calls + 1 })
      else (.ok true,
        { reader with calls := reader.calls + 1, chunk := FileChunk.new nextChunk })

/-- The loop is inside while bytes of the file and of the buffer are left. -/
abbrev Inside (reader : FileReader) (room : Nat) (read : List UInt8) : Prop :=
  reader.currentOffset < reader.fileSize ∧ read.length < room

/-- A pass of the loop goes on with the bytes read so far, or it leaves the loop. -/
inductive Pass where
  | again (reader : FileReader) (read : List UInt8)
  | leave (reader : FileReader) (result : Except IoError (List UInt8))

/-- This is one pass of the loop of `read_to`. -/
def pass (reader : FileReader) (room : Nat) (read : List UInt8) : Pass :=
  if reader.Inside room read then
    let (copied, chunk) := reader.chunk.fill (room - read.length)
    if copied.length = 0 then
      match bufferNewChunk { reader with chunk := chunk } with
      | (.error error, reader) => .leave reader (.error ⟨.other, error⟩)
      | (.ok false, reader) => .leave reader (.ok read)
      | (.ok true, reader) => .again reader read
    else
      .again { reader with
        chunk := chunk
        currentOffset := reader.currentOffset + copied.length } (read ++ copied)
  else .leave reader (.ok read)

/-- A loop that has not ended after so many passes gives no value. -/
def readLoop (room : Nat) : (passes : Nat) → FileReader → (read : List UInt8) →
    Option (Except IoError (List UInt8) × FileReader)
  | 0, _, _ => none
  | passes + 1, reader, read =>
      match reader.pass room read with
      | .leave reader result => some (result, reader)
      | .again reader read => readLoop room passes reader read

section Passes
variable {reader : FileReader} {room : Nat} {read : List UInt8}

/-- The loop leaves when the offset has come to the size or the buffer is full. -/
theorem pass_outside (outside : ¬ reader.Inside room read) :
    reader.pass room read = .leave reader (.ok read) := by
  rw [pass, if_neg outside]

/-- A pass copies from a chunk with bytes left. -/
theorem pass_copy (inside : reader.Inside room read)
    (left : reader.chunk.availableBytes ≠ []) :
    ∃ chunk : FileChunk,
      chunk.availableBytes = reader.chunk.availableBytes.drop (room - read.length) ∧
      reader.pass room read = .again
        { reader with
          chunk := chunk
          currentOffset := reader.currentOffset +
            (reader.chunk.availableBytes.take (room - read.length)).length }
        (read ++ reader.chunk.availableBytes.take (room - read.length)) := by
  obtain ⟨taken, rest⟩ := reader.chunk.fill_spec (room - read.length)
  have some : (reader.chunk.fill (room - read.length)).1.length ≠ 0 := by
    have positive := List.length_pos_iff.mpr left
    rw [taken, List.length_take]
    omega
  refine ⟨_, rest, ?_⟩
  rw [pass, if_pos inside]
  dsimp only
  rw [if_neg some, taken]

/-- A pass asks for the next chunk when the old one has been copied. -/
theorem pass_refill (inside : reader.Inside room read)
    (copied : reader.chunk.availableBytes = []) :
    reader.pass room read =
      match reader.handle reader.calls reader.currentOffset with
      | .error error =>
          .leave { reader with calls := reader.calls + 1 } (.error ⟨.other, error⟩)
      | .ok nextChunk =>
          if nextChunk = [] then .leave { reader with calls := reader.calls + 1 } (.ok read)
          else .again { reader with calls := reader.calls + 1, chunk := FileChunk.new nextChunk }
            read := by
  have nothing : reader.chunk.fill (room - read.length) = ([], reader.chunk) := by
    rw [FileChunk.fill, if_pos copied]
  rw [pass, if_pos inside, nothing]
  dsimp only
  rw [if_pos List.length_nil, bufferNewChunk]
  cases reader.handle reader.calls reader.currentOffset with
  | error error => rfl
  | ok nextChunk =>
      dsimp only
      by_cases empty : nextChunk = []
      · rw [if_pos empty, if_pos empty]
      · rw [if_neg empty, if_neg empty]

end Passes

/-- A chunk that has been copied needs one pass more, which asks for the next one. -/
def passesLeft (reader : FileReader) (room : Nat) (read : List UInt8) : Nat :=
  2 * (room - read.length) + if reader.chunk.availableBytes = [] then 2 else 1

theorem passesLeft_le (reader : FileReader) (room : Nat) :
    reader.passesLeft room [] ≤ 2 * room + 2 := by
  unfold passesLeft
  split <;> simp

/-- The loop ends within the passes that its buffer allows. -/
theorem readLoop_ends (room passes : Nat) (reader : FileReader) (read : List UInt8)
    (enough : reader.passesLeft room read ≤ passes) :
    (readLoop room passes reader read).isSome := by
  induction passes generalizing reader read with
  | zero =>
      unfold passesLeft at enough
      split at enough <;> omega
  | succ passes ih =>
      rw [readLoop]
      by_cases inside : reader.Inside room read
      · by_cases copied : reader.chunk.availableBytes = []
        · rw [pass_refill inside copied]
          rw [passesLeft, if_pos copied] at enough
          cases reader.handle reader.calls reader.currentOffset with
          | error error => rfl
          | ok nextChunk =>
              by_cases empty : nextChunk = []
              · simp only [if_pos empty, Option.isSome_some]
              · simp only [if_neg empty]
                apply ih
                rw [passesLeft, FileChunk.availableBytes_new, if_neg empty]
                omega
        · obtain ⟨chunk, _, copy⟩ := pass_copy inside copied
          have positive := List.length_pos_iff.mpr copied
          rw [copy]
          apply ih
          rw [passesLeft, if_neg copied] at enough
          rw [passesLeft, List.length_append, List.length_take]
          split <;> omega
      · rw [pass_outside inside]
        rfl

/-- Two passes for every byte of the buffer and two more are always enough. -/
def readTo (reader : FileReader) (room : Nat) : Except IoError (List UInt8) × FileReader :=
  (readLoop room (2 * room + 2) reader []).get
    (readLoop_ends room _ reader [] (reader.passesLeft_le room))

def getSize (reader : FileReader) : Except IoError UInt64 × FileReader :=
  (.ok (UInt64.ofNat reader.fileSize), reader)

/-- An invariant of the loop is kept by every pass that goes on, and gives the result of every pass
that leaves. -/
structure LoopInvariant (room : Nat) (holds : FileReader → List UInt8 → Prop)
    (result : Except IoError (List UInt8) → FileReader → Prop) : Prop where
  copy : ∀ (reader : FileReader) (read : List UInt8) (chunk : FileChunk), holds reader read →
    reader.Inside room read → reader.chunk.availableBytes ≠ [] →
    chunk.availableBytes = reader.chunk.availableBytes.drop (room - read.length) →
    holds
      { reader with
        chunk := chunk
        currentOffset := reader.currentOffset +
          (reader.chunk.availableBytes.take (room - read.length)).length }
      (read ++ reader.chunk.availableBytes.take (room - read.length))
  refill : ∀ (reader : FileReader) (read nextChunk : List UInt8), holds reader read →
    reader.Inside room read → reader.chunk.availableBytes = [] →
    reader.handle reader.calls reader.currentOffset = .ok nextChunk → nextChunk ≠ [] →
    holds { reader with calls := reader.calls + 1, chunk := FileChunk.new nextChunk } read
  full : ∀ (reader : FileReader) (read : List UInt8), holds reader read →
    ¬ reader.Inside room read → result (.ok read) reader
  dry : ∀ (reader : FileReader) (read : List UInt8), holds reader read → reader.Inside room read →
    reader.chunk.availableBytes = [] →
    reader.handle reader.calls reader.currentOffset = .ok [] →
    result (.ok read) { reader with calls := reader.calls + 1 }
  failed : ∀ (reader : FileReader) (read : List UInt8) (error : String), holds reader read →
    reader.Inside room read → reader.chunk.availableBytes = [] →
    reader.handle reader.calls reader.currentOffset = .error error →
    result (.error ⟨.other, error⟩) { reader with calls := reader.calls + 1 }

namespace LoopInvariant
variable {room : Nat} {holds : FileReader → List UInt8 → Prop}
  {result : Except IoError (List UInt8) → FileReader → Prop}

/-- What every pass keeps holds until the loop is left. -/
theorem readLoop (invariant : LoopInvariant room holds result) (passes : Nat) (reader : FileReader)
    (read : List UInt8) (started : holds reader read) {outcome : Except IoError (List UInt8)}
    {next : FileReader}
    (ended : FileReader.readLoop room passes reader read = some (outcome, next)) :
    result outcome next := by
  induction passes generalizing reader read with
  | zero => cases ended
  | succ passes ih =>
      rw [FileReader.readLoop] at ended
      by_cases inside : reader.Inside room read
      · by_cases copied : reader.chunk.availableBytes = []
        · rw [pass_refill inside copied] at ended
          cases answer : reader.handle reader.calls reader.currentOffset with
          | error error =>
              simp only [answer, Option.some.injEq, Prod.mk.injEq] at ended
              obtain ⟨rfl, rfl⟩ := ended
              exact invariant.failed reader read error started inside copied answer
          | ok nextChunk =>
              by_cases empty : nextChunk = []
              · subst nextChunk
                simp only [answer, if_true, Option.some.injEq, Prod.mk.injEq] at ended
                obtain ⟨rfl, rfl⟩ := ended
                exact invariant.dry reader read started inside copied answer
              · simp only [answer, if_neg empty] at ended
                exact ih _ _ (invariant.refill reader read nextChunk started inside copied answer empty)
                  ended
        · obtain ⟨chunk, left, passed⟩ := pass_copy inside copied
          rw [passed] at ended
          exact ih _ _ (invariant.copy reader read chunk started inside copied left) ended
      · rw [pass_outside inside] at ended
        simp only [Option.some.injEq, Prod.mk.injEq] at ended
        obtain ⟨rfl, rfl⟩ := ended
        exact invariant.full reader read started inside

/-- A call of `read_to` starts its loop with nothing read. -/
theorem readTo (invariant : LoopInvariant room holds result) (reader : FileReader)
    (started : holds reader []) : result (reader.readTo room).1 (reader.readTo room).2 :=
  invariant.readLoop _ reader [] started (Option.some_get _).symm

end LoopInvariant

/-- The loop never has more bytes than its buffer. -/
theorem loopInvariant_fits (room : Nat) :
    LoopInvariant room (fun _ read => read.length ≤ room)
      (fun outcome _ => ∀ bytes, outcome = .ok bytes → bytes.length ≤ room) where
  copy reader read chunk fits inside left rest := by
    rw [List.length_append, List.length_take]
    omega
  refill reader read nextChunk fits inside copied answer some := fits
  full reader read fits outside bytes same := by
    cases same
    exact fits
  dry reader read fits inside copied answer bytes same := by
    cases same
    exact fits
  failed reader read error fits inside copied answer bytes same := by cases same

/-- A failed read ends a transfer, so that nothing uses the reader that it left. -/
instance : OpenedFile FileReader where
  readTo reader room :=
    match reader.readTo room with
    | (.ok bytes, next) => .ok (bytes, next)
    | (.error error, _) => .error error
  getSize := getSize
  readTo_fits reader room bytes next returned := by
    have fits := (loopInvariant_fits room).readTo reader (Nat.zero_le room)
    split at returned
    · next call =>
        cases returned
        rw [call] at fits
        exact fits bytes rfl
    · cases returned

theorem readTo_ok {reader next : FileReader} {room : Nat} {bytes : List UInt8}
    (call : reader.readTo room = (.ok bytes, next)) :
    OpenedFile.readTo reader room = .ok (bytes, next) := by
  simp only [OpenedFile.readTo, call]

theorem readTo_error {reader next : FileReader} {room : Nat} {error : IoError}
    (call : reader.readTo room = (.error error, next)) :
    OpenedFile.readTo reader room = .error error := by
  simp only [OpenedFile.readTo, call]

end FileReader

end Rtftp

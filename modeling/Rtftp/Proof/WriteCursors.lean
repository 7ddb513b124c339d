import Rtftp.Proof.Cursors

namespace Rtftp
open Library

/-- A call of the write cursor puts a word or a string. -/
inductive Write where
  | ushort (value : UInt16)
  | string (text : String)
  deriving DecidableEq, Repr

/-- A string needs a byte more for its terminator. -/
def Write.size : Write → Nat
  | .ushort _ => 2
  | .string text => (utf8 text).length + 1

/-- This is `buffer[index] = byte`, which panics outside the buffer. -/
def storeAt (buffer : List UInt8) (index : Nat) (byte : UInt8) : Option (List UInt8) :=
  if index < buffer.length then some (buffer.set index byte) else none

/-- This is `buffer[start..stop].copy_from_slice(bytes)`, which panics outside the buffer and when
the lengths differ. -/
def copyAt (buffer : List UInt8) (start stop : Nat) (bytes : List UInt8) : Option (List UInt8) :=
  if start ≤ stop ∧ stop ≤ buffer.length ∧ stop - start = bytes.length then
    some (overwrite buffer start bytes)
  else none

namespace WriteCursor

/-- This is `put_ushort` with its two indices into the buffer. -/
def indexedUshort (cursor : WriteCursor) (value : UInt16) : Outcome BufferError Nat × WriteCursor :=
  let endIndex := cursor.offset + 2
  if cursor.buffer.length < endIndex then (.err ⟨"Too little data left to write u16"⟩, cursor)
  else
    match storeAt cursor.buffer cursor.offset ((value &&& 0xFF00) >>> 8).toUInt8 with
    | none => (.panic, cursor)
    | some buffer =>
        match storeAt buffer (cursor.offset + 1) (value &&& 0xFF).toUInt8 with
        | none => (.panic, { cursor with buffer := buffer })
        | some buffer => (.ok endIndex, ⟨buffer, endIndex⟩)

/-- This is `put_string` with its slice and its index into the buffer. -/
def indexedString (cursor : WriteCursor) (string : String) :
    Outcome BufferError Nat × WriteCursor :=
  let stringSize := (utf8 string).length
  let endIndex := cursor.offset + stringSize + 1
  if cursor.buffer.length < endIndex then
    (.err ⟨s!"Too little data left to write a string {stringSize} bytes size"⟩, cursor)
  else
    match copyAt cursor.buffer cursor.offset (endIndex - 1) (utf8 string) with
    | none => (.panic, cursor)
    | some buffer =>
        match storeAt buffer endIndex 0 with
        | none => (.panic, { cursor with buffer := buffer })
        | some buffer => (.ok endIndex, ⟨buffer, endIndex⟩)

/-- No index of `put_ushort` lies outside the buffer. -/
theorem indexedUshort_eq (cursor : WriteCursor) (value : UInt16) :
    cursor.indexedUshort value = cursor.putUshort value := by
  unfold indexedUshort putUshort
  dsimp only
  split
  · rfl
  · have first : cursor.offset < cursor.buffer.length := by omega
    have second : cursor.offset + 1 < cursor.buffer.length := by omega
    simp only [storeAt, List.length_set, if_pos first, if_pos second]

/-- Only the index of the terminator can lie outside the buffer. -/
theorem indexedString_eq (cursor : WriteCursor) (string : String) :
    cursor.indexedString string = cursor.putString string := by
  unfold indexedString putString
  dsimp only
  split
  · rfl
  · have slice : cursor.offset ≤ cursor.offset + (utf8 string).length ∧
        cursor.offset + (utf8 string).length ≤ cursor.buffer.length ∧
        cursor.offset + (utf8 string).length - cursor.offset = (utf8 string).length := by omega
    simp only [copyAt, Nat.add_sub_cancel, if_pos slice, storeAt]
    by_cases spare : cursor.offset + (utf8 string).length + 1 <
        (overwrite cursor.buffer cursor.offset (utf8 string)).length
    · simp only [if_pos spare]
    · simp only [if_neg spare]

def put (cursor : WriteCursor) : Write → Outcome BufferError Nat × WriteCursor
  | .ushort value => cursor.indexedUshort value
  | .string text => cursor.indexedString text

/-- A call does not panic, fails exactly when its item does not fit, changes nothing when it fails
and changes only the bytes between the two offsets when it succeeds. -/
structure Clean (cursor : WriteCursor) (write : Write) : Prop where
  inside : (cursor.put write).1 ≠ .panic
  failed : (∃ error, (cursor.put write).1 = .err error) ↔
    cursor.buffer.length - cursor.offset < write.size
  unchanged : ∀ error, (cursor.put write).1 = .err error → (cursor.put write).2 = cursor
  span : ∀ offset, (cursor.put write).1 = .ok offset → (cursor.put write).2.offset = offset ∧
    ∀ index, index < cursor.offset ∨ offset ≤ index →
      (cursor.put write).2.buffer[index]? = cursor.buffer[index]?

/-- Every call of the sequence is clean. -/
def AllClean : WriteCursor → List Write → Prop
  | _, [] => True
  | cursor, write :: rest => cursor.Clean write ∧ AllClean (cursor.put write).2 rest

/-- These are the offsets behind the strings that fit. -/
def stringEnds (length : Nat) : (offset : Nat) → List Write → List Nat
  | _, [] => []
  | offset, write :: rest =>
      if length - offset < write.size then stringEnds length offset rest
      else
        match write with
        | .ushort _ => stringEnds length (offset + 2) rest
        | .string text =>
            (offset + (utf8 text).length + 1) ::
              stringEnds length (offset + (utf8 text).length + 1) rest

theorem stringEnds_short {length offset : Nat} {write : Write} (rest : List Write)
    (short : length - offset < write.size) :
    stringEnds length offset (write :: rest) = stringEnds length offset rest :=
  if_pos short

theorem stringEnds_ushort {length offset : Nat} (value : UInt16) (rest : List Write)
    (fits : ¬ length - offset < (Write.ushort value).size) :
    stringEnds length offset (.ushort value :: rest) = stringEnds length (offset + 2) rest := by
  rw [stringEnds, if_neg fits]

theorem stringEnds_string {length offset : Nat} (text : String) (rest : List Write)
    (fits : ¬ length - offset < (Write.string text).size) :
    stringEnds length offset (.string text :: rest) =
      (offset + (utf8 text).length + 1) ::
        stringEnds length (offset + (utf8 text).length + 1) rest := by
  rw [stringEnds, if_neg fits]

/-- A stretch changes no entry before it or behind it. -/
theorem overwrite_getElem?_outside (buffer bytes : List UInt8) {offset index : Nat}
    (outside : index < offset ∨ offset + bytes.length ≤ index) :
    (overwrite buffer offset bytes)[index]? = buffer[index]? := by
  induction bytes generalizing buffer offset with
  | nil => rfl
  | cons byte rest ih =>
      rw [List.length_cons] at outside
      rw [overwrite, ih _ (by omega), List.getElem?_set_ne (by omega)]

/-- A call whose item does not fit fails and changes nothing. A call whose item fits moves the
offset behind it, or panics. -/
theorem put_cases (cursor : WriteCursor) (write : Write) :
    (cursor.buffer.length - cursor.offset < write.size ∧
      ∃ error, cursor.put write = (.err error, cursor)) ∨
    (write.size ≤ cursor.buffer.length - cursor.offset ∧
      ((cursor.put write).1 = .panic ∨ (cursor.put write).1 = .ok (cursor.offset + write.size) ∧
        (cursor.put write).2.offset = cursor.offset + write.size)) := by
  cases write with
  | ushort value =>
      rw [put, indexedUshort_eq]
      by_cases fits : cursor.offset + 2 ≤ cursor.buffer.length
      · rw [cursor.putUshort_fits value fits]
        exact .inr ⟨by simp only [Write.size]; omega, .inr ⟨rfl, rfl⟩⟩
      · rw [putUshort, if_pos (by omega)]
        exact .inl ⟨by simp only [Write.size]; omega, _, rfl⟩
  | string text =>
      rw [put, indexedString_eq, putString]
      by_cases fits : cursor.offset + (utf8 text).length + 1 ≤ cursor.buffer.length
      · rw [if_neg (by omega)]
        refine .inr ⟨by simp only [Write.size]; omega, ?_⟩
        dsimp only
        split
        · exact .inr ⟨rfl, rfl⟩
        · exact .inl rfl
      · rw [if_pos (by omega)]
        exact .inl ⟨by simp only [Write.size]; omega, _, rfl⟩

/-- A call is clean when it panics nowhere and leaves the bytes outside its span. -/
theorem clean_iff (cursor : WriteCursor) (write : Write) :
    cursor.Clean write ↔ cursor.buffer.length - cursor.offset < write.size ∨
      (cursor.put write).1 ≠ .panic ∧
        ∀ index, index < cursor.offset ∨ cursor.offset + write.size ≤ index →
          (cursor.put write).2.buffer[index]? = cursor.buffer[index]? := by
  rcases cursor.put_cases write with ⟨short, error, failed⟩ | ⟨fits, panicked | ⟨returned, moved⟩⟩
  · simp only [short, true_or, iff_true]
    constructor
    · simp [failed]
    · simp [failed, short]
    · simp [failed]
    · simp [failed]
  · have long : ¬ cursor.buffer.length - cursor.offset < write.size := by omega
    simp only [long, panicked, ne_eq, not_true_eq_false, false_and, or_false, iff_false]
    intro clean
    exact clean.inside panicked
  · have long : ¬ cursor.buffer.length - cursor.offset < write.size := by omega
    simp only [long, returned, ne_eq, reduceCtorEq, not_false_eq_true, true_and, false_or]
    constructor
    · intro clean
      exact (clean.span _ returned).2
    · intro kept
      constructor
      · simp [returned]
      · simp [returned, fits]
      · simp [returned]
      · intro offset same
        cases returned.symm.trans same
        exact ⟨moved, kept⟩

/-- A word is always put cleanly. -/
theorem clean_ushort (cursor : WriteCursor) (value : UInt16) : cursor.Clean (.ushort value) := by
  rw [clean_iff, put, indexedUshort_eq, Write.size]
  by_cases fits : cursor.offset + 2 ≤ cursor.buffer.length
  · rw [cursor.putUshort_fits value fits]
    refine .inr ⟨by simp, fun index outside => ?_⟩
    exact overwrite_getElem?_outside _ _ outside
  · exact .inl (by omega)

/-- A string that fits is put cleanly exactly when the byte behind its terminator is there and is a
zero already. -/
theorem clean_string_iff (cursor : WriteCursor) (text : String) :
    cursor.Clean (.string text) ↔
      cursor.buffer.length - cursor.offset < (utf8 text).length + 1 ∨
        cursor.buffer[cursor.offset + (utf8 text).length + 1]? = some 0 := by
  rw [clean_iff, put, indexedString_eq, Write.size, ← Nat.add_assoc]
  rcases Nat.lt_trichotomy cursor.buffer.length (cursor.offset + (utf8 text).length + 1) with
    short | exactly | spare
  · have less : cursor.buffer.length - cursor.offset < (utf8 text).length + 1 := by omega
    simp only [less, true_or]
  · have long : ¬ cursor.buffer.length - cursor.offset < (utf8 text).length + 1 := by omega
    have panicked : (cursor.putString text).1 = .panic := by
      rw [putString, if_neg (by omega)]
      dsimp only
      rw [if_neg (by rw [overwrite_length]; omega)]
    simp [long, panicked, ← exactly]
  · have long : ¬ cursor.buffer.length - cursor.offset < (utf8 text).length + 1 := by omega
    rw [cursor.putString_fits text spare]
    simp only [long, ne_eq, reduceCtorEq, not_false_eq_true, true_and, false_or]
    have size : cursor.offset + (utf8 text).length + 1 <
        (overwrite cursor.buffer cursor.offset (utf8 text)).length := by rwa [overwrite_length]
    constructor
    · intro kept
      rw [← kept _ (.inr (Nat.le_refl _)), List.getElem?_set_self size]
    · intro zero index outside
      by_cases last : index = cursor.offset + (utf8 text).length + 1
      · subst last
        rw [List.getElem?_set_self size, zero]
      · rw [List.getElem?_set_ne (by omega)]
        exact overwrite_getElem?_outside _ _ (by omega)

/-- A clean call leaves every byte behind the new offset. -/
theorem Clean.kept_behind {cursor : WriteCursor} {write : Write} (clean : cursor.Clean write)
    {index : Nat} (behind : (cursor.put write).2.offset < index) :
    (cursor.put write).2.buffer[index]? = cursor.buffer[index]? := by
  cases returned : (cursor.put write).1 with
  | ok offset =>
      obtain ⟨moved, kept⟩ := clean.span offset returned
      exact kept index (.inr (by omega))
  | err error => rw [clean.unchanged error returned]
  | panic => exact absurd returned clean.inside

theorem put_length (cursor : WriteCursor) (write : Write) :
    (cursor.put write).2.buffer.length = cursor.buffer.length := by
  cases write with
  | ushort value => rw [put, indexedUshort_eq, putUshort_length]
  | string text => rw [put, indexedString_eq, putString_length]

/-- A clean call moves the offset past its item, or not at all when the item does not fit. -/
theorem Clean.offset_eq {cursor : WriteCursor} {write : Write} (clean : cursor.Clean write) :
    (cursor.put write).2.offset =
      if cursor.buffer.length - cursor.offset < write.size then cursor.offset
      else cursor.offset + write.size := by
  rcases cursor.put_cases write with ⟨short, error, failed⟩ | ⟨fits, panicked | ⟨-, moved⟩⟩
  · rw [if_pos short, failed]
  · exact absurd panicked clean.inside
  · rw [if_neg (by omega), moved]

/-- The calls from here on are judged by the bytes that were in the buffer at the start, because no
clean call has changed a byte behind the offset. -/
theorem allClean_iff (buffer : List UInt8) (writes : List Write) (cursor : WriteCursor)
    (size : cursor.buffer.length = buffer.length)
    (kept : ∀ index, cursor.offset < index → cursor.buffer[index]? = buffer[index]?) :
    AllClean cursor writes ↔
      ∀ index ∈ stringEnds buffer.length cursor.offset writes, buffer[index]? = some 0 := by
  induction writes generalizing cursor with
  | nil => simp [AllClean, stringEnds]
  | cons write rest ih =>
      have later (clean : cursor.Clean write) :
          AllClean (cursor.put write).2 rest ↔
            ∀ index ∈ stringEnds buffer.length (cursor.put write).2.offset rest,
              buffer[index]? = some 0 := by
        refine ih _ (by rw [put_length, size]) fun index behind => ?_
        have advanced : cursor.offset ≤ (cursor.put write).2.offset := by
          rw [clean.offset_eq]
          split
          · exact Nat.le_refl _
          · exact Nat.le_add_right _ _
        rw [clean.kept_behind behind, kept index (by omega)]
      by_cases short : buffer.length - cursor.offset < write.size
      · have clean := (cursor.clean_iff write).mpr (.inl (by rwa [size]))
        rw [AllClean, later clean, clean.offset_eq, size, if_pos short, stringEnds_short rest short]
        simp only [clean, true_and]
      · cases write with
        | ushort value =>
            have clean := cursor.clean_ushort value
            rw [AllClean, later clean, clean.offset_eq, size, if_neg short,
              stringEnds_ushort value rest short, Write.size]
            simp only [clean, true_and]
        | string text =>
            have single : cursor.Clean (.string text) ↔
                buffer[cursor.offset + (utf8 text).length + 1]? = some 0 := by
              rw [clean_string_iff, size, kept _ (by omega)]
              exact or_iff_right short
            rw [AllClean, stringEnds_string text rest short, List.forall_mem_cons, ← single]
            refine and_congr_right fun clean => ?_
            rw [later clean, clean.offset_eq, size, if_neg short, Write.size, Nat.add_assoc]

/-- A sequence of calls is clean exactly when the buffer has a zero byte behind the terminator of
every string that fits. -/
theorem writes_clean_iff (buffer : List UInt8) (writes : List Write) :
    AllClean (.new buffer) writes ↔
      ∀ index ∈ stringEnds buffer.length 0 writes, buffer[index]? = some 0 :=
  allClean_iff buffer writes (.new buffer) rfl fun _ _ => rfl

/-- A string that fits exactly panics instead. -/
theorem exact_fit_not_clean : ¬ AllClean (.new [7, 7]) [.string "a"] := by
  intro clean
  exact clean.1.inside (by decide)

end WriteCursor

end Rtftp

import Rtftp.Construction.Messages
import Rtftp.Proof.Cursors
import Rtftp.Proof.OptionsDatagram

namespace Rtftp
open Library

namespace ReadCursor

/-- These bytes are not read yet. -/
def rest (cursor : ReadCursor) : List UInt8 := cursor.datagram.drop cursor.index

/-- At the end of the datagram there is no string. -/
theorem extractString_end {cursor : ReadCursor} (ended : cursor.rest = []) :
    cursor.extractString = (.error ⟨.unexpectedEof, ""⟩, cursor) := by
  rw [extractString, if_pos (List.drop_eq_nil_iff.mp ended)]

/-- A terminated text is read, and the cursor stands behind it. -/
theorem extractString_text {cursor : ReadCursor} {string : String} {tail : List UInt8}
    (clean : 0 ∉ utf8 string) (split : cursor.rest = utf8 string ++ 0 :: tail) :
    ∃ next, cursor.extractString = (.ok string, next) ∧ next.rest = tail ∧
      next.datagram = cursor.datagram := by
  have more : ¬ cursor.datagram.length ≤ cursor.index := by
    intro ended
    rw [rest, List.drop_eq_nil_of_le ended] at split
    exact absurd split.symm (by simp)
  unfold rest at split
  refine ⟨{ cursor with index := cursor.index + (utf8 string).length + 1 }, ?_, ?_, rfl⟩
  · simp only [extractString, if_neg more, split, findIdx?_nul _ _ clean, List.take_left,
      fromUtf8_utf8]
  · change cursor.datagram.drop (cursor.index + (utf8 string).length + 1) = tail
    rw [Nat.add_assoc, ← List.drop_drop, split, ← List.drop_drop, List.drop_left]
    rfl

/-- The first NUL splits the bytes. -/
theorem split_nul {bytes : List UInt8} {index : Nat}
    (found : bytes.findIdx? (· == 0) = some index) :
    0 ∉ bytes.take index ∧ bytes = bytes.take index ++ 0 :: bytes.drop (index + 1) := by
  obtain ⟨inside, zero, before⟩ := List.findIdx?_eq_some_iff_getElem.mp found
  constructor
  · intro member
    obtain ⟨place, least, same⟩ := List.mem_take_iff_getElem.mp member
    exact before place (by omega) (by rw [same]; rfl)
  · have first : bytes[index] = 0 := by simpa using zero
    rw [← first, ← List.drop_eq_getElem_cons inside, List.take_append_drop]

/-- A string that was read is a terminated text. -/
theorem extractString_ok {cursor next : ReadCursor} {string : String}
    (read : cursor.extractString = (.ok string, next)) :
    0 ∉ utf8 string ∧ cursor.rest = utf8 string ++ 0 :: next.rest ∧
      next.datagram = cursor.datagram := by
  unfold extractString at read
  split at read
  · cases read
  · dsimp only at read
    split at read
    · next index found =>
        split at read
        · next text decoded =>
            cases read
            obtain ⟨clean, split⟩ := split_nul found
            rw [utf8_of_fromUtf8 decoded]
            refine ⟨clean, ?_, rfl⟩
            rw [rest, rest, Nat.add_assoc, ← List.drop_drop]
            exact split
        · cases read
    · cases read

/-- Only the end of the datagram gives an error of this kind. -/
theorem extractString_unexpectedEof {cursor next : ReadCursor} {error : IoError}
    (failed : cursor.extractString = (.error error, next)) :
    error.kind = .unexpectedEof ↔ cursor.rest = [] := by
  rw [rest, List.drop_eq_nil_iff]
  unfold extractString at failed
  split at failed
  · next ended =>
      cases failed
      exact ⟨fun _ => ended, fun _ => rfl⟩
  · next more =>
      dsimp only at failed
      split at failed
      · split at failed
        · cases failed
        · cases failed
          exact ⟨fun kind => (by cases kind), fun ended => absurd ended more⟩
      · cases failed
        exact ⟨fun kind => (by cases kind), fun ended => absurd ended more⟩

theorem extractString_datagram (cursor : ReadCursor) :
    cursor.extractString.2.datagram = cursor.datagram := by
  unfold extractString
  split
  · rfl
  · dsimp only
    split
    · split
      · rfl
      · rfl
    · rfl

/-- A word is the next two bytes. -/
theorem extractUshort_ok {cursor next : ReadCursor} {value : UInt16}
    (read : cursor.extractUshort = (.ok value, next)) :
    cursor.rest = beBytes value ++ next.rest ∧ next.datagram = cursor.datagram := by
  unfold extractUshort at read
  split at read
  · next high low tail bytes =>
      cases read
      refine ⟨?_, rfl⟩
      have word := (fromBeBytes_eq_iff high low _).mp rfl
      rw [word, rest, rest, ← List.drop_drop, bytes]
      rfl
  · cases read

theorem extractUshort_word {cursor : ReadCursor} {value : UInt16} {tail : List UInt8}
    (split : cursor.rest = beBytes value ++ tail) :
    ∃ next, cursor.extractUshort = (.ok value, next) ∧ next.rest = tail ∧
      next.datagram = cursor.datagram := by
  refine ⟨{ cursor with index := cursor.index + 2 }, ?_, ?_, rfl⟩
  · unfold rest at split
    simp only [extractUshort, split, beBytes, List.cons_append, List.nil_append,
      fromBeBytes_beBytes]
  · rw [rest] at split ⊢
    rw [← List.drop_drop, split]
    rfl

end ReadCursor

theorem ReadCursor.extractUshort_datagram (cursor : ReadCursor) :
    cursor.extractUshort.2.datagram = cursor.datagram := by
  unfold extractUshort
  split <;> rfl

/-- No string of the pairs has a NUL. -/
def Clean (pairs : List (String × String)) : Prop :=
  ∀ pair ∈ pairs, 0 ∉ utf8 pair.1 ∧ 0 ∉ utf8 pair.2

/-- These are the options when every pair replaces an earlier one of its name. -/
def collect (options : Table String String) (pairs : List (String × String)) :
    Table String String :=
  pairs.foldl (fun options pair => options.insert pair.1 pair.2) options

namespace ReadRequest

/-- The loop accepts the bytes of pairs. -/
theorem parseOptions_encodeOptions {pairs : List (String × String)} (clean : Clean pairs)
    {cursor : ReadCursor} (whole : cursor.rest = encodeOptions pairs)
    (table : Table String String) : parseOptions cursor table = .ok (collect table pairs) := by
  induction pairs generalizing cursor table with
  | nil =>
      have ended := ReadCursor.extractString_end whole
      rw [parseOptions]
      split
      · next failed =>
          cases ended.symm.trans failed
          rfl
      · next named => cases ended.symm.trans named
  | cons pair pairs ih =>
      obtain ⟨name, value⟩ := pair
      obtain ⟨cleanName, cleanValue⟩ := clean _ List.mem_cons_self
      rw [encodeOptions_cons, encodePair] at whole
      simp only [List.append_assoc, List.cons_append, List.nil_append] at whole
      obtain ⟨middle, named, left, _⟩ := ReadCursor.extractString_text cleanName whole
      obtain ⟨next, valued, behind, _⟩ := ReadCursor.extractString_text cleanValue left
      rw [parseOptions]
      split
      · next failed => cases named.symm.trans failed
      · next read =>
          cases named.symm.trans read
          split
          · next failed => cases valued.symm.trans failed
          · next read =>
              cases valued.symm.trans read
              exact ih (fun pair inside => clean pair (List.mem_cons_of_mem _ inside)) behind _

/-- The loop accepts only the bytes of pairs. -/
theorem encodeOptions_of_parseOptions (cursor : ReadCursor) {table options : Table String String}
    (parsed : parseOptions cursor table = .ok options) :
    ∃ pairs, Clean pairs ∧ cursor.rest = encodeOptions pairs ∧ options = collect table pairs := by
  -- Every pair that is read leaves a shorter rest.
  induction length : cursor.rest.length using Nat.strong_induction_on generalizing cursor table with
  | h length ih =>
      subst length
      rw [parseOptions] at parsed
      split at parsed
      · next error _ failed =>
          split at parsed
          · next kind =>
              cases parsed
              have ended := (ReadCursor.extractString_unexpectedEof failed).mp kind
              exact ⟨[], fun _ inside => absurd inside List.not_mem_nil, ended, rfl⟩
          · cases parsed
      · next name middle named =>
          obtain ⟨cleanName, split, _⟩ := ReadCursor.extractString_ok named
          split at parsed
          · cases parsed
          · next value next valued =>
              obtain ⟨cleanValue, splitValue, _⟩ := ReadCursor.extractString_ok valued
              have shorter : next.rest.length < cursor.rest.length := by
                rw [split, splitValue]
                simp only [List.length_append, List.length_cons]
                omega
              obtain ⟨pairs, clean, later, rfl⟩ := ih _ shorter next parsed rfl
              refine ⟨(name, value) :: pairs, ?_, ?_, rfl⟩
              · intro pair inside
                rcases List.mem_cons.mp inside with rfl | behind
                · exact ⟨cleanName, cleanValue⟩
                · exact clean pair behind
              · rw [split, splitValue, later, encodeOptions_cons, encodePair]
                simp only [List.append_assoc, List.cons_append, List.nil_append]

/-- These are the bytes of a request for a file with some options. -/
def encode (filename : String) (pairs : List (String × String)) : List UInt8 :=
  [0x00, 0x01] ++ utf8 filename ++ [0x00] ++ utf8 "octet" ++ [0x00] ++ encodeOptions pairs

/-- The fields of a request follow each other. -/
theorem encode_eq (filename : String) (pairs : List (String × String)) :
    encode filename pairs = beBytes rrqOpcode ++
      (utf8 filename ++ 0 :: (utf8 octet ++ 0 :: encodeOptions pairs)) := by
  simp only [encode, List.append_assoc, List.cons_append, List.nil_append]
  rfl

/-- The bytes of a request are accepted. -/
theorem parse_encode {filename : String} {pairs : List (String × String)}
    (clean : 0 ∉ utf8 filename) (cleanPairs : Clean pairs) :
    parse (encode filename pairs) = .ok ⟨filename, collect .empty pairs⟩ := by
  have cleanOctet : 0 ∉ utf8 octet := by decide
  have whole : (ReadCursor.new (encode filename pairs)).rest = beBytes rrqOpcode ++
      (utf8 filename ++ 0 :: (utf8 octet ++ 0 :: encodeOptions pairs)) := encode_eq filename pairs
  obtain ⟨first, word, splitWord, _⟩ := ReadCursor.extractUshort_word whole
  obtain ⟨second, named, splitName, _⟩ := ReadCursor.extractString_text clean splitWord
  obtain ⟨third, moded, splitMode, _⟩ := ReadCursor.extractString_text cleanOctet splitName
  have options := parseOptions_encodeOptions cleanPairs splitMode .empty
  simp only [parse, word, named, moded, options, ne_eq, not_true_eq_false, if_false]

/-- Only the bytes of requests are accepted. -/
theorem encode_of_parse {raw : List UInt8} {request : ReadRequest}
    (parsed : parse raw = .ok request) :
    ∃ pairs, 0 ∉ utf8 request.filename ∧ Clean pairs ∧ raw = encode request.filename pairs := by
  rw [parse] at parsed
  split at parsed
  · cases parsed
  · next opcode first word =>
      obtain ⟨splitWord, _⟩ := ReadCursor.extractUshort_ok word
      change raw = _ at splitWord
      split at parsed
      · cases parsed
      · next isRrq =>
          obtain rfl := Decidable.not_not.mp isRrq
          split at parsed
          · cases parsed
          · next filename second named =>
              obtain ⟨clean, splitName, _⟩ := ReadCursor.extractString_ok named
              split at parsed
              · cases parsed
              · next mode third moded =>
                  obtain ⟨_, splitMode, _⟩ := ReadCursor.extractString_ok moded
                  split at parsed
                  · split at parsed <;> cases parsed
                  · next isOctet =>
                      obtain rfl := Decidable.not_not.mp isOctet
                      split at parsed
                      · next options read =>
                          cases parsed
                          obtain ⟨pairs, cleanPairs, splitPairs, _⟩ :=
                            encodeOptions_of_parseOptions third read
                          refine ⟨pairs, clean, cleanPairs, ?_⟩
                          rw [encode_eq, splitWord, splitName, splitMode, splitPairs]
                      · cases parsed

end ReadRequest

/-- The last pair of a name gives its value. -/
theorem collect_get (options : Table String String) (pairs : List (String × String))
    (name : String) :
    (collect options pairs).get name = (pairs.reverse.lookup name).or (options.get name) := by
  induction pairs generalizing options with
  | nil => rfl
  | cons pair rest ih =>
      obtain ⟨key, value⟩ := pair
      change (collect (options.insert key value) rest).get name = _
      rw [ih, Table.get_insert, List.reverse_cons, List.lookup_append, Option.or_assoc]
      congr 1
      rw [List.lookup_cons, List.lookup_nil]
      by_cases same : name = key
      · simp [same]
      · simp [same, beq_false_of_ne same]

section Indexed

/-- This is `extract_ushort` with its two indices into the datagram. -/
def ReadCursor.indexedUshort (cursor : ReadCursor) : Outcome IoError UInt16 × ReadCursor :=
  let endIndex := cursor.index + 2
  if cursor.datagram.length < endIndex then (.err ⟨.unexpectedEof, ""⟩, cursor)
  else
    match cursor.datagram[cursor.index]?, cursor.datagram[cursor.index + 1]? with
    | some high, some low => (.ok (fromBeBytes high low), { cursor with index := endIndex })
    | _, _ => (.panic, cursor)

/-- This is `extract_string` with its two slices of the datagram. -/
def ReadCursor.indexedString (cursor : ReadCursor) : Outcome IoError String × ReadCursor :=
  if cursor.datagram.length ≤ cursor.index then (.err ⟨.unexpectedEof, ""⟩, cursor)
  else
    match slice cursor.datagram cursor.index cursor.datagram.length with
    | none => (.panic, cursor)
    | some rest =>
        match rest.findIdx? (· == 0) with
        | none => (.err ⟨.invalidData, "Null-terminated string is not found"⟩, cursor)
        | some relativeNullIndex =>
            let absoluteNullIndex := cursor.index + relativeNullIndex
            match slice cursor.datagram cursor.index absoluteNullIndex with
            | none => (.panic, cursor)
            | some bytes =>
                match fromUtf8 bytes with
                | some string => (.ok string, { cursor with index := absoluteNullIndex + 1 })
                | none => (.err ⟨.invalidData, "Can't parse UTF-8"⟩, cursor)

/-- No index of `extract_ushort` lies outside the datagram. -/
theorem ReadCursor.indexedUshort_eq (cursor : ReadCursor) :
    cursor.indexedUshort = (.ofExcept cursor.extractUshort.1, cursor.extractUshort.2) := by
  unfold indexedUshort extractUshort
  by_cases short : cursor.datagram.length < cursor.index + 2
  · rw [if_pos short]
    split
    · next high low tail bytes =>
        have length := congrArg List.length bytes
        simp only [List.length_drop, List.length_cons] at length
        omega
    · rfl
  · have first := List.drop_eq_getElem_cons (show cursor.index < cursor.datagram.length by omega)
    have second := List.drop_eq_getElem_cons
      (show cursor.index + 1 < cursor.datagram.length by omega)
    rw [if_neg short, first, second, List.getElem?_eq_getElem (by omega),
      List.getElem?_eq_getElem (by omega)]
    rfl

/-- No slice of `extract_string` lies outside the datagram. -/
theorem ReadCursor.indexedString_eq (cursor : ReadCursor) :
    cursor.indexedString = (.ofExcept cursor.extractString.1, cursor.extractString.2) := by
  unfold indexedString extractString
  by_cases ended : cursor.datagram.length ≤ cursor.index
  · rw [if_pos ended, if_pos ended]
    rfl
  · have whole : slice cursor.datagram cursor.index cursor.datagram.length =
        some (cursor.datagram.drop cursor.index) := by
      rw [slice_inside (by omega) (Nat.le_refl _), ← List.length_drop, List.take_length]
    rw [if_neg ended, if_neg ended, whole]
    dsimp only
    cases found : (cursor.datagram.drop cursor.index).findIdx? (· == 0) with
    | none => rfl
    | some place =>
        obtain ⟨inside, _⟩ := List.findIdx?_eq_some_iff_getElem.mp found
        rw [List.length_drop] at inside
        have text : slice cursor.datagram cursor.index (cursor.index + place) =
            some ((cursor.datagram.drop cursor.index).take place) := by
          rw [slice_inside (by omega) (by omega), Nat.add_sub_cancel_left]
        dsimp only
        rw [text]
        dsimp only
        cases fromUtf8 ((cursor.datagram.drop cursor.index).take place) with
        | none => rfl
        | some string => rfl

end Indexed

/-- The parser accepts exactly the bytes of requests and returns their file name and the last value
of each option. It refuses everything else, and no cursor over the datagram is read outside it. -/
theorem requestGrammar_exact (raw : List UInt8) :
    ((∃ request, ReadRequest.parse raw = .ok request) ↔
      ∃ filename pairs, 0 ∉ utf8 filename ∧ Clean pairs ∧
        raw = ReadRequest.encode filename pairs) ∧
    (∀ filename pairs, 0 ∉ utf8 filename → Clean pairs →
      raw = ReadRequest.encode filename pairs →
      ∃ options, ReadRequest.parse raw = .ok ⟨filename, options⟩ ∧
        ∀ name, options.get name = pairs.reverse.lookup name) ∧
    ((¬ ∃ filename pairs, 0 ∉ utf8 filename ∧ Clean pairs ∧
        raw = ReadRequest.encode filename pairs) →
      ∃ error, ReadRequest.parse raw = .error error) ∧
    (∀ cursor : ReadCursor, cursor.datagram = raw →
      cursor.indexedUshort = (.ofExcept cursor.extractUshort.1, cursor.extractUshort.2) ∧
      cursor.indexedString = (.ofExcept cursor.extractString.1, cursor.extractString.2) ∧
      cursor.extractUshort.2.datagram = raw ∧ cursor.extractString.2.datagram = raw) := by
  have accepted : (∃ request, ReadRequest.parse raw = .ok request) ↔
      ∃ filename pairs, 0 ∉ utf8 filename ∧ Clean pairs ∧
        raw = ReadRequest.encode filename pairs := by
    constructor
    · rintro ⟨request, parsed⟩
      exact ⟨request.filename, ReadRequest.encode_of_parse parsed⟩
    · rintro ⟨filename, pairs, clean, cleanPairs, rfl⟩
      exact ⟨_, ReadRequest.parse_encode clean cleanPairs⟩
  refine ⟨accepted, ?_, ?_, ?_⟩
  · rintro filename pairs clean cleanPairs rfl
    refine ⟨_, ReadRequest.parse_encode clean cleanPairs, ?_⟩
    intro name
    rw [collect_get]
    exact Option.or_none
  · intro refused
    cases parsed : ReadRequest.parse raw with
    | ok request => exact absurd (accepted.mp ⟨request, parsed⟩) refused
    | error error => exact ⟨error, rfl⟩
  · rintro cursor rfl
    exact ⟨cursor.indexedUshort_eq, cursor.indexedString_eq, cursor.extractUshort_datagram,
      cursor.extractString_datagram⟩

end Rtftp

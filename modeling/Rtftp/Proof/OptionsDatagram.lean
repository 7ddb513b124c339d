import Rtftp.Construction.Messages
import Rtftp.Proof.Cursors

namespace Rtftp
open Library

/-- A pair is the name and the value, each with its NUL. -/
def encodePair (key value : String) : List UInt8 := (utf8 key ++ [0]) ++ (utf8 value ++ [0])

def encodeOptions (options : List (String × String)) : List UInt8 :=
  options.flatMap fun option => encodePair option.1 option.2

theorem encodeOptions_cons (key value : String) (rest : List (String × String)) :
    encodeOptions ((key, value) :: rest) = encodePair key value ++ encodeOptions rest := rfl

theorem encodePair_length (key value : String) :
    (encodePair key value).length = (utf8 key).length + 1 + ((utf8 value).length + 1) := by
  simp only [encodePair, List.length_append, List.length_cons, List.length_nil]

/-- The cursor stands behind the written bytes, and the rest of its buffer is zeroed. -/
def WriteCursor.zeroed (written : List UInt8) (room : Nat) : WriteCursor :=
  ⟨written ++ List.replicate room 0, written.length⟩

/-- The byte that the cursor skips in a zeroed buffer is a NUL all the same. -/
theorem WriteCursor.putString_zeroed (written : List UInt8) (room : Nat) (string : String)
    (fits : (utf8 string).length + 1 < room) :
    (zeroed written room).putString string =
      (.ok (written.length + ((utf8 string).length + 1)),
        zeroed (written ++ (utf8 string ++ [0])) (room - ((utf8 string).length + 1))) := by
  have inside : written.length + (utf8 string).length + 1 <
      (written ++ List.replicate room (0 : UInt8)).length := by
    rw [List.length_append, List.length_replicate]
    omega
  have spare : room - (utf8 string).length = room - ((utf8 string).length + 1) + 1 := by omega
  rw [zeroed, putString_fits _ _ inside, overwrite_eq _ _ _ (Nat.le_of_succ_le (Nat.le_of_lt inside))]
  simp only [List.take_left, List.drop_append, List.drop_replicate, List.append_assoc, zeroed]
  rw [List.drop_eq_nil_of_le (by omega), List.nil_append, Nat.add_sub_cancel_left, spare,
    List.set_append_right _ _ (by omega), List.set_append_right _ _ (by omega),
    List.set_replicate_self, List.replicate_succ]
  simp [Nat.add_assoc]

/-- The pairs follow what was written, and the rest of the buffer stays zeroed. -/
theorem OptionsAcknowledge.putOptions_zeroed (options : List (String × String))
    (written : List UInt8) (room : Nat) (fits : (encodeOptions options).length < room) :
    putOptions written.length options (.zeroed written room) =
      (.ok (written ++ encodeOptions options).length,
        .zeroed (written ++ encodeOptions options) (room - (encodeOptions options).length)) := by
  induction options generalizing written room with
  | nil => simp [putOptions, encodeOptions]
  | cons option rest ih =>
      obtain ⟨key, value⟩ := option
      rw [encodeOptions_cons, List.length_append, encodePair_length] at fits
      have named := WriteCursor.putString_zeroed written room key (by omega)
      have valued := WriteCursor.putString_zeroed (written ++ (utf8 key ++ [0]))
        (room - ((utf8 key).length + 1)) value (by omega)
      have later := ih (written ++ encodePair key value)
        (room - (encodePair key value).length) (by rw [encodePair_length]; omega)
      have joined : written ++ (utf8 key ++ [0]) ++ (utf8 value ++ [0]) =
          written ++ encodePair key value := by
        rw [encodePair, List.append_assoc]
      have offset : (written ++ (utf8 key ++ [0])).length + ((utf8 value).length + 1) =
          (written ++ encodePair key value).length := by
        rw [← joined]
        simp only [List.length_append, List.length_singleton]
      have left : room - ((utf8 key).length + 1) - ((utf8 value).length + 1) =
          room - (encodePair key value).length := by
        rw [encodePair_length]
        omega
      have whole : (encodePair key value ++ encodeOptions rest).length =
          (encodePair key value).length + (encodeOptions rest).length := List.length_append
      rw [joined, offset, left] at valued
      simp only [putOptions, named, valued, Outcome.andThen, later, encodeOptions_cons,
        List.append_assoc, whole, Nat.sub_sub]

/-- These are the bytes of an OACK. -/
def OptionsAcknowledge.body (oack : OptionsAcknowledge) : List UInt8 :=
  beBytes oackOpcode ++ encodeOptions oack.options

/-- An OACK with options is serialized whole into a zeroed buffer. -/
theorem OptionsAcknowledge.serialize_zeroed (oack : OptionsAcknowledge) (size : Nat)
    (offered : oack.options ≠ []) (room : oack.body.length < size) :
    oack.serialize (List.replicate size 0) =
      (.ok oack.body.length, oack.body ++ List.replicate (size - oack.body.length) 0) := by
  obtain ⟨options⟩ := oack
  cases options with
  | nil => exact absurd rfl offered
  | cons option rest =>
      have two : (beBytes oackOpcode).length = 2 := rfl
      simp only [body, List.length_append, two] at room ⊢
      have opcode : (WriteCursor.new (List.replicate size 0)).putUshort oackOpcode =
          (.ok 2, .zeroed (beBytes oackOpcode) (size - 2)) := by
        rw [WriteCursor.putUshort_fits _ _ (by
          simp only [WriteCursor.new, List.length_replicate]
          omega)]
        simp only [WriteCursor.new, WriteCursor.zeroed]
        rw [overwrite_eq _ _ _ (by rw [List.length_replicate, two]; omega), List.drop_replicate]
        rfl
      have pairs := putOptions_zeroed (option :: rest) (beBytes oackOpcode) (size - 2) (by omega)
      rw [List.length_append, two, Nat.sub_sub] at pairs
      have filled : ¬ (List.replicate size (0 : UInt8)).isEmpty := by
        rw [List.isEmpty_iff, List.replicate_eq_nil_iff]
        omega
      -- The first pair overwrites the offset, so the one it starts from does not matter.
      change putOptions 0 (option :: rest) _ = _ at pairs
      simp only [serialize, if_neg filled, opcode, Outcome.andThen, pairs]
      rfl

/-- A client reads pairs of strings until its datagram ends. -/
def readPairs (cursor : ReadCursor) : Except IoError (List (String × String)) :=
  match _named : cursor.extractString with
  | (.error error, _) => if error.kind = .unexpectedEof then .ok [] else .error error
  | (.ok name, middle) =>
      match _valued : middle.extractString with
      | (.error error, _) => .error error
      | (.ok value, next) => (readPairs next).map ((name, value) :: ·)
termination_by cursor.datagram.length - cursor.index
decreasing_by
  obtain ⟨same, first, inside⟩ := ReadCursor.extractString_progress _named
  obtain ⟨same', second, _⟩ := ReadCursor.extractString_progress _valued
  rw [same', same]
  omega

/-- A client reads the opcode and the pairs behind it. -/
def readOptionsAcknowledge (datagram : List UInt8) :
    Except IoError (UInt16 × List (String × String)) :=
  match (ReadCursor.new datagram).extractUshort with
  | (.error error, _) => .error error
  | (.ok opcode, cursor) => (readPairs cursor).map (opcode, ·)

/-- The pairs end where the datagram ends. -/
theorem readPairs_end (datagram : List UInt8) : readPairs ⟨datagram, datagram.length⟩ = .ok [] := by
  have ended : ReadCursor.extractString ⟨datagram, datagram.length⟩ =
      (.error ⟨.unexpectedEof, ""⟩, ⟨datagram, datagram.length⟩) := by
    rw [ReadCursor.extractString, if_pos (Nat.le_refl _)]
  rw [readPairs]
  split
  · rename_i named
    cases ended.symm.trans named
    rfl
  · rename_i named
    cases ended.symm.trans named

/-- Two strings are one pair. -/
theorem readPairs_pair {cursor middle next : ReadCursor} {key value : String}
    (named : cursor.extractString = (.ok key, middle))
    (valued : middle.extractString = (.ok value, next)) :
    readPairs cursor = (readPairs next).map ((key, value) :: ·) := by
  rw [readPairs]
  split
  · rename_i failed
    cases named.symm.trans failed
  · rename_i read
    cases named.symm.trans read
    split
    · rename_i failed
      cases valued.symm.trans failed
    · rename_i read
      cases valued.symm.trans read
      rfl

/-- The client reads back every pair whose strings have no NUL. -/
theorem readPairs_encodeOptions (options : List (String × String)) (before : List UInt8)
    (clean : ∀ option ∈ options, 0 ∉ utf8 option.1 ∧ 0 ∉ utf8 option.2) :
    readPairs ⟨before ++ encodeOptions options, before.length⟩ = .ok options := by
  induction options generalizing before with
  | nil =>
      rw [encodeOptions, List.flatMap_nil, List.append_nil]
      exact readPairs_end before
  | cons option rest ih =>
      obtain ⟨key, value⟩ := option
      obtain ⟨cleanKey, cleanValue⟩ := clean _ List.mem_cons_self
      have named := ReadCursor.extractString_at before (utf8 value ++ 0 :: encodeOptions rest) key
        cleanKey
      have valued := ReadCursor.extractString_at (before ++ (utf8 key ++ [0]))
        (encodeOptions rest) value cleanValue
      have later := ih (before ++ encodePair key value) fun option member =>
        clean option (List.mem_cons_of_mem _ member)
      simp only [encodePair, List.append_assoc, List.cons_append, List.nil_append,
        List.length_append, List.length_cons, List.length_nil, Nat.add_assoc] at named valued later
      simp only [encodeOptions_cons, encodePair, List.append_assoc, List.cons_append,
        List.nil_append]
      rw [readPairs_pair named valued]
      simp only [Nat.zero_add, Nat.add_left_comm 1 (utf8 value).length] at later ⊢
      rw [later]
      rfl

/-- The client reads back what the server serialized. -/
theorem readOptionsAcknowledge_body (oack : OptionsAcknowledge)
    (clean : ∀ option ∈ oack.options, 0 ∉ utf8 option.1 ∧ 0 ∉ utf8 option.2) :
    readOptionsAcknowledge oack.body = .ok (oackOpcode, oack.options) := by
  have opcode := ReadCursor.extractUshort_at [] (encodeOptions oack.options) oackOpcode
  have pairs := readPairs_encodeOptions oack.options (beBytes oackOpcode) clean
  simp only [List.nil_append, List.length_nil] at opcode
  change readPairs ⟨_, 0 + 2⟩ = _ at pairs
  simp only [readOptionsAcknowledge, OptionsAcknowledge.body, ReadCursor.new, opcode, pairs]
  rfl

end Rtftp

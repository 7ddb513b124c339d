import Rtftp.Construction.Acknowledge
import Rtftp.Proof.Cursors

namespace Rtftp.PeerHandler
open Library

/-- The four bytes of a header decide everything but the message of an ERROR. -/
theorem parseAcknowledge_header (a b c d : UInt8) (tail : List UInt8) :
    parseAcknowledge (a :: b :: c :: d :: tail) =
      if fromBeBytes a b = ackOpcode then .ok (fromBeBytes c d)
      else if fromBeBytes a b = errorOpcode then
        match terminated tail with
        | some message => .error (.clientError (fromBeBytes c d) message)
        | none => .error .ackError
      else .error .ackError := by
  have read := ReadCursor.extractString_iff ⟨a :: b :: c :: d :: tail, 4⟩
  change ∀ string, _ ↔ terminated tail = some string at read
  simp only [parseAcknowledge, ReadCursor.new, ReadCursor.extractUshort, List.drop_zero]
  congr 2
  cases message : terminated tail with
  | some string =>
      have found := (read string).mpr message
      simp [found]
  | none =>
      cases found : (ReadCursor.extractString ⟨a :: b :: c :: d :: tail, 4⟩).1 with
      | ok string =>
          have impossible := (read string).mp found
          rw [message] at impossible
          cases impossible
      | error error => simp [found]

/-- A datagram of the peer covers the front of the buffer. -/
theorem readAcknowledge_datagram (datagram buffer : List UInt8) (enough : 4 ≤ datagram.length)
    (fits : datagram.length ≤ buffer.length) :
    (readAcknowledge [.datagram true datagram] buffer).1 =
      parseAcknowledge (datagram ++ buffer.drop datagram.length) := by
  have received : overwrite buffer 0 datagram = datagram ++ buffer.drop datagram.length := by
    rw [overwrite_eq buffer 0 datagram (by omega)]
    simp
  have long : ¬ min datagram.length buffer.length < 4 := by omega
  simp only [readAcknowledge, recv, Bool.not_true, Bool.false_eq_true, if_false, long, received]

/-- The bytes that an earlier datagram left in the buffer do not change what is read. -/
def Unambiguous (datagram : List UInt8) (size : Nat) : Prop :=
  ∀ first second : List UInt8, first.length = size → second.length = size →
    (readAcknowledge [.datagram true datagram] first).1 =
      (readAcknowledge [.datagram true datagram] second).1

/-- No bytes of the rest of the buffer turn the message of the datagram into a text. -/
def Unfinishable (datagram : List UInt8) (size : Nat) : Prop :=
  ∀ rest : List UInt8, rest.length < size - datagram.length → 0 ∉ rest →
    fromUtf8 (datagram.drop 4 ++ rest) = none

/-- An unfinishable message is never read, whatever follows it. -/
theorem Unfinishable.terminated {datagram stale : List UInt8} {size : Nat}
    (unfinishable : Unfinishable datagram size) (clean : 0 ∉ datagram.drop 4)
    (length : stale.length = size - datagram.length) :
    terminated (datagram.drop 4 ++ stale) = none := by
  by_cases ended : 0 ∈ stale
  · obtain ⟨text, rest, rfl, first⟩ := List.eq_append_cons_of_mem ended
    rw [List.length_append, List.length_cons] at length
    rw [← List.append_assoc, terminated_nul]
    · exact unfinishable text (by omega) first
    · rw [List.mem_append, not_or]
      exact ⟨clean, first⟩
  · apply terminated_clean
    rw [List.mem_append, not_or]
    exact ⟨clean, ended⟩

/-- A message with its own NUL is read the same, whatever follows it. -/
theorem terminated_own {bytes : List UInt8} (ended : 0 ∈ bytes) (first second : List UInt8) :
    terminated (bytes ++ first) = terminated (bytes ++ second) := by
  obtain ⟨text, rest, rfl, clean⟩ := List.eq_append_cons_of_mem ended
  simp only [List.append_assoc, List.cons_append]
  rw [terminated_nul _ _ clean, terminated_nul _ _ clean]

/-- An ERROR without its own NUL is read with the bytes that the buffer holds behind it. -/
theorem readAcknowledge_error (c d : UInt8) (message buffer : List UInt8)
    (fits : message.length + 4 ≤ buffer.length) :
    (readAcknowledge [.datagram true (0x00 :: 0x05 :: c :: d :: message)] buffer).1 =
      match terminated (message ++ buffer.drop (message.length + 4)) with
      | some string => .error (.clientError (fromBeBytes c d) string)
      | none => .error .ackError := by
  have sized : (0x00 :: 0x05 :: c :: d :: message).length ≤ buffer.length := by
    simp only [List.length_cons]
    omega
  rw [readAcknowledge_datagram _ _ (by simp) sized]
  simp only [List.cons_append, List.length_cons]
  rw [parseAcknowledge_header, if_neg (by decide), if_pos (by decide)]

/-- A finishable message is read from one buffer and not from another. -/
theorem readAcknowledge_ambiguous (c d : UInt8) (message rest : List UInt8) (size : Nat)
    (room : rest.length + (message.length + 4) < size) (clean : 0 ∉ message ++ rest)
    {string : String} (text : fromUtf8 (message ++ rest) = some string) :
    ¬ Unambiguous (0x00 :: 0x05 :: c :: d :: message) size := by
  intro same
  let first := List.replicate (message.length + 4) 1 ++ (rest ++
    0 :: List.replicate (size - (rest.length + (message.length + 4)) - 1) 1)
  have length : first.length = size := by
    simp only [first, List.length_append, List.length_cons, List.length_replicate]
    omega
  have ended : first.drop (message.length + 4) =
      rest ++ 0 :: List.replicate (size - (rest.length + (message.length + 4)) - 1) 1 := by
    rw [List.drop_append_of_le_length (by rw [List.length_replicate]), List.drop_replicate]
    simp
  have equal := same first (List.replicate size 1) length List.length_replicate
  have unread : terminated (message ++ (List.replicate size 1).drop (message.length + 4)) = none := by
    apply terminated_clean
    rw [List.mem_append, not_or] at clean ⊢
    refine ⟨clean.1, ?_⟩
    rw [List.drop_replicate, List.mem_replicate, not_and]
    intro _
    decide
  rw [readAcknowledge_error c d message first (by omega),
    readAcknowledge_error c d message _ (by rw [List.length_replicate]; omega), unread, ended,
    ← List.append_assoc, terminated_nul _ _ clean, text] at equal
  cases equal

/-- A datagram has one meaning for all stale bytes exactly when it is no ERROR, or its message has
a NUL, or the rest of the buffer cannot finish the message. -/
theorem receivedDatagram_unambiguous_iff (datagram : List UInt8) (size : Nat)
    (enough : 4 ≤ datagram.length) (fits : datagram.length ≤ size) :
    Unambiguous datagram size ↔
      ¬ [0x00, 0x05] <+: datagram ∨ 0 ∈ datagram.drop 4 ∨ Unfinishable datagram size := by
  match datagram, enough with
  | a :: b :: c :: d :: message, _ =>
    simp only [List.length_cons] at fits
    constructor
    · intro same
      by_contra ambiguous
      simp only [not_or, not_not] at ambiguous
      obtain ⟨opcode, clean, finishable⟩ := ambiguous
      simp only [List.cons_prefix_cons] at opcode
      obtain ⟨rfl, rfl, _⟩ := opcode
      simp only [Unfinishable, not_forall] at finishable
      obtain ⟨rest, short, plain, text⟩ := finishable
      obtain ⟨string, text⟩ := Option.ne_none_iff_exists'.mp text
      simp only [List.length_cons] at short
      refine readAcknowledge_ambiguous c d message rest size (by omega) ?_ text same
      rw [List.mem_append, not_or]
      exact ⟨clean, plain⟩
    · intro condition first second firstLength secondLength
      rw [readAcknowledge_datagram _ _ (by simp) (by simp only [List.length_cons]; omega),
        readAcknowledge_datagram _ _ (by simp) (by simp only [List.length_cons]; omega)]
      simp only [List.cons_append, parseAcknowledge_header]
      rcases condition with other | ended | unfinishable
      · have opcode : ¬ fromBeBytes a b = errorOpcode := by
          rw [fromBeBytes_eq_iff]
          intro bytes
          change [0x00, 0x05] = [a, b] at bytes
          obtain ⟨rfl, rfl⟩ : 0x00 = a ∧ 0x05 = b := by simpa using bytes
          exact other ⟨c :: d :: message, rfl⟩
        rw [if_neg opcode, if_neg opcode]
      · change 0 ∈ message at ended
        rw [terminated_own ended (first.drop _) (second.drop _)]
      · by_cases ended : 0 ∈ message
        · rw [terminated_own ended (first.drop _) (second.drop _)]
        · have unread (buffer : List UInt8) (length : buffer.length = size) :
              terminated (message ++ buffer.drop (a :: b :: c :: d :: message).length) = none :=
            unfinishable.terminated ended (by rw [List.length_drop, length])
          rw [unread first firstLength, unread second secondLength]

/-- An acknowledge of block one has one meaning in every buffer of a session. -/
theorem receivedDatagram_unambiguous_ack : Unambiguous [0x00, 0x04, 0x00, 0x01] 65535 :=
  (receivedDatagram_unambiguous_iff [0x00, 0x04, 0x00, 0x01] 65535 (by decide) (by decide)).mpr
    (.inl (by decide))

/-- The message of an ERROR without its NUL goes on with the bytes of an earlier datagram. -/
theorem receivedDatagram_ambiguous :
    ¬ Unambiguous [0x00, 0x05, 0x00, 0x00, 0x6F, 0x6B] 65535 :=
  readAcknowledge_ambiguous 0x00 0x00 [0x6F, 0x6B] [] 65535 (by decide) (by decide)
    (fromUtf8_utf8 "ok")

end Rtftp.PeerHandler

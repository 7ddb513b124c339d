import Rtftp.Construction.Error
import Rtftp.Proof.Cursors

namespace Rtftp
open Library

/-- The first bytes of an ERROR datagram, before the terminator. -/
def TFTPError.body (error : TFTPError) : List UInt8 :=
  beBytes errorOpcode ++ beBytes error.parse.1 ++ utf8 error.parse.2

theorem TFTPError.body_length (error : TFTPError) :
    error.body.length = 4 + (utf8 error.parse.2).length := by
  simp only [body, beBytes, List.length_append, List.length_cons, List.length_nil]

/-- The encoder writes the body and one zero, and leaves the byte between them. -/
theorem TFTPError.serialize_eq (error : TFTPError) (buffer : List UInt8)
    (room : 5 + (utf8 error.parse.2).length < buffer.length) :
    error.serialize buffer = (.ok (5 + (utf8 error.parse.2).length),
      (overwrite buffer 0 error.body).set (5 + (utf8 error.parse.2).length) 0) := by
  have opcode := WriteCursor.putUshort_fits (WriteCursor.new buffer) errorOpcode
    (by simp only [WriteCursor.new]; omega)
  have code := WriteCursor.putUshort_fits
    ⟨overwrite buffer 0 (beBytes errorOpcode), 2⟩ error.parse.1
    (by simp only [overwrite_length]; omega)
  have message := WriteCursor.putString_fits
    ⟨overwrite (overwrite buffer 0 (beBytes errorOpcode)) 2 (beBytes error.parse.1), 4⟩
    error.parse.2 (by simp only [overwrite_length]; omega)
  have joined : overwrite (overwrite (overwrite buffer 0 (beBytes errorOpcode)) 2
      (beBytes error.parse.1)) 4 (utf8 error.parse.2) = overwrite buffer 0 error.body := by
    rw [body, ← overwrite_append, ← overwrite_append]
    rfl
  have size : 4 + (utf8 error.parse.2).length + 1 = 5 + (utf8 error.parse.2).length := by omega
  simp only [WriteCursor.new] at opcode
  simp only [joined, size] at message
  simp only [serialize, WriteCursor.new, opcode, code, message, Outcome.andThen]

/-- The last byte that is sent is the byte that the buffer held before. -/
theorem TFTPError.serialize_sent (error : TFTPError) (buffer : List UInt8)
    (room : 5 + (utf8 error.parse.2).length < buffer.length) :
    (error.serialize buffer).2.take (5 + (utf8 error.parse.2).length) =
      error.body ++ (buffer.drop (4 + (utf8 error.parse.2).length)).take 1 := by
  have size := error.body_length
  rw [serialize_eq error buffer room]
  change ((overwrite buffer 0 error.body).set _ 0).take _ = _
  rw [List.take_set_of_le (Nat.le_refl _), overwrite_eq buffer 0 error.body (by omega), size]
  simp only [List.take_zero, List.nil_append, Nat.zero_add]
  rw [List.take_append, size, List.take_of_length_le (by omega)]
  congr 2
  omega

/-- A client reads the opcode, the code and the terminated message. -/
def readErrorDatagram (datagram : List UInt8) : Except IoError (UInt16 × UInt16 × String) :=
  let opcode := (ReadCursor.new datagram).extractUshort
  let code := opcode.2.extractUshort
  let message := code.2.extractString
  match opcode.1, code.1, message.1 with
  | .ok opcode, .ok code, .ok message => .ok (opcode, code, message)
  | .error error, _, _ => .error error
  | _, .error error, _ => .error error
  | _, _, .error error => .error error

/-- The client recovers the code and the message from a terminated datagram. -/
theorem readErrorDatagram_terminated (error : TFTPError) (clean : 0 ∉ utf8 error.parse.2) :
    readErrorDatagram (error.body ++ [0]) = .ok (errorOpcode, error.parse.1, error.parse.2) := by
  have layout : error.body ++ [0] =
      beBytes errorOpcode ++ (beBytes error.parse.1 ++ (utf8 error.parse.2 ++ [0])) := by
    simp only [TFTPError.body, List.append_assoc]
  have opcode : (ReadCursor.new (error.body ++ [0])).extractUshort =
      (.ok errorOpcode, ⟨error.body ++ [0], 2⟩) := by
    rw [layout]
    exact ReadCursor.extractUshort_at [] _ errorOpcode
  have code : ReadCursor.extractUshort ⟨error.body ++ [0], 2⟩ =
      (.ok error.parse.1, ⟨error.body ++ [0], 4⟩) := by
    rw [layout]
    exact ReadCursor.extractUshort_at (beBytes errorOpcode) _ error.parse.1
  have message : (ReadCursor.extractString ⟨error.body ++ [0], 4⟩).1 = .ok error.parse.2 := by
    rw [layout, ← List.append_assoc]
    exact congrArg Prod.fst (ReadCursor.extractString_at
      (beBytes errorOpcode ++ beBytes error.parse.1) [] error.parse.2 clean)
  simp only [readErrorDatagram, opcode, code, message]

/-- The bytes sent for an error are its code and its terminated message, and a client reads
them back. -/
structure TFTPError.Delivered (error : TFTPError) (buffer : List UInt8) : Prop where
  returned : (error.serialize buffer).1 = .ok (5 + (utf8 error.parse.2).length)
  bytes : (error.serialize buffer).2.take (5 + (utf8 error.parse.2).length) =
    [0x00, 0x05] ++ beBytes error.parse.1 ++ utf8 error.parse.2 ++ [0x00]
  recovered : readErrorDatagram
    ((error.serialize buffer).2.take (5 + (utf8 error.parse.2).length)) =
      .ok (errorOpcode, error.parse.1, error.parse.2)

/-- The terminator's place keeps its old byte. -/
theorem TFTPError.serialize_stale (error : TFTPError) (buffer : List UInt8)
    (room : 5 + (utf8 error.parse.2).length < buffer.length) :
    (error.serialize buffer).2.take (5 + (utf8 error.parse.2).length) =
      error.body ++ (buffer[4 + (utf8 error.parse.2).length]?).toList := by
  have inside : 4 + (utf8 error.parse.2).length < buffer.length := by omega
  rw [serialize_sent error buffer room, List.drop_eq_getElem_cons inside,
    List.getElem?_eq_getElem inside]
  rfl

/-- A delivered error found its terminator in the buffer. -/
theorem TFTPError.Delivered.terminator {error : TFTPError} {buffer : List UInt8}
    (delivered : error.Delivered buffer)
    (room : 5 + (utf8 error.parse.2).length < buffer.length) :
    buffer[4 + (utf8 error.parse.2).length]? = some 0 := by
  have equal := (error.serialize_stale buffer room).symm.trans delivered.bytes
  change error.body ++ _ = error.body ++ [0] at equal
  have last := List.append_cancel_left equal
  rw [List.getElem?_eq_getElem (by omega)] at last ⊢
  simpa using last

/-- An ERROR datagram is well formed exactly when the buffer already held a zero in the place
of the terminator. -/
theorem errorDatagram_wellFormed_iff (error : TFTPError) (buffer : List UInt8)
    (clean : 0 ∉ utf8 error.parse.2) (room : 5 + (utf8 error.parse.2).length < buffer.length) :
    error.Delivered buffer ↔ buffer[4 + (utf8 error.parse.2).length]? = some 0 := by
  constructor
  · intro delivered
    exact delivered.terminator room
  · intro zero
    have sent := error.serialize_stale buffer room
    rw [zero] at sent
    exact ⟨congrArg Prod.fst (error.serialize_eq buffer room), sent,
      sent ▸ readErrorDatagram_terminated error clean⟩

/-- A session that starts with a zeroed buffer delivers its first error. -/
theorem errorDatagram_wellFormed_zeroed :
    TFTPError.fileNotFound.Delivered (List.replicate 32 0) :=
  (errorDatagram_wellFormed_iff TFTPError.fileNotFound (List.replicate 32 0)
    (by decide) (by decide)).mpr (by decide)

/-- The listening buffer after a write request for a name of thirty letters. -/
def writeRequestBuffer : List UInt8 :=
  [0x00, 0x02] ++ List.replicate 30 0x61 ++ [0x00] ++ utf8 "octet" ++ [0x00] ++
    List.replicate 65496 0

/-- The refusal of that write request goes out without its terminator. -/
theorem errorDatagram_unterminated :
    ¬ (TFTPError.illegalOperation "Only RRQ is supported").Delivered writeRequestBuffer := by
  intro delivered
  have stale := delivered.terminator (by
    simp only [writeRequestBuffer, List.length_append, List.length_replicate]
    decide)
  have letter : writeRequestBuffer[25]? = some 0x61 := rfl
  have size : (utf8 (TFTPError.illegalOperation "Only RRQ is supported").parse.2).length = 21 := by
    decide
  rw [size, letter] at stale
  exact absurd stale (by decide)

end Rtftp

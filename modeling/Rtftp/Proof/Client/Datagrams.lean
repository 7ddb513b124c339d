import Rtftp.Construction.Exchange
import Rtftp.Proof.ErrorDatagram
import Rtftp.Proof.Grammar
import Rtftp.Proof.Reflection
import Rtftp.Proof.Session.Terms
import Rtftp.Proof.Transfer.Receiver

namespace Rtftp.Client
open Library PeerHandler

/-- The server takes the request of a client as it was meant. -/
theorem serve_encode (server : TFTPServer) {fileName : String} {pairs : List (String × String)}
    (clean : 0 ∉ utf8 fileName) (cleanPairs : Clean pairs)
    (short : (ReadRequest.encode fileName pairs).length < bufferSize) :
    (server.serve (ReadRequest.encode fileName pairs)).1 =
      .fed ⟨fileName, collect .empty pairs⟩ := by
  apply TFTPServer.serve_request
  rw [List.take_of_length_le]
  · exact ReadRequest.parse_encode clean cleanPairs
  · have larger : bufferSize ≤ Rtftp.bufferSize := by decide
    omega

/-- A datagram that fits is kept when it starts with the expected opcode. -/
theorem readExpected_ok {opcode : UInt16} {tail : List UInt8}
    (short : (beBytes opcode ++ tail).length ≤ bufferSize) :
    readExpected opcode (beBytes opcode ++ tail) = .ok (beBytes opcode ++ tail) := by
  have whole := List.take_of_length_le short
  have front : (ReadCursor.new (beBytes opcode ++ tail)).rest = beBytes opcode ++ tail := rfl
  obtain ⟨next, read, _⟩ := ReadCursor.extractUshort_word front
  simp only [readExpected, whole, read, if_true]

/-- The client reads the code and the message of an ERROR. -/
theorem readExpected_error {opcode : UInt16} (other : opcode ≠ errorOpcode) (error : TFTPError)
    (clean : 0 ∉ utf8 error.parse.2) (short : (error.body ++ [0]).length ≤ bufferSize) :
    readExpected opcode (error.body ++ [0]) =
      .err (.clientError error.parse.1 error.parse.2) := by
  have whole : (ReadCursor.new (error.body ++ [0])).rest =
      beBytes errorOpcode ++ (beBytes error.parse.1 ++ (utf8 error.parse.2 ++ [0])) := by
    simp only [ReadCursor.rest, ReadCursor.new, List.drop_zero, TFTPError.body, List.append_assoc]
  obtain ⟨first, read, behind, _⟩ := ReadCursor.extractUshort_word whole
  obtain ⟨second, code, message, _⟩ := ReadCursor.extractUshort_word behind
  obtain ⟨third, text, _⟩ := ReadCursor.extractString_text clean message
  simp only [readExpected, List.take_of_length_le short, read, if_neg other.symm, if_true, code,
    text]

/-- The client takes a block with its payload and answers with its number. -/
theorem readNext_block (index : UInt16) (payload : List UInt8) (short : payload.length ≤ 512) :
    readNext (Window.header index ++ payload) = .ok (Window.header index ++ payload) ∧
      blockData (Window.header index ++ payload) = some payload ∧
      acknowledge (Window.header index ++ payload) = ackDatagram index := by
  have layout : Window.header index ++ payload =
      beBytes dataOpcode ++ (beBytes index ++ payload) := rfl
  refine ⟨?_, ?_, ?_⟩
  · rw [layout]
    apply readExpected_ok
    simp only [List.length_append, beBytes, List.length_cons, List.length_nil]
    change _ ≤ 1536
    omega
  · rw [blockData, slice_inside (by rw [List.length_append]; exact Nat.le_add_right 4 _)
      (Nat.le_refl _)]
    simp [Window.header]
  · simp [acknowledge, Window.header]

end Rtftp.Client

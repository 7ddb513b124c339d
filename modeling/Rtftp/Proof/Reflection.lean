import Rtftp.Construction.Server
import Rtftp.Proof.ErrorDatagram

namespace Rtftp
open Library

namespace ReadRequest

theorem parseOptions_error {cursor : ReadCursor} {options : Table String String} {error : TFTPError}
    (failed : parseOptions cursor options = .error error) : error = .undefined "Bad format" := by
  fun_induction parseOptions cursor options with
  | case1 => cases failed
  | case2 => exact (Except.error.inj failed).symm
  | case3 => exact (Except.error.inj failed).symm
  | case4 => simp_all

/-- Every error of the parser has a short message. -/
theorem parse_error {raw : List UInt8} {error : TFTPError} (failed : parse raw = .error error) :
    (utf8 error.parse.2).length ≤ 28 := by
  unfold parse at failed
  split at failed
  · obtain rfl := Except.error.inj failed
    decide
  · split at failed
    · obtain rfl := Except.error.inj failed
      decide
    · split at failed
      · obtain rfl := Except.error.inj failed
        decide
      · split at failed
        · obtain rfl := Except.error.inj failed
          decide
        · split at failed
          · split at failed
            · obtain rfl := Except.error.inj failed
              decide
            · obtain rfl := Except.error.inj failed
              decide
          · split at failed
            · cases failed
            · rename_i refused
              obtain rfl := Except.error.inj failed
              obtain rfl := parseOptions_error refused
              decide

/-- A datagram with another opcode is refused. -/
theorem parse_opcode (value : UInt16) (rest : List UInt8) (other : value ≠ rrqOpcode) :
    parse (beBytes value ++ rest) = .error (.illegalOperation "Only RRQ is supported") := by
  have opcode := ReadCursor.extractUshort_at [] rest value
  simp only [List.nil_append, List.length_nil] at opcode
  simp only [parse, ReadCursor.new, opcode]
  rw [if_pos other]

end ReadRequest

namespace TFTPServer

/-- The server parses what its socket received. -/
theorem recvFrom_take (server : TFTPServer) (datagram : List UInt8) :
    (server.recvFrom datagram).2.buffer.take (server.recvFrom datagram).1 =
      datagram.take bufferSize := by
  have sized := server.sized
  simp only [recvFrom]
  rw [overwrite_front, sized, List.take_append_of_le_length (by rw [List.length_take]; omega),
    List.take_take, List.take_eq_take_iff]
  omega

/-- The server never answers a request on its listening socket. -/
theorem serve_request (server : TFTPServer) {datagram : List UInt8} {request : ReadRequest}
    (parsed : ReadRequest.parse (datagram.take bufferSize) = .ok request) :
    (server.serve datagram).1 = .fed request := by
  simp only [serve, handleRequest, recvFrom_take, parsed]

/-- The server answers everything else with an ERROR. -/
theorem serve_error (server : TFTPServer) {datagram : List UInt8} {error : TFTPError}
    (failed : ReadRequest.parse (datagram.take bufferSize) = .error error) :
    ∃ rest next, server.serve datagram = (.replied (beBytes errorOpcode ++ rest), next) := by
  have short := ReadRequest.parse_error failed
  have sized := (server.recvFrom datagram).2.sized
  have room : 5 + (utf8 error.parse.2).length < (server.recvFrom datagram).2.buffer.length := by
    rw [sized, bufferSize]
    omega
  have returned : (error.serialize (server.recvFrom datagram).2.buffer).1 =
      .ok (5 + (utf8 error.parse.2).length) := by
    rw [error.serialize_eq _ room]
  simp only [serve, handleRequest, recvFrom_take, failed, returned, error.serialize_sent _ room,
    TFTPError.body, List.append_assoc]
  exact ⟨_, _, rfl⟩

/-- The other server answers every ERROR. -/
theorem serve_reply (server : TFTPServer) (rest : List UInt8) :
    ∃ tail next, server.serve (beBytes errorOpcode ++ rest) =
      (.replied (beBytes errorOpcode ++ tail), next) := by
  have received : (beBytes errorOpcode ++ rest).take bufferSize =
      beBytes errorOpcode ++ rest.take (bufferSize - 2) := by
    rw [List.take_append, List.take_of_length_le (by decide)]
    rfl
  have refused := ReadRequest.parse_opcode errorOpcode (rest.take (bufferSize - 2)) (by decide)
  rw [← received] at refused
  exact server.serve_error refused

/-- A reply is never answered by another server. -/
def Quenched (server other : TFTPServer) (datagram : List UInt8) : Prop :=
  ∀ reply, (server.serve datagram).1 = .replied reply →
    ∀ second, (other.serve reply).1 ≠ .replied second

/-- Two servers answer the replies of each other without end. -/
theorem exchange_reply (turns : Nat) (addressed other : TFTPServer) (rest : List UInt8) :
    (exchange turns addressed other (beBytes errorOpcode ++ rest)).length = turns := by
  induction turns generalizing addressed other rest with
  | zero => rfl
  | succ turns ih =>
      obtain ⟨tail, next, answered⟩ := addressed.serve_reply rest
      simp only [exchange, answered, List.length_cons, ih]

/-- Servers that are set against each other fall silent exactly when the first datagram is a
request, which has no reply at all. -/
theorem errorReplies_quenched_iff (server other : TFTPServer) (datagram : List UInt8) :
    (server.Quenched other datagram ↔
      ∃ request, ReadRequest.parse (datagram.take bufferSize) = .ok request) ∧
    ((∀ turns, (exchange turns server other datagram).length ≤ 1) ↔
      ∃ request, ReadRequest.parse (datagram.take bufferSize) = .ok request) := by
  cases parsed : ReadRequest.parse (datagram.take bufferSize) with
  | ok request =>
      have fed := server.serve_request parsed
      constructor
      · simp only [Except.ok.injEq, exists_eq', iff_true]
        intro reply answered
        rw [fed] at answered
        cases answered
      · simp only [Except.ok.injEq, exists_eq', iff_true]
        intro turns
        cases turns with
        | zero => exact Nat.zero_le 1
        | succ turns =>
            rw [exchange]
            split
            · rename_i served
              rw [served] at fed
              cases fed
            · exact Nat.zero_le 1
  | error error =>
      obtain ⟨rest, next, answered⟩ := server.serve_error parsed
      constructor
      · simp only [reduceCtorEq, exists_false, iff_false]
        intro quenched
        obtain ⟨tail, _, again⟩ := other.serve_reply rest
        exact quenched _ (congrArg Prod.fst answered) _ (congrArg Prod.fst again)
      · simp only [reduceCtorEq, exists_false, iff_false]
        intro bounded
        have twice := bounded 2
        rw [exchange, answered] at twice
        simp only [List.length_cons, exchange_reply] at twice
        omega

/-- The buffer of a new server is zeroed. -/
def fresh : TFTPServer := ⟨List.replicate bufferSize 0, List.length_replicate⟩

/-- A forged write request of two bytes starts an endless exchange of ERRORs. -/
theorem errorReplies_breed : ¬ fresh.Quenched fresh [0x00, 0x02] := by
  intro quenched
  have refused : ReadRequest.parse ([0x00, 0x02].take bufferSize) =
      .error (.illegalOperation "Only RRQ is supported") :=
    ReadRequest.parse_opcode 0x02 [] (by decide)
  obtain ⟨rest, next, answered⟩ := fresh.serve_error refused
  obtain ⟨tail, _, again⟩ := fresh.serve_reply rest
  exact quenched _ (congrArg Prod.fst answered) _ (congrArg Prod.fst again)

end TFTPServer

end Rtftp

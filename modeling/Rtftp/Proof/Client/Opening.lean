import Rtftp.Proof.Client.Bursts
import Rtftp.Proof.Client.Datagrams

namespace Rtftp.Client
open Library PeerHandler

/-- An error that is written to a zeroed buffer is sent with its terminator. -/
theorem fireErrorFrom_zeroed (error : TFTPError) {size : Nat}
    (fits : 5 + (utf8 error.parse.2).length < size) :
    (fireErrorFrom error (List.replicate size 0)).1 = [.error error (error.body ++ [0])] := by
  have room : 5 + (utf8 error.parse.2).length < (List.replicate size (0 : UInt8)).length := by
    rwa [List.length_replicate]
  have written := error.serialize_eq _ room
  have sent := error.serialize_sent _ room
  rw [written, List.drop_replicate, List.take_replicate, Nat.min_eq_left (by omega)] at sent
  simp only [fireErrorFrom, written]
  rw [sent]
  rfl

section
variable {F : Type} [OpenedFile F] [FullReads F]

/-- A request without options is served with the default sizes. -/
def plainWindow : Window := Window.new 512 1 Nat.one_pos

/-- A session without options sends its first block at once. -/
theorem start_plain (file : F) :
    Aligned file plainWindow ∧
      Sends file plainWindow 0 (Serving.start file .empty (List.replicate 65535 0) []) ∧
      (Serving.start file .empty (List.replicate 65535 0) []).log.filterMap sentDatagram =
        groupDatagrams (FullReads.remaining file) 1 (blocksOf file) 0 := by
  have aligned : Aligned file plainWindow := by
    intro group inside
    exact (inOneCycle_all_iff 65536 1 (blocksOf file) (by decide) (by decide)).mpr
      (.inr (.inl rfl)) group inside
  have sized : plainWindow.blockSize.toNat = defaultBlockSize := rfl
  have started : Serving.start file .empty (List.replicate 65535 0) [] =
      Serving.settle [] AckTimeout.default (List.replicate 65535 0) 0
        (Sending.start file plainWindow []) := rfl
  obtain ⟨sends, entries, log, datagrams⟩ :=
    settle_start sized aligned [] AckTimeout.default List.length_replicate
  rw [started]
  refine ⟨aligned, sends, ?_⟩
  rw [log, List.nil_append, datagrams]
  rfl

section
variable (file : F) (windowSize : UInt16) (positive : 0 < windowSize.toNat)

variable {file windowSize positive}

end

variable {server : TFTPServer} {datagram : List UInt8} {request : ReadRequest}
  {schedule : ReadRequest → Scheduled F} (fed : (server.serve datagram).1 = .fed request)
include fed

omit [FullReads F] in
/-- A request that finds its file is served by a session of its own. -/
theorem receive_send {openedFile : OpenedAt F} {options : Table String String}
    (scheduled : schedule request = .send openedFile options) :
    Host.receive schedule (.listening server) datagram =
      ((Serving.start openedFile.file options (List.replicate 65535 0) []).log.filterMap
        sentDatagram,
        .serving (Serving.start openedFile.file options (List.replicate 65535 0) [])) := by
  rw [Host.receive]
  cases served : server.serve datagram with
  | mk handled next =>
      rw [served] at fed
      dsimp only at fed
      subst fed
      simp only [scheduled]

omit [FullReads F] in
/-- A request that finds no file is answered with an error. -/
theorem receive_fireError {tftpError : TFTPError}
    (scheduled : schedule request = .fireError tftpError)
    (fits : 5 + (utf8 tftpError.parse.2).length < 65535) :
    Host.receive schedule (.listening server) datagram =
      ([tftpError.body ++ [0]], .refused) := by
  have fired := fireErrorFrom_zeroed tftpError fits
  rw [Host.receive]
  cases served : server.serve datagram with
  | mk handled next =>
      rw [served] at fed
      dsimp only at fed
      subst fed
      simp only [scheduled, fired]
      rfl

end

/-- A request is refused with one of three errors. -/
theorem scheduleTask_cases {F : Type} (system disk : Path → Except IoError F)
    (request : ReadRequest) (roots : List RootKind) :
    (∃ openedFile, scheduleTask system disk request roots = .send openedFile request.options) ∨
      ∃ tftpError, scheduleTask system disk request roots = .fireError tftpError ∧
        (tftpError = TFTPError.fileNotFound ∨ tftpError = TFTPError.accessViolation ∨
          tftpError = TFTPError.undefined "Server Error") := by
  induction roots with
  | nil => exact .inr ⟨_, rfl, .inl rfl⟩
  | cons root rest ih =>
      rw [scheduleTask]
      split
      · next openedFile _ => exact .inl ⟨openedFile, rfl⟩
      · split
        · exact ih
        · exact .inr ⟨_, rfl, .inr (.inl rfl)⟩
        · exact .inr ⟨_, rfl, .inr (.inr rfl)⟩

end Rtftp.Client

import Rtftp.Construction.LocalFs
import Rtftp.Construction.Serving
import Rtftp.Proof.Files.Chunks
import Rtftp.Proof.Transfer.Tracking

namespace Rtftp.PeerHandler
open Library

variable {O P : Type}

/-- This is the transfer with another file under it. -/
def Transfer.onto (transfer : Transfer O) (file : P) : Transfer P where
  openedFile := file
  window := transfer.window
  bytesSent := transfer.bytesSent
  blocksSent := transfer.blocksSent
  lastAcknowledgedIndex := transfer.lastAcknowledgedIndex
  lastReadIndex := transfer.lastReadIndex
  done := transfer.done
  blocksRead := transfer.blocksRead

/-- This is the coroutine of the transfer with another file under it. -/
def Sending.onto (sending : Sending O) (file : P) : Sending P :=
  ⟨sending.transfer.onto file, sending.line, sending.status⟩

def Terms.onto (terms : Terms O) (file : P) : Terms P :=
  ⟨terms.oack, terms.ackTimeout, terms.blockSize, terms.windowSize, file⟩

/-- Two sessions wait at the same place, and their files are related. -/
inductive Stage.Same (Related : O → P → Prop) : Stage O → Stage P → Prop where
  | negotiating (terms : Terms O) (offering : Offering) (file : P) :
      Related terms.openedFile file →
      Stage.Same Related (.negotiating ⟨terms, offering⟩) (.negotiating ⟨terms.onto file, offering⟩)
  | transferring (ackTimeout : AckTimeout) (buffer : List UInt8) (sending : Sending O) (file : P) :
      Related sending.transfer.openedFile file →
      Stage.Same Related (.transferring ackTimeout buffer sending)
        (.transferring ackTimeout buffer (sending.onto file))
  | closed : Stage.Same Related .closed .closed

/-- Two sessions with the same log differ only in the file under them. -/
structure Serving.Same (Related : O → P → Prop) (first : Serving O) (second : Serving P) :
    Prop where
  stage : Stage.Same Related first.stage second.stage
  log : first.log = second.log

section
variable [OpenedFile O] [OpenedFile P]

/-- Two related files read the same bytes from now on, or both fail. -/
def Alike (Related : O → P → Prop) : Prop :=
  ∀ first second, Related first second → ∀ room,
    (∃ bytes next other, OpenedFile.readTo first room = .ok (bytes, next) ∧
      OpenedFile.readTo second room = .ok (bytes, other) ∧ Related next other) ∨
    ∃ error failure, OpenedFile.readTo first room = .error error ∧
      OpenedFile.readTo second room = .error failure

variable {Related : O → P → Prop} (alike : Alike Related)
include alike

/-- One block is the same in both transfers. -/
theorem Alike.readBlock {transfer : Transfer O} {file : P}
    (related : Related transfer.openedFile file) :
    (∃ next isLast other, transfer.readBlock = .ok (next, isLast) ∧
      (transfer.onto file).readBlock = .ok (next.onto other, isLast) ∧
      Related next.openedFile other) ∨
    ∃ error failure, transfer.readBlock = .error error ∧
      (transfer.onto file).readBlock = .error failure := by
  let index := transfer.lastReadIndex + 1
  rcases alike _ _ related ((transfer.window.headed index).length - 4) with
    ⟨bytes, next, other, first, second, kept⟩ | ⟨error, failure, first, second⟩
  · left
    let isLast := decide (bytes.length < transfer.window.blockSize.toNat)
    let after : Transfer O := { transfer with
      openedFile := next
      window := transfer.window.filled index bytes
      lastReadIndex := index
      bytesSent := transfer.bytesSent + bytes.length
      done := transfer.done || isLast
      blocksRead := transfer.blocksRead + 1 }
    refine ⟨after, isLast, other, ?_, ?_, kept⟩
    · simp only [Transfer.readBlock, Window.pushBlock, index, first, after, isLast]
    · simp only [Transfer.readBlock, Window.pushBlock, Transfer.onto, index, second, after, isLast]
      rfl
  · right
    refine ⟨error, failure, ?_, ?_⟩
    · simp only [Transfer.readBlock, Window.pushBlock, index, first]
    · simp only [Transfer.readBlock, Window.pushBlock, Transfer.onto, index, second]

/-- A fill reads the same blocks in both transfers. -/
theorem Alike.fillWindow (room : Nat) {transfer : Transfer O} {file : P}
    (related : Related transfer.openedFile file) (toSend : UInt16) :
    ∃ other, PeerHandler.fillWindow room (transfer.onto file) toSend =
        ((PeerHandler.fillWindow room transfer toSend).1,
          (PeerHandler.fillWindow room transfer toSend).2.onto other) ∧
      Related (PeerHandler.fillWindow room transfer toSend).2.openedFile other := by
  induction room generalizing transfer file toSend with
  | zero => exact ⟨file, rfl, related⟩
  | succ room ih =>
      rcases alike.readBlock related with
        ⟨next, isLast, other, first, second, kept⟩ | ⟨error, failure, first, second⟩
      · simp only [PeerHandler.fillWindow, first, second]
        cases isLast with
        | true => exact ⟨other, rfl, kept⟩
        | false => exact ih kept (toSend + 1)
      · simp only [PeerHandler.fillWindow, first, second]
        exact ⟨file, rfl, related⟩

omit alike [OpenedFile O] [OpenedFile P] in
/-- An attempt sends the same burst in both transfers. -/
theorem attempt_onto (transfer : Transfer O) (file : P) (toSend : UInt16) (line : Line)
    (attempts : Nat) : attempt (transfer.onto file) toSend line attempts =
      (attempt transfer toSend line attempts).onto file := by
  cases attempts with
  | zero => rfl
  | succ attempts =>
      have burst : sendBlocks (transfer.onto file).window
          (burstIndices (transfer.onto file).windowIndex toSend) line =
            sendBlocks transfer.window (burstIndices transfer.windowIndex toSend) line := rfl
      rw [attempt, attempt, burst]
      cases sendBlocks transfer.window (burstIndices transfer.windowIndex toSend) line with
      | mk sent line =>
          cases sent with
          | true => rfl
          | false => rfl

/-- The head of the loop does the same in both transfers. -/
theorem Alike.enterLoop {transfer : Transfer O} {file : P}
    (related : Related transfer.openedFile file) (line : Line) :
    ∃ other, PeerHandler.enterLoop (transfer.onto file) line =
        (PeerHandler.enterLoop transfer line).onto other ∧
      Related (PeerHandler.enterLoop transfer line).transfer.openedFile other := by
  unfold PeerHandler.enterLoop
  obtain ⟨other, filled, kept⟩ := alike.fillWindow
    (transfer.window.size.toNat - transfer.unacknowledgedCount.toNat) related
    transfer.unacknowledgedCount
  change (transfer.onto file).fill = (transfer.fill.1, transfer.fill.2.onto other) at filled
  change Related transfer.fill.2.openedFile other at kept
  have same : (transfer.onto file).done = transfer.done := rfl
  rw [same, filled]
  cases transfer.done with
  | true => exact ⟨file, rfl, related⟩
  | false =>
      simp only [Bool.false_eq_true, if_false]
      cases result : transfer.fill with
      | mk outcome next =>
          rw [result] at kept
          cases outcome with
          | error error => exact ⟨other, rfl, kept⟩
          | ok toSend =>
              dsimp only
              rw [attempt_onto]
              exact ⟨other, rfl, by rwa [attempt_transfer]⟩

/-- Both coroutines do the same with every acknowledge. -/
theorem Alike.resume {sending : Sending O} {file : P}
    (related : Related sending.transfer.openedFile file) (ack : AckResult) :
    ∃ other, (sending.onto file).resume ack = (sending.resume ack).onto other ∧
      Related (sending.resume ack).transfer.openedFile other := by
  unfold Sending.resume
  have status : (sending.onto file).status = sending.status := rfl
  have answers : answer (sending.onto file).transfer.windowIndex (sending.onto file).line ack =
      answer sending.transfer.windowIndex sending.line ack := rfl
  rw [status, answers]
  cases sending.status with
  | returned result => exact ⟨file, rfl, related⟩
  | awaiting toSend attempts =>
      dsimp only
      cases answer sending.transfer.windowIndex sending.line ack with
      | mk result line =>
          rcases result with _ | error | receivedAcknowledged
          · dsimp only
            refine ⟨file, attempt_onto sending.transfer file toSend line attempts, ?_⟩
            rwa [attempt_transfer]
          · exact ⟨file, rfl, related⟩
          · let acknowledged := { sending.transfer with
              lastAcknowledgedIndex := receivedAcknowledged }
            have kept : Related acknowledged.openedFile file := related
            exact alike.enterLoop kept line

omit alike [OpenedFile O] [OpenedFile P] in
/-- Both sessions send the same new datagrams. -/
theorem Serving.settle_same {sending : Sending O} {file : P}
    (related : Related sending.transfer.openedFile file) (log : List Entry)
    (ackTimeout : AckTimeout) (buffer : List UInt8) (alreadySent : Nat) :
    Serving.Same Related (Serving.settle log ackTimeout buffer alreadySent sending)
      (Serving.settle log ackTimeout buffer alreadySent (sending.onto file)) := by
  refine ⟨?_, rfl⟩
  have status : (sending.onto file).status = sending.status := rfl
  unfold Serving.settle
  rw [status]
  cases sending.status with
  | awaiting toSend attempts => exact .transferring _ _ _ _ related
  | returned result => exact .closed

/-- Both sessions go on alike after the negotiation. -/
theorem Alike.proceed {terms : Terms O} {file : P} (related : Related terms.openedFile file)
    (offering : Offering) (log : List Entry) :
    Serving.Same Related (Serving.proceed log ⟨terms, offering⟩)
      (Serving.proceed log ⟨terms.onto file, offering⟩) := by
  have window : (terms.onto file).window = terms.window := rfl
  unfold Serving.proceed Negotiation.result
  dsimp only
  rw [window]
  rcases offering.status with attempts | error | done
  · exact ⟨.negotiating _ _ _ related, rfl⟩
  · exact ⟨.closed, rfl⟩
  · have fresh : Related (Transfer.new terms.openedFile terms.window).openedFile file := related
    obtain ⟨other, entered, kept⟩ := alike.enterLoop fresh ⟨offering.verdicts, []⟩
    change Sending.start file terms.window offering.verdicts =
      (Sending.start terms.openedFile terms.window offering.verdicts).onto other at entered
    change Serving.Same Related _ (Serving.settle log terms.ackTimeout offering.buffer 0
      (Sending.start file terms.window offering.verdicts))
    rw [entered]
    exact Serving.settle_same kept _ _ _ _

/-- Both sessions do the same with every arrival. -/
theorem Alike.step {first : Serving O} {second : Serving P}
    (same : Serving.Same Related first second) (arrivals : List Arrival) :
    Serving.Same Related (first.resume arrivals) (second.resume arrivals) := by
  obtain ⟨stage, log⟩ := first
  obtain ⟨place, record⟩ := second
  obtain ⟨waits, rfl⟩ := same
  cases waits with
  | negotiating terms offering file related => exact alike.proceed related _ _
  | transferring ackTimeout buffer sending file related =>
      obtain ⟨other, resumed, kept⟩ := alike.resume related (readAcknowledge arrivals buffer).1
      have settled := Serving.settle_same kept
        (log ++ [.received arrivals (readAcknowledge arrivals buffer).1]) ackTimeout
        (readAcknowledge arrivals buffer).2 sending.line.sent.length
      rw [← resumed] at settled
      exact settled
  | closed => exact ⟨.closed, rfl⟩

/-- Both sessions stay alike along every run. -/
theorem Alike.run {first : Serving O} {second : Serving P}
    (same : Serving.Same Related first second) (reads : List (List Arrival)) :
    Serving.Same Related (reads.foldl Serving.resume first)
      (reads.foldl Serving.resume second) := by
  induction reads generalizing first second with
  | nil => exact same
  | cons arrivals rest ih => exact ih (alike.step same arrivals)

end

/-- Two fresh files have the same size, or both have none, and stay related when it is asked. -/
structure Interchangeable [OpenedFile O] [OpenedFile P] (Related : O → P → Prop) (first : O)
    (second : P) : Prop where
  related : Related first second
  size : (OpenedFile.getSize first).1.toOption = (OpenedFile.getSize second).1.toOption
  sized : Related (OpenedFile.getSize first).2 (OpenedFile.getSize second).2

section
variable [OpenedFile O] [OpenedFile P] {Related : O → P → Prop} {first : O} {second : P}

/-- Both sessions accept the same options. -/
theorem Interchangeable.acceptOptions (opened : Interchangeable Related first second)
    (options : Table String String) :
    ∃ file, PeerHandler.acceptOptions second options =
        (PeerHandler.acceptOptions first options).onto file ∧
      Related (PeerHandler.acceptOptions first options).openedFile file := by
  obtain ⟨related, size, sized⟩ := opened
  unfold PeerHandler.acceptOptions TSize.obtain
  cases TSize.isRequested options with
  | false => exact ⟨second, rfl, related⟩
  | true =>
      cases one : OpenedFile.getSize first with
      | mk result next =>
          cases two : OpenedFile.getSize second with
          | mk outcome other =>
              rw [one, two] at size sized
              cases result with
              | ok bytes =>
                  cases outcome with
                  | ok count =>
                      cases Option.some.inj size
                      exact ⟨other, rfl, sized⟩
                  | error failure => cases size
              | error error =>
                  cases outcome with
                  | ok count => cases size
                  | error failure => exact ⟨other, rfl, sized⟩

/-- Two sessions over related files put the same datagrams on their logs. -/
theorem Interchangeable.sessions (opened : Interchangeable Related first second)
    (alike : Alike Related) (options : Table String String) (buffer : List UInt8)
    (verdicts : List Bool) (reads : List (List Arrival)) :
    Serving.Same Related
      (reads.foldl Serving.resume (Serving.start first options buffer verdicts))
      (reads.foldl Serving.resume (Serving.start second options buffer verdicts)) := by
  apply alike.run
  obtain ⟨file, accepted, related⟩ := opened.acceptOptions options
  unfold Serving.start negotiateOptions
  rw [accepted]
  have oack : ((PeerHandler.acceptOptions first options).onto file).oack =
      (PeerHandler.acceptOptions first options).oack := rfl
  dsimp only
  rw [oack]
  cases (PeerHandler.acceptOptions first options).oack.hasOptions with
  | true => exact alike.proceed related _ _
  | false => exact alike.proceed related _ _

end

/-- A remote reader is related to a buffer in memory at the same offset. -/
def Mirrored (content : List UInt8) (reader : FileReader) (file : VirtualOpenedFile) : Prop :=
  FileReader.Aligned content reader ∧ file = ⟨content, reader.currentOffset⟩

/-- A local file with full reads is related to a buffer in memory at the same offset. -/
def Copied (content : List UInt8) (opened : LocalOpenedFile) (file : VirtualOpenedFile) : Prop :=
  ∃ position reads, opened = ⟨⟨content, position, .full, reads⟩⟩ ∧ file = ⟨content, position⟩

/-- A remote reader gives what the buffer gives. -/
theorem alike_mirrored (content : List UInt8) : Alike (Mirrored content) := by
  rintro reader _ ⟨aligned, rfl⟩ room
  left
  have read := aligned.readTo room
  have called : reader.readTo room = (.ok ((content.drop reader.currentOffset).take room),
      (reader.readTo room).2) := Prod.ext read.bytes rfl
  refine ⟨_, _, _, FileReader.readTo_ok called, rfl, read.aligned, ?_⟩
  have offset := aligned.offset
  have moved : reader.currentOffset + min room (content.length - reader.currentOffset) =
      min (reader.currentOffset + room) content.length := by omega
  rw [read.position, moved]

/-- A local file gives what the buffer gives. -/
theorem alike_copied (content : List UInt8) : Alike (Copied content) := by
  rintro _ _ ⟨position, reads, rfl, rfl⟩ room
  left
  have bytes : (content.drop position).take (min room (content.length - position)) =
      (content.drop position).take room := by
    rw [← List.length_drop, List.take_eq_take_iff]
    omega
  refine ⟨(content.drop position).take room,
    ⟨⟨content, position + min room (content.length - position), .full, reads + 1⟩⟩, _, ?_, rfl,
    _, _, rfl, rfl⟩
  rw [← bytes]
  rfl

theorem interchangeable_mirrored {content : List UInt8} {reader : FileReader}
    (aligned : FileReader.Aligned content reader) (fresh : reader.currentOffset = 0) :
    Interchangeable (Mirrored content) reader (VirtualOpenedFile.new content) where
  related := ⟨aligned, by rw [fresh]; rfl⟩
  size := by
    have size : OpenedFile.getSize reader = (.ok (UInt64.ofNat content.length), reader) := by
      rw [← aligned.size]
      rfl
    rw [size]
    rfl
  sized := ⟨aligned, by
    show VirtualOpenedFile.new content = ⟨content, reader.currentOffset⟩
    rw [fresh]
    rfl⟩

theorem interchangeable_copied (content : List UInt8) :
    Interchangeable (Copied content) ⟨File.opened content .full⟩
      (VirtualOpenedFile.new content) := by
  have size : OpenedFile.getSize (LocalOpenedFile.mk (File.opened content .full)) =
      (.ok (UInt64.ofNat content.length), ⟨File.opened content .full⟩) :=
    LocalOpenedFile.getSize_eq _
  have related : Copied content ⟨File.opened content .full⟩ (VirtualOpenedFile.new content) :=
    ⟨0, 0, rfl, rfl⟩
  refine ⟨related, ?_, ?_⟩
  · rw [size]
    rfl
  · rw [size]
    exact related

/-- The stages of two sessions that are alike are closed together. -/
theorem Stage.Same.closed_iff {Related : O → P → Prop} {first : Stage O} {second : Stage P}
    (same : Stage.Same Related first second) : first = .closed ↔ second = .closed := by
  cases same <;> simp

/-- A client cannot tell a remote file in chunks of any size from a local file or from a buffer in
memory. For every request and all arrivals the sessions have the same log and end together. -/
theorem Serving.readers_agree {content : List UInt8} {handle : ReadChunk} {reader : FileReader}
    (cuts : FileReader.Cuts handle content)
    (opened : FileReader.openFile handle content.length = .ok reader)
    (options : Table String String) (buffer : List UInt8) (verdicts : List Bool)
    (reads : List (List Arrival)) :
    let remote := reads.foldl Serving.resume (Serving.start reader options buffer verdicts)
    let onDisk := reads.foldl Serving.resume
      (Serving.start (LocalOpenedFile.mk (File.opened content .full)) options buffer verdicts)
    let inMemory := reads.foldl Serving.resume
      (Serving.start (VirtualOpenedFile.new content) options buffer verdicts)
    (remote.log = onDisk.log ∧ remote.log = inMemory.log) ∧
      (remote.stage = .closed ↔ onDisk.stage = .closed) ∧
      (remote.stage = .closed ↔ inMemory.stage = .closed) := by
  intro remote onDisk inMemory
  have aligned : FileReader.Aligned content reader ∧ reader.currentOffset = 0 := by
    obtain ⟨first, same, aligned, fresh⟩ := FileReader.aligned_openFile cuts
    rw [opened] at same
    cases same
    exact ⟨aligned, fresh⟩
  have mirrored := (interchangeable_mirrored aligned.1 aligned.2).sessions (alike_mirrored content)
    options buffer verdicts reads
  have copied := (interchangeable_copied content).sessions (alike_copied content)
    options buffer verdicts reads
  have closes := mirrored.stage.closed_iff
  exact ⟨⟨mirrored.log.trans copied.log.symm, mirrored.log⟩,
    closes.trans copied.stage.closed_iff.symm, closes⟩

/-- This remote side gives one byte on every call, and the client asks for a small block size. -/
theorem Serving.readers_agree_single_bytes :
    let content : List UInt8 := [7, 8, 9]
    let reader : FileReader :=
      ⟨FileReader.cutAt content fun _ => 0, 1, content.length, 0, FileChunk.new [7]⟩
    let options : Table String String := ⟨[("blksize", "8")], List.nodup_singleton _⟩
    let reads := [[Arrival.datagram true (ackDatagram 0)]]
    let remote := reads.foldl Serving.resume
      (Serving.start reader options (List.replicate 32 0) [])
    remote.log = (reads.foldl Serving.resume (Serving.start
        (VirtualOpenedFile.new content) options (List.replicate 32 0) [])).log ∧
      remote.log.length = 3 := by
  intro content reader options reads remote
  have opened : FileReader.openFile (FileReader.cutAt content fun _ => 0) content.length =
      .ok reader := rfl
  have agreed := Serving.readers_agree (FileReader.cutAt_cuts content fun _ => 0) opened options
    (List.replicate 32 0) [] reads
  refine ⟨agreed.1.2, ?_⟩
  rw [agreed.1.2]
  decide +kernel

end Rtftp.PeerHandler

import Rtftp.Construction.Exchange
import Rtftp.Proof.Session.StaleBytes
import Rtftp.Proof.Transfer.Cooperation

namespace Rtftp.Client
open Library PeerHandler

/-- These are the datagrams of one group of blocks. -/
def groupDatagrams (content : List UInt8) (width count group : Nat) : List (List UInt8) :=
  (List.range' (group * width + 1) (min ((group + 1) * width) count - group * width)).map
    (dataDatagram content defaultBlockSize)

/-- The buffer of a session is read from its front. -/
theorem readAcknowledge_ackDatagram (index : UInt16) {buffer : List UInt8}
    (long : 4 ≤ buffer.length) :
    readAcknowledge [.datagram true (ackDatagram index)] buffer =
      (.ok index, overwrite buffer 0 (ackDatagram index)) := by
  have enough : (ackDatagram index).length = 4 := rfl
  have taken : ¬ min (ackDatagram index).length buffer.length < 4 := by omega
  have opened : overwrite buffer 0 (ackDatagram index) =
      (0x00 : UInt8) :: 0x04 :: (index >>> 8).toUInt8 :: index.toUInt8 :: buffer.drop 4 := by
    rw [overwrite_eq buffer 0 _ (by omega)]
    rfl
  simp only [readAcknowledge, recv, Bool.not_true, Bool.false_eq_true, if_false, taken, opened]
  rw [parseAcknowledge_header, if_pos (by decide), fromBeBytes_beBytes]

section
variable {F : Type} [OpenedFile F] [FullReads F] {file : F} {window : Window} {count group : Nat}

/-- The blocks of a group are rendered as their datagrams, and the buffer stays as it is. -/
theorem render_groupEmissions (file : F) (count group : Nat)
    (sized : window.blockSize.toNat = defaultBlockSize) (buffer : List UInt8) :
    (((render (groupEmissions file window count group) buffer).1.map .sent).filterMap
        sentDatagram = groupDatagrams (FullReads.remaining file) window.buffers.length count group) ∧
      (render (groupEmissions file window count group) buffer).2 = buffer := by
  rw [groupEmissions, groupDatagrams]
  generalize min ((group + 1) * window.buffers.length) count - group * window.buffers.length = size
  have first : 0 < group * window.buffers.length + 1 := Nat.succ_pos _
  generalize group * window.buffers.length + 1 = position at first
  induction size generalizing position with
  | zero => exact ⟨rfl, rfl⟩
  | succ size ih =>
      obtain ⟨datagrams, same⟩ := ih (position + 1) (Nat.succ_pos _)
      rw [List.range'_succ, List.map_cons, List.map_cons, render]
      refine ⟨?_, same⟩
      rw [List.map_cons, List.filterMap_cons, datagrams, sized,
        blockDatagram_eq file _ position first]
      rfl

/-- The file ends with its first short block. -/
def blocksOf (file : F) : Nat := blockCount (FullReads.remaining file) defaultBlockSize

/-- The session has sent one group of blocks and waits for its acknowledge. -/
def Sends (file : F) (window : Window) (group : Nat) (session : Serving F) : Prop :=
  ∃ ackTimeout buffer sending, session.stage = .transferring ackTimeout buffer sending ∧
    buffer.length = 65535 ∧ Cooperating file window (blocksOf file) group sending

/-- A group that was just sent is on the log. -/
theorem settle_group (sized : window.blockSize.toNat = defaultBlockSize) (log : List Entry)
    (ackTimeout : AckTimeout) {buffer : List UInt8} (long : buffer.length = 65535)
    (alreadySent : List Emission) {sending : Sending F}
    (cooperating : Cooperating file window (blocksOf file) group sending)
    (sent : sending.line.sent =
      alreadySent ++ groupEmissions file window (blocksOf file) group) :
    let session := Serving.settle log ackTimeout buffer alreadySent.length sending
    Sends file window group session ∧ ∃ entries, session.log = log ++ entries ∧
      entries.filterMap sentDatagram = groupDatagrams (FullReads.remaining file)
        window.buffers.length (blocksOf file) group := by
  intro session
  obtain ⟨attempts, status⟩ := cooperating.status
  obtain ⟨datagrams, same⟩ := render_groupEmissions file (blocksOf file) group sized buffer
  have transmitted : sending.transmitted.drop alreadySent.length =
      groupEmissions file window (blocksOf file) group := by
    rw [Sending.transmitted, status, List.append_nil, sent, List.drop_left]
  have settled : session = ⟨.transferring ackTimeout buffer sending,
      log ++ (render (groupEmissions file window (blocksOf file) group) buffer).1.map .sent⟩ := by
    simp only [session, Serving.settle, transmitted, status, same]
  rw [settled]
  exact ⟨⟨ackTimeout, buffer, sending, rfl, long, cooperating⟩, _, rfl, datagrams⟩

/-- Every group of the file lies in one cycle of the block numbers. -/
def Aligned (file : F) (window : Window) : Prop :=
  ∀ group, group * window.buffers.length < blocksOf file →
    InOneCycle 65536 window.buffers.length (blocksOf file) group

theorem ends_blocksOf (file : F) (sized : window.blockSize.toNat = defaultBlockSize) :
    Ends file window.blockSize.toNat (blocksOf file) := by
  rw [sized]
  exact ends_blockCount file (by decide)

/-- A transfer starts with its first group. -/
theorem settle_start (sized : window.blockSize.toNat = defaultBlockSize)
    (aligned : Aligned file window) (log : List Entry) (ackTimeout : AckTimeout)
    {buffer : List UInt8} (long : buffer.length = 65535) :
    let session := Serving.settle log ackTimeout buffer 0 (Sending.start file window [])
    Sends file window 0 session ∧ ∃ entries, session.log = log ++ entries ∧
      entries.filterMap sentDatagram = groupDatagrams (FullReads.remaining file)
        window.buffers.length (blocksOf file) 0 := by
  intro session
  have some : 0 * window.buffers.length < blocksOf file := by
    rw [Nat.zero_mul]
    exact Nat.succ_pos _
  have flying := Flying.new file window
  rw [← Nat.zero_mul window.buffers.length] at flying
  have ends := ends_blocksOf file sized
  apply settle_group sized log ackTimeout long [] (going_start file window ends)
  exact Cooperating.enter_sent flying (Shaped.new file window) rfl rfl ends
    (Nat.zero_mul _).symm some (aligned 0 some)

/-- The acknowledge of a group is answered with the next group, and the acknowledge of the last
group ends the session. -/
theorem Sends.receive {session : Serving F} (sends : Sends file window group session)
    (sized : window.blockSize.toNat = defaultBlockSize) (aligned : Aligned file window)
    (schedule : ReadRequest → Scheduled F) :
    let last := min ((group + 1) * window.buffers.length) (blocksOf file)
    (last = blocksOf file → ∃ next, Host.receive schedule (.serving session)
      (ackDatagram (UInt16.ofNat last)) = ([], .serving next) ∧ next.stage = .closed) ∧
    (last ≠ blocksOf file → ∃ next, Host.receive schedule (.serving session)
      (ackDatagram (UInt16.ofNat last)) = (groupDatagrams (FullReads.remaining file)
        window.buffers.length (blocksOf file) (group + 1), .serving next) ∧
      Sends file window (group + 1) next) := by
  intro last
  obtain ⟨ackTimeout, buffer, sending, stage, long, cooperating⟩ := sends
  obtain ⟨attempts, status⟩ := cooperating.status
  have ends := ends_blocksOf file sized
  have inside := aligned group cooperating.some
  have read : sending.transfer.blocksRead = last := cooperating.pending.2
  have index : sending.transfer.lastReadIndex = UInt16.ofNat last := by
    rw [cooperating.flying.lastReadIndex, read]
  let ack : Arrival := .datagram true (ackDatagram (UInt16.ofNat last))
  let received : Entry := .received [ack] (.ok (UInt16.ofNat last))
  have resumed : session.resume [ack] = Serving.settle (session.log ++ [received]) ackTimeout
      (overwrite buffer 0 (ackDatagram (UInt16.ofNat last))) sending.line.sent.length
      (enterLoop { sending.transfer with
        lastAcknowledgedIndex := sending.transfer.lastReadIndex } sending.line) := by
    rw [Serving.resume, stage]
    dsimp only [ack, received]
    rw [readAcknowledge_ackDatagram _ (by omega), ← index,
      Sending.resume_accepted status (cooperating.accepts_iff.mpr inside)]
  -- The client sees the entries that are new on the log.
  have answers (entries : List Entry) {datagrams : List (List UInt8)} {next : Serving F}
      (same : session.resume [ack] = next) (extended : next.log = session.log ++ received :: entries)
      (sent : entries.filterMap sentDatagram = datagrams) :
      Host.receive schedule (.serving session) (ackDatagram (UInt16.ofNat last)) =
        (datagrams, .serving next) := by
    have step : Host.receive schedule (.serving session) (ackDatagram (UInt16.ofNat last)) =
      (((session.resume [ack]).log.drop session.log.length).filterMap sentDatagram,
        .serving (session.resume [ack])) := rfl
    rw [step, same, extended, List.drop_left, List.filterMap_cons_none rfl, sent]
  constructor
  · intro finished
    have done : { sending.transfer with
        lastAcknowledgedIndex := sending.transfer.lastReadIndex }.done = true :=
      (cooperating.done_iff ends).mpr (read.trans finished)
    rw [enterLoop_done _ _ done] at resumed
    refine ⟨_, answers [] resumed ?_ rfl, ?_⟩
    · simp [Serving.settle, Sending.transmitted, render]
    · simp [Serving.settle]
  · intro unequal
    have more : sending.transfer.blocksRead ≠ blocksOf file := by rwa [read]
    obtain ⟨flying, unfinished, full⟩ := cooperating.regrouped ends more
    have some : (group + 1) * window.buffers.length < blocksOf file := by omega
    have kept : (overwrite buffer 0 (ackDatagram (UInt16.ofNat last))).length = 65535 := by
      rw [overwrite_length, long]
    obtain ⟨next, entries, extended, sent⟩ := settle_group sized (session.log ++ [received])
      ackTimeout kept sending.line.sent (cooperating.acknowledged_more ends inside more)
      (Cooperating.enter_sent flying (cooperating.shaped.acknowledge _) unfinished
        cooperating.clear ends full some (aligned (group + 1) some))
    rw [List.append_assoc] at extended
    exact ⟨_, answers entries resumed extended sent, next⟩

end

end Rtftp.Client

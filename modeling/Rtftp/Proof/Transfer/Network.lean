import Rtftp.Proof.Transfer.Receiver
import Rtftp.Proof.Transfer.Completion

namespace Rtftp.PeerHandler
open Library

variable {O : Type}

/-- The server sends no ERROR. -/
def Quiet (session : Session O) : Prop := ∀ error, .error error ∉ session.server.transmitted

variable [OpenedFile O]

/-- A timeout leaves the server at least one more attempt, and only datagrams in flight are
delivered. -/
def Enabled (session : Session O) : Event → Prop
  | .timeout => ∃ toSend attempts, session.server.status = .awaiting toSend (attempts + 1)
  | .deliverData place => place < session.data.length
  | .deliverAck place => place < session.acks.length

/-- The delivered acknowledge has a number below the block that the server waits for. -/
def Late (session : Session O) (event : Event) : Prop :=
  ∃ place index toSend attempts, event = .deliverAck place ∧
    session.acks[place]? = some (ackDatagram index) ∧
    session.server.status = .awaiting toSend attempts ∧
    index < session.server.transfer.windowIndex

/-- A silent server has sent blocks only, and it has ended only with success. -/
structure Silent (sending : Sending O) : Prop where
  clear : sending.line.verdicts = []
  blocks : ∀ error, .error error ∉ sending.line.sent
  success : ∀ result, sending.status = .returned result → ∃ totals, result = .ok totals

omit [OpenedFile O] in
/-- A silent server transmits no ERROR. -/
theorem Silent.transmitted {sending : Sending O} (silent : Silent sending) (error : TFTPError) :
    .error error ∉ sending.transmitted := by
  intro member
  rw [Sending.transmitted, List.mem_append] at member
  rcases member with sent | returned
  · exact silent.blocks error sent
  · cases status : sending.status with
    | awaiting toSend attempts =>
        rw [status] at returned
        cases returned
    | returned result =>
        obtain ⟨totals, rfl⟩ := silent.success result status
        rw [status] at returned
        cases returned

omit [OpenedFile O] in
/-- An attempt over a clear line is silent. -/
theorem silent_attempt (transfer : Transfer O) (toSend : UInt16) (line : Line) (attempts : Nat)
    (clear : line.verdicts = []) (blocks : ∀ error, .error error ∉ line.sent) :
    Silent (attempt transfer toSend line (attempts + 1)) := by
  rw [attempt_clear transfer toSend line attempts clear]
  constructor
  case clear => rfl
  case blocks =>
    intro error member
    rw [List.mem_append] at member
    rcases member with old | new
    · exact blocks error old
    · rw [emissions, List.mem_map] at new
      obtain ⟨index, _, impossible⟩ := new
      cases impossible
  case success =>
    intro result impossible
    cases impossible

/-- The head of the loop is silent for a file with full reads. -/
theorem silent_enterLoop [FullReads O] (transfer : Transfer O) (line : Line)
    (clear : line.verdicts = []) (blocks : ∀ error, .error error ∉ line.sent) :
    Silent (enterLoop transfer line) := by
  cases finished : transfer.done with
  | true =>
      rw [enterLoop_done transfer line finished]
      refine ⟨clear, blocks, ?_⟩
      intro result returned
      cases returned
      exact ⟨_, rfl⟩
  | false =>
      obtain ⟨toSend, next, filled⟩ := transfer.fill_returns
      simp only [enterLoop, finished, filled, Bool.false_eq_true, if_false]
      exact silent_attempt next toSend line 4 clear blocks

/-- A silent server stays silent when it takes an acknowledge that is not below its window. -/
theorem Silent.resume_ok [FullReads O] {sending : Sending O} (silent : Silent sending)
    {index : UInt16}
    (current : ∀ toSend attempts, sending.status = .awaiting toSend attempts →
      sending.transfer.windowIndex ≤ index) : Silent (sending.resume (.ok index)) := by
  cases status : sending.status with
  | returned result => rwa [Sending.resume_returned status]
  | awaiting toSend attempts =>
      rw [Sending.resume_accepted status (current toSend attempts status)]
      exact silent_enterLoop _ _ silent.clear silent.blocks

/-- The buffer has room for an acknowledge, and only acknowledges go to the server. -/
structure Formed (session : Session O) : Prop where
  room : 4 ≤ session.buffer.length
  acks : ∀ ack ∈ session.acks, ∃ index, ack = ackDatagram index

/-- A delivered acknowledge reaches the server with its number. -/
theorem Formed.deliverAck {session : Session O} (formed : Formed session) {place : Nat}
    (inside : place < session.acks.length) :
    ∃ index, session.acks[place]? = some (ackDatagram index) ∧
      session.step (.deliverAck place) =
        { session with acks := session.acks.eraseIdx place }.serve
          (.ok index, overwrite session.buffer 0 (ackDatagram index)) := by
  obtain ⟨index, same⟩ := formed.acks _ (List.getElem_mem inside)
  have found : session.acks[place]? = some (ackDatagram index) := by
    rw [List.getElem?_eq_getElem inside, same]
  refine ⟨index, found, ?_⟩
  simp only [Session.step, found, readAcknowledge_ackDatagram index session.buffer formed.room]

/-- Every step keeps the session formed. -/
theorem Formed.step {session : Session O} (formed : Formed session) (event : Event)
    (enabled : Enabled session event) : Formed (session.step event) := by
  cases event with
  | timeout => exact ⟨formed.room, formed.acks⟩
  | deliverData place =>
      simp only [Session.step]
      cases found : session.data[place]? with
      | none => exact formed
      | some datagram =>
          refine ⟨formed.room, ?_⟩
          intro ack member
          rw [List.mem_append] at member
          rcases member with old | new
          · exact formed.acks ack old
          · exact session.receiver.reply_formed datagram ack new
  | deliverAck place =>
      obtain ⟨index, _, taken⟩ := formed.deliverAck enabled
      rw [taken]
      constructor
      · change 4 ≤ (overwrite session.buffer 0 (ackDatagram index)).length
        rw [overwrite_length]
        exact formed.room
      · intro ack member
        exact formed.acks ack (List.mem_of_mem_eraseIdx member)

/-- A session without late acknowledges is silent. -/
theorem Silent.step [FullReads O] {session : Session O} (silent : Silent session.server)
    (formed : Formed session) (event : Event) (enabled : Enabled session event)
    (onTime : ¬ Late session event) : Silent (session.step event).server := by
  cases event with
  | timeout =>
      obtain ⟨toSend, attempts, status⟩ := enabled
      change Silent (session.server.resume (.error .timeout))
      rw [Sending.resume_timeout status]
      exact silent_attempt _ _ _ attempts silent.clear silent.blocks
  | deliverData place =>
      simp only [Session.step]
      cases found : session.data[place]? with
      | none => exact silent
      | some datagram => exact silent
  | deliverAck place =>
      obtain ⟨index, found, taken⟩ := formed.deliverAck enabled
      rw [taken]
      apply silent.resume_ok
      intro toSend attempts status
      by_contra below
      apply onTime
      exact ⟨place, index, toSend, attempts, rfl, found, status, UInt16.not_le.mp below⟩

/-- A late acknowledge makes the server send an ERROR. -/
theorem Formed.late {session : Session O} (formed : Formed session) {event : Event}
    (late : Late session event) :
    .error (.undefined "Received ACK from the past") ∈ (session.step event).server.transmitted ∧
      (session.step event).server.status =
        .returned (.error (.undefined "Unknown error occurred")) := by
  obtain ⟨place, index, toSend, attempts, rfl, found, status, below⟩ := late
  obtain ⟨inside, _⟩ := List.getElem?_eq_some_iff.mp found
  obtain ⟨other, same, taken⟩ := formed.deliverAck inside
  rw [found, Option.some.injEq] at same
  obtain rfl := ackDatagram_inj same
  rw [taken]
  change _ ∈ (session.server.resume (.ok index)).transmitted ∧
    (session.server.resume (.ok index)).status = _
  rw [Sending.resume_past status (UInt16.not_le.mpr below)]
  constructor
  · rw [Sending.transmitted, fireError_sent]
    simp
  · rfl

omit [OpenedFile O] in
/-- A DATA datagram in flight was sent as a block. -/
theorem mem_dataSent {sent : List Emission} {datagram : List UInt8}
    (member : datagram ∈ dataSent sent) : ∃ index, .block index datagram ∈ sent := by
  rw [dataSent, List.mem_filterMap] at member
  obtain ⟨emission, inside, same⟩ := member
  cases emission with
  | block index bytes =>
      obtain rfl := Option.some.inj same
      exact ⟨index, inside⟩
  | error error => cases same

/-- Every datagram in flight has the number of a block that was read. -/
structure Numbered (file : O) (blockSize : UInt16) (session : Session O) : Prop where
  tracked : Tracked file (Window.new blockSize 1 (by decide)) session.server
  sound : Sound file session.server
  data : ∀ datagram ∈ session.data, ∃ position, 1 ≤ position ∧
    position ≤ session.server.transfer.blocksRead ∧
    datagram = blockDatagram file blockSize.toNat position
  acks : ∀ ack ∈ session.acks, ∃ position, 1 ≤ position ∧
    position ≤ session.server.transfer.blocksRead ∧
    ack = ackDatagram (UInt16.ofNat position)

variable {file : O} {blockSize : UInt16} {session : Session O}

/-- The datagrams of a sound server are exact, since its window is a single slot. -/
theorem Sound.dataSent {sending : Sending O} (sound : Sound file sending)
    (tracked : Tracked file (Window.new blockSize 1 (by decide)) sending) {datagram : List UInt8}
    {index : UInt16} (sent : .block index datagram ∈ sending.line.sent) :
    ∃ position, 1 ≤ position ∧ position ≤ sending.transfer.blocksRead ∧
      datagram = blockDatagram file blockSize.toNat position := by
  obtain ⟨position, counted, within, _, exactly⟩ := sound.traced index datagram sent
  have single : sending.transfer.window.buffers.length = 1 := tracked.length
  have size : sending.transfer.window.blockSize = blockSize := tracked.blockSize
  rw [size] at exactly
  exact ⟨position, counted, within, exactly (.inl (by rw [single]; exact Nat.one_dvd _))⟩

/-- The server keeps the numbers when it takes a bounded outcome. -/
theorem Numbered.serve (numbered : Numbered file blockSize session) {ack : AckResult}
    (buffer : List UInt8) (bounded : Bounded session.server ack) :
    Numbered file blockSize (session.serve (ack, buffer)) := by
  have grown := session.server.resume_blocksRead ack
  have tracked := numbered.tracked.resume ack
  have sound := numbered.sound.resume ack bounded
  constructor
  case tracked => exact tracked
  case sound => exact sound
  case data =>
    intro datagram member
    change datagram ∈ session.data ++ _ at member
    rw [List.mem_append] at member
    rcases member with old | new
    · obtain ⟨position, counted, within, same⟩ := numbered.data datagram old
      exact ⟨position, counted, Nat.le_trans within grown, same⟩
    · obtain ⟨index, sent⟩ := mem_dataSent new
      exact sound.dataSent tracked (List.mem_of_mem_drop sent)
  case acks =>
    intro answer member
    obtain ⟨position, counted, within, same⟩ := numbered.acks answer member
    exact ⟨position, counted, Nat.le_trans within grown, same⟩

/-- Before the indices wrap, every acknowledge in flight is bounded. -/
theorem Numbered.bounded (numbered : Numbered file blockSize session)
    (unwrapped : session.server.transfer.blocksRead ≤ 65535) {position : Nat}
    (within : position ≤ session.server.transfer.blocksRead) :
    Bounded session.server (.ok (UInt16.ofNat position)) := by
  intro index toSend attempts same waiting
  obtain rfl := Except.ok.inj same
  obtain ⟨acked, burst⟩ := numbered.sound.burst toSend attempts waiting
  have pending := burst.pending
  rw [burst.count, burst.unacknowledgedCount, Transfer.windowIndex, burst.acknowledged, serial_succ,
    serial_toNat _ (by omega), serial_toNat _ (by omega)]
  omega

/-- Before the indices wrap, every step keeps the numbers. -/
theorem Numbered.step (numbered : Numbered file blockSize session) (formed : Formed session)
    (unwrapped : session.server.transfer.blocksRead ≤ 65535) (event : Event)
    (enabled : Enabled session event) : Numbered file blockSize (session.step event) := by
  cases event with
  | timeout =>
      apply numbered.serve
      intro index toSend attempts impossible
      cases impossible
  | deliverData place =>
      simp only [Session.step]
      cases found : session.data[place]? with
      | none => exact numbered
      | some datagram =>
          refine ⟨numbered.tracked, numbered.sound, ?_, ?_⟩
          · intro other member
            exact numbered.data other (List.mem_of_mem_eraseIdx member)
          · intro ack member
            rw [List.mem_append] at member
            rcases member with old | new
            · exact numbered.acks ack old
            · obtain ⟨position, counted, within, rfl⟩ :=
                numbered.data datagram (List.mem_of_getElem? found)
              rw [Receiver.reply_blockDatagram] at new
              split at new
              · exact ⟨position, counted, within, List.mem_singleton.mp new⟩
              · cases new
  | deliverAck place =>
      obtain ⟨index, found, taken⟩ := formed.deliverAck enabled
      obtain ⟨position, counted, within, same⟩ :=
        numbered.acks _ (List.mem_of_getElem? found)
      obtain rfl := ackDatagram_inj same
      have fewer : Numbered file blockSize
          { session with acks := session.acks.eraseIdx place } :=
        ⟨numbered.tracked, numbered.sound, numbered.data,
          fun ack member => numbered.acks ack (List.mem_of_mem_eraseIdx member)⟩
      rw [taken]
      exact fewer.serve _ (numbered.bounded unwrapped within)

/-- A step never takes a block back. -/
theorem Session.step_blocksRead (session : Session O) (event : Event) :
    session.server.transfer.blocksRead ≤ (session.step event).server.transfer.blocksRead := by
  cases event with
  | timeout => exact session.server.resume_blocksRead _
  | deliverData place =>
      simp only [Session.step]
      split <;> exact Nat.le_refl _
  | deliverAck place =>
      simp only [Session.step]
      split
      · exact session.server.resume_blocksRead _
      · exact Nat.le_refl _

/-- The buffer and the acknowledges are formed in every run. -/
theorem formed_of_reach (openedFile : O) (blockSize : UInt16) (buffer : List UInt8)
    (room : 4 ≤ buffer.length)
    (reached : Reach Session.step Enabled (Session.start openedFile blockSize buffer) session) :
    Formed session := by
  apply reached.invariant Formed
  · exact ⟨room, fun ack member => by cases member⟩
  · intro state event formed enabled
    exact formed.step event enabled

/-- Before the indices wrap, every datagram in flight is numbered. -/
theorem numbered_of_reach (openedFile : O) (blockSize : UInt16) (buffer : List UInt8)
    (room : 4 ≤ buffer.length)
    (reached : Reach Session.step Enabled (Session.start openedFile blockSize buffer) session)
    (unwrapped : session.server.transfer.blocksRead ≤ 65535) :
    Numbered openedFile blockSize session := by
  induction reached with
  | start =>
      have begun : Reach Sending.resume InBurst
          (Sending.start openedFile (Window.new blockSize 1 (by decide)) [])
          (Sending.start openedFile (Window.new blockSize 1 (by decide)) []) := .start
      have tracked := tracked_of_reach openedFile _ [] begun
      have sound := sound_of_reach openedFile _ [] begun
      refine ⟨tracked, sound, ?_, fun ack member => by cases member⟩
      intro datagram member
      obtain ⟨index, sent⟩ := mem_dataSent member
      exact sound.dataSent tracked sent
  | next earlier enabled ih =>
      rename_i state event
      have before := Nat.le_trans (state.step_blocksRead event) unwrapped
      exact (ih before).step (formed_of_reach openedFile blockSize buffer room earlier) before event
        enabled

/-- Before the indices wrap, an acknowledge in flight is below the window exactly when its block was
acknowledged before. -/
theorem Numbered.late_iff (numbered : Numbered file blockSize session)
    (unwrapped : session.server.transfer.blocksRead ≤ 65535) {position : Nat}
    (within : position ≤ session.server.transfer.blocksRead) {toSend : UInt16} {attempts : Nat}
    (waiting : session.server.status = .awaiting toSend attempts) :
    UInt16.ofNat position < session.server.transfer.windowIndex ↔
      position ≤ session.server.transfer.lastAcknowledgedIndex.toNat := by
  obtain ⟨acked, burst⟩ := numbered.sound.burst toSend attempts waiting
  have pending := burst.pending
  rw [UInt16.lt_iff_toNat_lt, Transfer.windowIndex, burst.acknowledged, serial_succ,
    serial_toNat _ (by omega), serial_toNat _ (by omega), serial_toNat _ (by omega)]
  omega

end Rtftp.PeerHandler

import Rtftp.Proof.Transfer.Lockstep
import Rtftp.Proof.Transfer.Network

namespace Rtftp.PeerHandler
open Library

variable {O : Type} [OpenedFile O] {file : O} {blockSize : UInt16} {session : Session O}

/-- The session after a served outcome is known from the server after it. -/
theorem Session.serve_eq (session : Session O) (read : AckResult × List UInt8) (server : Sending O)
    (resumed : session.server.resume read.1 = server) :
    session.serve read = { session with
      server := server
      buffer := read.2
      data := session.data ++
        dataSent (server.line.sent.drop session.server.line.sent.length) } := by
  rw [serve, resumed]

/-- One block is in flight, as its datagram or as its acknowledge. -/
structure Turn (file : O) (blockSize : UInt16) (acked : Nat) (session : Session O) : Prop where
  shaped : Shaped file (Window.new blockSize 1 (by decide)) session.server.transfer
  flying : Flying file acked session.server.transfer
  read : session.server.transfer.blocksRead = acked + 1
  clear : session.server.line.verdicts = []
  status : ∃ attempts, session.server.status =
    .awaiting session.server.transfer.unacknowledgedCount attempts
  flight : session.data = [blockDatagram file blockSize.toNat (acked + 1)] ∧ session.acks = [] ∧
      session.receiver.blocks = acked ∨
    session.data = [] ∧ session.acks = [ackDatagram (UInt16.ofNat (acked + 1))] ∧
      session.receiver.blocks = acked + 1

/-- The session has ended with nothing in flight. -/
structure Ended (session : Session O) : Prop where
  status : ∃ result, session.server.status = .returned result
  data : session.data = []
  acks : session.acks = []

/-- The acknowledge in flight is never late in turn. -/
theorem Turn.onTime {acked : Nat} (turn : Turn file blockSize acked session) (event : Event) :
    ¬ Late session event := by
  rintro ⟨place, index, toSend, attempts, _, found, _, below⟩
  have window : session.server.transfer.windowIndex = UInt16.ofNat (acked + 1) := by
    rw [Transfer.windowIndex, turn.flying.acknowledged, serial_succ]
  rcases turn.flight with ⟨_, none, _⟩ | ⟨_, one, _⟩
  · rw [none] at found
    cases found
  · rw [one] at found
    have only := List.mem_singleton.mp (List.mem_of_getElem? found)
    rw [ackDatagram_inj only, window] at below
    exact absurd below (UInt16.lt_irrefl _)

/-- The receiver takes the block in flight and answers it. -/
theorem Turn.deliverData {acked : Nat} (turn : Turn file blockSize acked session) {place : Nat}
    (inside : place < session.data.length) :
    Turn file blockSize acked (session.step (.deliverData place)) := by
  rcases turn.flight with ⟨data, acks, blocks⟩ | ⟨data, _, _⟩
  · have first : place = 0 := by
      rw [data, List.length_singleton] at inside
      omega
    subst place
    have found : session.data[0]? = some (blockDatagram file blockSize.toNat (acked + 1)) := by
      rw [data]
      rfl
    have answered : session.receiver.reply (blockDatagram file blockSize.toNat (acked + 1)) =
        [ackDatagram (UInt16.ofNat (acked + 1))] := by
      rw [Receiver.reply_blockDatagram, if_pos]
      rw [List.any_eq_true]
      exact ⟨acked, List.mem_range.mpr (by omega), beq_self_eq_true _⟩
    have taken : (session.receiver.accept
        (blockDatagram file blockSize.toNat (acked + 1))).blocks = acked + 1 := by
      change (if fromBeBytes _ _ = UInt16.ofNat (session.receiver.blocks + 1) then _ else _ :
        Receiver).blocks = _
      rw [fromBeBytes_beBytes, blocks, if_pos rfl]
    simp only [Session.step, found]
    refine ⟨turn.shaped, turn.flying, turn.read, turn.clear, turn.status, .inr ⟨?_, ?_, taken⟩⟩
    · rw [data]
      rfl
    · rw [acks, answered]
      rfl
  · rw [data] at inside
    cases inside

/-- The server takes the acknowledge in flight and ends or sends the next block. -/
theorem Turn.deliverAck [FullReads O] {acked : Nat} (turn : Turn file blockSize acked session)
    (formed : Formed session) {place : Nat} (inside : place < session.acks.length) :
    Ended (session.step (.deliverAck place)) ∨
      Turn file blockSize (acked + 1) (session.step (.deliverAck place)) := by
  have length : (Window.new blockSize 1 (by decide)).buffers.length = 1 := rfl
  have read := turn.read
  obtain ⟨index, found, taken⟩ := formed.deliverAck inside
  obtain ⟨attempts, status⟩ := turn.status
  rcases turn.flight with ⟨_, acks, _⟩ | ⟨data, acks, blocks⟩
  · rw [acks] at inside
    cases inside
  · have first : place = 0 := by
      rw [acks, List.length_singleton] at inside
      omega
    subst place
    rw [acks] at found
    obtain rfl := ackDatagram_inj (Option.some.inj found)
    have accepted : session.server.transfer.windowIndex ≤ UInt16.ofNat (acked + 1) := by
      rw [Transfer.windowIndex, turn.flying.acknowledged, serial_succ]
      exact UInt16.le_refl _
    have resumed := Sending.resume_accepted status accepted
    rw [taken, acks]
    cases finished : session.server.transfer.done with
    | true =>
        left
        have ended := resumed.trans (enterLoop_done _ _ finished)
        rw [Session.serve_eq _ _ _ ended]
        refine ⟨⟨_, rfl⟩, ?_, rfl⟩
        dsimp only
        rw [data, List.drop_length]
        rfl
    | false =>
        right
        have advanced := turn.flying.acknowledge (v := 0) (by omega)
        rw [turn.flying.index] at advanced
        have readable := turn.flying.toReading.readable_next finished
        rw [turn.shaped.blockSize, read] at readable
        obtain ⟨next, shaped, flying, total, entered⟩ := advanced.enterLoop_fills
          (turn.shaped.acknowledge _) finished session.server.line turn.clear
          (by dsimp only; omega) readable (.inl (by rw [length]))
        rw [length, Nat.add_zero, Nat.min_self] at total
        rw [Nat.add_zero] at flying
        rw [flying.emissions_single (shaped.length.trans length) total, shaped.blockSize] at entered
        have sent := resumed.trans entered
        rw [Session.serve_eq _ _ _ sent]
        refine ⟨shaped, flying, total, rfl, ⟨4, rfl⟩, .inl ⟨?_, rfl, blocks⟩⟩
        dsimp only
        rw [data, List.drop_left]
        rfl

/-- The first turn sends the first block. -/
theorem Turn.start [FullReads O] (openedFile : O) (blockSize : UInt16) (buffer : List UInt8) :
    Turn openedFile blockSize 0 (Session.start openedFile blockSize buffer) := by
  have length : (Window.new blockSize 1 (by decide)).buffers.length = 1 := rfl
  have readable := (Reading.new openedFile (Window.new blockSize 1 (by decide))).readable_next rfl
  obtain ⟨next, shaped, flying, total, entered⟩ :=
    (Flying.new openedFile (Window.new blockSize 1 (by decide))).enterLoop_fills
      (Shaped.new openedFile _) rfl ⟨[], []⟩ rfl (Nat.zero_le _) readable (.inl (Nat.le_refl 1))
  rw [length, Transfer.new, Nat.zero_add, Nat.min_self] at total
  rw [flying.emissions_single (shaped.length.trans length) total, shaped.blockSize] at entered
  simp only [Session.start, Sending.start, entered]
  exact ⟨shaped, flying, total, rfl, ⟨4, rfl⟩, .inl ⟨rfl, rfl, rfl⟩⟩

omit [OpenedFile O] in
/-- Nothing happens after the end. -/
theorem Ended.disabled (ended : Ended session) (event : Event) : ¬ Enabled session event := by
  intro enabled
  cases event with
  | timeout =>
      obtain ⟨toSend, attempts, waiting⟩ := enabled
      obtain ⟨result, returned⟩ := ended.status
      rw [returned] at waiting
      cases waiting
  | deliverData place =>
      change place < session.data.length at enabled
      rw [ended.data] at enabled
      cases enabled
  | deliverAck place =>
      change place < session.acks.length at enabled
      rw [ended.acks] at enabled
      cases enabled

/-- Without timeouts the session always takes turns, until it has ended. -/
theorem turn_of_reach [FullReads O] (openedFile : O) (blockSize : UInt16) (buffer : List UInt8)
    (room : 4 ≤ buffer.length)
    (reached : Reach Session.step (fun state event => Enabled state event ∧ event ≠ .timeout)
      (Session.start openedFile blockSize buffer) session) :
    Ended session ∨ ∃ acked, Turn openedFile blockSize acked session := by
  induction reached with
  | start => exact .inr ⟨0, Turn.start openedFile blockSize buffer⟩
  | @next state event earlier permitted ih =>
      have formed := formed_of_reach openedFile blockSize buffer room
        (earlier.mono fun _ _ both => both.1)
      obtain ⟨enabled, patient⟩ := permitted
      rcases ih with ended | ⟨acked, turn⟩
      · exact absurd enabled (ended.disabled event)
      · cases event with
        | timeout => exact absurd rfl patient
        | deliverData place => exact .inr ⟨acked, turn.deliverData enabled⟩
        | deliverAck place =>
            exact (turn.deliverAck formed enabled).imp_right fun next => ⟨acked + 1, next⟩

/-- The first block of a session never finds an ERROR on the line. -/
theorem silent_start [FullReads O] (openedFile : O) (window : Window) :
    Silent (Sending.start openedFile window []) :=
  silent_enterLoop _ _ rfl fun error member => by cases member

/-- A session without late acknowledges stays quiet. -/
theorem quiet_of_reach [FullReads O] (openedFile : O) (blockSize : UInt16) (buffer : List UInt8)
    (room : 4 ≤ buffer.length)
    (reached : Reach Session.step (fun state event => Enabled state event ∧ ¬ Late state event)
      (Session.start openedFile blockSize buffer) session) : Quiet session := by
  have silent : Silent session.server := by
    induction reached with
    | start => exact silent_start openedFile _
    | next earlier permitted ih =>
        have formed := formed_of_reach openedFile blockSize buffer room
          (earlier.mono fun _ _ both => both.1)
        exact ih.step formed _ permitted.1 permitted.2
  exact silent.transmitted

/-- Under any delays the server sends an ERROR exactly when it takes an acknowledge below its window.
Before the indices wrap this is an acknowledge of a block acknowledged before, and without
timeouts there is none. -/
theorem delayedSession_quiet [FullReads O] (openedFile : O) (blockSize : UInt16)
    (buffer : List UInt8) (room : 4 ≤ buffer.length) :
    (∀ session, Reach Session.step (fun state event => Enabled state event ∧ ¬ Late state event)
      (Session.start openedFile blockSize buffer) session → Quiet session) ∧
    (∀ session event, Reach Session.step Enabled
      (Session.start openedFile blockSize buffer) session → Late session event →
        .error (.undefined "Received ACK from the past") ∈
            (session.step event).server.transmitted ∧
          (session.step event).server.status =
            .returned (.error (.undefined "Unknown error occurred"))) ∧
    (∀ session, Reach Session.step Enabled
      (Session.start openedFile blockSize buffer) session →
        session.server.transfer.blocksRead ≤ 65535 → ∀ ack ∈ session.acks,
          ∃ position, 1 ≤ position ∧ position ≤ session.server.transfer.blocksRead ∧
            ack = ackDatagram (UInt16.ofNat position) ∧
            ∀ toSend attempts, session.server.status = .awaiting toSend attempts →
              (UInt16.ofNat position < session.server.transfer.windowIndex ↔
                position ≤ session.server.transfer.lastAcknowledgedIndex.toNat)) ∧
    (∀ session, Reach Session.step (fun state event => Enabled state event ∧ event ≠ .timeout)
      (Session.start openedFile blockSize buffer) session →
        Quiet session ∧ ∀ event, ¬ Late session event) := by
  have onTime (session : Session O) (reached : Reach Session.step
      (fun state event => Enabled state event ∧ event ≠ .timeout)
      (Session.start openedFile blockSize buffer) session) (event : Event) :
      ¬ Late session event := by
    rcases turn_of_reach openedFile blockSize buffer room reached with ended | ⟨acked, turn⟩
    · rintro ⟨place, index, toSend, attempts, _, found, _⟩
      rw [ended.acks] at found
      cases found
    · exact turn.onTime event
  refine ⟨?_, ?_, ?_, ?_⟩
  · intro session reached
    exact quiet_of_reach openedFile blockSize buffer room reached
  · intro session event reached late
    exact (formed_of_reach openedFile blockSize buffer room reached).late late
  · intro session reached unwrapped ack member
    have numbered := numbered_of_reach openedFile blockSize buffer room reached unwrapped
    obtain ⟨position, counted, within, same⟩ := numbered.acks ack member
    refine ⟨position, counted, within, same, ?_⟩
    intro toSend attempts waiting
    exact numbered.late_iff unwrapped within waiting
  · intro session reached
    refine ⟨?_, onTime session reached⟩
    apply quiet_of_reach openedFile blockSize buffer room
    exact reached.narrow fun state event earlier permitted =>
      ⟨permitted.1, onTime state earlier event⟩

/-- The session is quiet after its first block and the acknowledge of it have come in time. -/
theorem delayedSession_quiet_patient :
    Quiet (((Session.start (VirtualOpenedFile.new (List.replicate 8 7)) 8
      (List.replicate 65535 0)).step (.deliverData 0)).step (.deliverAck 0)) := by
  have room : 4 ≤ (List.replicate 65535 (0 : UInt8)).length := by
    rw [List.length_replicate]
    decide
  have reached : Reach Session.step (fun state event => Enabled state event ∧ event ≠ .timeout)
      (Session.start (VirtualOpenedFile.new (List.replicate 8 7)) 8 (List.replicate 65535 0))
      (((Session.start (VirtualOpenedFile.new (List.replicate 8 7)) 8
        (List.replicate 65535 0)).step (.deliverData 0)).step (.deliverAck 0)) := by
    apply Reach.next (Reach.next Reach.start _) _
    · exact ⟨by change 0 < _; decide, by simp⟩
    · exact ⟨by change 0 < _; decide, by simp⟩
  exact ((delayedSession_quiet _ 8 _ room).2.2.2 _ reached).1

/-- The first block of a file timed out once, and both copies have reached the receiver. -/
def repeatedBlock : Session VirtualOpenedFile :=
  (((Session.start (VirtualOpenedFile.new (List.replicate 8 7)) 8 (List.replicate 65535 0)).step
    .timeout).step (.deliverData 0)).step (.deliverData 0)

/-- One timeout and no loss are enough to make the server send an ERROR. -/
theorem delayedSession_aborted :
    ¬ ∀ session, Reach Session.step Enabled
      (Session.start (VirtualOpenedFile.new (List.replicate 8 7)) 8 (List.replicate 65535 0))
      session → Quiet session := by
  intro quiet
  have room : 4 ≤ (List.replicate 65535 (0 : UInt8)).length := by
    rw [List.length_replicate]
    decide
  have once : Enabled (Session.start (VirtualOpenedFile.new (List.replicate 8 7)) 8
      (List.replicate 65535 0)) .timeout := ⟨1, 3, by decide⟩
  have reached : Reach Session.step Enabled
      (Session.start (VirtualOpenedFile.new (List.replicate 8 7)) 8 (List.replicate 65535 0))
      repeatedBlock := by
    refine .next (.next (.next .start once) ?_) ?_
    · change 0 < _
      decide
    · change 0 < _
      decide
  have formed := formed_of_reach _ _ _ room reached
  have both : repeatedBlock.acks = [ackDatagram 1, ackDatagram 1] := by decide
  have first : Enabled repeatedBlock (.deliverAck 0) := by
    change 0 < repeatedBlock.acks.length
    rw [both]
    decide
  obtain ⟨index, found, taken⟩ := formed.deliverAck first
  rw [both] at found
  obtain rfl : 1 = index := ackDatagram_inj (Option.some.inj found)
  have late : Late (repeatedBlock.step (.deliverAck 0)) (.deliverAck 0) := by
    rw [taken]
    exact ⟨0, 1, 1, 4, rfl, by decide, by decide, by decide⟩
  have second : Enabled (repeatedBlock.step (.deliverAck 0)) (.deliverAck 0) := by
    change 0 < (repeatedBlock.step (.deliverAck 0)).acks.length
    rw [taken]
    decide
  have aborted := (formed_of_reach _ _ _ room (reached.next first)).late late
  exact quiet _ (.next (.next reached first) second) _ aborted.1

end Rtftp.PeerHandler

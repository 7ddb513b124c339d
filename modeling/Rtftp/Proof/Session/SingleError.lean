import Rtftp.Proof.ErrorDatagram
import Rtftp.Proof.Session.Discipline

namespace Rtftp.PeerHandler
open Library

/-- These datagrams are no errors. -/
def Errorless (sent : List Transmission) : Prop :=
  ∀ error datagram, .error error datagram ∉ sent

/-- Nothing is sent after an error. -/
def Final (before : List Entry) : Entry → Prop
  | .received _ _ => True
  | .sent _ => Errorless (transmissions before)

/-- The acknowledge is not below the window of the burst. -/
def Phase.Present (phase : Phase) (result : AckResult) : Prop :=
  ∀ acked count bytes left index, phase = .bursting acked count bytes left →
    result = .ok index → acked + 1 ≤ index

/-- An error comes last and ends the session. -/
def Ending (sent : List Transmission) (next : Phase) : Prop :=
  ∃ blocks fired, sent = blocks ++ fired ∧ Errorless blocks ∧ Fired fired ∧
    (next ≠ .over → fired = [])

theorem Ending.fired {sent : List Transmission} (fired : Fired sent) : Ending sent .over :=
  ⟨[], sent, rfl, fun _ _ member => (nomatch member), fired, fun live => absurd rfl live⟩

theorem Ending.errorless {sent : List Transmission} (errorless : Errorless sent) (next : Phase) :
    Ending sent next :=
  ⟨sent, [], (List.append_nil _).symm, errorless, .inl rfl, fun _ => rfl⟩

theorem burst_errorless (acked count : UInt16) (bytes : UInt16 → List UInt8) (taken : Nat) :
    Errorless ((burst acked count bytes).take taken) := by
  intro error datagram member
  obtain ⟨index, block, same⟩ := burst_data _ _ _ _ (List.mem_of_mem_take member)
  cases same

theorem oack_errorless (datagram : List UInt8) : Errorless [.oack datagram] := by
  intro error other member
  cases List.mem_singleton.mp member

theorem Repeats.ending {acked count : UInt16} {bytes : UInt16 → List UInt8} {left : Nat}
    {sent : List Transmission} {next : Phase} (repeats : Repeats acked count bytes left sent next) :
    Ending sent next := by
  cases repeats with
  | whole =>
      have errorless := burst_errorless acked count bytes (burst acked count bytes).length
      rw [List.take_length] at errorless
      exact Ending.errorless errorless _
  | broken taken error =>
      exact ⟨_, _, rfl, burst_errorless _ _ _ taken, error, fun live => absurd rfl live⟩
  | exhausted error => exact Ending.fired error

theorem Begins.ending {acked : UInt16} {sent : List Transmission} {next : Phase}
    (begins : Begins acked sent next) : Ending sent next := by
  cases begins with
  | burst repeats => exact repeats.ending
  | ended error => exact Ending.fired error

theorem Launch.ending {unoptioned : Prop} {sent : List Transmission} {phase : Phase}
    (launched : Launch unoptioned sent phase) : Ending sent phase := by
  cases launched with
  | offer datagram attempts => exact Ending.errorless (oack_errorless datagram) _
  | broken datagram => exact Ending.errorless (oack_errorless datagram) _
  | failed error => exact Ending.fired error
  | transfer none begins => exact begins.ending

/-- Every move but the answer to a past acknowledge sends at most one error. -/
theorem Move.ending {phase next : Phase} {result : AckResult} {sent : List Transmission}
    (moved : Move phase result sent next) (present : phase.Present result) : Ending sent next := by
  have nothing : Errorless [] := fun _ _ member => (nomatch member)
  cases moved with
  | repeatOffer datagram => exact Ending.errorless (oack_errorless datagram) _
  | breakOffer datagram => exact Ending.errorless (oack_errorless datagram) _
  | abandonOffer error => exact Ending.fired error
  | acceptOffer begins => exact begins.ending
  | refuseOffer nonzero error => exact Ending.fired error
  | dropOffer final => exact Ending.errorless nothing _
  | acknowledge present begins => exact begins.ending
  | past late report error => exact absurd (present _ _ _ _ _ rfl rfl) late
  | repeatBurst repeats => exact repeats.ending
  | terminate => exact Ending.errorless nothing _
  | fail broken error => exact Ending.fired error

variable {log : List Entry} {sent : List Transmission}

theorem Errorless.append {first second : List Transmission} (front : Errorless first)
    (back : Errorless second) : Errorless (first ++ second) := by
  intro error datagram member
  rcases List.mem_append.mp member with early | late
  · exact front error datagram early
  · exact back error datagram late

/-- An error that comes last is final. -/
theorem Ending.final {next : Phase} (ending : Ending sent next) (past : Always Final log)
    (errorless : Errorless (transmissions log)) :
    Always Final (log ++ sent.map .sent) ∧
      (next ≠ .over → Errorless (transmissions (log ++ sent.map .sent))) := by
  obtain ⟨blocks, fired, rfl, clean, error, live⟩ := ending
  have silent : Errorless (transmissions (log ++ blocks.map .sent)) := by
    rw [transmissions_append, transmissions_sent]
    exact errorless.append clean
  have always : Always Final (log ++ blocks.map .sent) := by
    apply past.append
    intro before entry after split
    obtain ⟨earlier, rest, rfl, rfl, later⟩ := List.map_eq_append_iff.mp split
    obtain ⟨transmission, following, rfl, rfl, rfl⟩ := List.map_eq_cons_iff.mp later
    change Errorless (transmissions (log ++ earlier.map .sent))
    rw [transmissions_append, transmissions_sent]
    exact errorless.append fun error datagram member =>
      clean error datagram (List.mem_append_left _ member)
  rw [List.map_append, ← List.append_assoc]
  constructor
  · rcases error with rfl | ⟨failure, datagram, rfl⟩
    · rwa [List.map_nil, List.append_nil]
    · exact always.snoc silent
  · intro open'
    rw [live open', List.map_nil, List.append_nil]
    exact silent

theorem Move.live {phase next : Phase} {result : AckResult}
    (moved : Move phase result sent next) : phase ≠ .over := by
  rintro rfl
  cases moved

/-- A transcript without past acknowledges has at most one error, and it comes last. -/
theorem Transcript.final {unoptioned : Prop} {phase : Phase}
    (transcript : Transcript unoptioned Phase.Present phase log) :
    Always Final log ∧ (phase ≠ .over → Errorless (transmissions log)) := by
  induction transcript with
  | launch launched =>
      exact launched.ending.final always_nil fun _ _ member => (nomatch member)
  | @move phase next log arrivals result sent _ permitted _ moved ih =>
      have same : transmissions (log ++ [.received arrivals result]) = transmissions log := by
        simpa using transmissions_received log arrivals result []
      have received : Always Final (log ++ [.received arrivals result]) := ih.1.snoc trivial
      have final := (moved.ending permitted).final received (by
        rw [same]
        exact ih.2 moved.live)
      rwa [List.append_assoc, List.singleton_append] at final

theorem recv_length (minSize : Nat) (arrivals : List Arrival) (buffer : List UInt8) :
    (recv minSize arrivals buffer).2.length = buffer.length := by
  induction arrivals generalizing buffer with
  | nil => rfl
  | cons arrival rest ih =>
      cases arrival with
      | failed => rfl
      | datagram fromPeer bytes =>
          rw [recv]
          split
          · rw [ih, overwrite_length]
          · split
            · rw [ih, overwrite_length]
            · rw [overwrite_length]

/-- The session keeps the size of its buffer whatever it receives. -/
theorem readAcknowledge_length (arrivals : List Arrival) (buffer : List UInt8) :
    (readAcknowledge arrivals buffer).2.length = buffer.length := by
  have kept := recv_length 4 arrivals buffer
  unfold readAcknowledge
  split
  · rename_i read
    rwa [read] at kept
  · rename_i read
    rwa [read] at kept
  · rename_i read
    rwa [read] at kept

theorem fireErrorFrom_length (error : TFTPError) (buffer : List UInt8) :
    (fireErrorFrom error buffer).2.length = buffer.length := by
  have kept := error.serialize_length buffer
  unfold fireErrorFrom
  split
  · rename_i serialized
    rwa [serialized] at kept
  · rename_i serialized
    rwa [serialized] at kept

theorem render_length (emissions : List Emission) (buffer : List UInt8) :
    (render emissions buffer).2.length = buffer.length := by
  induction emissions generalizing buffer with
  | nil => rfl
  | cons emission rest ih =>
      cases emission with
      | block index datagram => exact ih buffer
      | error error => exact (ih _).trans (fireErrorFrom_length error buffer)

/-- An error that fits is sent. -/
theorem fireErrorFrom_fits (error : TFTPError) (buffer : List UInt8)
    (room : 5 + (utf8 error.parse.2).length < buffer.length) :
    ∃ datagram, (fireErrorFrom error buffer).1 = [.error error datagram] := by
  simp only [fireErrorFrom, error.serialize_eq buffer room]
  exact ⟨_, rfl⟩

namespace Offering

theorem attempt_length (offering : Offering) (attempts : Nat) :
    (offering.attempt attempts).buffer.length = offering.buffer.length := by
  cases attempts with
  | zero => exact fireErrorFrom_length _ _
  | succ attempts => rfl

theorem start_length (oack : OptionsAcknowledge) (buffer : List UInt8) (verdicts : List Bool) :
    (start oack buffer verdicts).buffer.length = buffer.length := by
  have kept := oack.serialize_length buffer
  unfold start
  split
  · rename_i serialized
    rw [serialized] at kept
    exact (attempt_length _ _).trans kept
  · rename_i serialized
    rw [serialized] at kept
    exact (fireErrorFrom_length _ _).trans kept
  · rename_i serialized
    rwa [serialized] at kept

theorem resume_length (offering : Offering) (arrivals : List Arrival) :
    (offering.resume arrivals).buffer.length = offering.buffer.length := by
  have kept := readAcknowledge_length arrivals offering.buffer
  cases status : offering.status with
  | returned result => rw [offering.resume_returned arrivals status]
  | awaiting attempts =>
      cases read : readAcknowledge arrivals offering.buffer with
      | mk ack received =>
          rw [read] at kept
          rcases offering.resume_cases arrivals status read with
            ⟨_, resumed⟩ | ⟨_, resumed⟩ | ⟨_, _, _, _, _, resumed⟩ | ⟨_, _, _, _, resumed⟩ |
            ⟨_, _, resumed⟩
          · rw [resumed]
            exact (attempt_length _ _).trans kept
          · rw [resumed]
            exact kept
          · rw [resumed]
            exact (fireErrorFrom_length _ _).trans kept
          · rw [resumed]
            exact kept
          · rw [resumed]
            exact kept

end Offering

variable {O : Type}

namespace Serving

/-- A session that waits has a buffer of this size. -/
def Sized (size : Nat) (serving : Serving O) : Prop :=
  serving.stage ≠ .closed → serving.buffer.length = size

theorem settle_sized {size : Nat} (log : List Entry) (ackTimeout : AckTimeout)
    {buffer : List UInt8} (alreadySent : Nat) (sending : Sending O)
    (sized : buffer.length = size) :
    (settle log ackTimeout buffer alreadySent sending).Sized size := by
  intro live
  cases status : sending.status with
  | awaiting toSend left =>
      simp only [settle, status, Serving.buffer, render_length]
      exact sized
  | returned result => simp [settle, status] at live

variable [OpenedFile O]

theorem proceed_sized {size : Nat} (log : List Entry) {negotiation : Negotiation O}
    (sized : negotiation.offering.buffer.length = size) : (proceed log negotiation).Sized size := by
  unfold proceed
  split
  · exact fun _ => sized
  · exact fun live => absurd rfl live
  · exact settle_sized _ _ _ _ sized

theorem start_sized (openedFile : O) (options : Table String String) (buffer : List UInt8)
    (verdicts : List Bool) : (start openedFile options buffer verdicts).Sized buffer.length := by
  apply proceed_sized
  unfold negotiateOptions
  dsimp only
  split
  · exact Offering.start_length _ _ _
  · rfl

theorem Sized.resume {size : Nat} {serving : Serving O} (sized : serving.Sized size)
    (arrivals : List Arrival) : (serving.resume arrivals).Sized size := by
  unfold Serving.resume
  split
  · exact sized
  · rename_i negotiation stage
    apply proceed_sized
    have kept := sized (by simp [stage])
    simp only [Serving.buffer, stage] at kept
    exact (Offering.resume_length _ _).trans kept
  · rename_i ackTimeout buffer sending stage
    apply settle_sized
    have kept := sized (by simp [stage])
    simp only [Serving.buffer, stage] at kept
    exact (readAcknowledge_length _ _).trans kept

/-- A session does not receive an acknowledge below the window of its burst. -/
def Present (serving : Serving O) (arrivals : List Arrival) : Prop :=
  ∀ ackTimeout buffer sending index, serving.stage = .transferring ackTimeout buffer sending →
    (readAcknowledge arrivals buffer).1 = .ok index → sending.transfer.windowIndex ≤ index

omit [OpenedFile O] in
theorem Present.phase {serving : Serving O} {arrivals : List Arrival}
    (present : serving.Present arrivals) :
    serving.phase.Present (readAcknowledge arrivals serving.buffer).1 := by
  intro acked count bytes left index bursting read
  unfold Serving.phase at bursting
  split at bursting
  · cases bursting
  · split at bursting
    · cases bursting
    · cases bursting
  · rename_i ackTimeout buffer sending stage
    split at bursting
    · obtain ⟨rfl, _, _, _⟩ := Phase.bursting.inj bursting
      apply present ackTimeout buffer sending index stage
      simpa only [Serving.buffer, stage] using read
    · cases bursting

/-- A past acknowledge is answered with two errors. -/
theorem resume_past {serving : Serving O} {ackTimeout : AckTimeout} {buffer : List UInt8}
    {sending : Sending O} {toSend index : UInt16} {left : Nat} {arrivals : List Arrival}
    (stage : serving.stage = .transferring ackTimeout buffer sending)
    (waiting : sending.status = .awaiting toSend left) (sized : buffer.length = 65535)
    (read : (readAcknowledge arrivals buffer).1 = .ok index)
    (past : ¬ sending.transfer.windowIndex ≤ index) :
    ¬ Always Final (serving.resume arrivals).log := by
  have kept := readAcknowledge_length arrivals buffer
  obtain ⟨first, report⟩ := fireErrorFrom_fits (.undefined "Received ACK from the past")
    (readAcknowledge arrivals buffer).2 (by rw [kept, sized]; decide)
  obtain ⟨second, error⟩ := fireErrorFrom_fits (.undefined "Unknown error occurred")
    (fireErrorFrom (.undefined "Received ACK from the past") (readAcknowledge arrivals buffer).2).2
    (by rw [fireErrorFrom_length, kept, sized]; decide)
  have logged : (serving.resume arrivals).log =
      (serving.log ++ [.received arrivals (.ok index)] ++
        [.sent (.error (.undefined "Received ACK from the past") first)]) ++
      .sent (.error (.undefined "Unknown error occurred") second) :: [] := by
    simp only [Serving.resume, stage, read, Sending.resume_past waiting past, settle,
      Sending.transmitted, fireError_sent, List.append_assoc, List.drop_left, List.cons_append,
      List.nil_append, render, report, error, List.append_nil, List.map_cons, List.map_nil]
  intro always
  have errorless := always _ _ _ logged
  apply errorless (.undefined "Received ACK from the past") first
  rw [transmissions_append]
  exact List.mem_append_right _ (List.mem_singleton_self _)

/-- A session that never receives a past acknowledge sends at most one error, and it sends it last.
The first past acknowledge breaks this. -/
theorem session_singleError_iff (openedFile : O) (options : Table String String)
    (verdicts : List Bool) {serving : Serving O}
    (reached : Reach Serving.resume Present
      (start openedFile options (List.replicate 65535 0) verdicts) serving) :
    Always Final serving.log ∧ ∀ arrivals,
      Always Final (serving.resume arrivals).log ↔ serving.Present arrivals := by
  have simulated := Serving.reach_simulates Phase.Present
    (reached.mono fun serving arrivals (present : serving.Present arrivals) => present.phase)
  have sized : serving.Sized 65535 := by
    apply reached.invariant (Sized 65535)
    · simpa only [List.length_replicate] using
        start_sized openedFile options (List.replicate 65535 0) verdicts
    · exact fun serving arrivals sized _ => sized.resume arrivals
  refine ⟨simulated.transcript.final.1, fun arrivals => ⟨?_, fun present => ?_⟩⟩
  · intro always ackTimeout buffer sending index stage read
    by_contra past
    cases status : sending.status with
    | awaiting toSend left =>
        have length := sized (by simp [stage])
        simp only [Serving.buffer, stage] at length
        exact resume_past stage status length read past always
    | returned result =>
        have closed := simulated.settled (by simp only [phase, stage, status])
        rw [stage] at closed
        cases closed
  · exact (simulated.resume arrivals present.phase).transcript.final.1

/-- A session that hears nothing sends no second error. -/
theorem session_singleError_silent :
    Always Final ((start (VirtualOpenedFile.new [0x2A]) .empty (List.replicate 65535 0)
      []).resume []).log := by
  have present : (start (VirtualOpenedFile.new [0x2A]) .empty (List.replicate 65535 0) []).Present
      [] := by
    intro ackTimeout buffer sending index _ read
    cases read
  exact (session_singleError_iff (VirtualOpenedFile.new [0x2A]) .empty [] (.next .start present)).1

/-- This is a transfer of one byte with the default sizes. -/
def lone : Sending VirtualOpenedFile :=
  Sending.start (VirtualOpenedFile.new [0x2A]) (Window.new 512 1 Nat.zero_lt_one) []

-- The buffer of a block has 516 bytes, and each is a step of the evaluation.
set_option maxRecDepth 4096 in
theorem lone_waits : lone.status = .awaiting 1 4 := rfl

set_option maxRecDepth 4096 in
theorem lone_window : lone.transfer.windowIndex = 1 := rfl

set_option maxRecDepth 4096 in
theorem lone_rendered (buffer : List UInt8) :
    (render (lone.transmitted.drop 0) buffer).2 = buffer := rfl

/-- A session without options waits with its first block out. -/
theorem start_unoptioned (buffer : List UInt8) :
    (start (VirtualOpenedFile.new [0x2A]) .empty buffer []).stage =
      .transferring .default buffer lone := by
  change (settle [] .default buffer 0 lone).stage = _
  simp only [settle, lone_waits, lone_rendered]

/-- A client that acknowledges block zero without any options gets two errors. -/
theorem session_singleError_broken :
    ¬ Always Final ((start (VirtualOpenedFile.new [0x2A]) .empty (List.replicate 65535 0)
      []).resume [.datagram true [0x00, 0x04, 0x00, 0x00]]).log := by
  have read : (readAcknowledge [.datagram true [0x00, 0x04, 0x00, 0x00]]
      (List.replicate 65535 0)).1 = .ok 0 := by
    rw [readAcknowledge_datagram _ _ (by decide) (by rw [List.length_replicate]; decide)]
    exact parseAcknowledge_header 0x00 0x04 0x00 0x00 _
  exact resume_past (start_unoptioned _) lone_waits List.length_replicate read
    (by rw [lone_window]; decide)

end Serving

end Rtftp.PeerHandler

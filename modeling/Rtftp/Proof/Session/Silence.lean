import Rtftp.Proof.Session.Discipline

namespace Rtftp.PeerHandler
open Library

/-- These are the timeouts that a phase can still take. -/
def Phase.patience : Phase → Nat
  | .offered left => left + 1
  | .bursting _ _ _ left => left + 1
  | .over => 0

theorem Phase.patience_zero {phase : Phase} (exhausted : phase.patience = 0) : phase = .over := by
  cases phase with
  | offered left => cases exhausted
  | bursting acknowledged count bytes left => cases exhausted
  | _ => rfl

section
variable {acked count : UInt16} {bytes : UInt16 → List UInt8} {left : Nat}
  {sent : List Transmission} {phase next : Phase} {unoptioned : Prop}

theorem Repeats.patience (repeats : Repeats acked count bytes left sent next) :
    next.patience ≤ left := by
  cases repeats with
  | whole => exact Nat.le_refl _
  | broken taken error => exact Nat.zero_le _
  | exhausted error => exact Nat.le_refl _

theorem Begins.patience (begins : Begins acked sent next) : next.patience ≤ sendAttempts := by
  cases begins with
  | burst repeats => exact repeats.patience
  | ended error => exact Nat.zero_le _

theorem Launch.patience (launched : Launch unoptioned sent next) :
    next.patience ≤ sendAttempts := by
  cases launched with
  | offer datagram attempts => exact attempts.le
  | broken datagram => exact Nat.zero_le _
  | failed error => exact Nat.zero_le _
  | transfer none begins => exact begins.patience

/-- A timeout uses up patience. -/
theorem Move.patience_lt (moved : Move phase (.error .timeout) sent next) :
    next.patience < phase.patience := by
  cases moved with
  | repeatOffer datagram => exact Nat.lt_succ_self _
  | breakOffer datagram => exact Nat.zero_lt_succ _
  | abandonOffer error => exact Nat.zero_lt_succ _
  | dropOffer final => exact absurd rfl final
  | repeatBurst repeats => exact Nat.lt_succ_of_le repeats.patience
  | fail broken error => simp at broken

/-- No answer gives more patience than the first attempt has. -/
theorem Move.patience_le {result : AckResult} (moved : Move phase result sent next)
    (bounded : phase.patience ≤ sendAttempts) : next.patience ≤ sendAttempts := by
  cases moved with
  | acceptOffer begins => exact begins.patience
  | acknowledge present begins => exact begins.patience
  | repeatOffer datagram => exact Nat.le_of_succ_le bounded
  | repeatBurst repeats => exact repeats.patience.trans (Nat.le_of_succ_le bounded)
  | _ => exact Nat.zero_le _

theorem Transcript.patience {Permitted : Phase → AckResult → Prop} {log : List Entry}
    (transcript : Transcript unoptioned Permitted phase log) : phase.patience ≤ sendAttempts := by
  induction transcript with
  | launch launched => exact launched.patience
  | move _ _ _ moved ih => exact moved.patience_le ih

/-- The blocks since the last acknowledge are blocks of the log. -/
theorem mem_transmissions_of_since (log : List Entry) {transmission : Transmission}
    (member : transmission ∈ sinceAcknowledged log) : transmission ∈ transmissions log := by
  induction log using List.reverseRecOn with
  | nil => cases member
  | append_singleton log entry ih =>
      rw [transmissions_append, List.mem_append]
      rw [sinceAcknowledged, List.foldl_concat] at member
      split at member
      · cases member
      · rcases List.mem_append.mp member with old | new
        · exact .inl (ih old)
        · exact .inr new
      · exact .inl (ih member)

/-- After a timeout a session repeats blocks that are in its log. -/
theorem Move.repeated {log : List Entry} (moved : Move phase (.error .timeout) sent next)
    (knows : phase.Knows unoptioned log) (bounded : phase.patience ≤ sendAttempts)
    {index : UInt16} {datagram : List UInt8} (member : .data index datagram ∈ sent) :
    .data index datagram ∈ transmissions log := by
  have noError {fired : List Transmission} (error : Fired fired) :
      .data index datagram ∉ fired := by
    rcases error with rfl | ⟨error, bytes, rfl⟩
    · exact List.not_mem_nil
    · simp
  cases moved with
  | repeatOffer offer => simp at member
  | breakOffer offer => simp at member
  | abandonOffer error => exact absurd member (noError error)
  | dropOffer final => cases member
  | fail broken error => exact absurd member (noError error)
  | @repeatBurst acked count bytes left _ _ repeats =>
      obtain ⟨_, _, _, done, attempts, since⟩ := knows
      have earlier (block : Transmission) (inBurst : block ∈ burst acked count bytes) :
          block ∈ transmissions log := by
        apply mem_transmissions_of_since
        rw [since, List.mem_flatten]
        have before : done ≠ 0 := by
          change left + 1 ≤ sendAttempts at bounded
          omega
        exact ⟨_, List.mem_replicate.mpr ⟨before, rfl⟩, inBurst⟩
      cases repeats with
      | whole => exact earlier _ member
      | broken taken error =>
          rcases List.mem_append.mp member with inBurst | inError
          · exact earlier _ (List.mem_of_mem_take inBurst)
          · exact absurd inError (noError error)
      | exhausted error => exact absurd member (noError error)

end

/-- Strangers may send datagrams, but the peer sends none that the session can read. -/
def Unheard (arrivals : List Arrival) : Prop :=
  ∀ arrival ∈ arrivals, ∃ fromPeer bytes, arrival = .datagram fromPeer bytes ∧
    (fromPeer = false ∨ bytes.length < 4)

/-- Such arrivals end in a timeout. -/
theorem Unheard.timeout {arrivals : List Arrival} (unheard : Unheard arrivals)
    (buffer : List UInt8) : (readAcknowledge arrivals buffer).1 = .error .timeout := by
  have nothing : (recv 4 arrivals buffer).1 = none := by
    induction arrivals generalizing buffer with
    | nil => rfl
    | cons arrival rest ih =>
        obtain ⟨fromPeer, bytes, rfl, ignored⟩ := unheard arrival List.mem_cons_self
        have later := ih fun other member => unheard other (List.mem_cons_of_mem _ member)
        rw [recv]
        rcases ignored with rfl | runt
        · exact later _
        · have short : min bytes.length buffer.length < 4 :=
            Nat.lt_of_le_of_lt (Nat.min_le_left _ _) runt
          rw [if_pos short, ite_self]
          exact later _
  rw [readAcknowledge]
  split
  · rfl
  · rename_i received
    rw [received] at nothing
    cases nothing
  · rename_i received
    rw [received] at nothing
    cases nothing

namespace Serving

variable {O : Type} [OpenedFile O] {serving : Serving O} {unoptioned : Prop}
  {Permitted : Phase → AckResult → Prop}

/-- A session that waits makes one move of the protocol. -/
theorem Simulates.moved (simulates : Simulates unoptioned Permitted serving)
    (waits : serving.stage ≠ .closed) (arrivals : List Arrival) :
    ∃ sent, (serving.resume arrivals).log = serving.log ++
        .received arrivals (readAcknowledge arrivals serving.buffer).1 :: sent.map .sent ∧
      Move serving.phase (readAcknowledge arrivals serving.buffer).1 sent
        (serving.resume arrivals).phase := by
  have awaits : serving.phase ≠ .over := fun ended => waits (simulates.settled ended)
  cases stage : serving.stage with
  | closed => exact absurd stage waits
  | negotiating negotiation =>
      cases status : negotiation.offering.status with
      | returned result => simp [phase, stage, status] at awaits
      | awaiting left =>
          have offered : serving.phase = .offered left := by simp only [phase, stage, status]
          rw [offered]
          exact resume_negotiating stage status arrivals
  | transferring ackTimeout buffer sending =>
      cases status : sending.status with
      | returned result => simp [phase, stage, status] at awaits
      | awaiting toSend left =>
          have bursting : serving.phase = .bursting sending.transfer.lastAcknowledgedIndex toSend
              sending.transfer.window.send left := by simp only [phase, stage, status]
          have reads : serving.buffer = buffer := by simp only [Serving.buffer, stage]
          rw [bursting, reads]
          exact resume_transferring stage status arrivals

theorem resume_closed (closed : serving.stage = .closed) (arrivals : List Arrival) :
    serving.resume arrivals = serving := by
  simp only [Serving.resume, closed]

/-- A silent read uses up patience and repeats only blocks of the log. -/
theorem Simulates.unheard (simulates : Simulates unoptioned (fun _ _ => True) serving)
    (waits : serving.stage ≠ .closed) {arrivals : List Arrival} (unheard : Unheard arrivals) :
    (serving.resume arrivals).phase.patience < serving.phase.patience ∧
      ∀ index datagram, .data index datagram ∈ transmissions (serving.resume arrivals).log →
        .data index datagram ∈ transmissions serving.log := by
  obtain ⟨sent, logged, moved⟩ := simulates.moved waits arrivals
  rw [unheard.timeout] at moved
  refine ⟨moved.patience_lt, ?_⟩
  intro index datagram member
  rw [logged, transmissions_received] at member
  rcases List.mem_append.mp member with old | new
  · exact old
  · exact moved.repeated simulates.transcript.kept.knows simulates.transcript.patience new

/-- The blocks of a silent run are repeats, and the session ends when its patience does. -/
theorem Simulates.silent (simulates : Simulates unoptioned (fun _ _ => True) serving)
    (reads : List (List Arrival)) (unheard : ∀ arrivals ∈ reads, Unheard arrivals) :
    (serving.phase.patience ≤ reads.length →
      (reads.foldl Serving.resume serving).stage = .closed) ∧
      ∀ index datagram,
        .data index datagram ∈ transmissions (reads.foldl Serving.resume serving).log →
          .data index datagram ∈ transmissions serving.log := by
  induction reads generalizing serving with
  | nil =>
      refine ⟨fun exhausted => simulates.settled ?_, fun _ _ member => member⟩
      exact Phase.patience_zero (Nat.le_zero.mp exhausted)
  | cons arrivals rest ih =>
      have later := ih (simulates.resume arrivals trivial)
        fun other member => unheard other (List.mem_cons_of_mem _ member)
      rw [List.foldl_cons, List.length_cons]
      by_cases closed : serving.stage = .closed
      · have exhausted : serving.phase.patience = 0 := by
          simp [Serving.phase, closed, Phase.patience]
        rw [resume_closed closed] at later ⊢
        exact ⟨fun _ => later.1 (exhausted ▸ Nat.zero_le _), later.2⟩
      · obtain ⟨less, repeated⟩ := simulates.unheard closed (unheard arrivals List.mem_cons_self)
        refine ⟨fun enough => later.1 (by omega), ?_⟩
        intro index datagram member
        exact repeated index datagram (later.2 index datagram member)

end Serving

/-- A session that hears nothing from its peer ends after five timeouts at most, whatever it was
doing and whatever strangers send to it. Until then it sends no block for the first time. -/
theorem session_outwaits_silence {O : Type} [OpenedFile O] (openedFile : O)
    (options : Table String String) (buffer : List UInt8) (verdicts : List Bool)
    {serving : Serving O}
    (reached : Reach Serving.resume (fun _ _ => True)
      (Serving.start openedFile options buffer verdicts) serving)
    (reads : List (List Arrival)) (unheard : ∀ arrivals ∈ reads, Unheard arrivals) :
    (sendAttempts ≤ reads.length → (reads.foldl Serving.resume serving).stage = .closed) ∧
      ∀ index datagram,
        .data index datagram ∈ transmissions (reads.foldl Serving.resume serving).log →
          .data index datagram ∈ transmissions serving.log := by
  have simulates := Serving.reach_simulates (fun _ _ => True) reached
  obtain ⟨ends, repeated⟩ := simulates.silent reads unheard
  exact ⟨fun enough => ends (simulates.transcript.patience.trans enough), repeated⟩

/-- The acknowledges of a stranger do not keep a session alive. -/
theorem session_outwaits_silence_stranger :
    ((List.replicate 5 [Arrival.datagram false (ackDatagram 1)]).foldl Serving.resume
      (Serving.start (VirtualOpenedFile.new [0x2A]) .empty (List.replicate 65535 0) [])).stage =
        .closed := by
  refine (session_outwaits_silence _ _ _ _ .start _ ?_).1 ?_
  · intro arrivals member arrival inside
    rw [(List.mem_replicate.mp member).2] at inside
    exact ⟨false, _, List.mem_singleton.mp inside, .inl rfl⟩
  · rw [List.length_replicate]
    decide

end Rtftp.PeerHandler

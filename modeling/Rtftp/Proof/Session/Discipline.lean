import Rtftp.Library.History
import Rtftp.Proof.Session.Simulation

namespace Rtftp.PeerHandler
open Library

/-- These are the datagrams that a session has sent. -/
def transmissions (log : List Entry) : List Transmission :=
  log.filterMap fun entry => match entry with
    | .sent transmission => some transmission
    | .received _ _ => none

/-- This is the index of the last acknowledge, and zero before the first one. -/
def acknowledged (log : List Entry) : UInt16 :=
  log.foldl (fun index entry => match entry with
    | .received _ (.ok received) => received
    | _ => index) 0

/-- These are the blocks that were sent since the last acknowledge. -/
def sinceAcknowledged (log : List Entry) : List Transmission :=
  log.foldl (fun blocks entry => match entry with
    | .received _ (.ok _) => []
    | .sent (.data index datagram) => blocks ++ [.data index datagram]
    | _ => blocks) []

/-- The client has refused to go on. -/
def Silenced (log : List Entry) : Prop :=
  ∃ arrivals code message, .received arrivals (.error (.clientError code message)) ∈ log

/-- The peer has acknowledged block zero after an OACK. -/
def Opened (log : List Entry) : Prop :=
  ∃ before datagram middle arrivals after,
    log = before ++ .sent (.oack datagram) :: (middle ++ .received arrivals (.ok 0) :: after) ∧
      Acknowledges arrivals 0

/-- A session sends a datagram only when its history allows it. -/
def Disciplined (unoptioned : Prop) (before : List Entry) : Entry → Prop
  | .received _ _ => True
  | .sent (.error _ _) => ¬ Silenced before
  | .sent (.oack _) => ¬ Silenced before ∧
      (oacksSent (transmissions before)).length < sendAttempts ∧
      ∀ index datagram, .data index datagram ∉ transmissions before
  | .sent (.data index datagram) => ¬ Silenced before ∧ (unoptioned ∨ Opened before) ∧
      ∃ count bytes, sinceAcknowledged before ++ [.data index datagram] <+:
        (List.replicate sendAttempts (burst (acknowledged before) count bytes)).flatten

theorem transmissions_append (first second : List Entry) :
    transmissions (first ++ second) = transmissions first ++ transmissions second :=
  List.filterMap_append

@[simp] theorem transmissions_sent (sent : List Transmission) :
    transmissions (sent.map .sent) = sent := by
  simp [transmissions, List.filterMap_map]

theorem transmissions_received (log : List Entry) (arrivals : List Arrival) (result : AckResult)
    (sent : List Transmission) :
    transmissions (log ++ .received arrivals result :: sent.map .sent) =
      transmissions log ++ sent := by
  rw [transmissions_append]
  congr 1
  exact transmissions_sent sent

@[simp] theorem acknowledged_sent (log : List Entry) (sent : List Transmission) :
    acknowledged (log ++ sent.map .sent) = acknowledged log := by
  rw [acknowledged, List.foldl_append, List.foldl_map]
  exact List.foldl_fixed _

theorem silenced_sent (log : List Entry) (sent : List Transmission) :
    Silenced (log ++ sent.map .sent) ↔ Silenced log := by
  simp [Silenced]

theorem Opened.append {log : List Entry} (opened : Opened log) (more : List Entry) :
    Opened (log ++ more) := by
  obtain ⟨before, datagram, middle, arrivals, after, rfl, genuine⟩ := opened
  refine ⟨before, datagram, middle, arrivals, after ++ more, ?_, genuine⟩
  simp only [List.append_assoc, List.cons_append]

/-- Blocks that are sent count from the last acknowledge. -/
theorem sinceAcknowledged_data (log : List Entry) (sent : List Transmission)
    (blocks : ∀ transmission ∈ sent, ∃ index datagram, transmission = .data index datagram) :
    sinceAcknowledged (log ++ sent.map .sent) = sinceAcknowledged log ++ sent := by
  induction sent generalizing log with
  | nil => simp
  | cons transmission rest ih =>
      obtain ⟨index, datagram, rfl⟩ := blocks transmission List.mem_cons_self
      have later := ih (log ++ [.sent (.data index datagram)]) fun other member =>
        blocks other (List.mem_cons_of_mem _ member)
      simp only [List.append_assoc, List.singleton_append] at later
      rw [List.map_cons, later, sinceAcknowledged, List.foldl_concat]
      simp only [List.append_assoc, List.singleton_append]
      rfl

theorem mem_repeated {acked count : UInt16} {bytes : UInt16 → List UInt8} {times : Nat}
    {transmission : Transmission}
    (member : transmission ∈ (List.replicate times (burst acked count bytes)).flatten) :
    ∃ index datagram, transmission = .data index datagram := by
  obtain ⟨blocks, copy, member⟩ := List.mem_flatten.mp member
  rw [List.eq_of_mem_replicate copy, burst, List.mem_map] at member
  obtain ⟨index, _, rfl⟩ := member
  exact ⟨index, bytes index, rfl⟩

variable {unoptioned : Prop} {log : List Entry} {sent : List Transmission}

/-- The blocks of a repeated burst are sent in their order. -/
theorem always_blocks {count : UInt16} {bytes : UInt16 → List UInt8}
    (past : Always (Disciplined unoptioned) log) (heard : ¬ Silenced log)
    (opened : unoptioned ∨ Opened log)
    (repeated : sinceAcknowledged log ++ sent <+:
      (List.replicate sendAttempts (burst (acknowledged log) count bytes)).flatten) :
    Always (Disciplined unoptioned) (log ++ sent.map .sent) := by
  have blocks (transmission : Transmission) (member : transmission ∈ sent) :
      ∃ index datagram, transmission = .data index datagram :=
    mem_repeated (repeated.subset (List.mem_append_right _ member))
  apply past.append
  intro before entry after split
  obtain ⟨earlier, rest, rfl, rfl, later⟩ := List.map_eq_append_iff.mp split
  obtain ⟨transmission, following, rfl, rfl, rfl⟩ := List.map_eq_cons_iff.mp later
  obtain ⟨index, datagram, rfl⟩ := blocks transmission (by simp)
  refine ⟨(silenced_sent log earlier).not.mpr heard,
    opened.imp_right fun opened => opened.append _, count, bytes, ?_⟩
  rw [acknowledged_sent, sinceAcknowledged_data log earlier fun other member =>
    blocks other (List.mem_append_left _ member)]
  refine List.IsPrefix.trans ⟨following, ?_⟩ repeated
  simp only [List.append_assoc, List.singleton_append]

/-- An error may be sent as long as the client has not refused. -/
theorem always_fired (past : Always (Disciplined unoptioned) log) (heard : ¬ Silenced log)
    (fired : Fired sent) : Always (Disciplined unoptioned) (log ++ sent.map .sent) := by
  rcases fired with rfl | ⟨error, datagram, rfl⟩
  · rwa [List.map_nil, List.append_nil]
  · exact past.snoc heard

/-- What a phase knows of the log. -/
def Phase.Knows (unoptioned : Prop) (log : List Entry) : Phase → Prop
  | .over => True
  | .offered left => ¬ Silenced log ∧ (∃ datagram, .oack datagram ∈ transmissions log) ∧
      (oacksSent (transmissions log)).length + left = sendAttempts ∧
      ∀ index datagram, .data index datagram ∉ transmissions log
  | .bursting acked count bytes left => ¬ Silenced log ∧ (unoptioned ∨ Opened log) ∧
      acknowledged log = acked ∧ ∃ done, done + left = sendAttempts ∧
        sinceAcknowledged log = (List.replicate done (burst acked count bytes)).flatten

/-- A transcript keeps the discipline, and its phase knows the log. -/
structure Kept (unoptioned : Prop) (phase : Phase) (log : List Entry) : Prop where
  always : Always (Disciplined unoptioned) log
  few : (oacksSent (transmissions log)).length ≤ sendAttempts
  knows : phase.Knows unoptioned log

theorem oacksSent_fired (fired : Fired sent) : oacksSent sent = [] := by
  rcases fired with rfl | ⟨error, datagram, rfl⟩
  · rfl
  · rfl

theorem oacksSent_blocks
    (blocks : ∀ transmission ∈ sent, ∃ index datagram, transmission = .data index datagram) :
    oacksSent sent = [] := by
  rw [oacksSent, List.filterMap_eq_nil_iff]
  intro transmission member
  obtain ⟨index, datagram, rfl⟩ := blocks transmission member
  rfl

theorem burst_data (acked count : UInt16) (bytes : UInt16 → List UInt8) :
    ∀ transmission ∈ burst acked count bytes,
      ∃ index datagram, transmission = .data index datagram := by
  intro transmission member
  obtain ⟨index, _, rfl⟩ := List.mem_map.mp member
  exact ⟨index, bytes index, rfl⟩

/-- One more copy is still within the attempts. -/
theorem repeated_prefix {A : Type} (blocks part : List A) {done total : Nat}
    (within : done < total) (short : part <+: blocks) :
    (List.replicate done blocks).flatten ++ part <+: (List.replicate total blocks).flatten := by
  obtain ⟨rest, rfl⟩ := short
  obtain ⟨more, rfl⟩ := Nat.exists_eq_add_of_lt within
  refine ⟨rest ++ (List.replicate more (part ++ rest)).flatten, ?_⟩
  rw [Nat.add_assoc, ← List.replicate_append_replicate, List.flatten_append, List.replicate_succ,
    List.flatten_cons]
  simp only [List.append_assoc]

/-- A session that ends with an error keeps the discipline. -/
theorem Kept.fired (always : Always (Disciplined unoptioned) log)
    (few : (oacksSent (transmissions log)).length ≤ sendAttempts) (heard : ¬ Silenced log)
    (fired : Fired sent) : Kept unoptioned .over (log ++ sent.map .sent) := by
  refine ⟨always_fired always heard fired, ?_, trivial⟩
  rwa [transmissions_append, transmissions_sent, oacksSent_append, oacksSent_fired fired,
    List.append_nil]

/-- The log before an attempt has some earlier attempts of the same burst. -/
structure Underway (unoptioned : Prop) (log : List Entry) (acked count : UInt16)
    (bytes : UInt16 → List UInt8) (left : Nat) : Prop where
  always : Always (Disciplined unoptioned) log
  few : (oacksSent (transmissions log)).length ≤ sendAttempts
  heard : ¬ Silenced log
  opened : unoptioned ∨ Opened log
  index : acknowledged log = acked
  since : ∃ done, done + left = sendAttempts ∧
    sinceAcknowledged log = (List.replicate done (burst acked count bytes)).flatten

/-- Another attempt keeps the discipline. -/
theorem Repeats.kept {acked count : UInt16} {bytes : UInt16 → List UInt8} {left : Nat}
    {next : Phase} (repeats : Repeats acked count bytes left sent next)
    (underway : Underway unoptioned log acked count bytes left) :
    Kept unoptioned next (log ++ sent.map .sent) := by
  obtain ⟨always, few, heard, opened, rfl, done, total, since⟩ := underway
  cases repeats with
  | whole =>
      have blocks := burst_data (acknowledged log) count bytes
      constructor
      · apply always_blocks always heard opened
        rw [since]
        exact repeated_prefix _ _ (by omega) (List.prefix_refl _)
      · rwa [transmissions_append, transmissions_sent, oacksSent_append, oacksSent_blocks blocks,
          List.append_nil]
      · refine ⟨(silenced_sent _ _).not.mpr heard, opened.imp_right fun opened => opened.append _,
          acknowledged_sent _ _, done + 1, by omega, ?_⟩
        rw [sinceAcknowledged_data _ _ blocks, since, List.replicate_succ', List.flatten_concat]
  | broken taken error =>
      have blocks (transmission : Transmission)
          (member : transmission ∈ (burst (acknowledged log) count bytes).take taken) :=
        burst_data _ _ _ transmission (List.mem_of_mem_take member)
      have part : sinceAcknowledged log ++ (burst (acknowledged log) count bytes).take taken <+:
          (List.replicate sendAttempts (burst (acknowledged log) count bytes)).flatten := by
        rw [since]
        exact repeated_prefix _ _ (by omega) (List.take_prefix _ _)
      rw [List.map_append, ← List.append_assoc]
      apply Kept.fired (always_blocks always heard opened part)
      · simp only [transmissions_append, transmissions_sent, oacksSent_append,
          oacksSent_blocks blocks, List.append_nil]
        exact few
      · exact (silenced_sent _ _).not.mpr heard
      · exact error
  | exhausted error => exact Kept.fired always few heard error

/-- The next burst keeps the discipline. -/
theorem Begins.kept {acked : UInt16} {next : Phase} (begins : Begins acked sent next)
    (always : Always (Disciplined unoptioned) log)
    (few : (oacksSent (transmissions log)).length ≤ sendAttempts) (heard : ¬ Silenced log)
    (opened : unoptioned ∨ Opened log) (index : acknowledged log = acked)
    (since : sinceAcknowledged log = []) : Kept unoptioned next (log ++ sent.map .sent) := by
  cases begins with
  | burst repeats => exact repeats.kept ⟨always, few, heard, opened, index, 0, rfl, since⟩
  | ended error => exact Kept.fired always few heard error

theorem Launch.kept {phase : Phase} (launched : Launch unoptioned sent phase) :
    Kept unoptioned phase (sent.map .sent) := by
  have heard : ¬ Silenced [] := by
    rintro ⟨_, _, _, member⟩
    cases member
  have oack (datagram : List UInt8) :
      Always (Disciplined unoptioned) [.sent (.oack datagram)] := by
    have first : Disciplined unoptioned [] (.sent (.oack datagram)) :=
      ⟨heard, by decide, fun _ _ member => by cases member⟩
    exact always_nil.snoc first
  have one (datagram : List UInt8) :
      (oacksSent (transmissions ([.oack datagram].map .sent))).length ≤ sendAttempts := by
    change 1 ≤ 5
    decide
  cases launched with
  | offer datagram attempts =>
      refine ⟨oack datagram, one datagram, ?_, ⟨datagram, List.mem_singleton_self _⟩, ?_, ?_⟩
      · exact (silenced_sent [] [.oack datagram]).not.mpr heard
      · change 1 + _ = _
        omega
      · intro _ _ member
        cases List.mem_singleton.mp member
  | broken datagram => exact ⟨oack datagram, one datagram, trivial⟩
  | failed error => exact Kept.fired always_nil (by decide) heard error
  | transfer none begins => exact begins.kept always_nil (by decide) heard (.inl none) rfl rfl

/-- Only an ERROR of the client silences the session. -/
theorem silenced_received (log : List Entry) (arrivals : List Arrival) (result : AckResult) :
    Silenced (log ++ [.received arrivals result]) ↔
      Silenced log ∨ ∃ code message, result = .error (.clientError code message) := by
  constructor
  · rintro ⟨others, code, message, member⟩
    rcases List.mem_append.mp member with old | new
    · exact .inl ⟨others, code, message, old⟩
    · obtain ⟨_, same⟩ := Entry.received.inj (List.mem_singleton.mp new)
      exact .inr ⟨code, message, same.symm⟩
  · rintro (⟨others, code, message, member⟩ | ⟨code, message, rfl⟩)
    · exact ⟨others, code, message, List.mem_append_left _ member⟩
    · exact ⟨arrivals, code, message, List.mem_append_right _ (List.mem_singleton_self _)⟩

/-- The acknowledge of block zero opens a session that has sent an OACK. -/
theorem opened_received {datagram : List UInt8} {arrivals : List Arrival}
    (offered : .oack datagram ∈ transmissions log) (genuine : Acknowledges arrivals 0) :
    Opened (log ++ [.received arrivals (.ok 0)]) := by
  obtain ⟨entry, member, sent⟩ := List.mem_filterMap.mp offered
  cases entry with
  | received others result => cases sent
  | sent transmission =>
      obtain rfl := Option.some.inj sent
      obtain ⟨before, middle, rfl⟩ := List.append_of_mem member
      exact ⟨before, datagram, middle, arrivals, [], by simp, genuine⟩

/-- A repeated OACK keeps the discipline. -/
theorem kept_offered {left : Nat} (always : Always (Disciplined unoptioned) log)
    (heard : ¬ Silenced log)
    (count : (oacksSent (transmissions log)).length + (left + 1) = sendAttempts)
    (blockless : ∀ index datagram, .data index datagram ∉ transmissions log)
    (datagram : List UInt8) :
    Kept unoptioned (.offered left) (log ++ [.oack datagram].map .sent) := by
  have allowed : Disciplined unoptioned log (.sent (.oack datagram)) :=
    ⟨heard, by omega, blockless⟩
  have more : oacksSent (transmissions (log ++ [.oack datagram].map .sent)) =
      oacksSent (transmissions log) ++ [datagram] := by
    rw [transmissions_append, transmissions_sent, oacksSent_append]
    rfl
  have length : (oacksSent (transmissions (log ++ [.oack datagram].map .sent))).length =
      (oacksSent (transmissions log)).length + 1 := by
    rw [more, List.length_append, List.length_singleton]
  refine ⟨always.snoc allowed, by omega, (silenced_sent _ _).not.mpr heard, ⟨datagram, ?_⟩,
    by omega, ?_⟩
  · rw [transmissions_append, transmissions_sent]
    exact List.mem_append_right _ (List.mem_singleton_self _)
  · intro index block member
    rw [transmissions_append, transmissions_sent, List.mem_append, List.mem_singleton] at member
    rcases member with old | new
    · exact blockless index block old
    · cases new

/-- Every move keeps the discipline. -/
theorem Move.kept {phase next : Phase} {result : AckResult} {arrivals : List Arrival}
    (moved : Move phase result sent next) (kept : Kept unoptioned phase log)
    (genuine : ∀ index, result = .ok index → Acknowledges arrivals index) :
    Kept unoptioned next (log ++ .received arrivals result :: sent.map .sent) := by
  obtain ⟨always, few, knows⟩ := kept
  have heardStill (heard : ¬ Silenced log)
      (other : ∀ code message, result ≠ .error (.clientError code message)) :
      ¬ Silenced (log ++ [.received arrivals result]) := by
    rw [silenced_received, not_or, not_exists]
    exact ⟨heard, fun code => not_exists.mpr (other code)⟩
  have alwaysStill : Always (Disciplined unoptioned) (log ++ [.received arrivals result]) :=
    always.snoc trivial
  have same : transmissions (log ++ [.received arrivals result]) = transmissions log := by
    simpa using transmissions_received log arrivals result []
  have fewStill :
      (oacksSent (transmissions (log ++ [.received arrivals result]))).length ≤ sendAttempts := by
    rwa [same]
  rw [← List.singleton_append, ← List.append_assoc]
  cases moved with
  | repeatOffer datagram =>
      obtain ⟨heard, offered, count, blockless⟩ := knows
      exact kept_offered alwaysStill (heardStill heard (by simp)) (by rwa [same]) (by rwa [same])
        datagram
  | breakOffer datagram =>
      obtain ⟨heard, offered, count, blockless⟩ := knows
      obtain ⟨repeated, still, _⟩ := kept_offered alwaysStill (heardStill heard (by simp))
        (by rwa [same]) (by rwa [same]) datagram
      exact ⟨repeated, still, trivial⟩
  | abandonOffer error =>
      exact Kept.fired alwaysStill fewStill (heardStill knows.1 (by simp)) error
  | acceptOffer begins =>
      obtain ⟨heard, ⟨datagram, offered⟩, _, _⟩ := knows
      apply begins.kept alwaysStill fewStill (heardStill heard (by simp))
      · exact .inr (opened_received offered (genuine 0 rfl))
      · rw [acknowledged, List.foldl_concat]
      · rw [sinceAcknowledged, List.foldl_concat]
  | refuseOffer _ error =>
      exact Kept.fired alwaysStill fewStill (heardStill knows.1 (by simp)) error
  | dropOffer _ =>
      rw [List.map_nil, List.append_nil]
      exact ⟨alwaysStill, fewStill, trivial⟩
  | acknowledge present begins =>
      obtain ⟨heard, opened, _⟩ := knows
      apply begins.kept alwaysStill fewStill (heardStill heard (by simp))
      · exact opened.imp_right fun opened => opened.append _
      · rw [acknowledged, List.foldl_concat]
      · rw [sinceAcknowledged, List.foldl_concat]
  | past late report error =>
      have heard := heardStill knows.1 (by simp)
      obtain ⟨reported, still, _⟩ := Kept.fired alwaysStill fewStill heard report
      rw [List.map_append, ← List.append_assoc]
      exact Kept.fired reported still ((silenced_sent _ _).not.mpr heard) error
  | repeatBurst repeats =>
      obtain ⟨heard, opened, index, since⟩ := knows
      apply repeats.kept
      refine ⟨alwaysStill, fewStill, heardStill heard (by simp),
        opened.imp_right fun opened => opened.append _, ?_, ?_⟩
      · rwa [acknowledged, List.foldl_concat]
      · rwa [sinceAcknowledged, List.foldl_concat]
  | terminate =>
      rw [List.map_nil, List.append_nil]
      exact ⟨alwaysStill, fewStill, trivial⟩
  | fail broken error =>
      refine Kept.fired alwaysStill fewStill (heardStill knows.1 ?_) error
      rcases broken with rfl | rfl
      · simp
      · simp

/-- Every transcript keeps the discipline. -/
theorem Transcript.kept {Permitted : Phase → AckResult → Prop} {phase : Phase}
    (transcript : Transcript unoptioned Permitted phase log) : Kept unoptioned phase log := by
  induction transcript with
  | launch launched => exact launched.kept
  | move _ _ genuine moved ih => exact moved.kept ih genuine

variable {O : Type} [OpenedFile O]

/-- A session sends no block before its options are settled, it repeats an OACK and a burst at
most as often as it may, and it falls silent when the client refuses. -/
theorem session_disciplined (openedFile : O) (options : Table String String) (buffer : List UInt8)
    (verdicts : List Bool) {serving : Serving O}
    (reached : Reach Serving.resume (fun _ _ => True)
      (Serving.start openedFile options buffer verdicts) serving) :
    Always (Disciplined ((acceptOptions openedFile options).oack.options = [])) serving.log ∧
      (oacksSent (transmissions serving.log)).length ≤ sendAttempts := by
  have kept := (Serving.reach_simulates (fun _ _ => True) reached).transcript.kept
  exact ⟨kept.always, kept.few⟩

/-- A session with one accepted option that hears nothing keeps the discipline. -/
theorem session_disciplined_silent :
    Always (Disciplined ((acceptOptions (VirtualOpenedFile.new [0x2A])
        ⟨[("blksize", "1024")], by decide⟩).oack.options = []))
      ((Serving.start (VirtualOpenedFile.new [0x2A]) ⟨[("blksize", "1024")], by decide⟩
        (List.replicate 65535 0) []).resume []).log :=
  (session_disciplined (VirtualOpenedFile.new [0x2A]) ⟨[("blksize", "1024")], by decide⟩
    (List.replicate 65535 0) [] (.next .start trivial)).1

end Rtftp.PeerHandler

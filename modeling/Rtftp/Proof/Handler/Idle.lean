import Rtftp.Proof.Handler.Sessions

namespace Rtftp.PeerHandler
open Library

variable {R : Type}

/-- The session is not finished at this moment. -/
def Task.Busy (task : Task R) (moment : Nat) : Prop :=
  task.startedAt ≤ moment ∧ (moment = task.startedAt ∨
    ∀ finished, task.finishedAt = some finished → moment < finished)

namespace RequestsHandler

/-- In the idle time before this moment no request was taken and no session was unfinished. -/
def Quiet (handler : RequestsHandler R) (time : Nat) : Prop :=
  ∀ moment, time ≤ moment + handler.idleTimeout * second → moment ≤ time →
    moment ∉ handler.takenAt ∧ ∀ task ∈ handler.tasks, ¬ task.Busy moment

/-- No request was taken and no session was started after the time of the last activity. -/
def Current (handler : RequestsHandler R) : Prop :=
  (∀ moment ∈ handler.takenAt, moment ≤ handler.lastActive) ∧
    ∀ task ∈ handler.tasks, task.startedAt ≤ handler.lastActive

/-- A tick is not late. -/
def Punctual (handler : RequestsHandler R) (event : Event R) : Prop :=
  ∀ since, event = .tick → handler.status = .waiting since → handler.clock ≤ since + second

/-- Every session had finished by this moment. -/
def FinishedBy (tasks : List (Task R)) (moment : Nat) : Prop :=
  ∀ task ∈ tasks, ∃ finished, task.finishedAt = some finished ∧ finished ≤ moment

/-- The idle time of the handler depends on these values. -/
structure Activity (R : Type) where
  idleTimeout : Nat
  lastActive : Nat
  takenAt : List Nat
  tasks : List (Task R)

def activity (handler : RequestsHandler R) : Activity R :=
  ⟨handler.idleTimeout, handler.lastActive, handler.takenAt, handler.tasks⟩

/-- Nothing is recorded before it happens. -/
structure Past (activity : Activity R) (now : Nat) : Prop where
  active : activity.lastActive ≤ now
  taken : ∀ moment ∈ activity.takenAt, moment ≤ now
  started : ∀ task ∈ activity.tasks, task.startedAt ≤ now
  finished : ∀ task ∈ activity.tasks, ∀ finished, task.finishedAt = some finished → finished ≤ now

/-- Since the last request or the last tick with a session, so many ticks have found no session. -/
structure Rhythm (activity : Activity R) (origin rounds : Nat) : Prop where
  active : activity.lastActive ≤ origin
  taken : ∀ moment ∈ activity.takenAt, moment ≤ origin
  started : ∀ task ∈ activity.tasks, task.startedAt ≤ origin
  cause : origin = activity.lastActive ∨ origin ∈ activity.takenAt ∨
    ∃ task ∈ activity.tasks, task.startedAt = origin
  patient : 0 < rounds →
    origin + rounds * second ≤ activity.lastActive + activity.idleTimeout * second
  settled : 0 < rounds → FinishedBy activity.tasks (origin + second)

/-- The tick after these rounds was too late for the idle time. -/
structure Stopped (activity : Activity R) (origin rounds : Nat) : Prop where
  rhythm : Rhythm activity origin rounds
  exceeded : activity.lastActive + activity.idleTimeout * second < origin + rounds * second + second
  finished : FinishedBy activity.tasks (origin + rounds * second + second)

/-- The ticks follow a rhythm while the handler waits, and they did when it stopped. -/
structure Timed (handler : RequestsHandler R) : Prop where
  sound : handler.Sound
  past : Past handler.activity handler.clock
  running : handler.exit = none → handler.stoppedAt = none
  waiting : ∀ since, handler.status = .waiting since →
    ∃ origin rounds, since = origin + rounds * second ∧ Rhythm handler.activity origin rounds
  stopped : ∀ time, handler.stoppedAt = some time →
    ∃ origin rounds, time = origin + rounds * second + second ∧
      Stopped handler.activity origin rounds

theorem FinishedBy.finish {handler : RequestsHandler R} {moment : Nat}
    (settled : FinishedBy handler.tasks moment) (handle : Nat) :
    FinishedBy (handler.finish handle).tasks moment := by
  intro later member
  obtain ⟨task, inside, succeeds⟩ := handler.task_of_finish handle member
  obtain ⟨finished, found, early⟩ := settled task inside
  rcases succeeds.finishedAt with same | ⟨unfinished, _⟩
  · exact ⟨finished, same.trans found, early⟩
  · rw [unfinished] at found
    cases found

/-- A purge that leaves no session leaves no unfinished session. -/
theorem purge_finishedBy {handler : RequestsHandler R}
    (past : Past handler.activity handler.clock)
    (tracks : Tracks handler.tasks handler.sendSessions.entries)
    (empty : handler.purge.sendSessions.entries = []) :
    FinishedBy handler.tasks handler.clock := by
  intro task member
  obtain ⟨handle, found⟩ := List.mem_iff_getElem?.mp member
  cases finished : task.finishedAt with
  | none =>
      have held := tracks.held handle task found finished
      have kept := (handler.mem_purge _).mpr
        ⟨held, (handler.isFinished_iff found).mpr finished⟩
      rw [empty] at kept
      cases kept
  | some moment => exact ⟨moment, rfl, past.finished task member moment finished⟩

namespace Past

variable {activity : Activity R} {handler next : RequestsHandler R} {now : Nat}

theorem later (past : Past activity now) {clock : Nat} (later : now ≤ clock) :
    Past activity clock where
  active := Nat.le_trans past.active later
  taken moment member := Nat.le_trans (past.taken moment member) later
  started task member := Nat.le_trans (past.started task member) later
  finished task member finished found :=
    Nat.le_trans (past.finished task member finished found) later

theorem take (past : Past activity now) :
    Past { activity with takenAt := activity.takenAt ++ [now] } now where
  active := past.active
  taken moment member := by
    rcases List.mem_append.mp member with old | last
    · exact past.taken moment old
    · obtain rfl := List.mem_singleton.mp last
      exact Nat.le_refl _
  started := past.started
  finished := past.finished

theorem start (past : Past activity now) (serial : Nat) (port : UInt16) (request : R) :
    Past { activity with
      tasks := activity.tasks ++ [⟨serial, port, request, now, none⟩] } now where
  active := past.active
  taken := past.taken
  started task member := by
    rcases List.mem_append.mp member with old | last
    · exact past.started task old
    · obtain rfl := List.mem_singleton.mp last
      exact Nat.le_refl _
  finished task member finished found := by
    rcases List.mem_append.mp member with old | last
    · exact past.finished task old finished found
    · rw [List.mem_singleton.mp last] at found
      cases found

theorem finish (past : Past handler.activity handler.clock) (handle : Nat) :
    Past (handler.finish handle).activity handler.clock where
  active := past.active
  taken := past.taken
  started later member := by
    obtain ⟨task, inside, succeeds⟩ := handler.task_of_finish handle member
    rw [succeeds.startedAt]
    exact past.started task inside
  finished later member finished found := by
    obtain ⟨task, inside, succeeds⟩ := handler.task_of_finish handle member
    rcases succeeds.finishedAt with same | ⟨_, stamped⟩
    · exact past.finished task inside finished (same.symm.trans found)
    · rw [stamped] at found
      exact Nat.le_of_eq (Option.some.inj found).symm

theorem change {event : Event R} (past : Past handler.activity handler.clock)
    (change : Change handler event next) : Past next.activity next.clock := by
  cases change with
  | elapse duration => exact past.later (Nat.le_add_right _ _)
  | ignore | accept => exact past.take
  | notice => exact ⟨Nat.le_refl _, past.taken, past.started, past.finished⟩
  | schedule | override => exact past.start _ _ _
  | finish handle => exact past.finish handle
  | _ => exact past

end Past

namespace Rhythm

variable {activity : Activity R} {handler : RequestsHandler R} {origin rounds now : Nat}

/-- A rhythm begins when the handler has just taken a request, started a session or seen one. -/
theorem begin (past : Past activity now)
    (cause : now = activity.lastActive ∨ now ∈ activity.takenAt ∨
      ∃ task ∈ activity.tasks, task.startedAt = now) : Rhythm activity now 0 where
  active := past.active
  taken := past.taken
  started := past.started
  cause := cause
  patient positive := (Nat.lt_irrefl 0 positive).elim
  settled positive := (Nat.lt_irrefl 0 positive).elim

/-- A tick that finds no session and does not stop the handler is one more round. -/
theorem rest (rhythm : Rhythm activity origin rounds) (now : Nat)
    (onTime : now = origin + rounds * second + second)
    (short : now - activity.lastActive ≤ activity.idleTimeout * second)
    (finished : FinishedBy activity.tasks now) : Rhythm activity origin (rounds + 1) where
  active := rhythm.active
  taken := rhythm.taken
  started := rhythm.started
  cause := rhythm.cause
  patient _ := by
    rw [Nat.succ_mul]
    omega
  settled _ := by
    -- Only the first round can find a session that has finished since the origin.
    cases rounds with
    | zero =>
        rw [onTime, Nat.zero_mul] at finished
        exact finished
    | succ rounds => exact rhythm.settled (Nat.succ_pos rounds)

theorem finish (rhythm : Rhythm handler.activity origin rounds) (handle : Nat) :
    Rhythm (handler.finish handle).activity origin rounds where
  active := rhythm.active
  taken := rhythm.taken
  started later member := by
    obtain ⟨task, inside, succeeds⟩ := handler.task_of_finish handle member
    rw [succeeds.startedAt]
    exact rhythm.started task inside
  cause := by
    rcases rhythm.cause with active | taken | ⟨task, member, started⟩
    · exact .inl active
    · exact .inr (.inl taken)
    · obtain ⟨later, inside, succeeds⟩ := handler.finish_task handle member
      exact .inr (.inr ⟨later, inside, succeeds.startedAt.trans started⟩)
  patient := rhythm.patient
  settled positive := (rhythm.settled positive).finish handle

end Rhythm

namespace Stopped

variable {handler : RequestsHandler R} {origin rounds : Nat}

theorem finish (stopped : Stopped handler.activity origin rounds) (handle : Nat) :
    Stopped (handler.finish handle).activity origin rounds :=
  ⟨stopped.rhythm.finish handle, stopped.exceeded, stopped.finished.finish handle⟩

/-- The first tick of the rhythm found no session. -/
theorem settled (stopped : Stopped handler.activity origin rounds) :
    FinishedBy handler.tasks (origin + second) := by
  cases rounds with
  | zero =>
      have finished := stopped.finished
      rw [Nat.zero_mul] at finished
      exact finished
  | succ rounds => exact stopped.rhythm.settled (Nat.succ_pos rounds)

/-- The idle time began at the first tick of the rhythm or later. -/
theorem late (stopped : Stopped handler.activity origin rounds) {moment : Nat}
    (known : handler.idleTimeout = 0 ∨ origin ≤ handler.lastActive)
    (inside : origin + rounds * second + second ≤ moment + handler.idleTimeout * second) :
    origin + second ≤ moment := by
  have exceeded := stopped.exceeded
  simp only [activity, second] at exceeded inside ⊢
  rcases known with zero | same
  · rw [zero] at inside
    omega
  · omega

end Stopped

namespace Timed

variable {handler next : RequestsHandler R}

/-- A handler that has not left its loop has not stopped. -/
theorem unstopped (timed : handler.Timed) (running : handler.exit = none) {time : Nat}
    (stopped : handler.stoppedAt = some time) : False := by
  rw [timed.running running] at stopped
  cases stopped

theorem new (idleTimeout capacity now : Nat) :
    (new idleTimeout capacity now : RequestsHandler R).Timed := by
  have past : Past (RequestsHandler.new idleTimeout capacity now : RequestsHandler R).activity
      now :=
    ⟨Nat.le_refl now, fun _ member => (nomatch member), fun _ member => (nomatch member),
      fun _ member => (nomatch member)⟩
  refine ⟨new_sound idleTimeout capacity now, past, fun _ => rfl, fun since same => ?_,
    fun time stopped => (nomatch stopped)⟩
  cases same
  exact ⟨now, 0, by rw [Nat.zero_mul, Nat.add_zero], .begin past (.inl rfl)⟩

/-- The handler waits again after it took a request, started a session or saw one. -/
theorem resumed (timed : handler.Timed) (running : handler.exit = none) (sound : next.Sound)
    (past : Past next.activity next.clock) (status : next.status = .waiting next.clock)
    (unstopped : next.stoppedAt = handler.stoppedAt)
    (cause : next.clock = next.lastActive ∨ next.clock ∈ next.takenAt ∨
      ∃ task ∈ next.tasks, task.startedAt = next.clock) : next.Timed where
  sound := sound
  past := past
  running _ := unstopped.trans (timed.running running)
  waiting since same := by
    rw [status] at same
    cases same
    exact ⟨next.clock, 0, by rw [Nat.zero_mul, Nat.add_zero], .begin past cause⟩
  stopped _ stopped := (timed.unstopped running (unstopped.symm.trans stopped)).elim

/-- The handler is at work on a request. -/
theorem working (timed : handler.Timed) (running : handler.exit = none) (sound : next.Sound)
    (past : Past next.activity next.clock) (busy : ∀ since, next.status ≠ .waiting since)
    (unstopped : next.stoppedAt = handler.stoppedAt) : next.Timed where
  sound := sound
  past := past
  running _ := unstopped.trans (timed.running running)
  waiting since same := (busy since same).elim
  stopped _ stopped := (timed.unstopped running (unstopped.symm.trans stopped)).elim

/-- The loop has ended. -/
theorem ended (sound : next.Sound) (past : Past next.activity next.clock) {left : Exit}
    (ended : next.exit = some left)
    (stopped : ∀ time, next.stoppedAt = some time → ∃ origin rounds,
      time = origin + rounds * second + second ∧ Stopped next.activity origin rounds) :
    next.Timed where
  sound := sound
  past := past
  running running := by
    rw [ended] at running
    cases running
  waiting since waiting := by
    simp only [exit, waiting] at ended
    cases ended
  stopped := stopped

/-- A tick that is not late comes one second after the handler began to wait. -/
theorem onTime (timed : handler.Timed) (punctual : Punctual handler .tick) {since : Nat}
    (status : handler.status = .waiting since) (elapsed : since + second ≤ handler.clock) :
    ∃ origin rounds, handler.clock = origin + rounds * second + second ∧
      Rhythm handler.activity origin rounds := by
  obtain ⟨origin, rounds, same, rhythm⟩ := timed.waiting since status
  refine ⟨origin, rounds, ?_, rhythm⟩
  rw [← same]
  exact Nat.le_antisymm (punctual since rfl status) elapsed

theorem change {event : Event R} (timed : handler.Timed) (change : Change handler event next)
    (punctual : Punctual handler event) : next.Timed := by
  have sound := timed.sound.change change
  have past := timed.past.change change
  cases change with
  | stay => exact timed
  | feed | dropSender | elapse =>
      exact ⟨sound, past, timed.running, timed.waiting, timed.stopped⟩
  | ignore status =>
      have running : handler.exit = none := by simp only [exit, status]
      apply timed.resumed running sound past rfl rfl
      exact .inr (.inl (List.mem_append_right _ (List.mem_singleton_self _)))
  | accept status =>
      exact timed.working (by simp only [exit, status]) sound past (fun _ same => by cases same) rfl
  | leave status =>
      have running : handler.exit = none := by simp only [exit, status]
      exact ended sound past rfl fun time stopped => (timed.unstopped running stopped).elim
  | stop status elapsed empty idle =>
      obtain ⟨origin, rounds, onTime, rhythm⟩ := timed.onTime punctual status elapsed
      have finished := purge_finishedBy timed.past (timed.sound.waiting status) empty
      apply ended sound past rfl
      intro time stopped
      cases stopped
      refine ⟨origin, rounds, onTime, rhythm, ?_, onTime ▸ finished⟩
      rw [← onTime]
      exact Nat.add_lt_of_lt_sub' idle
  | rest status elapsed empty short =>
      obtain ⟨origin, rounds, onTime, rhythm⟩ := timed.onTime punctual status elapsed
      have finished := purge_finishedBy timed.past (timed.sound.waiting status) empty
      have running : handler.exit = none := by simp only [exit, status]
      refine ⟨sound, past, fun _ => timed.running running, fun since same => ?_,
        fun time stopped => (timed.unstopped running stopped).elim⟩
      cases same
      refine ⟨origin, rounds + 1, ?_, rhythm.rest handler.clock onTime short finished⟩
      rw [onTime, Nat.succ_mul, Nat.add_assoc]
  | notice status =>
      exact timed.resumed (by simp only [exit, status]) sound past rfl rfl (.inl rfl)
  | refuse grown crowded status =>
      exact timed.working (by simp only [exit, status]) sound past (fun _ same => by cases same) rfl
  | schedule grown crowded status =>
      have running : handler.exit = none := by simp only [exit, status]
      apply timed.resumed running sound past rfl rfl
      exact .inr (.inr ⟨_, List.mem_append_right _ (List.mem_singleton_self _), rfl⟩)
  | override grown status =>
      have running : handler.exit = none := by simp only [exit, status]
      apply timed.resumed running sound past rfl rfl
      exact .inr (.inr ⟨_, List.mem_append_right _ (List.mem_singleton_self _), rfl⟩)
  | close | join => exact ended sound past (await_holds rfl).2.1 timed.stopped
  | finish handle =>
      refine ⟨sound, past, timed.running, fun since status => ?_, fun time stopped => ?_⟩
      · obtain ⟨origin, rounds, same, rhythm⟩ := timed.waiting since status
        exact ⟨origin, rounds, same, rhythm.finish handle⟩
      · obtain ⟨origin, rounds, same, halted⟩ := timed.stopped time stopped
        exact ⟨origin, rounds, same, halted.finish handle⟩

end Timed

/-- A session is seen by a tick and finishes, and the handler stops at the second tick after it. -/
def seen : List (Event Unit) :=
  [.feed 7 (), .receive, .bound 0, .elapse second, .tick, .finish 0, .elapse second, .tick,
    .elapse second, .tick]

end RequestsHandler

end Rtftp.PeerHandler

import Rtftp.Proof.Handler.Sessions

namespace Rtftp.PeerHandler.RequestsHandler
open Library

variable {R : Type}

/-- The table still has the port of a session that has finished. -/
def Lingers (handler : RequestsHandler R) (port : UInt16) : Prop :=
  ∃ handle, (port, handle) ∈ handler.sendSessions.entries ∧ handler.isFinished handle = true

/-- No request is taken from a port that lingers in the table. -/
def Renewed (handler : RequestsHandler R) (event : Event R) : Prop :=
  ∀ since port request rest, event = .receive → handler.status = .waiting since →
    handler.queue = (port, request) :: rest → ¬ handler.Lingers port

/-- A request that was taken is ignored, it is in work, or it has its session. -/
inductive Treated (handler : RequestsHandler R) (serial : Nat) (port : UInt16) (request : R) :
    Prop where
  | ignored (entry : Ignored) (member : entry ∈ handler.ignored) (number : entry.serial = serial)
      (source : entry.port = port)
  | binding (status : handler.status = .binding serial port request)
  | refusing (status : handler.status = .refusing serial port request)
  | served (task : Task R) (member : task ∈ handler.tasks) (number : task.serial = serial)
      (source : task.port = port) (content : task.request = request)

/-- A request is ignored only while its port has a live session, and every other request gets a
session. -/
structure Attentive (handler : RequestsHandler R) : Prop where
  alive : ∀ entry ∈ handler.ignored, entry.alive = true
  treated : ∀ serial port request, handler.taken[serial]? = some (port, request) →
    handler.Treated serial port request

/-- No port lingers after a purge. -/
theorem purge_lingers (handler : RequestsHandler R) (port : UInt16) :
    ¬ handler.purge.Lingers port := by
  rintro ⟨handle, member, finished⟩
  have unfinished := ((handler.mem_purge _).mp member).2
  change handler.isFinished handle = true at finished
  rw [unfinished] at finished
  cases finished

/-- No port lingers after a second without a request. -/
theorem tick_lingers {handler : RequestsHandler R} {since : Nat}
    (status : handler.status = .waiting since) (elapsed : since + second ≤ handler.clock)
    (port : UInt16) : ¬ (handler.step .tick).Lingers port := by
  simp only [step, tick, status, if_pos elapsed]
  split
  · split
    · exact handler.purge_lingers port
    · exact handler.purge_lingers port
  · exact handler.purge_lingers port

/-- The port of an entry is live exactly when the session of the entry is not finished. -/
theorem isLive_iff {handler : RequestsHandler R}
    (tracks : Tracks handler.tasks handler.sendSessions.entries) {port : UInt16} {handle : Nat}
    (member : (port, handle) ∈ handler.sendSessions.entries) :
    handler.isLive port = true ↔ handler.isFinished handle = false := by
  obtain ⟨task, found, source⟩ := tracks.known _ member
  rw [handler.isFinished_iff found]
  simp only [isLive, List.any_eq_true, Bool.and_eq_true, beq_iff_eq, Option.isNone_iff_eq_none]
  constructor
  · rintro ⟨other, inside, same, live⟩
    obtain ⟨index, located⟩ := List.mem_iff_getElem?.mp inside
    have held := tracks.held index other located live
    rw [same] at held
    rw [handler.sendSessions.entry_unique held member, found] at located
    obtain rfl := Option.some.inj located
    exact live
  · exact fun live => ⟨task, List.mem_of_getElem? found, source, live⟩

/-- A request is ignored with no live session exactly when its port lingers. -/
theorem isLive_repeated {handler : RequestsHandler R}
    (tracks : Tracks handler.tasks handler.sendSessions.entries) {port : UInt16}
    (repeated : handler.sendSessions.containsKey port = true) :
    handler.isLive port = true ↔ ¬ handler.Lingers port := by
  obtain ⟨handle, member⟩ := (handler.sendSessions.containsKey_iff port).mp repeated
  rw [isLive_iff tracks member]
  constructor
  · rintro live ⟨other, held, finished⟩
    rw [handler.sendSessions.entry_unique held member, live] at finished
    cases finished
  · intro settled
    rw [Bool.eq_false_iff]
    exact fun finished => settled ⟨handle, member, finished⟩

namespace Treated

variable {handler next : RequestsHandler R} {serial : Nat} {port : UInt16} {request : R}

/-- Requests and sessions are not forgotten, and the request in work stays in work. -/
theorem keep (treated : handler.Treated serial port request)
    (ignored : ∀ entry ∈ handler.ignored, entry ∈ next.ignored)
    (tasks : ∀ task ∈ handler.tasks, ∃ later ∈ next.tasks,
      later.serial = task.serial ∧ later.port = task.port ∧ later.request = task.request)
    (status : handler.inWork = none ∨ next.status = handler.status) :
    next.Treated serial port request := by
  cases treated with
  | ignored entry member number source => exact .ignored entry (ignored entry member) number source
  | binding working =>
      rcases status with idle | same
      · simp only [inWork, working] at idle
        cases idle
      · exact .binding (same.trans working)
  | refusing working =>
      rcases status with idle | same
      · simp only [inWork, working] at idle
        cases idle
      · exact .refusing (same.trans working)
  | served task member number source content =>
      obtain ⟨later, inside, one, two, three⟩ := tasks task member
      exact .served later inside (one.trans number) (two.trans source) (three.trans content)

/-- The sessions that there are stay as they are. -/
theorem same (treated : handler.Treated serial port request)
    (ignored : ∀ entry ∈ handler.ignored, entry ∈ next.ignored)
    (tasks : ∀ task ∈ handler.tasks, task ∈ next.tasks)
    (status : handler.inWork = none ∨ next.status = handler.status) :
    next.Treated serial port request :=
  treated.keep ignored (fun task member => ⟨task, tasks task member, rfl, rfl, rfl⟩) status

/-- The request in work gets its session. -/
theorem scheduleTask (treated : handler.Treated serial port request) {working : Nat}
    {source : UInt16} {content : R} (grown : Nat)
    (status : handler.status = .binding working source content ∨
      handler.status = .refusing working source content)
    (ignored : next.ignored = handler.ignored) (tasks : next.tasks = handler.tasks) :
    (next.scheduleTask working source content grown).Treated serial port request := by
  have started : ⟨working, source, content, next.clock, none⟩ ∈
      (next.scheduleTask working source content grown).tasks :=
    List.mem_append_right _ (List.mem_singleton_self _)
  cases treated with
  | ignored entry member number origin =>
      exact .ignored entry (by rwa [← ignored] at member) number origin
  | binding found =>
      rw [found] at status
      rcases status with same | same
      · cases same
        exact .served _ started rfl rfl rfl
      · cases same
  | refusing found =>
      rw [found] at status
      rcases status with same | same
      · cases same
      · cases same
        exact .served _ started rfl rfl rfl
  | served task member number origin matter =>
      exact .served task (List.mem_append_left _ (by rwa [← tasks] at member)) number origin matter

theorem change {event : Event R} (treated : handler.Treated serial port request)
    (change : Change handler event next) : next.Treated serial port request := by
  cases change with
  | stay => exact treated
  | feed | dropSender | elapse => exact treated.same (fun _ => id) (fun _ => id) (.inr rfl)
  | ignore status =>
      have idle : handler.inWork = none := by simp only [inWork, status]
      exact treated.same (fun _ member => List.mem_append_left _ member) (fun _ => id) (.inl idle)
  | accept status | leave status | stop status | rest status | notice status =>
      have idle : handler.inWork = none := by simp only [inWork, status]
      exact treated.same (fun _ => id) (fun _ => id) (.inl idle)
  | refuse grown crowded status =>
      cases treated with
      | ignored entry member number source => exact .ignored entry member number source
      | binding found =>
          rw [found] at status
          cases status
          exact .refusing rfl
      | refusing found =>
          rw [found] at status
          cases status
      | served task member number source content =>
          exact .served task member number source content
  | schedule grown crowded status => exact treated.scheduleTask grown (.inl status) rfl rfl
  | override grown status => exact treated.scheduleTask grown (.inr status) rfl rfl
  | close status =>
      have idle : handler.inWork = none := by simp only [inWork, status]
      exact treated.same (fun _ => id) (fun _ => id) (.inl idle)
  | join status =>
      have idle : handler.inWork = none := by simp only [inWork, status]
      exact treated.same (fun _ => id) (fun _ => id) (.inl idle)
  | finish handle =>
      refine treated.keep (fun _ => id) (fun task member => ?_) (.inr rfl)
      obtain ⟨later, inside, succeeds⟩ := handler.finish_task handle member
      exact ⟨later, inside, succeeds.serial, succeeds.port, succeeds.request⟩

end Treated

/-- The last request that was taken is the only new one. -/
theorem taken_concat {taken : List (UInt16 × R)} {serial : Nat} {port source : UInt16}
    {request content : R}
    (found : (taken ++ [(source, content)])[serial]? = some (port, request)) :
    taken[serial]? = some (port, request) ∨
      serial = taken.length ∧ port = source ∧ request = content := by
  rw [List.getElem?_append] at found
  split at found
  · exact .inl found
  · rw [List.getElem?_singleton] at found
    split at found
    · cases found
      exact .inr ⟨by omega, rfl, rfl⟩
    · cases found

namespace Attentive

variable {handler next : RequestsHandler R}

theorem change {event : Event R} (attentive : handler.Attentive)
    (change : Change handler event next)
    (alive : ∀ entry ∈ next.ignored, entry.alive = true) : next.Attentive := by
  refine ⟨alive, fun serial port request found => ?_⟩
  have known : handler.taken[serial]? = some (port, request) → next.Treated serial port request :=
    fun earlier => (attentive.treated serial port request earlier).change change
  cases change with
  | ignore =>
      rcases taken_concat found with earlier | ⟨rfl, rfl, rfl⟩
      · exact known earlier
      · exact .ignored _ (List.mem_append_right _ (List.mem_singleton_self _)) rfl rfl
  | accept =>
      rcases taken_concat found with earlier | ⟨rfl, rfl, rfl⟩
      · exact known earlier
      · exact .binding rfl
  | _ => exact known found

end Attentive

/-- An event other than a repeated request ignores nothing. -/
theorem Change.ignored {handler next : RequestsHandler R} {event : Event R}
    (change : Change handler event next) :
    next.ignored = handler.ignored ∨ ∃ since port request rest, event = .receive ∧
      handler.status = .waiting since ∧ handler.queue = (port, request) :: rest ∧
      handler.sendSessions.containsKey port = true ∧ next.ignored = handler.ignored ++
        [⟨handler.taken.length, port, handler.isLive port⟩] := by
  cases change with
  | ignore status first repeated =>
      exact .inr ⟨_, _, _, _, rfl, status, first, repeated, rfl⟩
  | _ => exact .inl rfl

/-- A repeated request is ignored with a live session as long as no port lingers. -/
theorem Sound.alive {handler next : RequestsHandler R} {event : Event R} (sound : handler.Sound)
    (change : Change handler event next) (renewed : Renewed handler event)
    (alive : ∀ entry ∈ handler.ignored, entry.alive = true) :
    ∀ entry ∈ next.ignored, entry.alive = true := by
  intro entry member
  rcases change.ignored with same | ⟨since, port, request, rest, rfl, status, first, repeated, more⟩
  · exact alive entry (same ▸ member)
  · rw [more] at member
    rcases List.mem_append.mp member with earlier | last
    · exact alive entry earlier
    · rw [List.mem_singleton.mp last]
      have settled := renewed since port request rest rfl status first
      exact (isLive_repeated (sound.waiting status) repeated).mpr settled

/-- A request is taken from a port that lingers in the table, and it is ignored. -/
theorem receive_lingers {handler : RequestsHandler R} {since : Nat} {port : UInt16} {request : R}
    {rest : List (UInt16 × R)} (status : handler.status = .waiting since)
    (first : handler.queue = (port, request) :: rest) (lingers : handler.Lingers port) :
    (handler.step .receive).ignored = handler.ignored ++
      [⟨handler.taken.length, port, handler.isLive port⟩] := by
  obtain ⟨handle, member, _⟩ := lingers
  have repeated := (handler.sendSessions.containsKey_iff port).mpr ⟨handle, member⟩
  simp only [step, receive, status, first, take, if_pos repeated]
  rfl

/-- A request in work gets its session when its socket is bound and its refusal, if there is one, is
sent. -/
theorem working_served {handler : RequestsHandler R} {serial : Nat} {port : UInt16} {request : R}
    (working : handler.status = .binding serial port request ∨
      handler.status = .refusing serial port request) (grown : Nat) :
    ∃ task ∈ ((handler.step (.bound grown)).step (.refusalSent grown)).tasks,
      task.serial = serial ∧ task.port = port ∧ task.request = request := by
  refine ⟨⟨serial, port, request, handler.clock, none⟩, ?_, rfl, rfl, rfl⟩
  rcases working with binding | refusing
  · simp only [step, bound, binding]
    split
    · exact List.mem_append_right _ (List.mem_singleton_self _)
    · exact List.mem_append_right _ (List.mem_singleton_self _)
  · simp only [step, bound, refusing, refusalSent]
    exact List.mem_append_right _ (List.mem_singleton_self _)

/-- Requests are ignored rightly as long as none is taken from a port that lingers, a request in work
gets its session, and the first request from a port that lingers is ignored with no live
session. -/
theorem repeated_ignored_iff (idleTimeout capacity now : Nat) {handler : RequestsHandler R}
    (reached : Reach step Renewed (new idleTimeout capacity now) handler) :
    handler.Attentive ∧
    (∀ serial port request grown, handler.status = .binding serial port request ∨
        handler.status = .refusing serial port request →
      ∃ task ∈ ((handler.step (.bound grown)).step (.refusalSent grown)).tasks,
        task.serial = serial ∧ task.port = port ∧ task.request = request) ∧
    ∀ event, (handler.step event).Attentive ↔ Renewed handler event := by
  have preserved : ∀ (handler : RequestsHandler R) (event : Event R), handler.Sound →
      handler.Attentive → Renewed handler event → (handler.step event).Attentive := by
    intro handler event sound attentive renewed
    have change := handler.step_change event
    exact attentive.change change (sound.alive change renewed attentive.alive)
  have sound := reach_sound reached
  have attentive : handler.Attentive := by
    have both := reached.invariant (fun handler => handler.Sound ∧ handler.Attentive)
      ⟨new_sound idleTimeout capacity now,
        ⟨fun _ member => (nomatch member), fun _ _ _ found => (nomatch found)⟩⟩
      fun handler event both renewed =>
        ⟨both.1.step event, preserved handler event both.1 both.2 renewed⟩
    exact both.2
  refine ⟨attentive, fun _ _ _ grown working => working_served working grown,
    fun event => ⟨fun next => ?_, preserved handler event sound attentive⟩⟩
  rintro since port request rest rfl status first lingers
  have ignored := receive_lingers status first lingers
  have alive : handler.isLive port = true := by
    apply next.alive ⟨handler.taken.length, port, handler.isLive port⟩
    rw [ignored]
    exact List.mem_append_right _ (List.mem_singleton_self _)
  obtain ⟨handle, member, finished⟩ := lingers
  rw [(isLive_iff (sound.waiting status) member).mp alive] at finished
  cases finished

/-- A session finishes, its entry is purged at the next second, and its port gets a new session. -/
theorem repeated_ignored_renewed :
    ([.feed 7 (), .receive, .bound 0, .finish 0, .elapse second, .tick, .feed 7 (), .receive,
      .bound 0].foldl step (new 30 224 0 : RequestsHandler Unit)).Attentive := by
  have permitted : Permits step Renewed (new 30 224 0 : RequestsHandler Unit)
      [.feed 7 (), .receive, .bound 0, .finish 0, .elapse second, .tick, .feed 7 (), .receive,
        .bound 0] := by
    refine ⟨?_, ?_, ?_, ?_, ?_, ?_, ?_, ?_, ?_, trivial⟩
    case refine_2 =>
      rintro _ _ _ _ _ _ _ ⟨_, member, _⟩
      cases member
    case refine_8 =>
      rintro _ _ _ _ _ _ _ ⟨_, member, _⟩
      have empty : ([.feed 7 (), .receive, .bound 0, .finish 0, .elapse second, .tick,
          .feed 7 ()].foldl step
            (new 30 224 0 : RequestsHandler Unit)).sendSessions.entries = [] := by
        decide
      exact List.not_mem_nil (empty ▸ member)
    all_goals exact fun _ _ _ _ other => (nomatch other)
  exact (repeated_ignored_iff 30 224 0 (Reach.permits permitted)).1

/-- A request that comes at once after the session of its port is dropped. -/
theorem repeated_ignored_lingering :
    ¬ ([.feed 7 (), .receive, .bound 0, .finish 0, .feed 7 (), .receive].foldl step
      (new 30 224 0 : RequestsHandler Unit)).Attentive := by
  intro attentive
  have alive := attentive.alive ⟨1, 7, false⟩ (by decide)
  cases alive

end Rtftp.PeerHandler.RequestsHandler

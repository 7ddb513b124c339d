import Rtftp.Proof.Handler.Limit
import Rtftp.Proof.Server.Threads

namespace Rtftp.PeerHandler
open Library

variable {R : Type}

namespace RequestsHandler

def unfinishedTasks (handler : RequestsHandler R) : Nat :=
  handler.tasks.countP fun task => task.finishedAt.isNone

/-- The steps that the loop and its end take at most. A request takes five of them: it is received,
bound and refused, and its session finishes and is joined. -/
def loopWork (handler : RequestsHandler R) : Nat :=
  match handler.status with
  | .waiting _ => 5 * handler.queue.length + handler.sendSessions.entries.length + 2
  | .binding _ _ _ => 5 * handler.queue.length + handler.sendSessions.entries.length + 6
  | .refusing _ _ _ => 5 * handler.queue.length + handler.sendSessions.entries.length + 5
  | .leaving _ => handler.sendSessions.entries.length + 1
  | .draining _ handles => handles.length
  | .returned _ => 0

def work (handler : RequestsHandler R) : Nat := handler.loopWork + handler.unfinishedTasks

section
variable {handler : RequestsHandler R}

theorem purge_length_le (handler : RequestsHandler R) :
    handler.purge.sendSessions.entries.length ≤ handler.sendSessions.entries.length :=
  List.length_filter_le _ _

theorem await_loopWork {exit : Exit} {handles : List (UInt16 × Nat)}
    (status : handler.status = await exit handles) : handler.loopWork = handles.length := by
  cases handles with
  | nil => rw [loopWork, status]; rfl
  | cons handle rest => rw [loopWork, status]; rfl

/-- A session that finishes lowers the work, and a session that has finished stays as it is. -/
theorem finish_work (handler : RequestsHandler R) (handle : Nat) :
    (handler.finish handle).work < handler.work ∨ handler.finish handle = handler := by
  cases found : handler.tasks[handle]? with
  | none =>
      right
      rw [finish, List.modify_eq_self (List.getElem?_eq_none_iff.mp found)]
  | some task =>
      obtain ⟨inside, located⟩ := List.getElem?_eq_some_iff.mp found
      have parts : handler.tasks = handler.tasks.take handle ++
          task :: handler.tasks.drop (handle + 1) := by
        rw [← located, List.getElem_cons_drop, List.take_append_drop]
      have changed : (handler.finish handle).tasks = handler.tasks.take handle ++
          { task with finishedAt := task.finishedAt.or (some handler.clock) } ::
            handler.tasks.drop (handle + 1) := by
        rw [finish, List.modify_eq_take_cons_drop inside, located]
      cases unfinished : task.finishedAt with
      | some time =>
          right
          have same : { task with finishedAt := task.finishedAt.or (some handler.clock) } = task := by
            rw [unfinished, Option.some_or, ← unfinished]
          rw [same, ← parts] at changed
          exact congrArg (fun tasks => { handler with tasks := tasks }) changed
      | none =>
          left
          have before : handler.unfinishedTasks = (handler.finish handle).unfinishedTasks + 1 := by
            rw [unfinishedTasks, unfinishedTasks, changed, unfinished]
            nth_rewrite 1 [parts]
            simp [List.countP_append, unfinished, Nat.add_assoc]
          change (handler.finish handle).loopWork + _ < handler.loopWork + _
          have same : (handler.finish handle).loopWork = handler.loopWork := rfl
          omega

/-- The session and its handle are less work than the request. -/
theorem scheduleTask_work (handler : RequestsHandler R) (serial : Nat) (port : UInt16) (request : R)
    (grown : Nat) :
    (handler.scheduleTask serial port request grown).work ≤
      5 * handler.queue.length + handler.sendSessions.entries.length + 4 +
        handler.unfinishedTasks := by
  have entries : (handler.sendSessions.insert port handler.tasks.length).entries.length ≤
      handler.sendSessions.entries.length + 1 := by
    rw [Table.insert, List.length_append, List.length_singleton]
    exact Nat.add_le_add_right (List.length_filter_le _ _) 1
  have tasks : (handler.scheduleTask serial port request grown).unfinishedTasks =
      handler.unfinishedTasks + 1 := by
    simp [unfinishedTasks, scheduleTask, List.countP_append]
  change 5 * handler.queue.length +
    (handler.sendSessions.insert port handler.tasks.length).entries.length + 2 + _ ≤ _
  rw [tasks]
  omega

/-- Every own step but an elapsed second does a part of the work or changes nothing, and an elapsed
second adds no work. -/
theorem step_work (handler : RequestsHandler R) (event : Event R)
    (fed : ∀ port request, event ≠ .feed port request) (dropped : event ≠ .dropSender)
    (elapsed : ∀ duration, event ≠ .elapse duration) :
    (handler.step event).work < handler.work ∨ handler.step event = handler ∨
      event = .tick ∧ (handler.step event).work ≤ handler.work := by
  have purged := handler.purge_length_le
  have change := handler.step_change event
  generalize handler.step event = next at change ⊢
  cases change with
  | stay => exact .inr (.inl rfl)
  | feed port request => exact absurd rfl (fed port request)
  | dropSender => exact absurd rfl dropped
  | elapse duration => exact absurd rfl (elapsed duration)
  | ignore waiting next =>
      left
      simp only [work, loopWork, waiting, next, List.length_cons, unfinishedTasks]
      omega
  | accept waiting next =>
      left
      simp only [work, loopWork, waiting, next, List.length_cons, unfinishedTasks]
      omega
  | leave waiting empty =>
      left
      simp only [work, loopWork, waiting, empty, List.length_nil, unfinishedTasks]
      omega
  | stop waiting =>
      left
      change handler.purge.sendSessions.entries.length + 1 + handler.unfinishedTasks < _
      simp only [work, loopWork, waiting]
      omega
  | rest waiting | notice waiting =>
      refine .inr (.inr ⟨rfl, ?_⟩)
      change 5 * handler.queue.length + handler.purge.sendSessions.entries.length + 2 +
        handler.unfinishedTasks ≤ _
      simp only [work, loopWork, waiting]
      omega
  | refuse grown crowded binding =>
      left
      change 5 * handler.queue.length + handler.purge.sendSessions.entries.length + 5 +
        handler.unfinishedTasks < _
      simp only [work, loopWork, binding]
      omega
  | @schedule serial port request grown crowded binding =>
      left
      have scheduled := scheduleTask_work
        { handler.purge with crowded := handler.crowded ++ crowded } serial port request grown
      change _ ≤ 5 * handler.queue.length + handler.purge.sendSessions.entries.length + 4 +
        handler.unfinishedTasks at scheduled
      apply Nat.lt_of_le_of_lt scheduled
      simp only [work, loopWork, binding]
      omega
  | @override serial port request grown refusing =>
      left
      have scheduled := scheduleTask_work
        { handler with refused := handler.refused ++ [serial] } serial port request grown
      change _ ≤ 5 * handler.queue.length + handler.sendSessions.entries.length + 4 +
        handler.unfinishedTasks at scheduled
      apply Nat.lt_of_le_of_lt scheduled
      simp only [work, loopWork, refusing]
      omega
  | close leaving =>
      left
      rw [work, await_loopWork rfl, work, loopWork, leaving]
      simp only [unfinishedTasks]
      omega
  | @join exit handles place entry draining found finished =>
      left
      have inside := (List.getElem?_eq_some_iff.mp found).1
      rw [work, await_loopWork rfl, work, loopWork, draining, List.length_eraseIdx_of_lt inside]
      simp only [unfinishedTasks]
      omega
  | finish handle =>
      rcases handler.finish_work handle with lower | same
      · exact .inl lower
      · exact .inr (.inl same)

end

end RequestsHandler

end Rtftp.PeerHandler

namespace Rtftp.ServeAugmented
open Library PeerHandler

/-- A thread goes on by one of its own steps. -/
inductive Move where
  | start
  | advance (event : RequestsHandler.Event Accepted)
  | panic
  | finish

namespace Handler

def move (handler : Handler) : Move → Handler
  | .start => handler.start
  | .advance event => handler.advance event
  | .panic => handler.panic
  | .finish => handler.finish

/-- The steps that the thread takes at most. -/
def work (handler : Handler) : Nat :=
  match handler.thread with
  | .opening => handler.requests.work + 2
  | .running => handler.requests.work + 1
  | .unwound => handler.requests.unfinishedTasks + 1
  | .panicked => 0
  | .finished => 0

section
variable {handler : Handler}

theorem Orderly.move (orderly : handler.Orderly) (move : Move) :
    handler.Continues (handler.move move) := by
  cases move with
  | start => exact orderly.start
  | advance event => exact orderly.advance event
  | panic => exact orderly.panic
  | finish => exact orderly.finish

theorem start_work (orderly : handler.Orderly) :
    handler.start.work < handler.work ∨ handler.start = handler := by
  unfold start
  split
  · rename_i opening
    left
    obtain ⟨_, since, waiting⟩ := orderly.opening opening
    have same : RequestsHandler.work { handler.requests with
        status := .waiting handler.requests.clock
        lastActive := handler.requests.clock } = handler.requests.work := by
      simp only [RequestsHandler.work, RequestsHandler.loopWork, waiting,
        RequestsHandler.unfinishedTasks]
    simp only [work, opening, same]
    omega
  · exact .inr rfl

theorem running_work (running : handler.thread = .running) (requests : RequestsHandler Accepted) :
    work { handler with requests := requests } = requests.work + 1 := by
  simp only [work, running]

theorem unwound_work (unwound : handler.thread = .unwound) (requests : RequestsHandler Accepted) :
    work { handler with requests := requests } = requests.unfinishedTasks + 1 := by
  simp only [work, unwound]

theorem advance_work (handler : Handler) (event : RequestsHandler.Event Accepted) :
    (handler.advance event).work < handler.work ∨ handler.advance event = handler ∨
      event = .tick ∧ (handler.advance event).work ≤ handler.work := by
  unfold advance
  split
  · rename_i running
    split
    · rename_i own
      have stepped := handler.requests.step_work event
        (by rintro port request rfl; cases own) (by rintro rfl; cases own)
        (by rintro duration rfl; cases own)
      rw [running_work running, show handler.work = _ from running_work running handler.requests]
      rcases stepped with lower | same | ⟨tick, kept⟩
      · exact .inl (Nat.add_lt_add_right lower 1)
      · right
        left
        rw [same]
      · exact .inr (.inr ⟨tick, Nat.add_le_add_right kept 1⟩)
    · exact .inr (.inl rfl)
  · rename_i unwound
    split
    · rename_i task
      rw [unwound_work unwound, show handler.work = _ from unwound_work unwound handler.requests]
      rcases handler.requests.finish_work task with lower | same
      · left
        exact Nat.add_lt_add_right (Nat.lt_of_add_lt_add_left lower) 1
      · right
        left
        change { handler with requests := handler.requests.finish task } = handler
        rw [same]
    · exact .inr (.inl rfl)
  · exact .inr (.inl rfl)

theorem panic_work (handler : Handler) :
    handler.panic.work < handler.work ∨ handler.panic = handler := by
  unfold panic
  split
  · rename_i opening
    left
    simp only [work, unwind, opening]
    omega
  · rename_i running binding
    left
    simp only [work, unwind, running, RequestsHandler.work, RequestsHandler.loopWork, binding,
      RequestsHandler.unfinishedTasks]
    omega
  · rename_i running refusing
    left
    simp only [work, unwind, running, RequestsHandler.work, RequestsHandler.loopWork, refusing,
      RequestsHandler.unfinishedTasks]
    omega
  · exact .inr rfl

theorem finish_work (handler : Handler) :
    handler.finish.work < handler.work ∨ handler.finish = handler := by
  unfold finish
  split
  · split
    · rename_i running _
      left
      simp only [work, running]
      omega
    · rename_i unwound
      left
      simp only [work, unwound]
      omega
    · exact .inr rfl
  · exact .inr rfl

/-- Every step of a thread but an elapsed second does a part of its work or changes nothing. -/
theorem Orderly.move_work (orderly : handler.Orderly) (move : Move) :
    (handler.move move).work < handler.work ∨ handler.move move = handler ∨
      move = .advance .tick ∧ (handler.move move).work ≤ handler.work := by
  cases move with
  | start => exact (start_work orderly).imp_right .inl
  | advance event =>
      rcases handler.advance_work event with lower | same | ⟨rfl, kept⟩
      · exact .inl lower
      · exact .inr (.inl same)
      · exact .inr (.inr ⟨rfl, kept⟩)
  | panic => exact handler.panic_work.imp_right .inl
  | finish => exact handler.finish_work.imp_right .inl

/-- A step that changes something other than the clock does a part of the work. -/
theorem Orderly.lowers (orderly : handler.Orderly) {move : Move}
    (changes : handler.move move ≠ handler) (other : move ≠ .advance .tick) :
    (handler.move move).work < handler.work := by
  rcases orderly.move_work move with lower | same | ⟨tick, _⟩
  · exact lower
  · exact absurd same changes
  · exact absurd tick other

/-- A running thread whose requests handler goes on. -/
theorem advance_ne (running : handler.thread = .running) {event : RequestsHandler.Event Accepted}
    (own : ownEvent event = true) (changes : handler.requests.step event ≠ handler.requests) :
    handler.move (.advance event) ≠ handler := by
  intro same
  apply changes
  have advanced : handler.move (.advance event) =
      { handler with requests := handler.requests.step event } := by
    simp only [move, advance, running, own, if_true]
  rw [advanced] at same
  exact congrArg Handler.requests same

/-- A live session can finish. -/
theorem finish_ne {requests : RequestsHandler Accepted} {index : Nat}
    {task : PeerHandler.Task Accepted} (found : requests.tasks[index]? = some task)
    (live : task.finishedAt = none) : requests.step (.finish index) ≠ requests := by
  intro same
  have changed : (requests.step (.finish index)).tasks[index]? =
      some { task with finishedAt := task.finishedAt.or (some requests.clock) } := by
    change (requests.finish index).tasks[index]? = _
    rw [RequestsHandler.finish, List.getElem?_modify_eq, found]
    rfl
  rw [same, found] at changed
  have equal := congrArg PeerHandler.Task.finishedAt (Option.some.inj changed)
  rw [live] at equal
  cases equal

/-- A loop whose sender is dropped, or whose channel has a request, goes on. -/
theorem waiting_progress {requests : RequestsHandler Accepted} {since : Nat}
    (waiting : requests.status = .waiting since)
    (pressed : requests.senderDropped = true ∨ requests.queue ≠ []) :
    requests.step .receive ≠ requests := by
  intro same
  change requests.receive = requests at same
  cases next : requests.queue with
  | nil =>
      have dropped := pressed.resolve_right (absurd next)
      have left := congrArg RequestsHandler.status same
      simp only [RequestsHandler.receive, waiting, next, dropped, if_true] at left
      cases left
  | cons item rest =>
      have received := congrArg RequestsHandler.queue same
      have shorter : requests.receive.queue = rest := by
        simp only [RequestsHandler.receive, waiting, next, RequestsHandler.take]
        split
        · rfl
        · rfl
      rw [shorter, next] at received
      exact absurd (congrArg List.length received) (by simp)

/-- A handler that drains goes on with its first handle. -/
theorem draining_progress {requests : RequestsHandler Accepted} {exit : Exit}
    {entry : UInt16 × Nat} {rest : List (UInt16 × Nat)}
    (tracks : RequestsHandler.Tracks requests.tasks requests.held)
    (draining : requests.status = .draining exit (entry :: rest)) :
    requests.step (.join 0) ≠ requests ∨ requests.step (.finish entry.2) ≠ requests := by
  have held : entry ∈ requests.held := by
    simp only [RequestsHandler.held, draining, List.mem_cons_self]
  obtain ⟨task, found, _⟩ := tracks.known entry held
  cases finished : requests.isFinished entry.2 with
  | false => exact .inr (finish_ne found ((requests.isFinished_iff found).mp finished))
  | true =>
      left
      intro same
      have joined := congrArg RequestsHandler.status same
      change (requests.join 0).status = _ at joined
      simp only [RequestsHandler.join, draining, List.getElem?_cons_zero, finished, if_true,
        List.eraseIdx_cons_zero] at joined
      cases rest with
      | nil => cases joined
      | cons other others =>
          injection joined with _ handles
          exact absurd (congrArg List.length handles) (by simp)

/-- The request in work is refused or gets its session. -/
theorem working_progress {requests : RequestsHandler Accepted} {serial : Nat} {port : UInt16}
    {request : Accepted} :
    (requests.status = .binding serial port request → requests.step (.bound 0) ≠ requests) ∧
      (requests.status = .refusing serial port request →
        requests.step (.refusalSent 0) ≠ requests) := by
  constructor
  · intro binding same
    have later : (requests.bound 0).status = .binding serial port request :=
      (congrArg RequestsHandler.status same).trans binding
    simp only [RequestsHandler.bound, binding] at later
    split at later
    · cases later
    · cases later
  · intro refusing same
    have later : (requests.refusalSent 0).status = .refusing serial port request :=
      (congrArg RequestsHandler.status same).trans refusing
    simp only [RequestsHandler.refusalSent, refusing] at later
    cases later

theorem leaving_progress {requests : RequestsHandler Accepted} {exit : Exit}
    (leaving : requests.status = .leaving exit) : requests.step .close ≠ requests := by
  intro same
  have later : requests.close.status = .leaving exit :=
    (congrArg RequestsHandler.status same).trans leaving
  simp only [RequestsHandler.close, leaving] at later
  cases entries : requests.sendSessions.entries with
  | nil =>
      rw [entries] at later
      cases later
  | cons entry rest =>
      rw [entries] at later
      cases later

/-- A handler that has returned has no live session. -/
theorem returned_finished {requests : RequestsHandler Accepted} {exit : Exit}
    (tracks : RequestsHandler.Tracks requests.tasks requests.held)
    (returned : requests.status = .returned exit) :
    (requests.tasks.all fun task => task.finishedAt.isSome) = true := by
  rw [List.all_eq_true]
  intro task member
  obtain ⟨index, found⟩ := List.mem_iff_getElem?.mp member
  by_contra unfinished
  have held := tracks.held index task found (by simpa using unfinished)
  simp only [RequestsHandler.held, returned] at held
  cases held

/-- The thread ends after its last session. -/
theorem finish_ends (unfinished : handler.isFinished = false)
    (each : (handler.requests.tasks.all fun task => task.finishedAt.isSome) = true)
    (ready : handler.thread = .unwound ∨
      handler.thread = .running ∧ ∃ exit, handler.requests.status = .returned exit) :
    handler.move .finish ≠ handler := by
  intro same
  have ended : handler.finish.isFinished = true := by
    rcases ready with unwound | ⟨running, exit, returned⟩
    · simp only [finish, each, unwound, if_true, isFinished]
    · simp only [finish, each, running, returned, if_true, isFinished]
  rw [show handler.finish = handler from same, unfinished] at ended
  cases ended

/-- The handler waits for the next request or for its next second. -/
def Awaits (handler : Handler) : Prop :=
  handler.thread = .running ∧ (∃ since, handler.requests.status = .waiting since) ∧
    handler.requests.senderDropped = false ∧ handler.requests.queue = []

/-- A thread that has not ended goes on unless its handler waits. -/
theorem Orderly.progress_unless (orderly : handler.Orderly)
    (unfinished : handler.isFinished = false) (busy : ¬ handler.Awaits) :
    ∃ move : Move, move ≠ .advance .tick ∧ (handler.move move).work < handler.work := by
  have goes {move : Move} (changes : handler.move move ≠ handler)
      (other : move ≠ .advance .tick) :
      ∃ move : Move, move ≠ .advance .tick ∧ (handler.move move).work < handler.work :=
    ⟨move, other, orderly.lowers changes other⟩
  cases thread : handler.thread with
  | opening =>
      have changes : handler.move .start ≠ handler := by
        intro same
        have started : handler.start.thread = .opening :=
          (congrArg Handler.thread same).trans thread
        simp only [Handler.start, thread] at started
        cases started
      exact goes changes nofun
  | running =>
      cases status : handler.requests.status with
      | waiting since =>
          have pressed : handler.requests.senderDropped = true ∨ handler.requests.queue ≠ [] := by
            by_contra calm
            push Not at calm
            exact busy ⟨thread, ⟨since, status⟩, Bool.eq_false_iff.mpr calm.1, calm.2⟩
          exact goes (advance_ne thread rfl (waiting_progress status pressed)) nofun
      | binding serial port request =>
          exact goes (advance_ne thread rfl (working_progress.1 status)) nofun
      | refusing serial port request =>
          exact goes (advance_ne thread rfl (working_progress.2 status)) nofun
      | leaving exit => exact goes (advance_ne thread rfl (leaving_progress status)) nofun
      | draining exit handles =>
          cases handles with
          | nil => exact absurd status (orderly.closes.handles exit)
          | cons entry rest =>
              rcases draining_progress orderly.tracks status with joins | finishes
              · exact goes (advance_ne thread rfl joins) nofun
              · exact goes (advance_ne thread rfl finishes) nofun
      | returned exit =>
          exact goes (finish_ends unfinished (returned_finished orderly.tracks status)
            (.inr ⟨thread, exit, status⟩)) nofun
  | unwound =>
      cases each : handler.requests.tasks.all fun task => task.finishedAt.isSome with
      | true => exact goes (finish_ends unfinished each (.inl thread)) nofun
      | false =>
          obtain ⟨task, member, live⟩ := List.all_eq_false.mp each
          obtain ⟨index, found⟩ := List.mem_iff_getElem?.mp member
          have changes : handler.move (.advance (.finish index)) ≠ handler := by
            intro same
            apply finish_ne found (by simpa using live)
            have requests := congrArg Handler.requests same
            simp only [Handler.move, Handler.advance, thread] at requests
            exact requests
          exact goes changes nofun
  | panicked =>
      rw [isFinished, thread] at unfinished
      cases unfinished
  | finished =>
      rw [isFinished, thread] at unfinished
      cases unfinished

/-- A thread that has not ended goes on when its sender is dropped or its channel has a request. -/
theorem Orderly.progress (orderly : handler.Orderly) (unfinished : handler.isFinished = false)
    (pressed : handler.requests.senderDropped = true ∨ handler.requests.queue ≠ []) :
    ∃ move : Move, move ≠ .advance .tick ∧ (handler.move move).work < handler.work := by
  apply orderly.progress_unless unfinished
  rintro ⟨_, _, present, empty⟩
  rcases pressed with dropped | filled
  · rw [present] at dropped
    cases dropped
  · exact filled empty

end

end Handler

end Rtftp.ServeAugmented

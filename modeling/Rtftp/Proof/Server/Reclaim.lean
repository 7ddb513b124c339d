import Rtftp.Proof.Server.Liveness
import Rtftp.Proof.Server.Steps

namespace Rtftp.ServeAugmented
open Library PeerHandler

theorem await_ne_waiting {R : Type} (exit : Exit) (handles : List (UInt16 × Nat)) (since : Nat) :
    (RequestsHandler.await exit handles : HandlerStatus R) ≠ .waiting since := by
  cases handles with
  | nil => simp [RequestsHandler.await]
  | cons entry rest => simp [RequestsHandler.await]

/-- The loop of the requests handler is over. -/
def ended {R : Type} : HandlerStatus R → Bool
  | .leaving _ => true
  | .draining _ _ => true
  | .returned _ => true
  | _ => false

theorem await_ended {R : Type} (exit : Exit) (handles : List (UInt16 × Nat)) :
    ended (RequestsHandler.await exit handles : HandlerStatus R) = true := by
  cases handles with
  | nil => rfl
  | cons entry rest => rfl

namespace Handler

/-- The handler remembers no moment to come, and it has the idle time of the server. -/
structure Punctual (maxIdleTime : Nat) (handler : Handler) : Prop where
  idleTimeout : handler.requests.idleTimeout = maxIdleTime
  active : handler.requests.lastActive ≤ handler.requests.clock
  since : ∀ since, handler.requests.status = .waiting since → since ≤ handler.requests.clock

section
variable {maxIdleTime : Nat} {handler : Handler}

/-- Every step of the requests handler takes its moments from the clock. -/
theorem Punctual.step (punctual : handler.Punctual maxIdleTime)
    (event : RequestsHandler.Event Accepted) :
    Punctual maxIdleTime { handler with requests := handler.requests.step event } := by
  obtain ⟨idleTimeout, active, since⟩ := punctual
  have change := handler.requests.step_change event
  generalize handler.requests.step event = next at change ⊢
  cases change with
  | stay => exact ⟨idleTimeout, active, since⟩
  | feed => exact ⟨idleTimeout, active, since⟩
  | dropSender => exact ⟨idleTimeout, active, since⟩
  | elapse duration =>
      exact ⟨idleTimeout, Nat.le_add_right_of_le active,
        fun moment waiting => Nat.le_add_right_of_le (since moment waiting)⟩
  | ignore | rest | schedule | override =>
      refine ⟨idleTimeout, active, fun moment waiting => ?_⟩
      cases waiting
      exact Nat.le_refl _
  | notice =>
      refine ⟨idleTimeout, Nat.le_refl _, fun moment waiting => ?_⟩
      cases waiting
      exact Nat.le_refl _
  | accept | leave | stop | refuse =>
      exact ⟨idleTimeout, active, fun moment waiting => by cases waiting⟩
  | close | join =>
      exact ⟨idleTimeout, active, fun moment waiting => absurd waiting (await_ne_waiting _ _ _)⟩
  | finish => exact ⟨idleTimeout, active, since⟩

theorem punctual_new (remoteIp : IpAddr) (maxIdleTime capacity now : Nat) :
    Punctual maxIdleTime ⟨remoteIp, .opening, RequestsHandler.new maxIdleTime capacity now⟩ := by
  refine ⟨rfl, Nat.le_refl _, fun since waiting => ?_⟩
  cases waiting
  exact Nat.le_refl _

theorem Punctual.start (punctual : handler.Punctual maxIdleTime) :
    handler.start.Punctual maxIdleTime := by
  unfold Handler.start
  split
  · refine ⟨punctual.idleTimeout, Nat.le_refl _, fun since waiting => ?_⟩
    cases waiting
    exact Nat.le_refl _
  · exact punctual

theorem Punctual.move (punctual : handler.Punctual maxIdleTime) (move : Move) :
    (handler.move move).Punctual maxIdleTime := by
  cases move with
  | start => exact punctual.start
  | advance event =>
      unfold Handler.move Handler.advance
      dsimp only
      split
      · split
        · exact punctual.step event
        · exact punctual
      · split
        · exact punctual.step _
        · exact punctual
      · exact punctual
  | panic =>
      unfold Handler.move Handler.panic
      dsimp only
      split <;> exact ⟨punctual.idleTimeout, punctual.active, punctual.since⟩
  | finish =>
      unfold Handler.move Handler.finish
      dsimp only
      split
      · split <;> exact ⟨punctual.idleTimeout, punctual.active, punctual.since⟩
      · exact punctual

end

end Handler

namespace State

variable {state : State} {Keeps : Handler → Prop}

theorem forall_modify (each : ∀ handler ∈ state.handlers, Keeps handler) (handle : Nat)
    {change : Handler → Handler} (kept : ∀ handler, Keeps handler → Keeps (change handler)) :
    ∀ handler ∈ state.handlers.modify handle change, Keeps handler := by
  intro handler member
  obtain ⟨place, here⟩ := List.mem_iff_getElem?.mp member
  rw [List.getElem?_modify] at here
  obtain ⟨old, found, same⟩ := Option.map_eq_some_iff.mp here
  have keeps := each old (List.mem_of_getElem? found)
  rw [← same]
  split
  · exact kept old keeps
  · exact keeps

theorem forall_stepped {handlers next : List Handler} (stepped : Stepped handlers next)
    (each : ∀ handler ∈ handlers, Keeps handler)
    (requests : ∀ (handler : Handler) event, Keeps handler →
      Keeps { handler with requests := handler.requests.step event })
    (moves : ∀ (handler : Handler) move, Keeps handler → Keeps (handler.move move)) :
    ∀ handler ∈ next, Keeps handler := by
  intro handler member
  obtain ⟨place, inside, rfl⟩ := List.mem_iff_getElem.mp member
  have bound : place < handlers.length := stepped.length_eq ▸ inside
  have keeps := each _ (List.getElem_mem bound)
  have after := (List.forall₂_iff_get.mp stepped).2 place bound inside
  simp only [List.get_eq_getElem] at after
  generalize next[place] = changed at after
  cases after with
  | stay => exact keeps
  | requests event => exact requests _ event keeps
  | move move => exact moves _ move keeps

/-- What the steps of a handler keep and every new handler has, every handler has in every run. -/
theorem forall_step (each : ∀ handler ∈ state.handlers, Keeps handler)
    (new : ∀ remoteIp capacity,
      Keeps ⟨remoteIp, .opening, RequestsHandler.new state.maxIdleTime capacity state.clock⟩)
    (requests : ∀ (handler : Handler) event, Keeps handler →
      Keeps { handler with requests := handler.requests.step event })
    (moves : ∀ (handler : Handler) move, Keeps handler → Keeps (handler.move move))
    (event : Event) : ∀ handler ∈ (step state event).handlers, Keeps handler := by
  cases state.step_changed event with
  | kept _ handlers _ => exact forall_stepped handlers each requests moves
  | opened remoteIp capacity _ handlers _ =>
      refine forall_stepped handlers ?_ requests moves
      intro handler member
      rcases List.mem_append.mp member with old | fresh
      · exact each handler old
      · rw [List.mem_singleton.mp fresh]
        exact new remoteIp capacity

theorem step_maxIdleTime (state : State) (event : Event) :
    (step state event).maxIdleTime = state.maxIdleTime := by
  cases state.step_changed event with
  | kept maxIdleTime _ _ => exact maxIdleTime
  | opened _ _ maxIdleTime _ _ => exact maxIdleTime

theorem reach_punctual {server : TFTPServer} {maxIdleTime now : Nat} {state : State}
    (reached : Reach step (fun _ _ => True) (new server maxIdleTime now) state) :
    ∀ handler ∈ state.handlers, handler.Punctual maxIdleTime := by
  have holds : state.maxIdleTime = maxIdleTime ∧
      ∀ handler ∈ state.handlers, handler.Punctual maxIdleTime := by
    apply reached.invariant fun state => state.maxIdleTime = maxIdleTime ∧
      ∀ handler ∈ state.handlers, handler.Punctual maxIdleTime
    · exact ⟨rfl, fun handler member => by cases member⟩
    · rintro earlier event ⟨same, each⟩ _
      refine ⟨(step_maxIdleTime earlier event).trans same, ?_⟩
      apply forall_step each
      · intro remoteIp capacity
        rw [same]
        exact Handler.punctual_new remoteIp maxIdleTime capacity earlier.clock
      · exact fun handler event punctual => punctual.step event
      · exact fun handler move punctual => punctual.move move
  exact holds.2

end State

namespace Handler

/-- No session of the handler is live. -/
def Vacant (handler : Handler) : Prop :=
  ∀ task ∈ handler.requests.tasks, task.finishedAt.isSome = true

/-- The next second ends the handler. -/
def Due (handler : Handler) : Prop :=
  ∀ since, handler.requests.status = .waiting since →
    since + second ≤ handler.requests.clock ∧
      handler.requests.idleTimeout * second < handler.requests.clock - handler.requests.lastActive

/-- The loop of the handler is over, but its thread is not. -/
def Closing (handler : Handler) : Prop :=
  handler.thread = .running ∧ ended handler.requests.status = true

/-- The handler has ended, its loop is over, or the next second ends it. -/
def Retiring (handler : Handler) : Prop :=
  handler.isFinished = true ∨ handler.Closing ∨ handler.Awaits ∧ handler.Vacant ∧ handler.Due

section
variable {handler : Handler}

/-- The table of a vacant handler is purged completely. -/
theorem Vacant.purge (vacant : handler.Vacant) :
    handler.requests.purge.sendSessions.entries = [] := by
  rw [RequestsHandler.purge, Table.retain, List.filter_eq_nil_iff]
  intro entry _
  simp only [Bool.not_eq_true', Bool.not_eq_false]
  rw [RequestsHandler.isFinished]
  split
  · rename_i task found
    exact vacant task (List.mem_of_getElem? found)
  · rfl

/-- A finished session stays finished. -/
theorem Vacant.finish (vacant : handler.Vacant) (handle : Nat) :
    Vacant { handler with requests := handler.requests.finish handle } := by
  intro task member
  obtain ⟨place, here⟩ := List.mem_iff_getElem?.mp member
  change (handler.requests.tasks.modify handle _)[place]? = some task at here
  rw [List.getElem?_modify] at here
  obtain ⟨old, found, same⟩ := Option.map_eq_some_iff.mp here
  have finished := vacant old (List.mem_of_getElem? found)
  rw [← same]
  split
  · simp
  · exact finished

/-- A loop that has ended does not start again. -/
theorem Closing.step (closing : handler.Closing) (event : RequestsHandler.Event Accepted) :
    Closing { handler with requests := handler.requests.step event } := by
  obtain ⟨running, left⟩ := closing
  refine ⟨running, ?_⟩
  have change := handler.requests.step_change event
  generalize handler.requests.step event = next at change ⊢
  cases change with
  | close | join => exact await_ended _ _
  | leave | stop => rfl
  | stay | feed | dropSender | elapse | finish => exact left
  | ignore status _ _ | accept status _ _ | rest status _ _ _ | notice status _ _
  | refuse _ _ status _ _ | schedule _ _ status _ _ | override _ status =>
      rw [status] at left
      cases left

/-- The next second ends a handler that is due, and nothing else changes it. -/
theorem Due.step (awaits : handler.Awaits) (vacant : handler.Vacant) (due : handler.Due)
    {event : RequestsHandler.Event Accepted} (own : ownEvent event = true) :
    Retiring { handler with requests := handler.requests.step event } := by
  obtain ⟨running, ⟨since, waiting⟩, present, empty⟩ := awaits
  have change := handler.requests.step_change event
  generalize handler.requests.step event = next at change ⊢
  cases change with
  | stay => exact .inr (.inr ⟨⟨running, ⟨since, waiting⟩, present, empty⟩, vacant, due⟩)
  | feed | dropSender | elapse => cases own
  | ignore _ next _ | accept _ next _ =>
      rw [empty] at next
      cases next
  | leave _ _ dropped =>
      rw [present] at dropped
      cases dropped
  | stop => exact .inr (.inl ⟨running, rfl⟩)
  | rest _ _ _ short => exact absurd (due since waiting).2 (Nat.not_lt_of_le short)
  | notice _ _ busy => exact absurd vacant.purge busy
  | refuse _ _ status _ _ | schedule _ _ status _ _ | override _ status | close status
  | join status _ _ =>
      rw [waiting] at status
      cases status
  | finish handle =>
      exact .inr (.inr ⟨⟨running, ⟨since, waiting⟩, present, empty⟩, vacant.finish handle, due⟩)

theorem advance_running (running : handler.thread = .running)
    (event : RequestsHandler.Event Accepted) :
    handler.advance event = if ownEvent event then
      { handler with requests := handler.requests.step event } else handler := by
  unfold Handler.advance
  split
  · rfl
  · rename_i unwound
    rw [running] at unwound
    cases unwound
  · rename_i other _
    exact absurd running other

theorem advance_finished (finished : handler.isFinished = true)
    (event : RequestsHandler.Event Accepted) : handler.advance event = handler := by
  unfold Handler.advance
  split
  · rename_i thread
    simp [isFinished, thread] at finished
  · rename_i thread
    simp [isFinished, thread] at finished
  · rfl

theorem Retiring.advance (retiring : handler.Retiring)
    (event : RequestsHandler.Event Accepted) : (handler.advance event).Retiring := by
  rcases retiring with finished | closing | ⟨awaits, vacant, due⟩
  · rw [advance_finished finished]
    exact .inl finished
  · rw [advance_running closing.1]
    split
    · exact .inr (.inl (closing.step event))
    · exact .inr (.inl closing)
  · rw [advance_running awaits.1]
    split
    · rename_i own
      exact due.step awaits vacant own
    · exact .inr (.inr ⟨awaits, vacant, due⟩)

theorem Retiring.move (retiring : handler.Retiring) (move : Move) :
    (handler.move move).Retiring := by
  -- A thread that has ended stays as it is, and a running one has no request in work.
  have shape : handler.isFinished = true ∨ handler.thread = .running ∧
      handler.requests.status.working = [] := by
    rcases retiring with finished | ⟨running, left⟩ | ⟨⟨running, ⟨since, waiting⟩, _⟩, _⟩
    · exact .inl finished
    · refine .inr ⟨running, ?_⟩
      cases status : handler.requests.status with
      | binding | refusing =>
          rw [status] at left
          cases left
      | _ => rfl
    · refine .inr ⟨running, ?_⟩
      rw [waiting]
      rfl
  cases move with
  | start =>
      unfold Handler.move Handler.start
      dsimp only
      split
      · rename_i opening
        rcases shape with finished | ⟨running, _⟩
        · simp [isFinished, opening] at finished
        · rw [opening] at running
          cases running
      · exact retiring
  | advance event => exact retiring.advance event
  | panic =>
      unfold Handler.move Handler.panic
      dsimp only
      split
      · exact .inl rfl
      · rename_i running status
        rcases shape with finished | ⟨_, idle⟩
        · simp [isFinished, running] at finished
        · rw [status] at idle
          cases idle
      · rename_i running status
        rcases shape with finished | ⟨_, idle⟩
        · simp [isFinished, running] at finished
        · rw [status] at idle
          cases idle
      · exact retiring
  | finish =>
      unfold Handler.move Handler.finish
      dsimp only
      split
      · split
        · exact .inl rfl
        · exact .inl rfl
        · exact retiring
      · exact retiring

/-- The second that ends the handler lowers its work. -/
theorem Due.tick (awaits : handler.Awaits) (vacant : handler.Vacant) (due : handler.Due) :
    (handler.move (.advance .tick)).work < handler.work := by
  obtain ⟨running, ⟨since, waiting⟩, _⟩ := awaits
  obtain ⟨elapsed, idle⟩ := due since waiting
  have stopped : handler.requests.step .tick = { handler.requests.purge with
      status := .leaving .inactive
      stoppedAt := some handler.requests.clock } := by
    show handler.requests.tick = _
    unfold RequestsHandler.tick
    rw [waiting]
    dsimp only
    rw [if_pos elapsed, if_pos (List.isEmpty_iff.mpr vacant.purge)]
    exact if_pos idle
  have moved : handler.move (.advance .tick) =
      { handler with requests := handler.requests.step .tick } :=
    (advance_running running .tick).trans (if_pos rfl)
  have empty := congrArg List.length vacant.purge
  rw [moved, stopped]
  simp only [Handler.work, running, RequestsHandler.work, RequestsHandler.loopWork, waiting, empty,
    List.length_nil]
  change 0 + 1 + handler.requests.unfinishedTasks + 1 < _
  omega

theorem Retiring.tick (retiring : handler.Retiring) :
    (handler.move (.advance .tick)).work < handler.work ∨
      handler.move (.advance .tick) = handler := by
  rcases retiring with finished | ⟨running, left⟩ | ⟨awaits, vacant, due⟩
  · exact .inr (advance_finished finished .tick)
  · right
    have still : handler.requests.tick = handler.requests := by
      unfold RequestsHandler.tick
      split
      · rename_i waiting
        rw [waiting] at left
        cases left
      · rfl
    refine (advance_running running .tick).trans ((if_pos rfl).trans ?_)
    show { handler with requests := handler.requests.tick } = handler
    rw [still]
  · exact .inl (due.tick awaits vacant)

/-- A thread that has not ended goes on with the next second at the latest. -/
theorem Retiring.progress (retiring : handler.Retiring) (orderly : handler.Orderly)
    (unfinished : handler.isFinished = false) :
    ∃ move : Move, (handler.move move).work < handler.work := by
  rcases retiring with finished | ⟨running, left⟩ | ⟨awaits, vacant, due⟩
  · rw [unfinished] at finished
    cases finished
  · have busy : ¬ handler.Awaits := by
      rintro ⟨_, ⟨since, waiting⟩, _⟩
      rw [waiting] at left
      cases left
    obtain ⟨move, _, lower⟩ := orderly.progress_unless unfinished busy
    exact ⟨move, lower⟩
  · exact ⟨.advance .tick, due.tick awaits vacant⟩

end

end Handler

namespace State

/-- No client sends a request and no config changes. -/
def unprompted : Event → Bool
  | .arrive _ _ _ _ => false
  | .observe _ _ => false
  | _ => true

/-- The server goes on from a wait, or a thread goes on without the next second. -/
def Drives (state : State) (event : Event) : Prop :=
  inward event = true ∧ state.Productive event

/-- The server or a thread goes on. -/
def Stirs (state : State) (event : Event) : Prop :=
  inward event = true ∧ step state event ≠ state

/-- The server waits for nothing but its next branch, and all handlers retire. -/
structure Retires (state : State) : Prop where
  selects : ¬ state.Waits
  retiring : ∀ handler ∈ state.handlers, handler.Retiring

section
variable {state : State}

theorem effort_turn (state : State) : state.turn.effort = state.effort := by
  unfold State.turn
  split
  · have same : totalWork (state.handlers.map fun handler =>
        if handler.isFinished then { handler with requests := handler.requests.step .dropSender }
        else handler) = totalWork state.handlers := by
      apply totalWork_map
      intro handler
      split <;> rfl
    rw [effort, effort]
    exact congrArg (· + _) same
  · rfl

/-- Without a prompt no step adds effort, and a step that drives the server takes some away. -/
theorem effort_unprompted (owned : state.Owned) {event : Event} (calm : unprompted event = true) :
    (step state event).effort ≤ state.effort ∧
      (state.Drives event → (step state event).effort < state.effort) := by
  cases event with
  | arrive | observe => cases calm
  | turn => exact ⟨state.effort_turn.le, fun drives => by cases drives.1⟩
  | elapse duration =>
      exact ⟨(state.effort_elapse duration).le, fun drives => by cases drives.1⟩
  | _ => exact ⟨(effort_inward owned rfl).1, fun drives => (effort_inward owned rfl).2 drives.2⟩

/-- A server that retires does not wait, so that it does not go on from a wait. -/
theorem Retires.still (retires : state.Retires) :
    state.feed = state ∧ state.joined = state := by
  have selects := retires.selects
  unfold Waits at selects
  constructor
  · unfold State.feed
    split
    · rename_i feeding
      rw [feeding] at selects
      simp at selects
    · rfl
  · unfold State.joined
    split
    · rename_i joining
      rw [joining] at selects
      simp at selects
    · rfl

theorem Retires.move (retires : state.Retires) (handle : Nat) (move : Move) :
    Retires { state with handlers := state.handlers.modify handle (·.move move) } :=
  ⟨retires.selects, forall_modify retires.retiring handle fun _ retiring => retiring.move move⟩

/-- Without a prompt the handlers go on to retire. -/
theorem Retires.step (retires : state.Retires) {event : Event} (calm : unprompted event = true) :
    (step state event).Retires := by
  cases event with
  | arrive | observe => cases calm
  | feed =>
      show state.feed.Retires
      rw [retires.still.1]
      exact retires
  | joined =>
      show state.joined.Retires
      rw [retires.still.2]
      exact retires
  | start handle => exact retires.move handle .start
  | advance handle event => exact retires.move handle (.advance event)
  | panic handle => exact retires.move handle .panic
  | finish handle => exact retires.move handle .finish
  | turn =>
      show state.turn.Retires
      unfold State.turn
      split
      · refine ⟨retires.selects, ?_⟩
        intro handler member
        obtain ⟨old, found, rfl⟩ := List.mem_map.mp member
        split
        · rename_i finished
          exact .inl finished
        · exact retires.retiring old found
      · exact retires
  | elapse duration =>
      refine ⟨retires.selects, ?_⟩
      intro handler member
      obtain ⟨old, found, rfl⟩ := List.mem_map.mp member
      rcases retires.retiring old found with finished | closing | ⟨awaits, vacant, due⟩
      · exact .inl finished
      · exact .inr (.inl (closing.step (.elapse duration)))
      · refine .inr (.inr ⟨awaits, vacant, fun since waiting => ?_⟩)
        obtain ⟨elapsed, idle⟩ := due since waiting
        show since + second ≤ old.requests.clock + duration ∧
          old.requests.idleTimeout * second <
            old.requests.clock + duration - old.requests.lastActive
        omega

/-- Every step of a server that retires takes effort away. -/
theorem Retires.lowers (retires : state.Retires) (owned : state.Owned) {event : Event}
    (stirs : state.Stirs event) : (ServeAugmented.step state event).effort < state.effort := by
  by_cases tick : ∃ handle, event = .advance handle .tick
  · obtain ⟨handle, rfl⟩ := tick
    have changes := stirs.2
    change ServeAugmented.step state (Move.event handle (.advance .tick)) ≠ state at changes
    show (ServeAugmented.step state (Move.event handle (.advance .tick))).effort < _
    rw [step_move] at changes ⊢
    cases here : state.handlers[handle]? with
    | none =>
        rw [List.modify_eq_self (List.getElem?_eq_none_iff.mp here)] at changes
        exact absurd rfl changes
    | some handler =>
        rcases (retires.retiring handler (List.mem_of_getElem? here)).tick with lower | same
        · have total := totalWork_modify here (·.move (.advance .tick))
          unfold effort
          dsimp only
          omega
        · rw [modify_unchanged here same] at changes
          exact absurd rfl changes
  · apply (effort_inward owned stirs.1).2
    refine ⟨?_, ?_, stirs.2⟩
    · rintro duration rfl
      cases stirs.1
    · rintro handle rfl
      exact tick ⟨handle, rfl⟩

/-- A handler that nothing drives waits without a live session. -/
theorem Owned.undriven (owned : state.Owned) (settled : ∀ event, ¬ state.Drives event)
    {handler : Handler} (member : handler ∈ state.handlers)
    (unfinished : handler.isFinished = false) : handler.Awaits ∧ handler.Vacant := by
  have orderly := owned.orderly handler member
  obtain ⟨handle, here⟩ := List.mem_iff_getElem?.mp member
  have stands (move : Move) (other : move ≠ .advance .tick) :
      ¬ (handler.move move).work < handler.work := fun lower =>
    settled _ ⟨inward_move handle move, productive_move here other lower⟩
  have awaits : handler.Awaits := by
    by_contra busy
    obtain ⟨move, other, lower⟩ := orderly.progress_unless unfinished busy
    exact stands move other lower
  refine ⟨awaits, fun task held => ?_⟩
  by_contra live
  obtain ⟨index, found⟩ := List.mem_iff_getElem?.mp held
  have changes := Handler.advance_ne awaits.1 rfl
    (Handler.finish_ne found (by simpa using live))
  exact stands _ (by simp) (orderly.lowers changes (by simp))

/-- The handlers retire when nothing drives them and the idle time has passed. -/
theorem Owned.retires (owned : state.Owned) {maxIdleTime duration : Nat}
    (punctual : ∀ handler ∈ state.handlers, handler.Punctual maxIdleTime)
    (settled : ∀ event, ¬ state.Drives event) (long : (maxIdleTime + 1) * second < duration) :
    (ServeAugmented.step state (.elapse duration)).Retires := by
  constructor
  · intro waits
    obtain ⟨event, within, productive⟩ := owned.unblocked waits
    exact settled event ⟨within, productive⟩
  · intro handler member
    obtain ⟨old, found, rfl⟩ := List.mem_map.mp member
    cases finished : old.isFinished with
    | true => exact .inl finished
    | false =>
        obtain ⟨awaits, vacant⟩ := owned.undriven settled found finished
        refine .inr (.inr ⟨awaits, vacant, fun since waiting => ?_⟩)
        obtain ⟨idleTimeout, active, moment⟩ := punctual old found
        have past := moment since waiting
        show since + second ≤ old.requests.clock + duration ∧
          old.requests.idleTimeout * second <
            old.requests.clock + duration - old.requests.lastActive
        rw [idleTimeout]
        rw [Nat.succ_mul] at long
        omega

/-- Every thread of a server that retires and does not go on has ended. -/
theorem Retires.finished (retires : state.Retires) (owned : state.Owned)
    (quiet : ∀ event, ¬ state.Stirs event) :
    ∀ handler ∈ state.handlers, handler.isFinished = true := by
  intro handler member
  by_contra unfinished
  obtain ⟨handle, here⟩ := List.mem_iff_getElem?.mp member
  obtain ⟨move, lower⟩ := (retires.retiring handler member).progress
    (owned.orderly handler member) (Bool.eq_false_iff.mpr unfinished)
  exact quiet (move.event handle) ⟨inward_move handle move, step_move_ne here lower⟩

/-- The next turn of the server drops its handlers when all of them have ended. -/
theorem Owned.emptied (owned : state.Owned) (selecting : state.status = .selecting)
    (ended : ∀ handler ∈ state.handlers, handler.isFinished = true) :
    state.turn.peerHandlers.entries = [] := by
  unfold State.turn
  rw [selecting]
  dsimp only
  rw [Table.retain, List.filter_eq_nil_iff]
  intro entry member
  have found := (Table.get_eq_some_iff _ _ _).mpr member
  obtain ⟨handler, here, _⟩ := owned.mapped entry.1 entry.2 found
  rw [isFinished_at here, ended handler (List.mem_of_getElem? here)]
  simp

end

/-- A server without requests gives back its handlers. It and its threads take a bounded number of
steps until nothing drives them. When the idle time has passed then, they take a bounded number of
steps again, and with the last of them all threads have ended and the next turn empties the map. -/
theorem handlers_reclaimed (server : TFTPServer) (maxIdleTime now duration : Nat)
    {state settled final : State} {count more : Nat}
    (reached : Reach step (fun _ _ => True) (new server maxIdleTime now) state)
    (working : Advances step (fun _ event => unprompted event = true) Drives state count settled)
    (undriven : ∀ event, ¬ settled.Drives event)
    (long : (maxIdleTime + 1) * second < duration)
    (retiring : Advances step (fun _ event => unprompted event = true) Stirs
      (step settled (.elapse duration)) more final) :
    count + more + final.effort ≤ state.effort ∧
      ((∀ event, ¬ final.Stirs event) →
        (∀ handler ∈ final.handlers, handler.isFinished = true) ∧
          (final.status = .panicked ∨
            final.status = .selecting ∧ (step final .turn).peerHandlers.entries = [])) := by
  have preserved (earlier : State) (event : Event) (owned : earlier.Owned) :
      (ServeAugmented.step earlier event).Owned := owned.step event
  have owned : settled.Owned := working.reach.invariant Owned (reach_owned reached)
    fun earlier event owned _ => preserved earlier event owned
  have counted := working.count_le Owned effort (reach_owned reached)
    (fun earlier event owned _ => preserved earlier event owned)
    (fun earlier event owned calm => (effort_unprompted owned calm).1)
    (fun earlier event owned calm => (effort_unprompted owned calm).2)
  have punctual := reach_punctual (reached.trans (working.reach.mono fun _ _ _ => trivial))
  have start : (step settled (.elapse duration)).Owned ∧
      (step settled (.elapse duration)).Retires :=
    ⟨preserved _ _ owned, owned.retires punctual undriven long⟩
  have kept (earlier : State) (event : Event) (holds : earlier.Owned ∧ earlier.Retires)
      (calm : unprompted event = true) :
      (ServeAugmented.step earlier event).Owned ∧ (ServeAugmented.step earlier event).Retires :=
    ⟨preserved _ _ holds.1, holds.2.step calm⟩
  have recounted := retiring.count_le (fun state => state.Owned ∧ state.Retires) effort start kept
    (fun earlier event holds calm => (effort_unprompted holds.1 calm).1)
    (fun earlier event holds _ stirs => holds.2.lowers holds.1 stirs)
  have unchanged : (step settled (.elapse duration)).effort = settled.effort :=
    settled.effort_elapse duration
  refine ⟨by omega, fun quiet => ?_⟩
  obtain ⟨finalOwned, retires⟩ := retiring.reach.invariant
    (fun state => state.Owned ∧ state.Retires) start kept
  have ended := retires.finished finalOwned quiet
  refine ⟨ended, ?_⟩
  by_cases selecting : final.status = .selecting
  · exact .inr ⟨selecting, finalOwned.emptied selecting ended⟩
  · left
    by_contra neither
    exact retires.selects ⟨selecting, neither⟩

theorem unprompted_of_inward {event : Event} (within : inward event = true) :
    unprompted event = true := by
  cases event with
  | arrive | observe => cases within
  | _ => rfl

/-- A server that has just renewed a handler with a live session gives both handlers back. -/
theorem handlers_reclaimed_reload :
    (reloadRun.foldl step (new TFTPServer.fresh 1 0)).handlers.length = 2 ∧
      ∃ final, Reach step (fun _ event => unprompted event = true)
        (reloadRun.foldl step (new TFTPServer.fresh 1 0)) final ∧
        ∀ handler ∈ final.handlers, handler.isFinished = true := by
  refine ⟨by decide +kernel, ?_⟩
  have reached : Reach step (fun _ _ => True) (new TFTPServer.fresh 1 0)
      (reloadRun.foldl step (new TFTPServer.fresh 1 0)) := Reach.foldl reloadRun
  generalize reloadRun.foldl step (new TFTPServer.fresh 1 0) = renewed at reached ⊢
  have keeps (earlier : State) (event : Event) (owned : earlier.Owned)
      (_ : unprompted event = true) : (step earlier event).Owned := owned.step event
  obtain ⟨count, settled, first, undriven⟩ := Advances.exhausted Owned effort
    (reach_owned reached) keeps
    fun earlier event owned calm (drives : earlier.Drives event) =>
      (effort_unprompted owned calm).2 drives
  have owned : settled.Owned := first.reach.invariant Owned (reach_owned reached) keeps
  have punctual := reach_punctual (reached.trans (first.reach.mono fun _ _ _ => trivial))
  have rests (event : Event) : ¬ settled.Drives event := fun drives =>
    undriven event (unprompted_of_inward drives.1) drives
  have long : (1 + 1) * second < 3 * second := by decide
  obtain ⟨more, final, last, quiet⟩ := Advances.exhausted
    (fun state => state.Owned ∧ state.Retires) effort
    ⟨owned.step (.elapse (3 * second)), owned.retires punctual rests long⟩
    (fun earlier event holds calm => ⟨keeps _ _ holds.1 calm, holds.2.step calm⟩)
    (fun earlier event holds (_ : unprompted event = true) (stirs : earlier.Stirs event) =>
      holds.2.lowers holds.1 stirs)
  refine ⟨final, first.reach.trans (.trans (.next .start rfl) last.reach), ?_⟩
  apply ((handlers_reclaimed TFTPServer.fresh 1 0 _ reached first rests long last).2 ?_).1
  exact fun event stirs => quiet event (unprompted_of_inward stirs.1) stirs

end State

end Rtftp.ServeAugmented

import Rtftp.Library.Progress
import Rtftp.Proof.Server.Endpoints
import Rtftp.Proof.Server.Work

namespace Rtftp.ServeAugmented
open Library PeerHandler

def totalWork (handlers : List Handler) : Nat := (handlers.map Handler.work).sum

theorem totalWork_modify {handlers : List Handler} {handle : Nat} {handler : Handler}
    (here : handlers[handle]? = some handler) (next : Handler → Handler) :
    totalWork (handlers.modify handle next) + handler.work =
      totalWork handlers + (next handler).work := by
  obtain ⟨inside, located⟩ := List.getElem?_eq_some_iff.mp here
  have parts : handlers = handlers.take handle ++ handler :: handlers.drop (handle + 1) := by
    rw [← located, List.getElem_cons_drop, List.take_append_drop]
  have changed : handlers.modify handle next =
      handlers.take handle ++ next handler :: handlers.drop (handle + 1) := by
    rw [List.modify_eq_take_cons_drop inside, located]
  rw [changed]
  nth_rewrite 3 [parts]
  simp only [totalWork, List.map_append, List.map_cons, List.sum_append, List.sum_cons]
  omega

/-- A change that leaves the work of every thread leaves the whole work. -/
theorem totalWork_map (handlers : List Handler) {next : Handler → Handler}
    (same : ∀ handler, (next handler).work = handler.work) :
    totalWork (handlers.map next) = totalWork handlers := by
  rw [totalWork, List.map_map]
  exact congrArg List.sum (List.map_congr_left fun handler _ => same handler)

theorem totalWork_dropSender (handlers : List Handler) (handle : Nat) :
    totalWork (handlers.modify handle fun handler =>
      { handler with requests := handler.requests.step .dropSender }) = totalWork handlers := by
  cases here : handlers[handle]? with
  | none => rw [List.modify_eq_self (List.getElem?_eq_none_iff.mp here)]
  | some handler =>
      have total := totalWork_modify here fun handler =>
        { handler with requests := handler.requests.step .dropSender }
      exact Nat.add_right_cancel total

theorem modify_unchanged {handlers : List Handler} {handle : Nat} {handler : Handler}
    (here : handlers[handle]? = some handler) {next : Handler → Handler}
    (same : next handler = handler) : handlers.modify handle next = handlers := by
  apply List.ext_getElem?
  intro place
  rw [List.getElem?_modify]
  split
  · rename_i equal
    rw [← equal, here]
    exact congrArg some same
  · simp

/-- The steps of a thread lower the whole work or change nothing. -/
theorem totalWork_move {handlers : List Handler} (orderly : ∀ handler ∈ handlers, handler.Orderly)
    (handle : Nat) (move : Move) :
    totalWork (handlers.modify handle (·.move move)) < totalWork handlers ∨
      handlers.modify handle (·.move move) = handlers ∨
      move = .advance .tick ∧
        totalWork (handlers.modify handle (·.move move)) ≤ totalWork handlers := by
  cases here : handlers[handle]? with
  | none =>
      right
      left
      exact List.modify_eq_self (List.getElem?_eq_none_iff.mp here)
  | some handler =>
      have total := totalWork_modify here (·.move move)
      rcases (orderly handler (List.mem_of_getElem? here)).move_work move with
        lower | same | ⟨tick, kept⟩
      · left
        omega
      · exact .inr (.inl (modify_unchanged here same))
      · exact .inr (.inr ⟨tick, by omega⟩)

def Move.event (handle : Nat) : Move → Event
  | .start => .start handle
  | .advance event => .advance handle event
  | .panic => .panic handle
  | .finish => .finish handle

theorem step_move (state : State) (handle : Nat) (move : Move) :
    step state (move.event handle) =
      { state with handlers := state.handlers.modify handle (·.move move) } := by
  cases move with
  | start => rfl
  | advance event => rfl
  | panic => rfl
  | finish => rfl

namespace State

/-- The server waits for room in a channel or for the end of a thread. -/
def Waits (state : State) : Prop := state.status ≠ .selecting ∧ state.status ≠ .panicked

instance (state : State) : Decidable state.Waits := inferInstanceAs (Decidable (_ ∧ _))

/-- The event changes more than the clocks. -/
def Productive (state : State) (event : Event) : Prop :=
  (∀ duration, event ≠ .elapse duration) ∧ (∀ handle, event ≠ .advance handle .tick) ∧
    step state event ≠ state

/-- The steps that the server and its threads take at most before the server selects again. -/
def effort (state : State) : Nat :=
  totalWork state.handlers + match state.status with
    | .selecting => 0
    | .feeding _ _ _ _ => 7
    | .joining _ => 1
    | .panicked => 0

section
variable {state : State}

theorem effort_elapse (state : State) (duration : Nat) :
    (state.elapse duration).effort = state.effort := by
  have same : totalWork (state.handlers.map fun handler =>
      { handler with requests := handler.requests.step (.elapse duration) }) =
        totalWork state.handlers :=
    totalWork_map state.handlers fun handler => rfl
  rw [effort, effort]
  exact congrArg (· + _) same

/-- A request that is fed adds five steps at most. -/
theorem feed_work (handler : Handler) (port : UInt16) (item : Accepted) :
    Handler.work { handler with requests := handler.requests.step (.feed port item) } ≤
      handler.work + 5 := by
  have tasks : (handler.requests.step (.feed port item)).unfinishedTasks =
      handler.requests.unfinishedTasks := by
    change (handler.requests.feed port item).unfinishedTasks = _
    unfold RequestsHandler.feed
    split
    · rfl
    · rfl
  have loop : (handler.requests.step (.feed port item)).loopWork ≤
      handler.requests.loopWork + 5 := by
    change (handler.requests.feed port item).loopWork ≤ _
    unfold RequestsHandler.feed
    split
    · simp only [RequestsHandler.loopWork, List.length_append, List.length_singleton]
      split
      · omega
      · omega
      · omega
      · omega
      · omega
      · omega
    · omega
  simp only [Handler.work, RequestsHandler.work, tasks]
  split
  · omega
  · omega
  · omega
  · omega
  · omega

theorem effort_feed (owned : state.Owned) :
    state.feed.effort < state.effort ∨ state.feed = state := by
  unfold State.feed
  split
  · rename_i handle remoteIp port item feeding
    have before : state.effort = totalWork state.handlers + 7 := by
      rw [effort, feeding]
    have found := owned.feeding handle remoteIp port item feeding
    obtain ⟨handler, here, _⟩ := owned.mapped remoteIp handle found
    rw [here]
    dsimp only
    split
    · left
      rw [found, before]
      change totalWork (state.handlers.modify handle fun handler =>
        { handler with requests := handler.requests.step .dropSender }) + 1 < _
      rw [totalWork_dropSender]
      omega
    · split
      · left
        have total := totalWork_modify here fun handler =>
          { handler with requests := handler.requests.step (.feed port item) }
        have more := feed_work handler port item
        rw [before]
        change totalWork (state.handlers.modify handle fun handler =>
          { handler with requests := handler.requests.step (.feed port item) }) + 0 < _
        omega
      · exact .inr rfl
  · exact .inr rfl

theorem effort_joined (state : State) :
    state.joined.effort < state.effort ∨ state.joined = state := by
  unfold State.joined
  split
  · rename_i handle joining
    have before : state.effort = totalWork state.handlers + 1 := by
      rw [effort, joining]
    split
    · left
      rw [before]
      exact Nat.lt_succ_self _
    · left
      rw [before]
      exact Nat.lt_succ_self _
    · exact .inr rfl
  · exact .inr rfl

/-- These events are the steps of the server after a wait and the steps of the threads. -/
def inward : Event → Bool
  | .feed => true
  | .joined => true
  | .start _ => true
  | .advance _ _ => true
  | .panic _ => true
  | .finish _ => true
  | _ => false

/-- No step behind a wait adds effort, and a productive step takes some away. -/
theorem effort_inward (owned : state.Owned) {event : Event} (within : inward event = true) :
    (step state event).effort ≤ state.effort ∧
      (state.Productive event → (step state event).effort < state.effort) := by
  have settles {next : State} (same : step state event = next)
      (either : next.effort < state.effort ∨ next = state) :
      (step state event).effort ≤ state.effort ∧
        (state.Productive event → (step state event).effort < state.effort) := by
    rcases either with lower | unchanged
    · rw [same]
      exact ⟨Nat.le_of_lt lower, fun _ => lower⟩
    · rw [same, unchanged]
      exact ⟨Nat.le_refl _, fun productive => absurd (same.trans unchanged) productive.2.2⟩
  have moves (handle : Nat) (move : Move) (same : event = move.event handle) :
      (step state event).effort ≤ state.effort ∧
        (state.Productive event → (step state event).effort < state.effort) := by
    rw [same, step_move]
    rcases totalWork_move owned.orderly handle move with lower | unchanged | ⟨rfl, kept⟩
    · have less : effort { state with handlers := state.handlers.modify handle (·.move move) } <
          state.effort := Nat.add_lt_add_right lower _
      exact ⟨Nat.le_of_lt less, fun _ => less⟩
    · rw [unchanged]
      refine ⟨Nat.le_refl _, fun productive => absurd ?_ productive.2.2⟩
      rw [step_move, unchanged]
    · exact ⟨Nat.add_le_add_right kept _, fun productive => absurd rfl (productive.2.1 handle)⟩
  cases event with
  | feed => exact settles rfl (effort_feed owned)
  | joined => exact settles rfl state.effort_joined
  | start handle => exact moves handle .start rfl
  | advance handle event => exact moves handle (.advance event) rfl
  | panic handle => exact moves handle .panic rfl
  | finish handle => exact moves handle .finish rfl
  | _ => cases within

/-- A thread that goes on changes the state. -/
theorem step_move_ne {handle : Nat} {handler : Handler} {move : Move}
    (here : state.handlers[handle]? = some handler)
    (lower : (handler.move move).work < handler.work) :
    step state (move.event handle) ≠ state := by
  intro same
  have total := totalWork_modify here (·.move move)
  rw [step_move] at same
  have equal : state.handlers.modify handle (·.move move) = state.handlers :=
    congrArg State.handlers same
  rw [equal] at total
  omega

/-- A thread that goes on makes a productive step. -/
theorem productive_move {handle : Nat} {handler : Handler} {move : Move}
    (here : state.handlers[handle]? = some handler) (other : move ≠ .advance .tick)
    (lower : (handler.move move).work < handler.work) :
    state.Productive (move.event handle) := by
  refine ⟨?_, ?_, step_move_ne here lower⟩
  · intro duration
    cases move with
    | _ => nofun
  · intro place
    cases move with
    | start | panic | finish => nofun
    | advance event =>
        intro equal
        injection equal with _ tick
        exact other (by rw [tick])

theorem inward_move (handle : Nat) (move : Move) : inward (move.event handle) = true := by
  cases move with
  | _ => rfl

/-- A server that waits can go on or one of its threads can. -/
theorem Owned.unblocked (owned : state.Owned) (waits : state.Waits) :
    ∃ event, inward event = true ∧ state.Productive event := by
  have moves {handle : Nat} {handler : Handler} (here : state.handlers[handle]? = some handler)
      (unfinished : handler.isFinished = false)
      (pressed : handler.requests.senderDropped = true ∨ handler.requests.queue ≠ []) :
      ∃ event, inward event = true ∧ state.Productive event := by
    obtain ⟨move, other, lower⟩ :=
      (owned.orderly handler (List.mem_of_getElem? here)).progress unfinished pressed
    exact ⟨_, inward_move handle move, productive_move here other lower⟩
  cases status : state.status with
  | selecting => exact absurd status waits.1
  | panicked => exact absurd status waits.2
  | feeding handle remoteIp port item =>
      have found := owned.feeding handle remoteIp port item status
      obtain ⟨handler, here, address, present⟩ := owned.mapped remoteIp handle found
      have goes (changes : state.feed.status ≠ state.status) :
          ∃ event, inward event = true ∧ state.Productive event :=
        ⟨.feed, rfl, by simp, by simp, fun same => changes (congrArg State.status same)⟩
      cases closed : handler.requests.receiverClosed with
      | true =>
          apply goes
          simp only [State.feed, status, here, closed, found, if_true, State.shutdown]
          simp
      | false =>
          by_cases room : handler.requests.queue.length < channelSize
          · apply goes
            simp only [State.feed, status, here, closed, room, if_true, Bool.false_eq_true, if_false]
            simp
          · -- A full channel has a receiver, whose thread goes on.
            apply moves here
            · cases finished : handler.isFinished with
              | false => rfl
              | true =>
                  have orderly := owned.orderly handler (List.mem_of_getElem? here)
                  rw [orderly.gone (Handler.ceased_of_finished finished)] at closed
                  cases closed
            · right
              intro empty
              rw [empty] at room
              exact room (by decide)
  | joining handle =>
      obtain ⟨handler, here, dropped⟩ := owned.dropped handle status
      have goes (changes : state.joined.status ≠ state.status) :
          ∃ event, inward event = true ∧ state.Productive event :=
        ⟨.joined, rfl, by simp, by simp, fun same => changes (congrArg State.status same)⟩
      cases thread : handler.thread with
      | finished =>
          apply goes
          simp only [State.joined, status, here, Option.map_some, thread]
          simp
      | panicked =>
          apply goes
          simp only [State.joined, status, here, Option.map_some, thread]
          simp
      | opening | running | unwound =>
          exact moves here (by rw [Handler.isFinished, thread]) (.inl dropped)

end

end State

end Rtftp.ServeAugmented

import Rtftp.Construction.ServeAugmented
import Rtftp.Proof.Handler.Channel

namespace Rtftp.ServeAugmented
open Library PeerHandler

namespace Handler

/-- The requests handler of the thread has not returned or panicked. -/
def serving (handler : Handler) : Bool :=
  match handler.thread with
  | .opening => true
  | .running => true
  | _ => false

/-- A handler that opens its roots has its loop ahead of it. -/
def inLoop (handler : Handler) : Bool := handler.serving && handler.requests.status.inLoop

/-- The channel of a handler that does not serve any more has no request left. -/
structure Fit (handler : Handler) : Prop where
  emptied : handler.serving = true → handler.requests.Emptied
  ended : handler.serving = false → handler.requests.queue = []
  opening : handler.thread = .opening → handler.requests.status.inLoop = true

structure Follows (before after : Handler) : Prop where
  address : after.senderAddress = before.senderAddress
  taken : ∀ item ∈ before.requests.taken, item ∈ after.requests.taken
  queued : ∀ item ∈ before.requests.queue,
    item ∈ after.requests.taken ∨ after.inLoop = true ∧ item ∈ after.requests.queue

/-- The handler has taken the request, or it has it in its queue and is still in its loop. -/
def Holds (handler : Handler) (serial : Nat) (arrival : Arrival) : Prop :=
  handler.senderAddress = arrival.remoteIp ∧
    ((arrival.port, ⟨serial, arrival.request⟩) ∈ handler.requests.taken ∨
      handler.inLoop = true ∧ (arrival.port, ⟨serial, arrival.request⟩) ∈ handler.requests.queue)

/-- The handler opens its roots or is about to schedule a request. -/
def Panics (handler : Handler) : Prop :=
  handler.thread = .opening ∨ handler.thread = .running ∧ ∃ serial port request,
    handler.requests.status = .binding serial port request ∨
      handler.requests.status = .refusing serial port request

section
variable {before after : Handler}

theorem inLoop_iff (handler : Handler) : handler.inLoop = true ↔
    handler.serving = true ∧ handler.requests.status.inLoop = true := by
  rw [inLoop, Bool.and_eq_true]

theorem Fit.opened (fit : Fit before) (inside : before.inLoop = true) :
    before.requests.receiverClosed = false := by
  obtain ⟨serving, loop⟩ := before.inLoop_iff.mp inside
  exact (fit.emptied serving).opened loop

/-- A handler outside its loop has an empty queue. -/
theorem Fit.left (fit : Fit before) (outside : before.inLoop = false) :
    before.requests.queue = [] := by
  cases serving : before.serving with
  | false => exact fit.ended serving
  | true =>
      rw [inLoop, serving, Bool.true_and] at outside
      exact (fit.emptied serving).left outside

theorem Follows.holds (follows : Follows before after) {serial : Nat} {arrival : Arrival}
    (holds : before.Holds serial arrival) : after.Holds serial arrival := by
  constructor
  · exact follows.address.trans holds.1
  · rcases holds.2 with taken | ⟨_, queued⟩
    · exact .inl (follows.taken _ taken)
    · exact follows.queued _ queued

/-- A change that keeps the queue stays on its side of the loop. -/
theorem Fit.follows (fit : Fit before) (address : after.senderAddress = before.senderAddress)
    (taken : after.requests.taken = before.requests.taken)
    (queue : after.requests.queue = before.requests.queue)
    (loop : before.inLoop = true → after.inLoop = true) : Follows before after := by
  constructor
  · exact address
  · rw [taken]
    exact fun item member => member
  · intro item member
    cases inside : before.inLoop with
    | true =>
        rw [queue]
        exact .inr ⟨loop inside, member⟩
    | false =>
        rw [fit.left inside] at member
        cases member

/-- A handler with an empty queue may end. -/
theorem Follows.ended (address : after.senderAddress = before.senderAddress)
    (taken : after.requests.taken = before.requests.taken) (empty : before.requests.queue = []) :
    Follows before after := by
  constructor
  · exact address
  · rw [taken]
    exact fun item member => member
  · rw [empty]
    intro item member
    cases member

/-- A change of other fields keeps a handler fit. -/
theorem Fit.kept (fit : Fit before) (thread : after.thread = before.thread)
    (status : after.requests.status = before.requests.status)
    (queue : after.requests.queue = before.requests.queue)
    (closed : after.requests.receiverClosed = before.requests.receiverClosed) : Fit after := by
  have same : after.serving = before.serving := by
    rw [serving, serving, thread]
  constructor
  · rw [same]
    intro serving
    constructor
    · rw [status, closed]
      exact (fit.emptied serving).opened
    · rw [status, queue]
      exact (fit.emptied serving).left
  · rw [same, queue]
    exact fit.ended
  · rw [thread, status]
    exact fit.opening

/-- A handler that has ended has no facts to keep but its empty queue. -/
theorem Fit.ceased (serving : after.serving = false) (empty : after.requests.queue = []) :
    Fit after := by
  constructor
  · intro other
    rw [serving] at other
    cases other
  · exact fun _ => empty
  · intro opening
    rw [Handler.serving, opening] at serving
    cases serving

end

end Handler

namespace State

/-- The server waits for room in the channel of a handler that has not left its loop. -/
def BeingFed (state : State) (serial : Nat) (arrival : Arrival) : Prop :=
  ∃ handle handler,
    state.status = .feeding handle arrival.remoteIp arrival.port ⟨serial, arrival.request⟩ ∧
      state.handlers[handle]? = some handler ∧ handler.inLoop = true

/-- Every request that was accepted was taken by a handler, or it is queued for or being fed to a
handler that has not left its loop. -/
def Kept (state : State) : Prop :=
  ∀ serial arrival, state.accepted[serial]? = some arrival →
    (∃ handler ∈ state.handlers, handler.Holds serial arrival) ∨ state.BeingFed serial arrival

/-- The server does not wait for room in a channel. -/
def Idle (state : State) : Prop :=
  ∀ handle remoteIp port item, state.status ≠ .feeding handle remoteIp port item

/-- The channel of the handler has no request, and no request waits for room in it. -/
def Quiet (state : State) (handle : Nat) (handler : Handler) : Prop :=
  handler.requests.queue = [] ∧
    ∀ remoteIp port item, state.status ≠ .feeding handle remoteIp port item

/-- A request arrives only when the handler of its peer has not left its loop, and a handler stops
for inactivity or panics only when it is quiet. -/
def Careful (state : State) : Event → Prop
  | .arrive remoteIp _ datagram _ =>
      state.status = .selecting → (∃ request, (state.server.serve datagram).1 = .fed request) →
        ∀ handle handler, state.peerHandlers.get remoteIp = some handle →
          state.handlers[handle]? = some handler → handler.inLoop = true
  | .advance handle .tick =>
      ∀ handler, state.handlers[handle]? = some handler → handler.thread = .running →
        handler.requests.Stops → state.Quiet handle handler
  | .panic handle =>
      ∀ handler, state.handlers[handle]? = some handler → handler.Panics →
        state.Quiet handle handler
  | _ => True

/-- The map has the handlers whose sender the server still has, and the server feeds only a handler
of the map that has not left its loop. -/
structure Handed (state : State) : Prop where
  kept : state.Kept
  fit : ∀ handler ∈ state.handlers, handler.Fit
  mapped : ∀ remoteIp handle, state.peerHandlers.get remoteIp = some handle →
    ∃ handler, state.handlers[handle]? = some handler ∧ handler.senderAddress = remoteIp ∧
      handler.requests.senderDropped = false
  fed : ∀ handle remoteIp port item, state.status = .feeding handle remoteIp port item →
    state.peerHandlers.get remoteIp = some handle ∧
      ∃ handler, state.handlers[handle]? = some handler ∧ handler.inLoop = true

theorem handed_new (server : TFTPServer) (maxIdleTime now : Nat) :
    Handed (new server maxIdleTime now) where
  kept serial arrival found := by simp [new] at found
  fit handler member := by cases member
  mapped remoteIp handle found := by cases found
  fed handle remoteIp port item feeding := by cases feeding

section
variable {state : State} {handlers : List Handler} {change : Nat → Handler → Handler}

theorem idle_of_selecting (selecting : state.status = .selecting) : state.Idle := by
  intro handle remoteIp port item feeding
  rw [selecting] at feeding
  cases feeding

/-- Every handler of the new list comes from the handler at its place. -/
def Pointwise (state : State) (change : Nat → Handler → Handler) (handlers : List Handler) : Prop :=
  ∀ place, handlers[place]? = (state.handlers[place]?).map (change place)

theorem pointwise_modify (state : State) (handle : Nat) (change : Handler → Handler) :
    state.Pointwise (fun place handler => if handle = place then change handler else handler)
      (state.handlers.modify handle change) := by
  intro place
  rw [List.getElem?_modify]
  rfl

theorem pointwise_map (state : State) (change : Handler → Handler) :
    state.Pointwise (fun _ => change) (state.handlers.map change) := by
  intro place
  exact List.getElem?_map

theorem Pointwise.kept (pointwise : state.Pointwise change handlers) (kept : state.Kept)
    (follows : ∀ (place : Nat) (handler : Handler), state.handlers[place]? = some handler →
      handler.Follows (change place handler))
    (fed : ∀ (place : Nat) remoteIp port item (handler : Handler),
      state.status = .feeding place remoteIp port item → state.handlers[place]? = some handler →
      handler.inLoop = true → (change place handler).inLoop = true) :
    Kept { state with handlers := handlers } := by
  intro serial arrival found
  rcases kept serial arrival found with ⟨handler, member, holds⟩ | ⟨place, handler, feeding, here, inside⟩
  · obtain ⟨place, here⟩ := List.mem_iff_getElem?.mp member
    have changed := pointwise place
    rw [here] at changed
    exact .inl ⟨_, List.mem_of_getElem? changed, (follows place handler here).holds holds⟩
  · have changed := pointwise place
    rw [here] at changed
    exact .inr ⟨place, _, feeding, changed, fed place _ _ _ handler feeding here inside⟩

theorem Pointwise.fit (pointwise : state.Pointwise change handlers)
    (each : ∀ (place : Nat) (handler : Handler), state.handlers[place]? = some handler →
      (change place handler).Fit) :
    ∀ handler ∈ handlers, handler.Fit := by
  intro after member
  obtain ⟨place, here⟩ := List.mem_iff_getElem?.mp member
  rw [pointwise place, Option.map_eq_some_iff] at here
  obtain ⟨handler, before, rfl⟩ := here
  exact each place handler before

/-- What a change of one handler has to keep. -/
structure Proper (state : State) (place : Nat) (before after : Handler) : Prop where
  fit : after.Fit
  follows : before.Follows after
  sender : after.requests.senderDropped = before.requests.senderDropped
  fed : ∀ remoteIp port item, state.status = .feeding place remoteIp port item →
    before.requests.senderDropped = false → before.inLoop = true → after.inLoop = true

theorem proper_refl {handler : Handler} (fit : handler.Fit) (place : Nat) :
    state.Proper place handler handler where
  fit := fit
  follows := fit.follows rfl rfl rfl id
  sender := rfl
  fed _ _ _ _ _ inside := inside

/-- A change that is proper for every handler keeps the invariant. -/
theorem Handed.replace (handed : state.Handed) (pointwise : state.Pointwise change handlers)
    (proper : ∀ (place : Nat) (handler : Handler), state.handlers[place]? = some handler →
      handler.Fit → state.Proper place handler (change place handler)) :
    Handed { state with handlers := handlers } := by
  have each (place : Nat) (handler : Handler) (here : state.handlers[place]? = some handler) :=
    proper place handler here (handed.fit handler (List.mem_of_getElem? here))
  have feeds : ∀ (place : Nat) remoteIp port item (handler : Handler),
      state.status = .feeding place remoteIp port item → state.handlers[place]? = some handler →
      handler.inLoop = true → (change place handler).inLoop = true := by
    intro place remoteIp port item handler feeding here inside
    obtain ⟨inMap, _⟩ := handed.fed place remoteIp port item feeding
    obtain ⟨mapped, there, _, present⟩ := handed.mapped remoteIp place inMap
    cases here.symm.trans there
    exact (each place handler here).fed remoteIp port item feeding present inside
  constructor
  · exact pointwise.kept handed.kept (fun place handler here => (each place handler here).follows)
      feeds
  · exact pointwise.fit fun place handler here => (each place handler here).fit
  · intro remoteIp handle found
    obtain ⟨handler, here, address, present⟩ := handed.mapped remoteIp handle found
    have changed := pointwise handle
    rw [here] at changed
    have kept := each handle handler here
    exact ⟨_, changed, kept.follows.address.trans address, kept.sender.trans present⟩
  · intro handle remoteIp port item feeding
    obtain ⟨inMap, handler, here, inside⟩ := handed.fed handle remoteIp port item feeding
    have changed := pointwise handle
    rw [here] at changed
    exact ⟨inMap, _, changed, feeds handle remoteIp port item handler feeding here inside⟩

/-- A change of one handler keeps the invariant when it is proper. -/
theorem Handed.modify (handed : state.Handed) (handle : Nat) {next : Handler → Handler}
    (proper : ∀ handler : Handler, state.handlers[handle]? = some handler → handler.Fit →
      state.Proper handle handler (next handler)) :
    Handed { state with handlers := state.handlers.modify handle next } := by
  apply handed.replace (pointwise_modify state handle next)
  intro place handler here fit
  split
  · rename_i same
    subst same
    exact proper handler here fit
  · exact proper_refl fit place

theorem Handed.start (handed : state.Handed) (handle : Nat) :
    Handed { state with handlers := state.handlers.modify handle Handler.start } := by
  apply handed.modify
  intro handler here fit
  unfold Handler.start
  split
  · rename_i opening
    have serving : handler.serving = true := by
      rw [Handler.serving, opening]
    have inside := fit.opening opening
    obtain ⟨emptied, _⟩ : RequestsHandler.Emptied
        { handler.requests with
          status := .waiting handler.requests.clock
          lastActive := handler.requests.clock } ∧ _ :=
      (fit.emptied serving).same rfl rfl rfl inside.symm
    constructor
    · exact ⟨fun _ => emptied, fun ended => (by cases ended), fun _ => rfl⟩
    · exact fit.follows rfl rfl rfl fun _ => rfl
    · rfl
    · exact fun _ _ _ _ _ _ => rfl
  · exact proper_refl fit handle

/-- A handler that ends with an empty queue keeps the invariant when nobody feeds it. -/
theorem proper_ended {before after : Handler} {place : Nat} (ceased : after.serving = false)
    (address : after.senderAddress = before.senderAddress)
    (taken : after.requests.taken = before.requests.taken)
    (queue : after.requests.queue = []) (empty : before.requests.queue = [])
    (sender : after.requests.senderDropped = before.requests.senderDropped)
    (unfed : ∀ remoteIp port item, state.status = .feeding place remoteIp port item →
      before.inLoop = false) :
    state.Proper place before after where
  fit := .ceased ceased queue
  follows := .ended address taken empty
  sender := sender
  fed remoteIp port item feeding _ inside := by
    rw [unfed remoteIp port item feeding] at inside
    cases inside

theorem Handed.finish (handed : state.Handed) (handle : Nat) :
    Handed { state with handlers := state.handlers.modify handle Handler.finish } := by
  apply handed.modify
  intro handler here fit
  have ended (outside : handler.inLoop = false) :
      state.Proper handle handler { handler with thread := .finished } :=
    proper_ended rfl rfl rfl (fit.left outside) (fit.left outside) rfl fun _ _ _ _ => outside
  unfold Handler.finish
  split
  · split
    · rename_i exit running returned
      apply ended
      rw [Handler.inLoop, returned, Bool.and_eq_false_iff]
      exact .inr rfl
    · rename_i unwound
      apply ended
      rw [Handler.inLoop, Handler.serving, unwound]
      rfl
    · exact proper_refl fit handle
  · exact proper_refl fit handle

/-- A panic loses nothing when the handler is quiet. -/
theorem Handed.panic (handed : state.Handed) (handle : Nat)
    (careful : state.Careful (.panic handle)) :
    Handed { state with handlers := state.handlers.modify handle Handler.panic } := by
  apply handed.modify
  intro handler here fit
  have ended (panics : handler.Panics) (thread : ThreadStatus)
      (ceased : (handler.unwind thread).serving = false) :
      state.Proper handle handler (handler.unwind thread) := by
    obtain ⟨empty, unfed⟩ := careful handler here panics
    exact proper_ended ceased rfl rfl rfl empty rfl fun remoteIp port item feeding =>
      absurd feeding (unfed remoteIp port item)
  unfold Handler.panic
  split
  · rename_i opening
    exact ended (.inl opening) .panicked rfl
  · rename_i serial port request running binding
    exact ended (.inr ⟨running, serial, port, request, .inl binding⟩) .unwound rfl
  · rename_i serial port request running refusing
    exact ended (.inr ⟨running, serial, port, request, .inr refusing⟩) .unwound rfl
  · exact proper_refl fit handle

/-- A step of a running handler loses nothing when a stop is careful. -/
theorem proper_step {handler : Handler} {place : Nat} {event : RequestsHandler.Event Accepted}
    (fit : handler.Fit) (running : handler.thread = .running)
    (own : Handler.ownEvent event = true)
    (careful : event = .tick → handler.requests.Stops → state.Quiet place handler) :
    state.Proper place handler { handler with requests := handler.requests.step event } := by
  have serving : handler.serving = true := by
    rw [Handler.serving, running]
  have loop : Handler.inLoop { handler with requests := handler.requests.step event } =
      (handler.requests.step event).status.inLoop := by
    rw [Handler.inLoop, Handler.serving, running, Bool.true_and]
  have other : ∀ port request, event ≠ .feed port request := by
    rintro port request rfl
    cases own
  have keeps : event ≠ .dropSender := by
    rintro rfl
    cases own
  obtain ⟨emptied, passes, stays⟩ := RequestsHandler.step_passes (fit.emptied serving) event
    (fun tick stops => (careful tick stops).1) other
  constructor
  · constructor
    · exact fun _ => emptied
    · intro ended
      rw [Handler.serving, running] at ended
      cases ended
    · intro opening
      rw [running] at opening
      cases opening
  · constructor
    · rfl
    · exact passes.taken
    · rw [loop]
      exact passes.queued
  · exact handler.requests.step_senderDropped event keeps
  · intro remoteIp port item feeding present inside
    rw [loop]
    rcases stays (handler.inLoop_iff.mp inside).2 with stayed | dropped | ⟨tick, stops⟩
    · exact stayed
    · rw [present] at dropped
      cases dropped
    · exact absurd feeding ((careful tick stops).2 remoteIp port item)

theorem Handed.advance (handed : state.Handed) (handle : Nat)
    (event : RequestsHandler.Event Accepted) (careful : state.Careful (.advance handle event)) :
    Handed { state with handlers := state.handlers.modify handle (·.advance event) } := by
  apply handed.modify
  intro handler here fit
  unfold Handler.advance
  split
  · rename_i running
    split
    · rename_i own
      apply proper_step fit running own
      rintro rfl stops
      exact careful handler here running stops
    · exact proper_refl fit handle
  · rename_i unwound
    have ceased : handler.serving = false := by
      rw [Handler.serving, unwound]
    split
    · have outside : handler.inLoop = false := by
        rw [Handler.inLoop, ceased, Bool.false_and]
      exact proper_ended ceased rfl rfl (fit.ended ceased) (fit.ended ceased) rfl fun _ _ _ _ => outside
    · exact proper_refl fit handle
  · exact proper_refl fit handle

theorem Handed.elapse (handed : state.Handed) (duration : Nat) :
    Handed (state.elapse duration) := by
  have passed : Handed { state with handlers := state.handlers.map fun handler =>
      { handler with requests := handler.requests.step (.elapse duration) } } := by
    apply handed.replace (pointwise_map state _)
    intro place handler here fit
    constructor
    · exact fit.kept rfl rfl rfl rfl
    · exact fit.follows rfl rfl rfl id
    · rfl
    · exact fun _ _ _ _ _ inside => inside
  exact ⟨passed.kept, passed.fit, passed.mapped, passed.fed⟩

end

end State

end Rtftp.ServeAugmented

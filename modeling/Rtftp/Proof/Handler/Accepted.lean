import Rtftp.Library.Machine
import Rtftp.Proof.Handler.Handover
import Rtftp.Proof.Reflection

namespace Rtftp.ServeAugmented
open Library PeerHandler

namespace State

section
variable {state : State} {handlers : List Handler}

/-- A handler keeps its requests when its sender is dropped. -/
def release (dropped : Nat → Handler → Bool) (place : Nat) (handler : Handler) : Handler :=
  if dropped place handler then
    { handler with requests := handler.requests.step .dropSender }
  else handler

theorem release_follows (dropped : Nat → Handler → Bool) (place : Nat) {handler : Handler}
    (fit : handler.Fit) :
    (release dropped place handler).Fit ∧ handler.Follows (release dropped place handler) := by
  unfold release
  split
  · constructor
    · exact fit.kept rfl rfl rfl rfl
    · exact fit.follows rfl rfl rfl id
  · exact ⟨fit, fit.follows rfl rfl rfl id⟩

/-- The server may drop the senders that its new map does not have, while it feeds nobody. -/
theorem Handed.release (handed : state.Handed) {dropped : Nat → Handler → Bool}
    (pointwise : state.Pointwise (State.release dropped) handlers) (table : Table IpAddr Nat)
    (status : ServerStatus) (idle : state.Idle)
    (still : ∀ place remoteIp port item, status ≠ .feeding place remoteIp port item)
    (rest : ∀ remoteIp handle, table.get remoteIp = some handle →
      state.peerHandlers.get remoteIp = some handle ∧
        ∀ handler : Handler, state.handlers[handle]? = some handler →
          dropped handle handler = false) :
    Handed { state with handlers := handlers, peerHandlers := table, status := status } := by
  have each (place : Nat) (handler : Handler) (here : state.handlers[place]? = some handler) :=
    release_follows dropped place (handed.fit handler (List.mem_of_getElem? here))
  have kept := pointwise.kept handed.kept (fun place handler here => (each place handler here).2)
    (fun place remoteIp port item handler feeding => absurd feeding (idle place remoteIp port item))
  constructor
  · intro serial arrival found
    rcases kept serial arrival found with held | ⟨place, handler, feeding, _⟩
    · exact .inl held
    · exact absurd feeding (idle _ _ _ _)
  · exact pointwise.fit fun place handler here => (each place handler here).1
  · intro remoteIp handle found
    obtain ⟨before, keeps⟩ := rest remoteIp handle found
    obtain ⟨handler, here, address, present⟩ := handed.mapped remoteIp handle before
    refine ⟨handler, ?_, address, present⟩
    change handlers[handle]? = _
    rw [pointwise handle, here, Option.map_some, State.release, keeps handler here]
    rfl
  · intro place remoteIp port item feeding
    exact absurd feeding (still place remoteIp port item)

/-- The map loses only handlers that have finished. -/
theorem Handed.turn (handed : state.Handed) : Handed state.turn := by
  unfold State.turn
  split
  · rename_i selecting
    have idle := idle_of_selecting selecting
    apply handed.release (pointwise_map state (State.release (fun _ => Handler.isFinished) 0)) _ _
      idle idle
    intro remoteIp handle found
    rw [Table.get_eq_some_iff, Table.mem_retain] at found
    constructor
    · exact (Table.get_eq_some_iff _ _ _).mpr found.1
    · intro handler here
      have unfinished := found.2
      rw [isFinished, here] at unfinished
      exact (Bool.not_eq_true' _).mp unfinished
  · exact handed

/-- The server waits only for a handler that it has taken out of the map. -/
theorem Handed.shutdown (handed : state.Handed) (handle : Nat)
    (unmapped : ∀ remoteIp, state.peerHandlers.get remoteIp ≠ some handle) (idle : state.Idle) :
    Handed (state.shutdown handle) := by
  have pointwise : state.Pointwise (State.release fun place _ => decide (handle = place))
      (state.handlers.modify handle fun handler =>
        { handler with requests := handler.requests.step .dropSender }) := by
    intro place
    rw [pointwise_modify state handle _ place]
    unfold State.release
    simp only [decide_eq_true_eq]
  apply handed.release pointwise state.peerHandlers (.joining handle) idle
  · intro place remoteIp port item feeding
    cases feeding
  · intro remoteIp place found
    refine ⟨found, fun handler here => ?_⟩
    apply decide_eq_false
    rintro rfl
    exact unmapped remoteIp found

/-- A new handler has an open channel and no requests. -/
theorem fit_new (remoteIp : IpAddr) (maxIdleTime capacity now : Nat) :
    Handler.Fit ⟨remoteIp, .opening, RequestsHandler.new maxIdleTime capacity now⟩ where
  emptied _ := ⟨fun _ => rfl, fun left => by cases left⟩
  ended ceased := by cases ceased
  opening _ := rfl

/-- The new handler is the handler of its address. -/
theorem Handed.openHandler (handed : state.Handed) (remoteIp : IpAddr) (capacity : Nat)
    (idle : state.Idle) : Handed (state.openHandler remoteIp capacity) := by
  constructor
  · intro serial arrival found
    rcases handed.kept serial arrival found with ⟨handler, member, holds⟩ | ⟨_, _, feeding, _⟩
    · exact .inl ⟨handler, List.mem_append_left _ member, holds⟩
    · exact absurd feeding (idle _ _ _ _)
  · intro handler member
    rcases List.mem_append.mp member with earlier | new
    · exact handed.fit handler earlier
    · rw [List.mem_singleton.mp new]
      exact fit_new remoteIp state.maxIdleTime capacity state.clock
  · intro other handle found
    change (state.peerHandlers.insert remoteIp state.handlers.length).get other = _ at found
    rw [Table.get_insert] at found
    split at found
    · rename_i same
      cases found
      exact ⟨_, List.getElem?_concat_length, same.symm, rfl⟩
    · obtain ⟨handler, here, facts⟩ := handed.mapped other handle found
      have inside : handle < state.handlers.length := (List.getElem?_eq_some_iff.mp here).choose
      exact ⟨handler, (List.getElem?_append_left inside).trans here, facts⟩
  · intro handle other port item feeding
    exact absurd feeding (idle handle other port item)

theorem Handed.observe (handed : state.Handed) (event : InotifyEvent) (capacity : Nat) :
    Handed (state.observe event capacity) := by
  unfold State.observe
  split
  · rename_i selecting
    have idle := idle_of_selecting selecting
    split
    · exact handed
    · rename_i remoteIp modified
      have opened := handed.openHandler remoteIp capacity idle
      split
      · rename_i previous found
        apply opened.shutdown previous _ idle
        intro other mapped
        -- The address of the previous handler has the new handler, and no other address has it.
        obtain ⟨before, here, address, _⟩ := handed.mapped remoteIp previous found
        change (state.peerHandlers.insert remoteIp state.handlers.length).get other = _ at mapped
        rw [Table.get_insert] at mapped
        split at mapped
        · cases mapped
          rw [List.getElem?_eq_none (Nat.le_refl _)] at here
          cases here
        · rename_i different
          obtain ⟨after, there, addressed, _⟩ := handed.mapped other previous mapped
          cases here.symm.trans there
          exact different (addressed.symm.trans address)
      · exact opened
  · exact handed

/-- A status that feeds nobody keeps the invariant when nobody was fed before. -/
theorem Handed.still (handed : state.Handed) (idle : state.Idle) {status : ServerStatus}
    (still : ∀ handle remoteIp port item, status ≠ .feeding handle remoteIp port item) :
    Handed { state with status := status } where
  kept serial arrival found := by
    rcases handed.kept serial arrival found with held | ⟨_, _, feeding, _⟩
    · exact .inl held
    · exact absurd feeding (idle _ _ _ _)
  fit := handed.fit
  mapped := handed.mapped
  fed handle remoteIp port item feeding := absurd feeding (still handle remoteIp port item)

theorem Handed.joined (handed : state.Handed) : Handed state.joined := by
  unfold State.joined
  split
  · rename_i handle joining
    have idle : state.Idle := by
      intro place remoteIp port item feeding
      rw [joining] at feeding
      cases feeding
    split
    · apply handed.still idle
      intro place remoteIp port item feeding
      cases feeding
    · apply handed.still idle
      intro place remoteIp port item feeding
      cases feeding
    · exact handed
  · exact handed

/-- The server accepts a request for a handler that has not left its loop. -/
theorem Handed.accept (handed : state.Handed) (idle : state.Idle) {remoteIp : IpAddr}
    {handle : Nat} {handler : Handler} (found : state.peerHandlers.get remoteIp = some handle)
    (here : state.handlers[handle]? = some handler) (inside : handler.inLoop = true)
    (port : UInt16) (request : ReadRequest) :
    Handed { state with
      accepted := state.accepted ++ [⟨remoteIp, port, request⟩]
      status := .feeding handle remoteIp port ⟨state.accepted.length, request⟩ } where
  kept serial arrival arrived := by
    change (state.accepted ++ _)[serial]? = _ at arrived
    rcases Nat.lt_or_ge serial state.accepted.length with earlier | last
    · rw [List.getElem?_append_left earlier] at arrived
      rcases handed.kept serial arrival arrived with held | ⟨_, _, feeding, _⟩
      · exact .inl held
      · exact absurd feeding (idle _ _ _ _)
    · rw [List.getElem?_append_right last, List.getElem?_singleton] at arrived
      split at arrived
      · rename_i same
        have equal : serial = state.accepted.length := by omega
        cases arrived
        subst equal
        exact .inr ⟨handle, handler, rfl, here, inside⟩
      · cases arrived
  fit := handed.fit
  mapped := handed.mapped
  fed _ _ _ _ feeding := by
    cases feeding
    exact ⟨found, handler, here, inside⟩

theorem Handed.arrive (handed : state.Handed) (remoteIp : IpAddr) (port : UInt16)
    (datagram : List UInt8) (capacity : Nat)
    (careful : state.Careful (.arrive remoteIp port datagram capacity)) :
    Handed (state.arrive remoteIp port datagram capacity) := by
  unfold State.arrive
  split
  · rename_i selecting
    have idle := idle_of_selecting selecting
    split
    · rename_i request server served
      have heard : Handed { state with server := server } :=
        ⟨handed.kept, handed.fit, handed.mapped, handed.fed⟩
      unfold State.handleRequest
      dsimp only
      split
      · rename_i handle found
        obtain ⟨handler, here, _⟩ := handed.mapped remoteIp handle found
        have inside := careful selecting ⟨request, by rw [served]⟩ handle handler found here
        exact heard.accept idle found here inside port request
      · have opened := heard.openHandler remoteIp capacity idle
        have found : (state.peerHandlers.insert remoteIp state.handlers.length).get remoteIp =
            some state.handlers.length := by
          rw [Table.get_insert, if_pos rfl]
        exact opened.accept idle found List.getElem?_concat_length rfl port request
    · exact ⟨handed.kept, handed.fit, handed.mapped, handed.fed⟩
  · exact handed

/-- The request that was fed is in the queue. -/
theorem proper_feed {handler : Handler} {place : Nat} (fit : handler.Fit)
    (inside : handler.inLoop = true) (port : UInt16) (item : Accepted) :
    state.Proper place handler { handler with requests := { handler.requests with
      queue := handler.requests.queue ++ [(port, item)]
      fed := handler.requests.fed ++ [(port, item)] } } := by
  obtain ⟨serving, loop⟩ := handler.inLoop_iff.mp inside
  constructor
  · constructor
    · intro _
      constructor
      · exact (fit.emptied serving).opened
      · intro left
        exact absurd (loop.symm.trans left) (by decide)
    · intro ended
      exact absurd (serving.symm.trans ended) (by decide)
    · exact fit.opening
  · constructor
    · rfl
    · exact fun _ member => member
    · exact fun _ member => .inr ⟨inside, List.mem_append_left _ member⟩
  · rfl
  · exact fun _ _ _ _ _ inside => inside

/-- The server feeds a handler that is in its loop, so the send does not fail. -/
theorem Handed.feed (handed : state.Handed) : Handed state.feed := by
  unfold State.feed
  split
  · rename_i handle remoteIp port item feeding
    obtain ⟨found, handler, here, inside⟩ := handed.fed handle remoteIp port item feeding
    obtain ⟨mapped, there, address, present⟩ := handed.mapped remoteIp handle found
    cases here.symm.trans there
    have opened := (handed.fit handler (List.mem_of_getElem? here)).opened inside
    rw [here]
    dsimp only
    rw [opened, if_neg Bool.false_ne_true]
    split
    · rename_i room
      have enqueued : handler.requests.step (.feed port item) = { handler.requests with
          queue := handler.requests.queue ++ [(port, item)]
          fed := handler.requests.fed ++ [(port, item)] } := by
        simp [RequestsHandler.step, RequestsHandler.feed, room, present, opened]
      have modified : Handed { state with handlers := state.handlers.modify handle fun handler =>
          { handler with requests := handler.requests.step (.feed port item) } } := by
        apply handed.modify
        intro other there fit
        cases here.symm.trans there
        rw [enqueued]
        exact proper_feed fit inside port item
      have placed := pointwise_modify state handle (fun handler =>
        { handler with requests := handler.requests.step (.feed port item) }) handle
      simp only [here, Option.map_some, if_true, enqueued] at placed
      constructor
      · intro serial arrival arrived
        rcases modified.kept serial arrival arrived with held | ⟨place, after, fed, _, _⟩
        · exact .inl held
        · cases feeding.symm.trans fed
          exact .inl ⟨_, List.mem_of_getElem? placed, address,
            .inr ⟨inside, List.mem_append_right _ List.mem_cons_self⟩⟩
      · exact modified.fit
      · exact modified.mapped
      · intro place other port item feeding
        cases feeding
    · exact handed
  · exact handed

theorem Handed.step (handed : state.Handed) (event : Event) (careful : state.Careful event) :
    Handed (step state event) := by
  cases event with
  | arrive remoteIp port datagram capacity =>
      exact handed.arrive remoteIp port datagram capacity careful
  | feed => exact handed.feed
  | turn => exact handed.turn
  | observe event capacity => exact handed.observe event capacity
  | joined => exact handed.joined
  | start handle => exact handed.start handle
  | advance handle event => exact handed.advance handle event careful
  | panic handle => exact handed.panic handle careful
  | finish handle => exact handed.finish handle
  | elapse duration => exact handed.elapse duration

end

/-- No accepted request is lost in a run whose steps are all careful. -/
theorem accepted_kept (server : TFTPServer) (maxIdleTime now : Nat) {state : State}
    (reached : Reach step Careful (new server maxIdleTime now) state) : state.Kept := by
  have handed : state.Handed := by
    apply reached.invariant Handed (handed_new server maxIdleTime now)
    intro earlier event handed careful
    exact handed.step event careful
  exact handed.kept

/-- This is a request for the file `a`. -/
def shortRequest : List UInt8 := [0x00, 0x01, 0x61, 0x00, 0x6f, 0x63, 0x74, 0x65, 0x74, 0x00]

/-- A peer asks for a file, and its handler takes the request. -/
def promptRun : List Event :=
  [.arrive (.v4 10 0 0 1) 2000 shortRequest maxSessionsPerIp, .feed, .start 0, .advance 0 .receive]

theorem accepted_kept_prompt :
    (promptRun.foldl step (new TFTPServer.fresh 1 0)).accepted.length = 1 ∧
      (promptRun.foldl step (new TFTPServer.fresh 1 0)).Kept := by
  constructor
  · decide +kernel
  · apply accepted_kept TFTPServer.fresh 1 0
    apply Reach.permits
    have first : (new TFTPServer.fresh 1 0).Careful
        (.arrive (.v4 10 0 0 1) 2000 shortRequest maxSessionsPerIp) := by
      intro _ _ handle handler found
      cases found
    exact ⟨first, trivial, trivial, trivial, trivial⟩

/-- The session of the first request ends at once, the handler stops after two quiet seconds, and the
second request comes before the next quiet turn of the server. -/
def lateRun : List Event :=
  promptRun ++ [.advance 0 (.bound maxSessionsPerIp), .advance 0 (.finish 0), .elapse second,
    .advance 0 .tick, .elapse second, .advance 0 .tick, .advance 0 .close, .finish 0,
    .arrive (.v4 10 0 0 1) 2001 shortRequest maxSessionsPerIp, .feed]

/-- The second request is consumed by the feed to the finished handler. -/
theorem accepted_kept_late :
    Reach step (fun _ _ => True) (new TFTPServer.fresh 1 0)
        (lateRun.foldl step (new TFTPServer.fresh 1 0)) ∧
      ¬ (lateRun.foldl step (new TFTPServer.fresh 1 0)).Kept := by
  constructor
  · exact Reach.foldl lateRun
  · intro kept
    have two : 1 < (lateRun.foldl step (new TFTPServer.fresh 1 0)).accepted.length := by
      decide +kernel
    have joining : (lateRun.foldl step (new TFTPServer.fresh 1 0)).status = .joining 0 := by
      decide +kernel
    have absent : ∀ handler ∈ (lateRun.foldl step (new TFTPServer.fresh 1 0)).handlers,
        ∀ item ∈ handler.requests.taken ++ handler.requests.queue, item.2.serial ≠ 1 := by
      decide +kernel
    rcases kept 1 _ (List.getElem?_eq_getElem two) with
      ⟨handler, member, _, taken | ⟨_, queued⟩⟩ | ⟨_, _, feeding, _⟩
    · exact absent handler member _ (List.mem_append_left _ taken) rfl
    · exact absent handler member _ (List.mem_append_right _ queued) rfl
    · rw [joining] at feeding
      cases feeding

end State

end Rtftp.ServeAugmented

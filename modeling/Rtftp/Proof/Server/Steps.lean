import Rtftp.Proof.Server.Work

namespace Rtftp.ServeAugmented
open Library PeerHandler

/-- A handler stays as it is, its requests handler takes a step, or its thread goes on. -/
inductive Handler.Next (handler : Handler) : Handler → Prop where
  | stay : Next handler handler
  | requests (event : RequestsHandler.Event Accepted) :
      Next handler { handler with requests := handler.requests.step event }
  | move (move : Move) : Next handler (handler.move move)

/-- Every handler of the second list is the next of the handler at its place. -/
def Stepped (handlers next : List Handler) : Prop := List.Forall₂ Handler.Next handlers next

theorem stepped_refl (handlers : List Handler) : Stepped handlers handlers :=
  List.forall₂_same.mpr fun _ _ => .stay

theorem stepped_map (handlers : List Handler) {change : Handler → Handler}
    (next : ∀ handler : Handler, handler.Next (change handler)) :
    Stepped handlers (handlers.map change) :=
  List.forall₂_map_right_iff.mpr (List.forall₂_same.mpr fun handler _ => next handler)

theorem stepped_modify (handlers : List Handler) (handle : Nat) {change : Handler → Handler}
    (next : ∀ handler : Handler, handler.Next (change handler)) :
    Stepped handlers (handlers.modify handle change) := by
  induction handlers generalizing handle with
  | nil =>
      rw [List.modify_nil]
      exact .nil
  | cons handler rest ih =>
      cases handle with
      | zero => exact .cons (next handler) (stepped_refl rest)
      | succ handle => exact .cons .stay (ih handle)

/-- A step of the server opens at most one handler, and it gives no old handle to an address. -/
inductive State.Changed (state next : State) : Prop where
  | kept (maxIdleTime : next.maxIdleTime = state.maxIdleTime)
      (handlers : Stepped state.handlers next.handlers)
      (table : ∀ entry ∈ next.peerHandlers.entries, entry ∈ state.peerHandlers.entries)
  | opened (remoteIp : IpAddr) (capacity : Nat)
      (maxIdleTime : next.maxIdleTime = state.maxIdleTime)
      (handlers : Stepped (state.openHandler remoteIp capacity).handlers next.handlers)
      (table : next.peerHandlers = (state.openHandler remoteIp capacity).peerHandlers)

namespace State

theorem changed_refl (state : State) : state.Changed state :=
  .kept rfl (stepped_refl _) fun _ member => member

theorem changed_modify (state : State) (handle : Nat) {change : Handler → Handler}
    (next : ∀ handler : Handler, handler.Next (change handler)) (status : ServerStatus) :
    state.Changed { state with
      handlers := state.handlers.modify handle change
      status := status } :=
  .kept rfl (stepped_modify _ handle next) fun _ member => member

theorem changed_arrive (state : State) (remoteIp : IpAddr) (port : UInt16)
    (datagram : List UInt8) (capacity : Nat) :
    state.Changed (state.arrive remoteIp port datagram capacity) := by
  unfold arrive
  split
  · split
    · unfold handleRequest
      dsimp only
      split
      · exact .kept rfl (stepped_refl _) fun _ member => member
      · exact .opened remoteIp capacity rfl (stepped_refl _) rfl
    · exact .kept rfl (stepped_refl _) fun _ member => member
  · exact state.changed_refl

theorem changed_feed (state : State) : state.Changed state.feed := by
  unfold feed
  split
  · split
    · exact state.changed_refl
    · split
      · split
        · refine .kept rfl ?_ ?_
          · exact stepped_modify _ _ fun handler => .requests .dropSender
          · exact fun entry member => ((Table.mem_retain _ _ _).mp member).1
        · exact .kept rfl (stepped_refl _) fun _ member => member
      · split
        · exact state.changed_modify _ (fun handler => .requests _) _
        · exact state.changed_refl
  · exact state.changed_refl

theorem changed_turn (state : State) : state.Changed state.turn := by
  unfold turn
  split
  · refine .kept rfl ?_ ?_
    · apply stepped_map
      intro handler
      split
      · exact .requests .dropSender
      · exact .stay
    · exact fun entry member => ((Table.mem_retain _ _ _).mp member).1
  · exact state.changed_refl

theorem changed_observe (state : State) (event : InotifyEvent) (capacity : Nat) :
    state.Changed (state.observe event capacity) := by
  unfold observe
  split
  · split
    · exact state.changed_refl
    · rename_i remoteIp _
      split
      · exact .opened remoteIp capacity rfl
          (stepped_modify _ _ fun handler => .requests .dropSender) rfl
      · exact .opened remoteIp capacity rfl (stepped_refl _) rfl
  · exact state.changed_refl

theorem changed_joined (state : State) : state.Changed state.joined := by
  unfold joined
  split
  · split
    · exact .kept rfl (stepped_refl _) fun _ member => member
    · exact .kept rfl (stepped_refl _) fun _ member => member
    · exact state.changed_refl
  · exact state.changed_refl

/-- This is all that a step does to the handlers and to the map. -/
theorem step_changed (state : State) (event : Event) : state.Changed (step state event) := by
  cases event with
  | arrive remoteIp port datagram capacity => exact state.changed_arrive remoteIp port datagram _
  | feed => exact state.changed_feed
  | turn => exact state.changed_turn
  | observe event capacity => exact state.changed_observe event capacity
  | joined => exact state.changed_joined
  | start handle => exact state.changed_modify handle (fun _ => .move .start) _
  | advance handle event => exact state.changed_modify handle (fun _ => .move (.advance event)) _
  | panic handle => exact state.changed_modify handle (fun _ => .move .panic) _
  | finish handle => exact state.changed_modify handle (fun _ => .move .finish) _
  | elapse duration =>
      exact .kept rfl (stepped_map _ fun _ => .requests (.elapse duration)) fun _ member => member

end State

end Rtftp.ServeAugmented

import Rtftp.Proof.Handler.Steps

namespace Rtftp.PeerHandler
open Library

variable {R : Type}

/-- The requests handler has not left its loop. -/
def HandlerStatus.inLoop : HandlerStatus R → Bool
  | .waiting _ => true
  | .binding _ _ _ => true
  | .refusing _ _ _ => true
  | _ => false

theorem await_inLoop (exit : Exit) (handles : List (UInt16 × Nat)) :
    (RequestsHandler.await exit handles : HandlerStatus R).inLoop = false := by
  cases handles with
  | nil => rfl
  | cons handle rest => rfl

namespace RequestsHandler

/-- A handler in its loop has an open channel, and a handler that left it has no request left. -/
structure Emptied (handler : RequestsHandler R) : Prop where
  opened : handler.status.inLoop = true → handler.receiverClosed = false
  left : handler.status.inLoop = false → handler.queue = []

/-- An elapsed second leaves the loop for inactivity. -/
def Stops (handler : RequestsHandler R) : Prop :=
  ∃ since, handler.status = .waiting since ∧ since + second ≤ handler.clock ∧
    handler.unfinished = [] ∧ handler.idleTimeout * second < handler.clock - handler.lastActive

/-- What was taken stays taken, and what was queued is taken or stays queued in the loop. -/
structure Passes (before after : RequestsHandler R) : Prop where
  taken : ∀ item ∈ before.taken, item ∈ after.taken
  queued : ∀ item ∈ before.queue,
    item ∈ after.taken ∨ after.status.inLoop = true ∧ item ∈ after.queue

/-- A step that keeps the channel and stays on its side of the loop loses nothing. -/
theorem Emptied.same {before after : RequestsHandler R} (emptied : Emptied before)
    (taken : after.taken = before.taken) (queue : after.queue = before.queue)
    (closed : after.receiverClosed = before.receiverClosed)
    (loop : after.status.inLoop = before.status.inLoop) :
    Emptied after ∧ Passes before after ∧
      (before.status.inLoop = true → after.status.inLoop = true) := by
  refine ⟨⟨?_, ?_⟩, ⟨?_, ?_⟩, ?_⟩
  · rw [loop, closed]
    exact emptied.opened
  · rw [loop, queue]
    exact emptied.left
  · rw [taken]
    exact fun item member => member
  · intro item member
    rw [loop, queue]
    cases inside : before.status.inLoop with
    | true => exact .inr ⟨rfl, member⟩
    | false =>
        rw [emptied.left inside] at member
        cases member
  · rw [loop]
    exact id

/-- A request that the loop takes is the first one of the queue. -/
theorem Emptied.take {before after : RequestsHandler R} (emptied : Emptied before)
    {item : UInt16 × R} {rest : List (UInt16 × R)} (next : before.queue = item :: rest)
    (inside : before.status.inLoop = true) (taken : after.taken = before.taken ++ [item])
    (queue : after.queue = rest) (closed : after.receiverClosed = before.receiverClosed)
    (loop : after.status.inLoop = true) :
    Emptied after ∧ Passes before after := by
  refine ⟨⟨?_, ?_⟩, ⟨?_, ?_⟩⟩
  · intro _
    rw [closed]
    exact emptied.opened inside
  · rw [loop]
    intro left
    cases left
  · rw [taken]
    exact fun earlier member => List.mem_append_left _ member
  · intro queued member
    rw [next] at member
    rw [taken, queue]
    rcases List.mem_cons.mp member with rfl | later
    · exact .inl (List.mem_append_right _ List.mem_cons_self)
    · exact .inr ⟨loop, later⟩

/-- A handler with an empty queue leaves its loop without a loss. -/
theorem Emptied.leave {before after : RequestsHandler R} (empty : before.queue = [])
    (taken : after.taken = before.taken) (queue : after.queue = before.queue)
    (left : after.status.inLoop = false) : Emptied after ∧ Passes before after := by
  refine ⟨⟨?_, ?_⟩, ⟨?_, ?_⟩⟩
  · rw [left]
    intro inside
    cases inside
  · intro _
    rw [queue, empty]
  · rw [taken]
    exact fun item member => member
  · intro item member
    rw [empty] at member
    cases member

/-- A step other than a feed loses no request, unless it stops with requests in its queue. It leaves
the loop only when its sender is dropped or when it stops. -/
theorem step_passes {handler : RequestsHandler R} (emptied : Emptied handler) (event : Event R)
    (careful : event = .tick → handler.Stops → handler.queue = [])
    (other : ∀ port request, event ≠ .feed port request) :
    Emptied (handler.step event) ∧ Passes handler (handler.step event) ∧
      (handler.status.inLoop = true → (handler.step event).status.inLoop = true ∨
        handler.senderDropped = true ∨ event = .tick ∧ handler.Stops) := by
  have keeps {after : RequestsHandler R} (taken : after.taken = handler.taken)
      (queue : after.queue = handler.queue) (closed : after.receiverClosed = handler.receiverClosed)
      (loop : after.status.inLoop = handler.status.inLoop) :
      Emptied after ∧ Passes handler after ∧ (handler.status.inLoop = true →
        after.status.inLoop = true ∨ handler.senderDropped = true ∨
          event = .tick ∧ handler.Stops) := by
    obtain ⟨emptied, passes, stays⟩ := emptied.same taken queue closed loop
    exact ⟨emptied, passes, fun inside => .inl (stays inside)⟩
  have change := handler.step_change event
  generalize handler.step event = after at change ⊢
  cases change with
  | stay => exact keeps rfl rfl rfl rfl
  | feed port request => exact absurd rfl (other port request)
  | dropSender => exact keeps rfl rfl rfl rfl
  | elapse duration => exact keeps rfl rfl rfl rfl
  | ignore waiting next _ =>
      apply and_assoc.mp
      constructor
      · exact emptied.take next (by rw [waiting]; rfl) rfl rfl rfl rfl
      · exact fun _ => .inl rfl
  | accept waiting next _ =>
      apply and_assoc.mp
      constructor
      · exact emptied.take next (by rw [waiting]; rfl) rfl rfl rfl rfl
      · exact fun _ => .inl rfl
  | leave _ empty dropped =>
      apply and_assoc.mp
      constructor
      · exact Emptied.leave empty rfl rfl rfl
      · exact fun _ => .inr (.inl dropped)
  | stop waiting elapsed empty idle =>
      have stops : handler.Stops := ⟨_, waiting, elapsed, empty, idle⟩
      apply and_assoc.mp
      constructor
      · exact Emptied.leave (careful rfl stops) rfl rfl rfl
      · exact fun _ => .inr (.inr ⟨rfl, stops⟩)
  | rest waiting => exact keeps rfl rfl rfl (by rw [waiting]; rfl)
  | notice waiting => exact keeps rfl rfl rfl (by rw [waiting]; rfl)
  | refuse grown crowded binding => exact keeps rfl rfl rfl (by rw [binding]; rfl)
  | schedule grown crowded binding => exact keeps rfl rfl rfl (by rw [binding]; rfl)
  | override grown refusing => exact keeps rfl rfl rfl (by rw [refusing]; rfl)
  | close leaving =>
      have outside : handler.status.inLoop = false := by
        rw [leaving]
        rfl
      apply and_assoc.mp
      constructor
      · exact Emptied.leave (emptied.left outside) rfl rfl (await_inLoop _ _)
      · intro inside
        rw [outside] at inside
        cases inside
  | join draining =>
      exact keeps rfl rfl rfl ((await_inLoop _ _).trans (by rw [draining]; rfl))
  | finish handle => exact keeps rfl rfl rfl rfl

/-- Only the server drops the sender. -/
theorem step_senderDropped (handler : RequestsHandler R) (event : Event R)
    (other : event ≠ .dropSender) :
    (handler.step event).senderDropped = handler.senderDropped := by
  have change := handler.step_change event
  generalize handler.step event = after at change ⊢
  cases change with
  | dropSender => exact absurd rfl other
  | _ => rfl

end RequestsHandler

end Rtftp.PeerHandler

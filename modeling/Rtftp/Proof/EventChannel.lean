import Rtftp.Construction.AsyncChannel

namespace Rtftp.AsyncChannel
open Library

variable {T W : Type}

/-- A poll takes the first item, or it leaves its waker at an empty queue. -/
theorem SharedQueue.poll_cases (shared : SharedQueue T W) (waker : W) :
    (∃ item rest, shared.queue = item :: rest ∧
      shared.poll waker = (.ready item, ⟨rest, shared.waker⟩)) ∨
    (shared.queue = [] ∧ shared.poll waker = (.pending, ⟨[], some waker⟩)) := by
  obtain ⟨queue, slot⟩ := shared
  cases queue with
  | nil => exact .inr ⟨rfl, rfl⟩
  | cons item rest => exact .inl ⟨item, rest, rfl, rfl⟩

namespace Channel

/-- Nothing is lost between the pushes and the polls, and a pending waker has been woken or waits in
its place at an empty queue. -/
structure Sound (channel : Channel T W) : Prop where
  kept : channel.returned ++ channel.shared.queue = channel.pushed
  waits : ∀ waker, channel.future = some (.pending waker) →
    waker ∈ channel.woken ∨ channel.shared = ⟨[], some waker⟩

theorem sound_new : (new : Channel T W).Sound where
  kept := rfl
  waits _ live := by cases live

theorem Sound.push {channel : Channel T W} (sound : channel.Sound) (item : T) :
    (channel.step (.push item)).Sound where
  kept := by
    show channel.returned ++ (channel.shared.queue ++ [item]) = channel.pushed ++ [item]
    rw [← List.append_assoc, sound.kept]
  waits waker live := by
    show waker ∈ channel.woken ++ channel.shared.waker.toList ∨ _
    -- A waker in its place is the one that this push takes.
    rcases sound.waits waker live with woken | waiting
    · exact .inl (List.mem_append_left _ woken)
    · simp [waiting]

theorem Sound.poll {channel : Channel T W} (sound : channel.Sound) (waker : W) :
    (channel.step (.poll waker)).Sound := by
  rcases channel.shared.poll_cases waker with ⟨item, rest, queue, polled⟩ | ⟨queue, polled⟩
  · have kept := sound.kept
    rw [queue] at kept
    simp only [step, polled]
    exact ⟨by rw [← kept, List.append_assoc, List.singleton_append], fun _ live => by cases live⟩
  · have kept := sound.kept
    rw [queue] at kept
    simp only [step, polled]
    refine ⟨kept, fun other live => ?_⟩
    cases live
    exact .inr rfl

/-- Every call keeps the channel sound, in every order. -/
theorem Sound.step {channel : Channel T W} (sound : channel.Sound) (call : Call T W) :
    (channel.step call).Sound := by
  cases call with
  | push item => exact sound.push item
  | next => exact ⟨sound.kept, fun _ live => by cases live⟩
  | poll waker => exact sound.poll waker
  | drop => exact ⟨sound.kept, fun _ live => by cases live⟩

theorem sound_of_reach {channel : Channel T W}
    (reached : Reach Channel.step Channel.Allowed .new channel) : channel.Sound :=
  reached.invariant Sound sound_new fun _ call sound _ => sound.step call

/-- No run of the channel loses, repeats or strands an item. -/
theorem nothing_stranded {channel : Channel T W}
    (reached : Reach Channel.step Channel.Allowed .new channel) :
    channel.returned ++ channel.shared.queue = channel.pushed ∧
    (∀ waker, channel.future = some (.pending waker) →
      (channel.step .drop).returned ++ (channel.step .drop).shared.queue = channel.pushed) ∧
    ∀ waker, channel.future = some (.pending waker) → channel.shared.queue ≠ [] →
      waker ∈ channel.woken := by
  have sound := sound_of_reach reached
  refine ⟨sound.kept, fun _ _ => (sound.step .drop).kept, fun waker live filled => ?_⟩
  rcases sound.waits waker live with woken | waiting
  · exact woken
  · rw [waiting] at filled
    exact absurd rfl filled

/-- The second future waits with its own waker after the first one was cancelled. -/
theorem nothing_stranded_cancelled :
    let calls : List (Call Nat Nat) := [.next, .poll 1, .drop, .next, .poll 2, .push 5, .push 6]
    let channel := calls.foldl Channel.step .new
    channel.future = some (.pending 2) ∧ channel.shared.queue = [5, 6] ∧ 2 ∈ channel.woken := by
  intro calls channel
  have permitted : Permits Channel.step Channel.Allowed .new calls := by
    refine ⟨rfl, ?_, ?_, rfl, ?_, trivial, trivial, trivial⟩
    all_goals intro gone
    all_goals cases gone
  have reached : Reach Channel.step Channel.Allowed .new channel := Reach.permits permitted
  have live : channel.future = some (.pending 2) := rfl
  have filled : channel.shared.queue = [5, 6] := rfl
  refine ⟨live, filled, (nothing_stranded reached).2.2 2 live ?_⟩
  rw [filled]
  exact List.cons_ne_nil _ _

end Channel

end Rtftp.AsyncChannel

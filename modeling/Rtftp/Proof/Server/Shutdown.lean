import Rtftp.Construction.Shutdown
import Rtftp.Proof.Server.Liveness

namespace Rtftp.ServeAugmented
open Library PeerHandler

/-- A thread that has panicked does not go on. -/
theorem Handler.move_panicked {handler : Handler} (panicked : handler.thread = .panicked)
    (move : Move) : handler.move move = handler := by
  cases move with
  | start => simp only [Handler.move, Handler.start, panicked]
  | advance event => simp only [Handler.move, Handler.advance, panicked]
  | panic => simp only [Handler.move, Handler.panic, panicked]
  | finish => simp only [Handler.move, Handler.finish, panicked, ite_self]

namespace Dropping

/-- The event changes more than the clocks. -/
def Productive (dropping : Dropping) (event : Event) : Prop :=
  (∀ duration, event ≠ .elapse duration) ∧ (∀ handle, event ≠ .advance handle .tick) ∧
    step dropping event ≠ dropping

/-- The steps that the destructor and the threads take at most. -/
def effort (dropping : Dropping) : Nat :=
  totalWork dropping.handlers + 2 * dropping.peerHandlers.length + match dropping.status with
    | .draining => 1
    | .joining _ => 2
    | .panicked => 0
    | .returned => 0

/-- A thread that has not ended is still to be shut down, or the destructor waits for its end. -/
structure Owned (dropping : Dropping) : Prop where
  orderly : ∀ handler ∈ dropping.handlers, handler.Orderly
  known : ∀ handle ∈ dropping.peerHandlers, ∃ handler : Handler,
    dropping.handlers[handle]? = some handler
  owned : ∀ (place : Nat) (handler : Handler), dropping.handlers[place]? = some handler →
    handler.isFinished = false →
      place ∈ dropping.peerHandlers ∨ dropping.status = .joining place
  dropped : ∀ place, dropping.status = .joining place → ∃ handler : Handler,
    dropping.handlers[place]? = some handler ∧ handler.requests.senderDropped = true
  returned : dropping.status = .returned → dropping.peerHandlers = []
  panicked : dropping.status = .panicked → ∃ handler ∈ dropping.handlers, handler.thread = .panicked

def moveEvent (handle : Nat) : Move → Event
  | .start => .start handle
  | .advance event => .advance handle event
  | .panic => .panic handle
  | .finish => .finish handle

theorem step_moveEvent (dropping : Dropping) (handle : Nat) (move : Move) :
    step dropping (moveEvent handle move) =
      { dropping with handlers := dropping.handlers.modify handle (·.move move) } := by
  cases move with
  | start => rfl
  | advance event => rfl
  | panic => rfl
  | finish => rfl

section
variable {dropping : Dropping}

/-- Threads that go on by themselves keep the invariant. -/
theorem Owned.replace (owned : dropping.Owned) {handlers : List Handler}
    {change : Nat → Handler → Handler}
    (pointwise : ∀ place, handlers[place]? = (dropping.handlers[place]?).map (change place))
    (continues : ∀ (place : Nat) (handler : Handler), handler.Orderly →
      handler.Continues (change place handler))
    (panics : ∀ (place : Nat) (handler : Handler), handler.thread = .panicked →
      (change place handler).thread = .panicked) :
    Owned { dropping with handlers := handlers } := by
  have after {place : Nat} {handler : Handler} (here : dropping.handlers[place]? = some handler) :
      handlers[place]? = some (change place handler) := by
    rw [pointwise place, here, Option.map_some]
  have before {place : Nat} {handler : Handler} (here : handlers[place]? = some handler) :
      ∃ earlier, dropping.handlers[place]? = some earlier ∧ change place earlier = handler := by
    rw [pointwise place] at here
    exact Option.map_eq_some_iff.mp here
  have each {place : Nat} {handler : Handler} (here : dropping.handlers[place]? = some handler) :=
    continues place handler (owned.orderly handler (List.mem_of_getElem? here))
  refine ⟨?_, ?_, ?_, ?_, owned.returned, ?_⟩
  · intro handler member
    obtain ⟨place, here⟩ := List.mem_iff_getElem?.mp member
    obtain ⟨earlier, there, rfl⟩ := before here
    exact (each there).orderly
  · intro handle member
    obtain ⟨handler, here⟩ := owned.known handle member
    exact ⟨_, after here⟩
  · intro place handler here unfinished
    obtain ⟨earlier, there, rfl⟩ := before here
    apply owned.owned place earlier there
    cases finished : earlier.isFinished with
    | false => rfl
    | true =>
        rw [(each there).finished finished] at unfinished
        cases unfinished
  · intro place joining
    obtain ⟨handler, here, dropped⟩ := owned.dropped place joining
    exact ⟨_, after here, (each here).sender.trans dropped⟩
  · intro panicked
    obtain ⟨handler, member, thread⟩ := owned.panicked panicked
    obtain ⟨place, here⟩ := List.mem_iff_getElem?.mp member
    exact ⟨_, List.mem_of_getElem? (after here), panics place handler thread⟩

theorem Owned.move (owned : dropping.Owned) (handle : Nat) (move : Move) :
    Owned { dropping with handlers := dropping.handlers.modify handle (·.move move) } := by
  apply owned.replace (fun place => List.getElem?_modify _ _ _ _)
  · intro place handler orderly
    split
    · exact orderly.move move
    · exact orderly.continues
  · intro place handler thread
    split
    · rw [Handler.move_panicked thread, thread]
    · exact thread

theorem Owned.elapse (owned : dropping.Owned) (duration : Nat) :
    Owned (step dropping (.elapse duration)) := by
  apply owned.replace (fun place => List.getElem?_map)
  · exact fun place handler orderly => orderly.elapse duration
  · exact fun place handler thread => thread

/-- The destructor drops the sender of the next handler and waits for its thread. -/
theorem Owned.shutdown (owned : dropping.Owned) (place : Nat) : Owned (dropping.shutdown place) := by
  unfold Dropping.shutdown
  split
  · rename_i draining
    split
    · rename_i handle next
      have here (other : Nat) : (dropping.handlers.modify handle fun handler =>
          { handler with requests := handler.requests.step .dropSender })[other]? =
            (dropping.handlers[other]?).map fun handler => if handle = other then
              { handler with requests := handler.requests.step .dropSender } else handler :=
        List.getElem?_modify _ _ _ _
      obtain ⟨chosen, found⟩ := owned.known handle (List.mem_of_getElem? next)
      refine ⟨?_, ?_, ?_, ?_, nofun, nofun⟩
      · intro handler member
        obtain ⟨other, there⟩ := List.mem_iff_getElem?.mp member
        rw [here other] at there
        obtain ⟨earlier, before, rfl⟩ := Option.map_eq_some_iff.mp there
        have orderly := owned.orderly earlier (List.mem_of_getElem? before)
        split
        · exact orderly.dropSender
        · exact orderly
      · intro other member
        obtain ⟨handler, before⟩ := owned.known other (List.mem_of_mem_eraseIdx member)
        exact ⟨_, (here other).trans (by rw [before]; rfl)⟩
      · intro other handler there unfinished
        rw [here other] at there
        obtain ⟨earlier, before, rfl⟩ := Option.map_eq_some_iff.mp there
        have living : earlier.isFinished = false := by
          split at unfinished
          · exact unfinished
          · exact unfinished
        rcases owned.owned other earlier before living with member | joining
        · by_cases same : other = handle
          · exact .inr (by rw [same])
          · left
            obtain ⟨index, located⟩ := List.mem_iff_getElem?.mp member
            refine List.mem_eraseIdx_iff_getElem?.mpr ⟨index, ?_, located⟩
            rintro rfl
            exact same (Option.some.inj (located.symm.trans next))
        · rw [draining] at joining
          cases joining
      · intro other joining
        cases joining
        refine ⟨_, (here handle).trans (by rw [found]; rfl), ?_⟩
        dsimp only
        rw [if_pos rfl]
        rfl
    · exact owned
  · exact owned

/-- The destructor goes on when the thread that it waits for has ended. -/
theorem Owned.rejoin (owned : dropping.Owned) {handle : Nat} {handler : Handler}
    (joining : dropping.status = .joining handle)
    (here : dropping.handlers[handle]? = some handler) (ended : handler.isFinished = true)
    {status : DropStatus} (idle : ∀ place, status ≠ .joining place) (other : status ≠ .returned)
    (panicked : status = .panicked → handler.thread = .panicked) :
    Owned { dropping with status := status } := by
  refine ⟨owned.orderly, owned.known, ?_, ?_, fun returned => absurd returned other, ?_⟩
  · intro place later there unfinished
    rcases owned.owned place later there unfinished with member | same
    · exact .inl member
    · cases joining.symm.trans same
      cases here.symm.trans there
      exact absurd (ended.symm.trans unfinished) (by decide)
  · exact fun place joining => absurd joining (idle place)
  · exact fun reached => ⟨handler, List.mem_of_getElem? here, panicked reached⟩

theorem Owned.joined (owned : dropping.Owned) : Owned dropping.joined := by
  unfold Dropping.joined
  split
  · rename_i handle joining
    split
    · rename_i finished
      obtain ⟨handler, here, thread⟩ := Option.map_eq_some_iff.mp finished
      exact owned.rejoin joining here (by rw [Handler.isFinished, thread]) (by simp) (by simp)
        (by simp)
    · rename_i panicked
      obtain ⟨handler, here, thread⟩ := Option.map_eq_some_iff.mp panicked
      exact owned.rejoin joining here (by rw [Handler.isFinished, thread]) (by simp) (by simp)
        fun _ => thread
    · exact owned
  · exact owned

theorem Owned.exhausted (owned : dropping.Owned) : Owned dropping.exhausted := by
  unfold Dropping.exhausted
  split
  · rename_i draining empty
    refine ⟨owned.orderly, owned.known, ?_, nofun, fun _ => empty, nofun⟩
    intro place handler here unfinished
    rcases owned.owned place handler here unfinished with member | joining
    · exact .inl member
    · rw [draining] at joining
      cases joining
  · exact owned

theorem Owned.step (owned : dropping.Owned) (event : Event) : Owned (step dropping event) := by
  cases event with
  | shutdown place => exact owned.shutdown place
  | joined => exact owned.joined
  | exhausted => exact owned.exhausted
  | start handle => exact owned.move handle .start
  | advance handle event => exact owned.move handle (.advance event)
  | panic handle => exact owned.move handle .panic
  | finish handle => exact owned.move handle .finish
  | elapse duration => exact owned.elapse duration

theorem effort_joined (dropping : Dropping) :
    dropping.joined.effort < dropping.effort ∨ dropping.joined = dropping := by
  unfold Dropping.joined
  split
  · rename_i handle joining
    split
    · left
      simp only [effort, joining]
      omega
    · left
      simp only [effort, joining]
      omega
    · exact .inr rfl
  · exact .inr rfl

/-- A thread that goes on makes a productive step of the destructor's run. -/
theorem productive_move {handle : Nat} {handler : Handler} {move : Move}
    (here : dropping.handlers[handle]? = some handler) (other : move ≠ .advance .tick)
    (lower : (handler.move move).work < handler.work) :
    dropping.Productive (moveEvent handle move) := by
  refine ⟨?_, ?_, fun same => ?_⟩
  · intro duration
    cases move with
    | _ => nofun
  · intro place
    cases move with
    | start | panic | finish => nofun
    | advance event =>
        intro equal
        injection equal with _ tick
        exact other (by rw [tick])
  · have total := totalWork_modify here (·.move move)
    rw [step_moveEvent] at same
    have equal : dropping.handlers.modify handle (·.move move) = dropping.handlers :=
      congrArg Dropping.handlers same
    rw [equal] at total
    omega

/-- A destructor that has not ended can go on or the thread that it waits for can. -/
theorem Owned.unblocked (owned : dropping.Owned) (unreturned : dropping.status ≠ .returned)
    (unpanicked : dropping.status ≠ .panicked) : ∃ event, dropping.Productive event := by
  cases status : dropping.status with
  | returned => exact absurd status unreturned
  | panicked => exact absurd status unpanicked
  | draining =>
      cases rest : dropping.peerHandlers with
      | nil =>
          refine ⟨.exhausted, by simp, by simp, fun same => ?_⟩
          have ended : dropping.exhausted.status = .draining :=
            (congrArg Dropping.status same).trans status
          simp only [Dropping.exhausted, status, rest] at ended
          cases ended
      | cons handle others =>
          refine ⟨.shutdown 0, by simp, by simp, fun same => ?_⟩
          have waits : (dropping.shutdown 0).status = .draining :=
            (congrArg Dropping.status same).trans status
          simp only [Dropping.shutdown, status, rest, List.getElem?_cons_zero] at waits
          cases waits
  | joining handle =>
      obtain ⟨handler, here, dropped⟩ := owned.dropped handle status
      have goes (changes : dropping.joined.status ≠ dropping.status) :
          ∃ event, dropping.Productive event :=
        ⟨.joined, by simp, by simp, fun same => changes (congrArg Dropping.status same)⟩
      cases thread : handler.thread with
      | finished =>
          apply goes
          simp only [Dropping.joined, status, here, Option.map_some, thread]
          simp
      | panicked =>
          apply goes
          simp only [Dropping.joined, status, here, Option.map_some, thread]
          simp
      | opening | running | unwound =>
          obtain ⟨move, other, lower⟩ :=
            (owned.orderly handler (List.mem_of_getElem? here)).progress
              (by rw [Handler.isFinished, thread]) (.inl dropped)
          exact ⟨moveEvent handle move, productive_move here other lower⟩

end

end Dropping

end Rtftp.ServeAugmented

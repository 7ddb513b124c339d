import Rtftp.Library.Machine

namespace Rtftp.Library

variable {State Input : Type} {step : State → Input → State} {allowed : State → Input → Prop}
  {start state : State}

/-- A guarded run is not longer than a measure that every allowed step of it lowers. -/
theorem Permits.length_le (Holds : State → Prop) (measure : State → Nat) (initial : Holds start)
    (preserved : ∀ state input, Holds state → allowed state input → Holds (step state input))
    (lowered : ∀ state input, Holds state → allowed state input →
      measure (step state input) < measure state)
    {inputs : List Input} (permitted : Permits step allowed start inputs) :
    inputs.length + measure (inputs.foldl step start) ≤ measure start := by
  induction inputs generalizing start with
  | nil => exact Nat.le_of_eq (Nat.zero_add _)
  | cons input rest ih =>
      have first := lowered start input initial permitted.1
      have later := ih (preserved start input initial permitted.1) permitted.2
      rw [List.foldl_cons, List.length_cons]
      omega

/-- Bounded guarded runs come to a state that allows nothing more. -/
theorem Permits.exhausted {bound : Nat}
    (bounded : ∀ inputs : List Input, Permits step allowed start inputs → inputs.length ≤ bound) :
    ∃ inputs : List Input, Permits step allowed start inputs ∧
      ∀ input, ¬ allowed (inputs.foldl step start) input := by
  by_contra endless
  push Not at endless
  have longer (length : Nat) :
      ∃ inputs : List Input, Permits step allowed start inputs ∧ inputs.length = length := by
    induction length with
    | zero => exact ⟨[], trivial, rfl⟩
    | succ length ih =>
        obtain ⟨inputs, permitted, same⟩ := ih
        obtain ⟨input, allows⟩ := endless inputs permitted
        refine ⟨inputs ++ [input], (permits_append _ _).mpr ⟨permitted, allows, trivial⟩, ?_⟩
        rw [List.length_append, same, List.length_singleton]
  obtain ⟨inputs, permitted, same⟩ := longer (bound + 1)
  have few := bounded inputs permitted
  omega

/-- Every allowed step counts the steps down that are left. -/
def Countdown (step : State → Input → State) (allowed : State → Input → Prop)
    (Left : Nat → State → Prop) : Prop :=
  ∀ left state input, Left left state → allowed state input →
    ∃ fewer, left = fewer + 1 ∧ Left fewer (step state input)

/-- The countdown has this state in front of it. -/
def Before (first : State) (total : Nat) (Left : Nat → State → Prop) (left : Nat)
    (state : State) : Prop :=
  left = total + 1 ∧ state = first ∨ Left left state

theorem Countdown.before {Left : Nat → State → Prop} (countdown : Countdown step allowed Left)
    {first : State} {total : Nat}
    (steps : ∀ input, allowed first input → Left total (step first input)) :
    Countdown step allowed (Before first total Left) := by
  rintro left state input (⟨rfl, rfl⟩ | later) permitted
  · exact ⟨total, rfl, .inr (steps input permitted)⟩
  · obtain ⟨fewer, one, next⟩ := countdown left state input later permitted
    exact ⟨fewer, one, .inr next⟩

/-- A state that allows no step is behind every state that allows one. -/
theorem Before.quiet {Left : Nat → State → Prop} {first : State} {total left : Nat}
    (before : Before first total Left left state) (going : ∃ input, allowed first input)
    (quiet : ∀ input, ¬ allowed state input) : Left left state := by
  rcases before with ⟨-, rfl⟩ | later
  · obtain ⟨input, permitted⟩ := going
    exact absurd permitted (quiet input)
  · exact later

/-- A guarded run counts down as many steps as it takes. -/
theorem Countdown.permits {Left : Nat → State → Prop} (countdown : Countdown step allowed Left)
    {inputs : List Input} (permitted : Permits step allowed start inputs) {left : Nat}
    (initial : Left left start) :
    ∃ fewer, left = inputs.length + fewer ∧ Left fewer (inputs.foldl step start) := by
  induction inputs generalizing start left with
  | nil => exact ⟨left, (Nat.zero_add left).symm, initial⟩
  | cons input rest ih =>
      obtain ⟨fewer, one, next⟩ := countdown left start input initial permitted.1
      obtain ⟨last, others, ended⟩ := ih permitted.2 next
      exact ⟨last, by rw [List.length_cons]; omega, ended⟩

/-- A guarded run adds at most what its allowed steps add. -/
theorem Permits.amount_le (Holds : State → Prop) (amount : State → Nat) (most : Nat)
    (initial : Holds start)
    (preserved : ∀ state input, Holds state → allowed state input → Holds (step state input))
    (grows : ∀ state input, Holds state → allowed state input →
      amount (step state input) ≤ amount state + most)
    {inputs : List Input} (permitted : Permits step allowed start inputs) :
    amount (inputs.foldl step start) ≤ amount start + inputs.length * most := by
  induction inputs generalizing start with
  | nil => exact Nat.le_add_right _ _
  | cons input rest ih =>
      have first := grows start input initial permitted.1
      have later := ih (preserved start input initial permitted.1) permitted.2
      rw [List.foldl_cons, List.length_cons, Nat.add_mul]
      omega

/-- A guarded run makes this many productive steps, and any number of other steps between them. -/
inductive Advances {State Input : Type} (step : State → Input → State)
    (allowed productive : State → Input → Prop) (start : State) : Nat → State → Prop where
  | start : Advances step allowed productive start 0 start
  | idle {count : Nat} {state : State} {input : Input}
      (earlier : Advances step allowed productive start count state)
      (permitted : allowed state input) :
      Advances step allowed productive start count (step state input)
  | productive {count : Nat} {state : State} {input : Input}
      (earlier : Advances step allowed productive start count state)
      (permitted : allowed state input) (advances : productive state input) :
      Advances step allowed productive start (count + 1) (step state input)

theorem Advances.reach {productive : State → Input → Prop} {count : Nat}
    (run : Advances step allowed productive start count state) :
    Reach step allowed start state := by
  induction run with
  | start => exact .start
  | idle _ permitted ih => exact .next ih permitted
  | productive _ permitted _ ih => exact .next ih permitted

/-- A run of productive steps counts all of them. -/
theorem Advances.permits {productive : State → Input → Prop} {inputs : List Input} {count : Nat}
    (earlier : Advances step allowed productive start count state)
    (permitted : Permits step (fun state input => allowed state input ∧ productive state input)
      state inputs) :
    Advances step allowed productive start (count + inputs.length) (inputs.foldl step state) := by
  induction inputs generalizing state count with
  | nil => exact earlier
  | cons input rest ih =>
      have later := ih (.productive earlier permitted.1.1 permitted.1.2) permitted.2
      rwa [Nat.add_right_comm, Nat.add_assoc] at later

/-- A measure that every productive step lowers brings a run to a state without one. -/
theorem Advances.exhausted {productive : State → Input → Prop} (Holds : State → Prop)
    (measure : State → Nat) (initial : Holds start)
    (preserved : ∀ state input, Holds state → allowed state input → Holds (step state input))
    (lowered : ∀ state input, Holds state → allowed state input → productive state input →
      measure (step state input) < measure state) :
    ∃ count state, Advances step allowed productive start count state ∧
      ∀ input, allowed state input → ¬ productive state input := by
  let both := fun (state : State) (input : Input) => allowed state input ∧ productive state input
  have bounded (inputs : List Input) (permitted : Permits step both start inputs) :
      inputs.length ≤ measure start := by
    have total := permitted.length_le Holds measure initial
      (fun state input holds each => preserved state input holds each.1)
      (fun state input holds each => lowered state input holds each.1 each.2)
    omega
  obtain ⟨inputs, permitted, last⟩ := Permits.exhausted bounded
  exact ⟨_, _, Advances.permits .start permitted, fun input allows advances =>
    last input ⟨allows, advances⟩⟩

theorem Advances.foldl {productive : State → Input → Prop} {count : Nat}
    (earlier : Advances step (fun _ _ => True) productive start count state)
    (inputs : List Input) :
    Advances step (fun _ _ => True) productive start count (inputs.foldl step state) := by
  induction inputs generalizing state with
  | nil => exact earlier
  | cons input rest ih => exact ih (.idle earlier trivial)

/-- A measure that no step raises bounds the steps that lower it. -/
theorem Advances.count_le {productive : State → Input → Prop} (Holds : State → Prop)
    (measure : State → Nat) (initial : Holds start)
    (preserved : ∀ state input, Holds state → allowed state input → Holds (step state input))
    (kept : ∀ state input, Holds state → allowed state input →
      measure (step state input) ≤ measure state)
    (lowered : ∀ state input, Holds state → allowed state input → productive state input →
      measure (step state input) < measure state)
    {count : Nat} (run : Advances step allowed productive start count state) :
    count + measure state ≤ measure start := by
  induction run with
  | start => exact Nat.le_of_eq (Nat.zero_add _)
  | @idle _ earlier input run permitted ih =>
      have holds := run.reach.invariant Holds initial preserved
      have later := kept earlier input holds permitted
      omega
  | @productive _ earlier input run permitted advances ih =>
      have holds := run.reach.invariant Holds initial preserved
      have later := lowered earlier input holds permitted advances
      omega

end Rtftp.Library

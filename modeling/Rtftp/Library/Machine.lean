import Mathlib.Data.List.Basic

namespace Rtftp.Library

/-- A guarded run starts at one state and takes only the inputs its guard allows. -/
inductive Reach {State Input : Type} (step : State → Input → State)
    (allowed : State → Input → Prop) (start : State) : State → Prop where
  | start : Reach step allowed start start
  | next {state : State} {input : Input} (reached : Reach step allowed start state)
      (permitted : allowed state input) : Reach step allowed start (step state input)

variable {State Input : Type} {step : State → Input → State}
  {allowed wider : State → Input → Prop} {start state : State}

/-- An invariant of the start and of each allowed step holds along the whole run. -/
theorem Reach.invariant (Holds : State → Prop) (initial : Holds start)
    (preserved : ∀ state input, Holds state → allowed state input → Holds (step state input))
    (reached : Reach step allowed start state) : Holds state := by
  induction reached with
  | start => exact initial
  | next _ permitted ih => exact preserved _ _ ih permitted

/-- A wider guard reaches at least the same states. -/
theorem Reach.mono (weaker : ∀ state input, allowed state input → wider state input)
    (reached : Reach step allowed start state) : Reach step wider start state := by
  induction reached with
  | start => exact .start
  | next _ permitted ih => exact .next ih (weaker _ _ permitted)

/-- A run stays within a narrower guard when every state it reaches narrows the guard. -/
theorem Reach.narrow {narrower : State → Input → Prop}
    (narrows : ∀ state input, Reach step allowed start state → allowed state input →
      narrower state input)
    (reached : Reach step allowed start state) : Reach step narrower start state := by
  induction reached with
  | start => exact .start
  | next earlier permitted ih => exact .next ih (narrows _ _ earlier permitted)

/-- Two consecutive guarded runs form one guarded run. -/
theorem Reach.trans {middle : State} (first : Reach step allowed start middle)
    (second : Reach step allowed middle state) : Reach step allowed start state := by
  induction second with
  | start => exact first
  | next _ permitted ih => exact .next ih permitted

/-- The guard allows each of the inputs in its turn. -/
def Permits (step : State → Input → State) (allowed : State → Input → Prop) :
    State → List Input → Prop
  | _, [] => True
  | state, input :: rest => allowed state input ∧ Permits step allowed (step state input) rest

theorem Reach.permits {inputs : List Input} (permitted : Permits step allowed start inputs) :
    Reach step allowed start (inputs.foldl step start) := by
  induction inputs generalizing start with
  | nil => exact .start
  | cons input rest ih => exact Reach.trans (.next .start permitted.1) (ih permitted.2)

/-- The guard allows two lists in their turn when it allows each of them in its turn. -/
theorem permits_append (first second : List Input) :
    Permits step allowed start (first ++ second) ↔
      Permits step allowed start first ∧ Permits step allowed (first.foldl step start) second := by
  induction first generalizing start with
  | nil => exact (iff_of_eq (true_and _)).symm
  | cons input rest ih => rw [List.cons_append, Permits, ih, Permits, List.foldl_cons, and_assoc]

/-- A machine that takes related steps permits what the first machine permits. -/
theorem Permits.related {Other : Type} {otherStep : Other → Input → Other}
    {otherAllowed : Other → Input → Prop} {otherStart : Other} (Related : State → Other → Prop)
    (initial : Related start otherStart)
    (steps : ∀ state other input, Related state other →
      Related (step state input) (otherStep other input))
    (allows : ∀ state other input, Related state other → allowed state input →
      otherAllowed other input)
    {inputs : List Input} (permitted : Permits step allowed start inputs) :
    Permits otherStep otherAllowed otherStart inputs := by
  induction inputs generalizing start otherStart with
  | nil => trivial
  | cons input rest ih =>
      exact ⟨allows start otherStart input initial permitted.1,
        ih (steps start otherStart input initial) permitted.2⟩

theorem Reach.foldl (inputs : List Input) :
    Reach step (fun _ _ => True) start (inputs.foldl step start) := by
  induction inputs generalizing start with
  | nil => exact .start
  | cons input rest ih => exact Reach.trans (.next .start trivial) ih

/-- The unguarded runs are the folds of lists of inputs. -/
theorem reach_iff_foldl :
    Reach step (fun _ _ => True) start state ↔
      ∃ inputs : List Input, inputs.foldl step start = state := by
  constructor
  · intro reached
    induction reached with
    | start => exact ⟨[], rfl⟩
    | @next _ input _ _ ih =>
        obtain ⟨inputs, rfl⟩ := ih
        exact ⟨inputs ++ [input], List.foldl_concat _ _ _ _⟩
  · rintro ⟨inputs, rfl⟩
    exact Reach.foldl inputs

end Rtftp.Library

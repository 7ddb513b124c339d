import Mathlib.Data.List.Basic

namespace Rtftp.Library
variable {A : Type} {Allowed Wider : List A → A → Prop}

/-- Every entry of the log is allowed by the entries before it. -/
def Always (Allowed : List A → A → Prop) (log : List A) : Prop :=
  ∀ before entry after, log = before ++ entry :: after → Allowed before entry

theorem always_nil : Always Allowed [] := by
  intro before entry after split
  cases before with
  | nil => cases split
  | cons first rest => cases split

/-- A longer log has the entries of the shorter one and its own. -/
theorem Always.append {log more : List A} (past : Always Allowed log)
    (new : ∀ before entry after, more = before ++ entry :: after → Allowed (log ++ before) entry) :
    Always Allowed (log ++ more) := by
  intro before entry after split
  rcases List.append_eq_append_iff.mp split with ⟨middle, rfl, tail⟩ | ⟨middle, rfl, tail⟩
  · exact new middle entry after tail
  · cases middle with
    | nil =>
        have own := new [] entry after tail.symm
        simpa only [List.append_nil] using own
    | cons first rest =>
        obtain ⟨rfl, rfl⟩ := List.cons.inj tail
        exact past before entry rest rfl

theorem Always.snoc {log : List A} {entry : A} (past : Always Allowed log)
    (last : Allowed log entry) : Always Allowed (log ++ [entry]) := by
  apply past.append
  intro before other after split
  cases before with
  | nil =>
      obtain ⟨rfl, _⟩ := List.cons.inj split
      rwa [List.append_nil]
  | cons first rest =>
      have short := congrArg List.length split
      simp at short

theorem Always.mono (wider : ∀ before entry, Allowed before entry → Wider before entry)
    {log : List A} (past : Always Allowed log) : Always Wider log :=
  fun before entry after split => wider before entry (past before entry after split)

end Rtftp.Library

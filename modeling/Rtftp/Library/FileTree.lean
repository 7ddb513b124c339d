import Mathlib.Data.List.Basic
import Rtftp.Library.LexicalPath

namespace Rtftp.Library
variable {Name Content : Type}

/-- A tree is a regular file or a directory with named trees. -/
inductive Tree (Name Content : Type) where
  | regular (content : Content)
  | directory (entries : List (Name × Tree Name Content))

/-- A walk through a tree ends early at a missing name or at a file that is used as a directory. -/
inductive Obstacle where
  | missing
  | notDirectory
  deriving DecidableEq, Repr

/-- A spot is a tree together with the directories above it. -/
structure Spot (Name Content : Type) where
  tree : Tree Name Content
  parents : List (Tree Name Content)

namespace Spot
variable [DecidableEq Name]

/-- Only a directory has moves, and the directory at the top is its own parent. -/
def move (spot : Spot Name Content) (next : Move Name) : Except Obstacle (Spot Name Content) :=
  match spot.tree with
  | .regular _ => .error .notDirectory
  | .directory entries =>
      match next with
      | .stay => .ok spot
      | .up =>
          match spot.parents with
          | [] => .ok spot
          | parent :: above => .ok ⟨parent, above⟩
      | .down name =>
          match entries.lookup name with
          | none => .error .missing
          | some child => .ok ⟨child, spot.tree :: spot.parents⟩

def walk (spot : Spot Name Content) : List (Move Name) → Except Obstacle (Spot Name Content)
  | [] => .ok spot
  | next :: rest =>
      match spot.move next with
      | .ok reached => reached.walk rest
      | .error obstacle => .error obstacle

/-- A walk goes on from the spot that its first part reaches. -/
theorem walk_append (spot : Spot Name Content) (first second : List (Move Name)) :
    spot.walk (first ++ second) =
      match spot.walk first with
      | .ok reached => reached.walk second
      | .error obstacle => .error obstacle := by
  induction first generalizing spot with
  | nil => rfl
  | cons next rest ih =>
      rw [List.cons_append, walk, walk]
      cases spot.move next with
      | ok reached => exact ih reached
      | error obstacle => rfl

/-- A stay before another move changes nothing, since both need a directory. -/
theorem walk_stay (spot : Spot Name Content) (next : Move Name) (rest : List (Move Name)) :
    spot.walk (.stay :: next :: rest) = spot.walk (next :: rest) := by
  rw [walk]
  cases here : spot.tree with
  | regular content => simp only [walk, move, here]
  | directory entries => simp only [move, here]

/-- A stay between two parts of a walk changes nothing. -/
theorem walk_append_stay (spot : Spot Name Content) (first : List (Move Name)) (next : Move Name)
    (rest : List (Move Name)) :
    spot.walk (first ++ .stay :: next :: rest) = spot.walk (first ++ next :: rest) := by
  rw [walk_append, walk_append]
  cases spot.walk first with
  | ok reached => exact reached.walk_stay next rest
  | error obstacle => rfl

end Spot

end Rtftp.Library

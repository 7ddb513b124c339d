import Mathlib.Data.List.Basic
import Mathlib.Data.List.Induction

namespace Rtftp.Library
variable {Name : Type}

/-- A lexical path moves through the directory tree without looking at it. -/
inductive Move (Name : Type) where
  | stay
  | up
  | down (name : Name)
  deriving DecidableEq, Repr

/-- A place is a list of names under the root directory, or under some parents of an unknown
directory. -/
structure Place (Name : Type) where
  rooted : Bool
  ups : Nat
  names : List Name
  deriving DecidableEq, Repr

namespace Place

/-- This is an unknown directory, where relative paths start. -/
def here : Place Name := ⟨false, 0, []⟩

/-- The root directory is its own parent. -/
def move (place : Place Name) : Move Name → Place Name
  | .stay => place
  | .up =>
      match place.names with
      | [] => if place.rooted then place else { place with ups := place.ups + 1 }
      | _ :: _ => { place with names := place.names.dropLast }
  | .down name => { place with names := place.names ++ [name] }

def walk (place : Place Name) (moves : List (Move Name)) : Place Name := moves.foldl move place

/-- The second place is the first one or below it. -/
def Inside (root place : Place Name) : Prop :=
  place.rooted = root.rooted ∧ place.ups = root.ups ∧ root.names <+: place.names

instance [DecidableEq Name] (root place : Place Name) : Decidable (Inside root place) :=
  inferInstanceAs (Decidable (_ ∧ _ ∧ _))

/-- A relative place is looked up from another place. -/
def attach (place relative : Place Name) : Place Name where
  rooted := place.rooted
  ups := if place.rooted then place.ups else place.ups + (relative.ups - place.names.length)
  names := place.names.take (place.names.length - relative.ups) ++ relative.names

/-- A relative place climbs into the last names of the root only where it returns to them. -/
def Returns (root relative : Place Name) : Prop :=
  root.names.drop (root.names.length - relative.ups) <+: relative.names ∧
    (root.rooted = true ∨ relative.ups ≤ root.names.length)

instance [DecidableEq Name] (root relative : Place Name) : Decidable (Returns root relative) :=
  inferInstanceAs (Decidable (_ ∧ _))

theorem walk_append (place : Place Name) (first second : List (Move Name)) :
    place.walk (first ++ second) = (place.walk first).walk second := List.foldl_append

/-- A place without names moves up in one way. -/
theorem move_up_nil {place : Place Name} (empty : place.names = []) :
    place.move .up = if place.rooted then place else { place with ups := place.ups + 1 } := by
  simp only [move, empty]

/-- A place with names loses its last one. -/
theorem move_up_cons {place : Place Name} (some : place.names ≠ []) :
    place.move .up = { place with names := place.names.dropLast } := by
  cases names : place.names with
  | nil => exact absurd names some
  | cons name rest => simp only [move, names]

/-- A relative place stays relative. -/
theorem walk_relative (place : Place Name) (relative : place.rooted = false)
    (moves : List (Move Name)) : (place.walk moves).rooted = false := by
  induction moves generalizing place with
  | nil => exact relative
  | cons first rest ih =>
      apply ih
      cases first with
      | stay => exact relative
      | up =>
          by_cases empty : place.names = []
          · rw [move_up_nil empty, if_neg (by rw [relative]; decide)]
            exact relative
          · rw [move_up_cons empty]
            exact relative
      | down name => exact relative

/-- A move after the lookup is a move of the relative place. -/
theorem attach_move (place relative : Place Name) (unrooted : relative.rooted = false)
    (next : Move Name) : place.attach (relative.move next) = (place.attach relative).move next := by
  obtain ⟨rooted, ups, names⟩ := place
  obtain ⟨_, climbs, rest⟩ := relative
  change _ = false at unrooted
  subst unrooted
  cases next with
  | stay => rfl
  | down name => simp [attach, move]
  | up =>
      rcases List.eq_nil_or_concat rest with rfl | ⟨before, last, rfl⟩
      · by_cases inside : climbs < names.length
        · have kept : names.take (names.length - climbs) ≠ [] := by
            simp only [ne_eq, List.take_eq_nil_iff, not_or]
            exact ⟨by omega, List.ne_nil_of_length_pos (by omega)⟩
          have short : climbs - names.length = 0 := by omega
          have shorter : climbs + 1 - names.length = 0 := by omega
          have fewer : (names.take (names.length - climbs)).dropLast =
              names.take (names.length - (climbs + 1)) := by
            rw [List.dropLast_eq_take, List.length_take, List.take_take]
            congr 1
            omega
          rw [move_up_nil rfl, move_up_cons (by simpa [attach] using kept)]
          simp only [attach, Bool.false_eq_true, if_false, List.append_nil, short, shorter, fewer]
        · have none : names.length - climbs = 0 := by omega
          have noneNext : names.length - (climbs + 1) = 0 := by omega
          have more : climbs + 1 - names.length = climbs - names.length + 1 := by omega
          rw [move_up_nil rfl, move_up_nil (by simp [attach, none])]
          cases rooted with
          | true => simp [attach, none, noneNext]
          | false => simp [attach, none, noneNext, more, Nat.add_assoc]
      · rw [move_up_cons (by simp), move_up_cons (by simp [attach])]
        simp only [attach, List.concat_eq_append, List.dropLast_concat, ← List.append_assoc]

/-- A walk from a place is a lookup of the walk from an unknown directory. -/
theorem walk_eq_attach (place : Place Name) (moves : List (Move Name)) :
    place.walk moves = place.attach (here.walk moves) := by
  induction moves using List.reverseRecOn with
  | nil => simp [walk, attach, here]
  | append_singleton moves last ih =>
      rw [walk_append, walk_append, ih]
      exact (attach_move place (here.walk moves) (walk_relative here rfl moves) last).symm

/-- A lookup stays inside its place exactly when it returns to what it left. -/
theorem inside_attach_iff (place relative : Place Name) :
    place.Inside (place.attach relative) ↔ place.Returns relative := by
  obtain ⟨rooted, ups, names⟩ := place
  have split := List.take_append_drop (names.length - relative.ups) names
  have returns : names <+: names.take (names.length - relative.ups) ++ relative.names ↔
      names.drop (names.length - relative.ups) <+: relative.names := by
    conv => lhs; lhs; rw [← split]
    exact List.prefix_append_right_inj _
  simp only [Inside, Returns, attach, true_and, returns]
  cases rooted with
  | true => simp
  | false =>
      simp only [Bool.false_eq_true, if_false, false_or]
      constructor
      · rintro ⟨same, back⟩
        exact ⟨back, by omega⟩
      · rintro ⟨back, within⟩
        exact ⟨by omega, back⟩

end Place

end Rtftp.Library

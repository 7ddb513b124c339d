import Mathlib.Data.Nat.ModEq
import Mathlib.Tactic.Ring

namespace Rtftp.Library

/-- A ring of `width` slots is indexed by a counter that wraps at `modulus`. -/
def ringSlot (modulus width position : Nat) : Nat := position % modulus % width

/-- Two positions closer than the width differ modulo the width. -/
theorem mod_ne_of_close (width first second : Nat) (before : first < second)
    (close : second < first + width) : first % width ≠ second % width := by
  intro equal
  have divides : width ∣ second - first := (Nat.modEq_iff_dvd' (Nat.le_of_lt before)).mp equal
  have bounded := Nat.le_of_dvd (by omega) divides
  omega

/-- The ring keeps close positions apart when its width divides the modulus. -/
theorem ringSlot_ne_of_dvd (modulus width first second : Nat) (divides : width ∣ modulus)
    (before : first < second) (close : second < first + width) :
    ringSlot modulus width first ≠ ringSlot modulus width second := by
  unfold ringSlot
  rw [Nat.mod_mod_of_dvd _ divides, Nat.mod_mod_of_dvd _ divides]
  exact mod_ne_of_close width first second before close

/-- The ring keeps close positions apart before the counter wraps. -/
theorem ringSlot_ne_of_lt (modulus width first second : Nat) (unwrapped : second < modulus)
    (before : first < second) (close : second < first + width) :
    ringSlot modulus width first ≠ ringSlot modulus width second := by
  unfold ringSlot
  rw [Nat.mod_eq_of_lt unwrapped, Nat.mod_eq_of_lt (lt_trans before unwrapped)]
  exact mod_ne_of_close width first second before close

/-- A width that does not divide the modulus gives the wrapped counter an occupied slot. -/
theorem ringSlot_collides (modulus width : Nat) (positive : 0 < width)
    (indivisible : ¬ width ∣ modulus) :
    ∃ position, position < modulus ∧ modulus < position + width ∧
      ringSlot modulus width position = ringSlot modulus width modulus := by
  have remainder : 0 < modulus % width :=
    Nat.pos_of_ne_zero fun zero => indivisible (Nat.dvd_of_mod_eq_zero zero)
  have split := Nat.div_add_mod modulus width
  have bounded := Nat.mod_lt modulus positive
  refine ⟨width * (modulus / width), by omega, by omega, ?_⟩
  unfold ringSlot
  rw [Nat.mod_eq_of_lt (by omega : width * (modulus / width) < modulus), Nat.mod_self,
    Nat.zero_mod, Nat.mul_mod_right]

end Rtftp.Library

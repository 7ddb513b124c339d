import Mathlib.Data.Nat.ModEq
import Mathlib.Tactic.Ring

namespace Rtftp.Library

/-- A counter is cut into groups of one width, and the last group ends with the total. The positions of
this group lie in one cycle of the modulus. -/
def InOneCycle (modulus width total group : Nat) : Prop :=
  (group * width + 1) / modulus = min ((group + 1) * width) total / modulus

/-- A multiple of the modulus is the first position of its group. -/
theorem dvd_of_inOneCycle {modulus width total cycles : Nat} (positive : 0 < width)
    (counted : 0 < modulus) (some : 0 < cycles) (long : cycles * modulus ≤ total)
    (aligned : ∀ group, group * width < total → InOneCycle modulus width total group) :
    width ∣ cycles * modulus - 1 := by
  have wrapped : 0 < cycles * modulus := Nat.mul_pos some counted
  obtain ⟨group, named⟩ : ∃ group, group = (cycles * modulus - 1) / width := ⟨_, rfl⟩
  have below := Nat.div_mul_le_self (cycles * modulus - 1) width
  have above := Nat.lt_div_mul_add (a := cycles * modulus - 1) positive
  rw [← named] at below above
  have next : (group + 1) * width = group * width + width := by ring
  have same := aligned group (by omega)
  have later : cycles ≤ min ((group + 1) * width) total / modulus :=
    (Nat.le_div_iff_mul_le counted).mpr (by omega)
  rw [← same, Nat.le_div_iff_mul_le counted] at later
  exact Dvd.intro_left group (by omega)

/-- Every group lies in one cycle exactly when the total does not reach a second cycle, when the groups
are single positions, or when the first cycle ends with a group and the total lies in the second
cycle. -/
theorem inOneCycle_all_iff (modulus width total : Nat) (positive : 0 < width)
    (narrow : width < modulus) :
    (∀ group, group * width < total → InOneCycle modulus width total group) ↔
      total < modulus ∨ width = 1 ∨ width ∣ modulus - 1 ∧ total < 2 * modulus := by
  have counted : 0 < modulus := by omega
  constructor
  · intro aligned
    by_cases short : total < modulus
    · exact .inl short
    · have first := dvd_of_inOneCycle positive counted Nat.one_pos (by omega) aligned
      rw [Nat.one_mul] at first
      by_cases second : total < 2 * modulus
      · exact .inr (.inr ⟨first, second⟩)
      · -- A width that divides both ends divides their difference too, which is one.
        have twice := dvd_of_inOneCycle positive counted Nat.two_pos (by omega) aligned
        have difference := Nat.dvd_sub twice (first.mul_left 2)
        rw [show 2 * modulus - 1 - 2 * (modulus - 1) = 1 by omega, Nat.dvd_one] at difference
        exact .inr (.inl difference)
  · rintro (short | single | ⟨⟨groups, ends⟩, short⟩) group inside
    · rw [InOneCycle, Nat.div_eq_of_lt (by omega), Nat.div_eq_of_lt (by omega)]
    · subst single
      rw [Nat.mul_one] at inside
      rw [InOneCycle, Nat.mul_one, Nat.mul_one, Nat.min_eq_left inside]
    · have next : (group + 1) * width = group * width + width := by ring
      by_cases before : group < groups
      · have bounded : (group + 1) * width ≤ modulus - 1 := by
          rw [ends, Nat.mul_comm width groups]
          exact Nat.mul_le_mul_right width before
        rw [InOneCycle, Nat.div_eq_of_lt (by omega), Nat.div_eq_of_lt (by omega)]
      · have bounded : modulus - 1 ≤ group * width := by
          rw [ends, Nat.mul_comm width groups]
          exact Nat.mul_le_mul_right width (Nat.le_of_not_lt before)
        rw [InOneCycle, Nat.div_eq_of_lt_le (k := 1) (by omega) (by omega),
          Nat.div_eq_of_lt_le (k := 1) (by omega) (by omega)]

/-- The counter of the last position is not below the counter of the first one exactly when both lie
in one cycle. -/
theorem mod_le_mod_iff {modulus first last : Nat} (ordered : first ≤ last)
    (near : last < first + modulus) :
    first % modulus ≤ last % modulus ↔ first / modulus = last / modulus := by
  have front := Nat.div_add_mod first modulus
  have back := Nat.div_add_mod last modulus
  have counted : 0 < modulus := by omega
  have low := Nat.mod_lt first counted
  have high := Nat.mod_lt last counted
  constructor
  · intro kept
    apply Nat.le_antisymm (Nat.div_le_div_right ordered)
    by_contra later
    have step : modulus * (first / modulus + 1) ≤ modulus * (last / modulus) :=
      Nat.mul_le_mul_left modulus (by omega)
    rw [Nat.mul_add, Nat.mul_one] at step
    omega
  · intro same
    rw [same] at front
    omega

/-- Close positions of one cycle have different slots. -/
theorem ringSlot_ne_of_cycle {modulus width first second : Nat} (before : first < second)
    (close : second < first + width) (same : first / modulus = second / modulus) :
    first % modulus % width ≠ second % modulus % width := by
  have front := Nat.div_add_mod first modulus
  have back := Nat.div_add_mod second modulus
  rw [same] at front
  intro equal
  have divides : width ∣ second % modulus - first % modulus :=
    (Nat.modEq_iff_dvd' (by omega)).mp equal
  have bounded := Nat.le_of_dvd (by omega) divides
  omega

end Rtftp.Library

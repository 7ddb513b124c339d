import Mathlib.Algebra.Group.Nat.Defs
import Mathlib.Data.List.Basic
import Mathlib.Data.List.Induction

namespace Rtftp.Library

/-- A letter of either case has the value of a digit above nine. -/
def digitValue (char : Char) : Option Nat :=
  let code := char.toNat
  if 0x30 ≤ code ∧ code ≤ 0x39 then some (code - 0x30)
  else if 0x61 ≤ code ∧ code ≤ 0x7A then some (code - 0x61 + 10)
  else if 0x41 ≤ code ∧ code ≤ 0x5A then some (code - 0x41 + 10)
  else none

/-- This is `char::to_digit`. -/
def toDigit (radix : Nat) (char : Char) : Option Nat := (digitValue char).filter (· < radix)

/-- The value of the digits is added behind the digits that were read before. -/
def numeral (radix : Nat) : List Char → (value : Nat) → Option Nat
  | [], value => some value
  | char :: rest, value => (toDigit radix char).bind fun digit => numeral radix rest (value * radix + digit)

/-- No digit stands at the front of the text. -/
def Stops (radix : Nat) (text : List Char) : Prop := ∀ char ∈ text.head?, toDigit radix char = none

/-- This is `rsplit_once`, which splits a text at its last separator. -/
def rsplitOnce (separator : Char) : List Char → Option (List Char × List Char)
  | [] => none
  | char :: rest =>
      match rsplitOnce separator rest with
      | some (before, after) => some (char :: before, after)
      | none => if char = separator then some ([], rest) else none

theorem toDigit_eq_some_iff {radix : Nat} {char : Char} {digit : Nat} :
    toDigit radix char = some digit ↔ digitValue char = some digit ∧ digit < radix := by
  rw [toDigit, Option.filter_eq_some_iff, decide_eq_true_iff]

theorem toDigit_digitChar {radix digit : Nat} (small : radix ≤ 16) (below : digit < radix) :
    toDigit radix (Nat.digitChar digit) = some digit := by
  have written : ∀ digit < 16, digitValue (Nat.digitChar digit) = some digit := by decide
  exact toDigit_eq_some_iff.mpr ⟨written digit (by omega), below⟩

/-- A decimal digit has one spelling. -/
theorem digitChar_of_toDigit {char : Char} {digit : Nat} (read : toDigit 10 char = some digit) :
    char = Nat.digitChar digit := by
  obtain ⟨value, below⟩ := toDigit_eq_some_iff.mp read
  unfold digitValue at value
  dsimp only at value
  split at value
  · have same := Option.some.inj value
    apply Char.toNat_inj.mp
    rw [Nat.toNat_digitChar_of_lt_ten below]
    omega
  · split at value
    · have same := Option.some.inj value
      omega
    · split at value
      · have same := Option.some.inj value
        omega
      · cases value

theorem numeral_append (radix : Nat) (first second : List Char) (value : Nat) :
    numeral radix (first ++ second) value =
      (numeral radix first value).bind (numeral radix second) := by
  induction first generalizing value with
  | nil => rfl
  | cons char rest ih =>
      rw [List.cons_append, numeral, numeral]
      cases toDigit radix char with
      | none => rfl
      | some digit => exact ih _

/-- Every character of a numeral is a digit. -/
theorem toDigit_of_mem_numeral {radix value total : Nat} {digits : List Char} {char : Char}
    (read : numeral radix digits value = some total) (member : char ∈ digits) :
    toDigit radix char ≠ none := by
  induction digits generalizing value with
  | nil => cases member
  | cons first rest ih =>
      rw [numeral, Option.bind_eq_some_iff] at read
      obtain ⟨digit, front, read⟩ := read
      rcases List.mem_cons.mp member with rfl | later
      · rw [front]
        exact Option.some_ne_none digit
      · exact ih read later

/-- A run of digits has a value, which its length bounds. -/
theorem numeral_lt {radix : Nat} (digits : List Char) (value : Nat)
    (all : ∀ char ∈ digits, toDigit radix char ≠ none) :
    ∃ total, numeral radix digits value = some total ∧
      total < (value + 1) * radix ^ digits.length := by
  induction digits generalizing value with
  | nil => exact ⟨value, rfl, by simp⟩
  | cons char rest ih =>
      obtain ⟨digit, front⟩ := Option.ne_none_iff_exists'.mp (all char List.mem_cons_self)
      obtain ⟨_, below⟩ := toDigit_eq_some_iff.mp front
      obtain ⟨total, read, bounded⟩ := ih (value * radix + digit)
        (fun later member => all later (List.mem_cons_of_mem _ member))
      refine ⟨total, by rw [numeral, front]; exact read, ?_⟩
      calc total < (value * radix + digit + 1) * radix ^ rest.length := bounded
        _ ≤ ((value + 1) * radix) * radix ^ rest.length := by
          apply Nat.mul_le_mul_right
          rw [Nat.add_mul]
          omega
        _ = (value + 1) * radix ^ (rest.length + 1) := by rw [Nat.pow_succ', Nat.mul_assoc]

/-- A digit of one radix is a digit of every larger one. -/
theorem toDigit_ne_none_of_le {radix larger : Nat} {char : Char} (le : radix ≤ larger)
    (digit : toDigit radix char ≠ none) : toDigit larger char ≠ none := by
  obtain ⟨value, read⟩ := Option.ne_none_iff_exists'.mp digit
  obtain ⟨valued, below⟩ := toDigit_eq_some_iff.mp read
  rw [toDigit_eq_some_iff.mpr ⟨valued, by omega⟩]
  exact Option.some_ne_none value

/-- The digits of a number read back as the number. -/
theorem numeral_toDigits {radix : Nat} (large : 1 < radix) (small : radix ≤ 16) (number : Nat) :
    numeral radix (Nat.toDigits radix number) 0 = some number := by
  induction number using Nat.base_induction radix large with
  | single number below =>
      rw [Nat.toDigits_of_lt_base below, numeral, toDigit_digitChar small below]
      simp [numeral]
  | digit number last below positive ih =>
      rw [← Nat.toDigits_append_toDigits large positive below, numeral_append, ih,
        Nat.toDigits_of_lt_base below, Option.bind_some, numeral, toDigit_digitChar small below]
      simp [numeral, Nat.mul_comm]

/-- Only zero is written with a zero in front. -/
theorem eq_zero_of_head_toDigits {radix number : Nat} (large : 1 < radix) (small : radix ≤ 16)
    (zero : (Nat.toDigits radix number).head? = some '0') : number = 0 := by
  induction number using Nat.base_induction radix large with
  | single number below =>
      rw [Nat.toDigits_of_lt_base below] at zero
      have same : Nat.digitChar number = Nat.digitChar 0 := Option.some.inj zero
      have written := toDigit_digitChar small below
      rw [same, toDigit_digitChar small (by omega)] at written
      exact (Option.some.inj written).symm
  | digit number last below positive ih =>
      rw [← Nat.toDigits_append_toDigits large positive below,
        List.head?_append_of_ne_nil _ Nat.toDigits_ne_nil] at zero
      exact absurd (ih zero) (Nat.ne_of_gt positive)

/-- Digits without a needless zero at the front are the digits of their value. -/
theorem toDigits_of_numeral {digits : List Char} {number : Nat} (some : digits ≠ [])
    (plain : digits.head? = Option.some '0' → digits.length = 1)
    (read : numeral 10 digits 0 = Option.some number) : digits = Nat.toDigits 10 number := by
  induction digits using List.reverseRecOn generalizing number with
  | nil => exact absurd rfl some
  | append_singleton init last ih =>
      rw [numeral_append, Option.bind_eq_some_iff] at read
      obtain ⟨before, readInit, readLast⟩ := read
      rw [numeral, Option.bind_eq_some_iff] at readLast
      obtain ⟨digit, readDigit, total⟩ := readLast
      obtain ⟨_, below⟩ := toDigit_eq_some_iff.mp readDigit
      have value : before * 10 + digit = number := Option.some.inj total
      rw [digitChar_of_toDigit readDigit, ← Nat.toDigits_of_lt_base below]
      cases init with
      | nil =>
          have zero : 0 = before := Option.some.inj readInit
          rw [List.nil_append, show digit = number by omega]
      | cons first rest =>
          have leading : first ≠ '0' := by
            rintro rfl
            simpa using plain rfl
          have same := ih (List.cons_ne_nil _ _) (fun zero => absurd (Option.some.inj zero) leading)
            readInit
          have positive : 0 < before := by
            apply Nat.pos_of_ne_zero
            rintro rfl
            rw [Nat.toDigits_zero] at same
            exact leading (List.cons.inj same).1
          rw [same, Nat.toDigits_append_toDigits (by decide) positive below,
            show 10 * before + digit = number by omega]

/-- The first separator of a text has one place. -/
theorem append_separator_inj {separator : Char} {first second behind after : List Char}
    (one : separator ∉ first) (other : separator ∉ second)
    (same : first ++ separator :: behind = second ++ separator :: after) : first = second := by
  have cut (text rest : List Char) (absent : separator ∉ text) :
      (text ++ separator :: rest).takeWhile (fun char => decide (char ≠ separator)) = text := by
    rw [List.takeWhile_append_of_pos, List.takeWhile_cons_of_neg (by simp), List.append_nil]
    intro char member
    exact decide_eq_true fun equal => absent (equal ▸ member)
  rw [← cut first behind one, same, cut second after other]

theorem rsplitOnce_eq_none_iff {separator : Char} {text : List Char} :
    rsplitOnce separator text = none ↔ separator ∉ text := by
  induction text with
  | nil => simp [rsplitOnce]
  | cons char rest ih =>
      rw [rsplitOnce, List.mem_cons, not_or, ← ih]
      cases rsplitOnce separator rest with
      | none => simp [eq_comm]
      | some parts => simp

/-- The last separator is the one that no other separator follows. -/
theorem rsplitOnce_eq_some_iff {separator : Char} {text before after : List Char} :
    rsplitOnce separator text = some (before, after) ↔
      text = before ++ separator :: after ∧ separator ∉ after := by
  constructor
  · intro divided
    induction text generalizing before with
    | nil => cases divided
    | cons char rest ih =>
        rw [rsplitOnce] at divided
        cases later : rsplitOnce separator rest with
        | none =>
            rw [later] at divided
            dsimp only at divided
            split at divided
            · rename_i here
              cases divided
              exact ⟨congrArg (· :: _) here, rsplitOnce_eq_none_iff.mp later⟩
            · cases divided
        | some parts =>
            obtain ⟨first, second⟩ := parts
            rw [later] at divided
            cases divided
            obtain ⟨same, last⟩ := ih later
            exact ⟨congrArg (List.cons char) same, last⟩
  · rintro ⟨rfl, last⟩
    induction before with
    | nil =>
        rw [List.nil_append, rsplitOnce, rsplitOnce_eq_none_iff.mpr last]
        exact if_pos rfl
    | cons char rest ih => rw [List.cons_append, rsplitOnce, ih]

end Rtftp.Library

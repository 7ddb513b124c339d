import Mathlib.Data.List.Basic

namespace Rtftp.Library
variable {A : Type}

/-- Each value replaces one entry, from the offset onwards. -/
def overwrite (memory : List A) (offset : Nat) : List A → List A
  | [] => memory
  | value :: rest => overwrite (memory.set offset value) (offset + 1) rest

@[simp] theorem overwrite_length (memory : List A) (offset : Nat) (values : List A) :
    (overwrite memory offset values).length = memory.length := by
  induction values generalizing memory offset with
  | nil => rfl
  | cons value rest ih => rw [overwrite, ih, List.length_set]

/-- Two adjacent stretches are one stretch. -/
theorem overwrite_append (memory : List A) (offset : Nat) (first second : List A) :
    overwrite (overwrite memory offset first) (offset + first.length) second =
      overwrite memory offset (first ++ second) := by
  induction first generalizing memory offset with
  | nil => rfl
  | cons value rest ih =>
      rw [List.cons_append, overwrite, overwrite, List.length_cons, ← ih,
        Nat.add_right_comm, Nat.add_assoc]

/-- A stretch that fits replaces exactly its own entries. -/
theorem overwrite_eq (memory : List A) (offset : Nat) (values : List A)
    (fits : offset + values.length ≤ memory.length) :
    overwrite memory offset values =
      memory.take offset ++ values ++ memory.drop (offset + values.length) := by
  induction values generalizing memory offset with
  | nil => simp [overwrite]
  | cons value rest ih =>
      simp only [List.length_cons] at fits ⊢
      have inside : offset < memory.length := by omega
      rw [overwrite, ih _ _ (by rw [List.length_set]; omega)]
      rw [List.set_eq_take_append_cons_drop, if_pos inside]
      have front : (memory.take offset).length = offset := by
        rw [List.length_take]
        omega
      rw [List.take_append, List.drop_append, front,
        List.take_of_length_le (by omega : (memory.take offset).length ≤ offset + 1),
        List.drop_eq_nil_of_le (by omega : (memory.take offset).length ≤ offset + 1 + rest.length)]
      simp [Nat.add_assoc, Nat.add_comm 1]

/-- The values that do not fit are cut. -/
theorem overwrite_cut (memory : List A) (offset : Nat) (values : List A) :
    overwrite memory offset values =
      overwrite memory offset (values.take (memory.length - offset)) := by
  induction values generalizing memory offset with
  | nil => rw [List.take_nil]
  | cons value rest ih =>
      by_cases inside : offset < memory.length
      · have more : memory.length - offset = memory.length - (offset + 1) + 1 := by omega
        rw [more, List.take_succ_cons, overwrite, overwrite, ih, List.length_set]
      · have full : memory.length - offset = 0 := by omega
        have none : memory.length - (offset + 1) = 0 := by omega
        rw [full, List.take_zero, overwrite, overwrite, ih, List.length_set, none, List.take_zero,
          overwrite, List.set_eq_of_length_le (by omega)]

/-- Values at the front cover the old values as far as they reach. -/
theorem overwrite_front (memory values : List A) :
    overwrite memory 0 values = values.take memory.length ++ memory.drop values.length := by
  rw [overwrite_cut, Nat.sub_zero, overwrite_eq _ _ _ (by rw [List.length_take]; omega)]
  simp only [List.take_zero, List.nil_append, Nat.zero_add, List.length_take]
  by_cases fits : values.length ≤ memory.length
  · rw [Nat.min_eq_right fits]
  · rw [Nat.min_eq_left (by omega), List.drop_length, List.drop_eq_nil_of_le (by omega)]

/-- An entry is the new value as far as the values reach. -/
theorem overwrite_getElem? (memory values : List A) {position : Nat}
    (inside : position < memory.length) :
    (overwrite memory 0 values)[position]? = (values[position]?).or memory[position]? := by
  rw [overwrite_front]
  by_cases reached : position < values.length
  · rw [List.getElem?_append_left (by rw [List.length_take]; omega), List.getElem?_take_of_lt inside,
      List.getElem?_eq_getElem reached, Option.some_or]
  · rw [List.getElem?_append_right (by rw [List.length_take]; omega), List.getElem?_drop,
      List.length_take, List.getElem?_eq_none (by omega : values.length ≤ position), Option.none_or]
    congr 1
    omega

end Rtftp.Library

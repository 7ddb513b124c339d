import Mathlib.Data.List.Nodup

namespace Rtftp.Library

/-- A table has at most one value for each key. -/
structure Table (K V : Type) where
  entries : List (K × V)
  distinct : (entries.map Prod.fst).Nodup
  deriving DecidableEq, Repr

namespace Table
variable {K V : Type} [DecidableEq K]

def empty : Table K V := ⟨[], List.nodup_nil⟩

def get (table : Table K V) (key : K) : Option V := table.entries.lookup key

def containsKey (table : Table K V) (key : K) : Bool := (table.get key).isSome

omit [DecidableEq K] in
theorem distinct_filter (table : Table K V) (keep : K × V → Bool) :
    ((table.entries.filter keep).map Prod.fst).Nodup :=
  table.distinct.sublist (List.filter_sublist.map Prod.fst)

/-- The entries that are not kept are dropped. -/
def retain (table : Table K V) (keep : K → V → Bool) : Table K V where
  entries := table.entries.filter fun entry => keep entry.1 entry.2
  distinct := table.distinct_filter _

/-- The new value replaces the old value of its key. -/
def insert (table : Table K V) (key : K) (value : V) : Table K V where
  entries := table.entries.filter (fun entry => entry.1 != key) ++ [(key, value)]
  distinct := by
    rw [List.map_append, List.nodup_append]
    refine ⟨table.distinct_filter _, List.nodup_singleton _, ?_⟩
    intro first member second single equal
    obtain ⟨entry, kept, rfl⟩ := List.mem_map.mp member
    have other := (List.mem_filter.mp kept).2
    rw [equal, List.mem_singleton.mp single] at other
    simp at other

/-- The value of a key is the value that its entry has. -/
theorem get_eq_some_iff (table : Table K V) (key : K) (value : V) :
    table.get key = some value ↔ (key, value) ∈ table.entries := by
  obtain ⟨entries, distinct⟩ := table
  change entries.lookup key = some value ↔ (key, value) ∈ entries
  induction entries with
  | nil => simp
  | cons entry rest ih =>
      obtain ⟨other, old⟩ := entry
      rw [List.map_cons, List.nodup_cons] at distinct
      rw [List.lookup_cons, List.mem_cons, Prod.mk.injEq]
      by_cases same : key = other
      · subst same
        have absent : (key, value) ∉ rest := fun member =>
          distinct.1 (List.mem_map.mpr ⟨_, member, rfl⟩)
        simp [absent, eq_comm]
      · rw [beq_false_of_ne same]
        simp [same, ih distinct.2]

theorem containsKey_iff (table : Table K V) (key : K) :
    table.containsKey key = true ↔ ∃ value, (key, value) ∈ table.entries := by
  rw [containsKey, Option.isSome_iff_exists]
  exact exists_congr fun value => table.get_eq_some_iff key value

omit [DecidableEq K] in
@[simp] theorem mem_retain (table : Table K V) (keep : K → V → Bool) (entry : K × V) :
    entry ∈ (table.retain keep).entries ↔ entry ∈ table.entries ∧ keep entry.1 entry.2 :=
  List.mem_filter

@[simp] theorem mem_insert (table : Table K V) (key : K) (value : V) (entry : K × V) :
    entry ∈ (table.insert key value).entries ↔
      entry ∈ table.entries ∧ entry.1 ≠ key ∨ entry = (key, value) := by
  simp [insert, List.mem_filter]

/-- An insertion changes the value of its key only. -/
theorem get_insert (table : Table K V) (key other : K) (value : V) :
    (table.insert key value).get other = if other = key then some value else table.get other := by
  apply Option.ext
  intro result
  rw [get_eq_some_iff, mem_insert]
  by_cases same : other = key
  · rw [if_pos same, Prod.mk.injEq]
    simp [same, eq_comm]
  · rw [if_neg same, get_eq_some_iff, Prod.mk.injEq]
    simp [same]

/-- Two entries of one key are the same entry. -/
theorem entry_unique (table : Table K V) {key : K} {first second : V}
    (one : (key, first) ∈ table.entries) (two : (key, second) ∈ table.entries) : first = second := by
  rw [← table.get_eq_some_iff] at one two
  exact Option.some.inj (one.symm.trans two)

end Table

end Rtftp.Library

import Mathlib.Data.List.Nodup

namespace Rtftp.Library
variable {A B : Type} {le : A → A → Bool} {f : A → Option B}

/-- The search passes over the elements that give nothing. -/
theorem findSome?_filter_isSome (elements : List A) :
    (elements.filter fun element => (f element).isSome).findSome? f = elements.findSome? f := by
  rw [← List.head?_filterMap, ← List.head?_filterMap, List.filterMap_filter]
  congr 2
  funext element
  cases f element <;> rfl

/-- The elements that give something stand in one order only. -/
theorem filter_mergeSort_eq (transitive : ∀ a b c, le a b → le b c → le a c)
    (total : ∀ a b, le a b || le b a) {p : A → Bool} {first second : List A}
    (antisymmetric : ∀ a ∈ first, ∀ b ∈ first, le a b → le b a → a = b)
    (firstNodup : first.Nodup) (secondNodup : second.Nodup)
    (same : ∀ element, p element → (element ∈ first ↔ element ∈ second)) :
    (first.mergeSort le).filter p = (second.mergeSort le).filter p := by
  have members : ∀ element, element ∈ first.filter p ↔ element ∈ second.filter p := by
    intro element
    rw [List.mem_filter, List.mem_filter]
    exact and_congr_left (same element)
  have permuted : ((first.mergeSort le).filter p).Perm ((second.mergeSort le).filter p) :=
    (((List.mergeSort_perm first le).filter p).trans
      ((List.perm_ext_iff_of_nodup (firstNodup.filter p) (secondNodup.filter p)).mpr members)).trans
      ((List.mergeSort_perm second le).filter p).symm
  have sorted : ∀ elements : List A,
      ((elements.mergeSort le).filter p).Pairwise fun a b => le a b = true :=
    fun elements => (List.pairwise_mergeSort transitive total elements).filter p
  apply permuted.eq_of_pairwise _ (sorted first) (sorted second)
  intro a b inFirst inSecond
  have inside : ∀ element, element ∈ (first.mergeSort le).filter p → element ∈ first :=
    fun element member => List.mem_mergeSort.mp (List.mem_of_mem_filter member)
  exact antisymmetric a (inside a inFirst) b (inside b (permuted.mem_iff.mpr inSecond))

/-- A sorted search sees only the elements that give something. -/
theorem findSome?_mergeSort_eq (transitive : ∀ a b c, le a b → le b c → le a c)
    (total : ∀ a b, le a b || le b a) {first second : List A}
    (antisymmetric : ∀ a ∈ first, ∀ b ∈ first, le a b → le b a → a = b)
    (firstNodup : first.Nodup) (secondNodup : second.Nodup)
    (same : ∀ element, (f element).isSome → (element ∈ first ↔ element ∈ second)) :
    (first.mergeSort le).findSome? f = (second.mergeSort le).findSome? f := by
  rw [← findSome?_filter_isSome, ← findSome?_filter_isSome (second.mergeSort le),
    filter_mergeSort_eq transitive total antisymmetric firstNodup secondNodup same]

/-- A sorted search finds the least of the elements that give something. -/
theorem findSome?_mergeSort_eq_some_iff (transitive : ∀ a b c, le a b → le b c → le a c)
    (total : ∀ a b, le a b || le b a) {elements : List A}
    (antisymmetric : ∀ a ∈ elements, ∀ b ∈ elements, le a b → le b a → a = b) (result : B) :
    (elements.mergeSort le).findSome? f = some result ↔
      ∃ least ∈ elements, f least = some result ∧
        ∀ other ∈ elements, (f other).isSome → le least other := by
  have found : ∀ value, (elements.mergeSort le).findSome? f = some value →
      ∃ least ∈ elements, f least = some value ∧
        ∀ other ∈ elements, (f other).isSome → le least other := by
    intro value search
    obtain ⟨before, least, behind, split, gives, nothing⟩ := List.findSome?_eq_some_iff.mp search
    have sorted := List.pairwise_mergeSort transitive total elements
    rw [split, List.pairwise_append, List.pairwise_cons] at sorted
    have inside : least ∈ elements.mergeSort le := by
      rw [split]
      exact List.mem_append_right _ List.mem_cons_self
    refine ⟨least, List.mem_mergeSort.mp inside, gives, ?_⟩
    intro other member something
    have placed : other ∈ elements.mergeSort le := List.mem_mergeSort.mpr member
    rw [split, List.mem_append, List.mem_cons] at placed
    rcases placed with earlier | rfl | later
    · rw [nothing other earlier] at something
      cases something
    · simpa using total other other
    · exact sorted.2.1.1 other later
  constructor
  · exact found result
  · rintro ⟨least, member, gives, first⟩
    cases search : (elements.mergeSort le).findSome? f with
    | none =>
        rw [List.findSome?_eq_none_iff] at search
        rw [search least (List.mem_mergeSort.mpr member)] at gives
        cases gives
    | some value =>
        obtain ⟨other, inside, something, before⟩ := found value search
        have same := antisymmetric least member other inside
          (first other inside (by rw [something]; rfl)) (before least member (by rw [gives]; rfl))
        rw [← same, gives] at something
        exact something.symm

end Rtftp.Library

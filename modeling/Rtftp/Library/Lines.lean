import Mathlib.Algebra.GroupWithZero.Nat
import Mathlib.Data.List.Basic
import Mathlib.Data.List.Infix

namespace Rtftp.Library

variable {A : Type} [DecidableEq A]

/-- Every piece but the last one ends with the separator. -/
def splitInclusive (separator : A) : List A → List (List A)
  | [] => []
  | first :: rest =>
      if first = separator then [first] :: splitInclusive separator rest
      else
        match splitInclusive separator rest with
        | [] => [[first]]
        | line :: lines => (first :: line) :: lines

def stripSuffix (last : A) (text : List A) : Option (List A) :=
  if text.getLast? = some last then some text.dropLast else none

/-- A line that ends with a feed loses it, and then one return before it. -/
def stripEnding (feed carriage : A) (line : List A) : List A :=
  match stripSuffix feed line with
  | none => line
  | some line =>
      match stripSuffix carriage line with
      | none => line
      | some line => line

def lines (feed carriage : A) (text : List A) : List (List A) :=
  (splitInclusive feed text).map (stripEnding feed carriage)

def filledLines (feed carriage : A) (text : List A) : List (List A) :=
  (lines feed carriage text).filter (· ≠ [])

/-- A cut through a text changes none of its filled lines when it lies at one of the ends, behind a
feed, before a feed without a return, or before a return and its feed. -/
def HarmlessCut (feed carriage : A) (before after : List A) : Prop :=
  before = [] ∨ after = [] ∨ before.getLast? = some feed ∨
    (after.head? = some feed ∧ before.getLast? ≠ some carriage) ∨ [carriage, feed] <+: after

instance (feed carriage : A) (before after : List A) :
    Decidable (HarmlessCut feed carriage before after) :=
  inferInstanceAs (Decidable (_ ∨ _))

/-- No cut between two parts changes a filled line. -/
def HarmlessCuts (feed carriage : A) : List (List A) → Prop
  | [] => True
  | part :: rest => HarmlessCut feed carriage part rest.flatten ∧ HarmlessCuts feed carriage rest

section Lines

variable {feed carriage : A}

theorem stripSuffix_concat (text : List A) (last : A) :
    stripSuffix last (text ++ [last]) = some text := by
  rw [stripSuffix, if_pos List.getLast?_concat, List.dropLast_concat]

theorem stripSuffix_none {text : List A} {last : A} (other : text.getLast? ≠ some last) :
    stripSuffix last text = none :=
  if_neg other

/-- A text is taken line by line. -/
theorem line_induction {Holds : List A → Prop} (feed : A)
    (free : ∀ text, feed ∉ text → Holds text)
    (line : ∀ line rest, feed ∉ line → Holds rest → Holds (line ++ feed :: rest))
    (text : List A) : Holds text := by
  induction size : text.length using Nat.strongRecOn generalizing text with
  | ind size ih =>
      by_cases found : feed ∈ text
      · obtain ⟨first, rest, rfl, fresh⟩ := List.eq_append_cons_of_mem found
        refine line first rest fresh (ih rest.length ?_ rest rfl)
        rw [← size, List.length_append, List.length_cons]
        omega
      · exact free text found

theorem splitInclusive_free {text : List A} (fresh : feed ∉ text) (some : text ≠ []) :
    splitInclusive feed text = [text] := by
  induction text with
  | nil => exact absurd rfl some
  | cons first rest ih =>
      rw [List.mem_cons, not_or] at fresh
      rw [splitInclusive, if_neg (Ne.symm fresh.1)]
      cases rest with
      | nil => rfl
      | cons second rest => rw [ih fresh.2 (List.cons_ne_nil _ _)]

theorem splitInclusive_feed {line : List A} (rest : List A) (fresh : feed ∉ line) :
    splitInclusive feed (line ++ feed :: rest) =
      (line ++ [feed]) :: splitInclusive feed rest := by
  induction line with
  | nil => rw [List.nil_append, splitInclusive, if_pos rfl, List.nil_append]
  | cons first line ih =>
      rw [List.mem_cons, not_or] at fresh
      rw [List.cons_append, splitInclusive, if_neg (Ne.symm fresh.1), ih fresh.2, List.cons_append]

theorem filledLines_nil : filledLines feed carriage [] = [] := rfl

/-- A text without a feed is one line. -/
theorem filledLines_free {text : List A} (fresh : feed ∉ text) (some : text ≠ []) :
    filledLines feed carriage text = [text] := by
  have last : text.getLast? ≠ Option.some feed := by
    intro ends
    exact fresh (List.mem_of_getLast? ends)
  rw [filledLines, lines, splitInclusive_free fresh some, List.map_singleton, stripEnding,
    stripSuffix_none last]
  exact List.filter_cons_of_pos (by simpa using some)

/-- A line before its feed loses one return. -/
def stripReturn (carriage : A) (line : List A) : List A := (stripSuffix carriage line).getD line

/-- An empty line is left out. -/
def keepFilled (line : List A) : List (List A) := if line = [] then [] else [line]

theorem filledLines_feed {line : List A} (rest : List A) (fresh : feed ∉ line) :
    filledLines feed carriage (line ++ feed :: rest) =
      keepFilled (stripReturn carriage line) ++ filledLines feed carriage rest := by
  have stripped : stripEnding feed carriage (line ++ [feed]) = stripReturn carriage line := by
    rw [stripEnding, stripSuffix_concat, stripReturn]
    dsimp only
    cases stripSuffix carriage line with
    | none => rfl
    | some line => rfl
  rw [filledLines, lines, splitInclusive_feed rest fresh, List.map_cons, stripped, List.filter_cons,
    keepFilled]
  by_cases empty : stripReturn carriage line = []
  · simp [empty, filledLines, lines]
  · simp [empty, filledLines, lines]

theorem stripReturn_concat (line : List A) : stripReturn carriage (line ++ [carriage]) = line := by
  rw [stripReturn, stripSuffix_concat, Option.getD_some]

theorem stripReturn_other {line : List A} (other : line.getLast? ≠ some carriage) :
    stripReturn carriage line = line := by
  rw [stripReturn, stripSuffix_none other, Option.getD_none]

/-- The end of a text is the end of its last part that is not empty. -/
theorem stripReturn_append (before : List A) {line : List A} (some : line ≠ []) :
    stripReturn carriage (before ++ line) = before ++ stripReturn carriage line := by
  by_cases ends : line.getLast? = Option.some carriage
  · obtain ⟨front, rfl⟩ := List.getLast?_eq_some_iff.mp ends
    rw [stripReturn_concat, ← List.append_assoc, stripReturn_concat]
  · have other : (before ++ line).getLast? ≠ Option.some carriage := by
      rwa [List.getLast?_append_of_ne_nil _ some]
    rw [stripReturn_other ends, stripReturn_other other]

theorem stripReturn_ne_nil {line : List A} (some : line ≠ []) (other : line ≠ [carriage]) :
    stripReturn carriage line ≠ [] := by
  by_cases ends : line.getLast? = Option.some carriage
  · obtain ⟨front, rfl⟩ := List.getLast?_eq_some_iff.mp ends
    rw [stripReturn_concat]
    rintro rfl
    exact other rfl
  · rwa [stripReturn_other ends]

/-- Each line weighs one more than the returns in it. -/
def weight (carriage : A) (lines : List (List A)) : Nat :=
  (lines.map fun line => line.count carriage + 1).sum

theorem weight_append (first second : List (List A)) :
    weight carriage (first ++ second) = weight carriage first + weight carriage second := by
  rw [weight, List.map_append, List.sum_append, weight, weight]

theorem weight_singleton (line : List A) : weight carriage [line] = line.count carriage + 1 := by
  simp [weight]

variable (carriage) in
theorem weight_keepFilled_le (line : List A) :
    weight carriage (keepFilled line) ≤ line.count carriage + 1 := by
  rw [keepFilled]
  split
  · exact Nat.zero_le _
  · exact Nat.le_of_eq (weight_singleton line)

/-- The lines of the parts are the lines of the whole when no cut is harmful, and otherwise they are
heavier. -/
structure Judged (carriage : A) (Harmless : Prop) (parts whole : List (List A)) : Prop where
  same : Harmless → parts = whole
  heavier : ¬ Harmless → weight carriage whole < weight carriage parts

/-- Lines before a cut do not count. -/
theorem Judged.prepend {Harmless : Prop} {parts whole : List (List A)} (first : List (List A))
    (judged : Judged carriage Harmless parts whole) :
    Judged carriage Harmless (first ++ parts) (first ++ whole) where
  same harmless := by rw [judged.same harmless]
  heavier harmful := by
    have more := judged.heavier harmful
    rw [weight_append, weight_append]
    omega

/-- Lines behind a cut do not count. -/
theorem Judged.append {Harmless : Prop} {parts whole : List (List A)} (last : List (List A))
    (judged : Judged carriage Harmless parts whole) :
    Judged carriage Harmless (parts ++ last) (whole ++ last) where
  same harmless := by rw [judged.same harmless]
  heavier harmful := by
    have more := judged.heavier harmful
    rw [weight_append, weight_append]
    omega

omit [DecidableEq A] in
/-- A cut behind a whole line is judged by what follows that line. -/
theorem harmlessCut_feed (line rest after : List A) :
    HarmlessCut feed carriage (line ++ feed :: rest) after ↔ HarmlessCut feed carriage rest after := by
  cases rest with
  | nil => simp [HarmlessCut]
  | cons first rest =>
      have last : (line ++ feed :: first :: rest).getLast? = (first :: rest).getLast? := by
        rw [List.getLast?_append_of_ne_nil _ (List.cons_ne_nil _ _), List.getLast?_cons_cons]
      have filled : line ++ feed :: first :: rest ≠ [] := by simp
      simp only [HarmlessCut, last, filled, reduceCtorEq]

variable (carriage) in
/-- A cut inside a line makes two lines of it. -/
theorem weight_cut {before line : List A} (front : before ≠ []) (back : line ≠ []) :
    weight carriage (keepFilled (before ++ line)) <
      weight carriage ([before] ++ keepFilled line) := by
  have joined : before ++ line ≠ [] := by simp [front]
  rw [keepFilled, if_neg joined, keepFilled, if_neg back, weight_append, weight_singleton,
    weight_singleton, weight_singleton, List.count_append]
  omega

omit [DecidableEq A] in
/-- A cut inside a line is harmful, unless only a return stands before its feed. -/
theorem not_harmlessCut_inside {before line : List A} (rest : List A) (fresh : feed ∉ before)
    (unseen : feed ∉ line) (front : before ≠ []) (back : line ≠ []) (other : line ≠ [carriage]) :
    ¬ HarmlessCut feed carriage before (line ++ feed :: rest) := by
  obtain ⟨first, line, rfl⟩ := List.exists_cons_of_ne_nil back
  rw [List.mem_cons, not_or] at unseen
  rintro (empty | empty | ends | ⟨starts, -⟩ | ⟨tail, starts⟩)
  · exact front empty
  · simp at empty
  · exact fresh (List.mem_of_getLast? ends)
  · exact unseen.1 (Option.some.inj starts).symm
  · cases line with
    | nil =>
        simp only [List.cons_append, List.nil_append, List.cons.injEq] at starts
        exact other (by rw [starts.1])
    | cons second line =>
        simp only [List.cons_append, List.nil_append, List.cons.injEq] at starts
        exact unseen.2 (by rw [starts.2.1]; exact List.mem_cons_self)

omit [DecidableEq A] in
theorem harmlessCut_before_feed (different : carriage ≠ feed) {before : List A} (rest : List A)
    (fresh : feed ∉ before) (some : before ≠ []) :
    HarmlessCut feed carriage before (feed :: rest) ↔ before.getLast? ≠ Option.some carriage := by
  have last : before.getLast? ≠ Option.some feed := fun ends => fresh (List.mem_of_getLast? ends)
  simp [HarmlessCut, some, last, different]

variable (carriage) in
omit [DecidableEq A] in
theorem not_harmlessCut_unfinished {before after : List A} (fresh : feed ∉ before)
    (unseen : feed ∉ after) (front : before ≠ []) (back : after ≠ []) :
    ¬ HarmlessCut feed carriage before after := by
  rintro (empty | empty | ends | ⟨starts, -⟩ | starts)
  · exact front empty
  · exact back empty
  · exact fresh (List.mem_of_getLast? ends)
  · exact unseen (List.mem_of_head? starts)
  · exact unseen (starts.subset (by simp))

/-- A cut before a feed makes a line keep its return. -/
theorem judged_before_feed (different : carriage ≠ feed) {before : List A} (rest : List A)
    (fresh : feed ∉ before) (some : before ≠ []) :
    Judged carriage (HarmlessCut feed carriage before (feed :: rest)) [before]
      (keepFilled (stripReturn carriage before)) := by
  rw [harmlessCut_before_feed different rest fresh some]
  constructor
  · intro other
    rw [stripReturn_other other, keepFilled, if_neg some]
  · intro ends
    obtain ⟨front, rfl⟩ := List.getLast?_eq_some_iff.mp (not_not.mp ends)
    have bound := weight_keepFilled_le carriage front
    rw [stripReturn_concat, weight_singleton, List.count_append, List.count_singleton_self]
    omega

/-- A cut before a return and its feed leaves an empty line, which is left out. -/
theorem judged_before_return {before : List A} (rest : List A) (some : before ≠ []) :
    Judged carriage (HarmlessCut feed carriage before (carriage :: feed :: rest)) [before]
      (keepFilled (stripReturn carriage (before ++ [carriage]))) := by
  have harmless : HarmlessCut feed carriage before (carriage :: feed :: rest) :=
    .inr (.inr (.inr (.inr ⟨rest, rfl⟩)))
  constructor
  · intro _
    rw [stripReturn_concat, keepFilled, if_neg some]
  · intro harmful
    exact absurd harmless harmful

/-- What a cut inside a line does is decided by the rest of that line. -/
theorem judged_line (different : carriage ≠ feed) {before line : List A} (rest : List A)
    (fresh : feed ∉ before) (unseen : feed ∉ line) (some : before ≠ []) :
    Judged carriage (HarmlessCut feed carriage before (line ++ feed :: rest))
      ([before] ++ keepFilled (stripReturn carriage line))
      (keepFilled (stripReturn carriage (before ++ line))) := by
  by_cases bare : line = []
  · subst bare
    rw [List.append_nil]
    exact judged_before_feed different rest fresh some
  · by_cases alone : line = [carriage]
    · subst alone
      have nothing : stripReturn carriage [carriage] = [] := stripReturn_concat []
      rw [nothing]
      exact judged_before_return rest some
    · have harmful := not_harmlessCut_inside rest fresh unseen some bare alone
      rw [stripReturn_append before bare]
      constructor
      · intro harmless
        exact absurd harmless harmful
      · intro _
        exact weight_cut carriage some (stripReturn_ne_nil bare alone)

/-- What a cut does is decided by the unfinished line before it. -/
theorem judged_unfinished (different : carriage ≠ feed) {before : List A} (fresh : feed ∉ before)
    (some : before ≠ []) (after : List A) :
    Judged carriage (HarmlessCut feed carriage before after)
      (filledLines feed carriage before ++ filledLines feed carriage after)
      (filledLines feed carriage (before ++ after)) := by
  have joined {line : List A} (unseen : feed ∉ line) : feed ∉ before ++ line := by
    rw [List.mem_append, not_or]
    exact ⟨fresh, unseen⟩
  rw [filledLines_free fresh some]
  by_cases found : feed ∈ after
  · obtain ⟨line, rest, rfl, unseen⟩ := List.eq_append_cons_of_mem found
    rw [← List.append_assoc before, filledLines_feed rest unseen,
      filledLines_feed rest (joined unseen), ← List.append_assoc]
    exact (judged_line different rest fresh unseen some).append _
  · by_cases empty : after = []
    · subst empty
      rw [filledLines_nil, List.append_nil, List.append_nil, filledLines_free fresh some]
      exact ⟨fun _ => rfl, fun harmful => absurd (.inr (.inl rfl)) harmful⟩
    · have harmful := not_harmlessCut_unfinished carriage fresh found some empty
      have heavier := weight_cut carriage some empty
      have whole : before ++ after ≠ [] := by simp [some]
      rw [keepFilled, if_neg whole, keepFilled, if_neg empty] at heavier
      rw [filledLines_free found empty, filledLines_free (joined found) whole]
      exact ⟨fun harmless => absurd harmless harmful, fun _ => heavier⟩

/-- One cut through a text. -/
theorem judged_cut (different : carriage ≠ feed) (before after : List A) :
    Judged carriage (HarmlessCut feed carriage before after)
      (filledLines feed carriage before ++ filledLines feed carriage after)
      (filledLines feed carriage (before ++ after)) := by
  induction before using line_induction feed with
  | free before fresh =>
      by_cases empty : before = []
      · subst empty
        exact ⟨fun _ => rfl, fun harmful => absurd (.inl rfl) harmful⟩
      · exact judged_unfinished different fresh empty after
  | line line rest fresh ih =>
      rw [harmlessCut_feed, List.append_assoc line, List.cons_append, filledLines_feed rest fresh,
        filledLines_feed _ fresh, List.append_assoc]
      exact ih.prepend _

/-- All cuts through a text. -/
theorem judged_cuts (different : carriage ≠ feed) (parts : List (List A)) :
    Judged carriage (HarmlessCuts feed carriage parts)
      (parts.flatMap (filledLines feed carriage)) (filledLines feed carriage parts.flatten) := by
  induction parts with
  | nil => exact ⟨fun _ => rfl, fun harmful => absurd trivial harmful⟩
  | cons part rest ih =>
      have first := judged_cut different part rest.flatten
      have later := ih.prepend (filledLines feed carriage part)
      rw [HarmlessCuts, List.flatMap_cons, List.flatten_cons]
      constructor
      · intro harmless
        exact (later.same harmless.2).trans (first.same harmless.1)
      · intro harmful
        by_cases cut : HarmlessCut feed carriage part rest.flatten
        · have heavier := later.heavier fun harmless => harmful ⟨cut, harmless⟩
          rwa [first.same cut] at heavier
        · have heavier := first.heavier cut
          by_cases harmless : HarmlessCuts feed carriage rest
          · rwa [← later.same harmless] at heavier
          · exact Nat.lt_trans heavier (later.heavier harmless)

/-- Lines that are shown in another form agree only when no cut is harmful, as long as the form
tells the number of returns. -/
theorem map_filledLines_flatten {B : Type} (different : carriage ≠ feed) (form : List A → B)
    (returns : B → Nat) (told : ∀ line, returns (form line) = line.count carriage)
    (parts : List (List A)) :
    (parts.flatMap (filledLines feed carriage)).map form =
        (filledLines feed carriage parts.flatten).map form ↔
      HarmlessCuts feed carriage parts := by
  have weighed (lines : List (List A)) :
      weight carriage lines = ((lines.map form).map fun line => returns line + 1).sum := by
    simp only [weight, List.map_map, Function.comp_def, told]
  constructor
  · intro same
    by_contra harmful
    have heavier := (judged_cuts different parts).heavier harmful
    rw [weighed, weighed, same] at heavier
    exact Nat.lt_irrefl _ heavier
  · intro harmless
    rw [(judged_cuts different parts).same harmless]

omit [DecidableEq A] in
/-- What stands before a part does not change how its end is cut. -/
theorem HarmlessCut.of_append {before part after : List A}
    (harmless : HarmlessCut feed carriage (before ++ part) after) :
    HarmlessCut feed carriage part after := by
  by_cases empty : part = []
  · exact .inl empty
  · have whole : before ++ part ≠ [] := by simp [empty]
    simpa [HarmlessCut, whole, empty, List.getLast?_append_of_ne_nil _ empty] using harmless

omit [DecidableEq A] in
/-- Every division of a text is harmless when each single cut is. -/
theorem harmlessCuts_of_each {text : List A} (before : List A) (parts : List (List A))
    (cuts : ∀ before after, text = before ++ after → HarmlessCut feed carriage before after)
    (divided : text = before ++ parts.flatten) : HarmlessCuts feed carriage parts := by
  induction parts generalizing before with
  | nil => trivial
  | cons part rest ih =>
      rw [List.flatten_cons, ← List.append_assoc] at divided
      exact ⟨(cuts _ _ divided).of_append, ih _ divided⟩

end Lines

end Rtftp.Library

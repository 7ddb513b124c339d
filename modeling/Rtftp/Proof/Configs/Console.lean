import Rtftp.Construction.Console
import Rtftp.Proof.Configs.Connection
import Rtftp.Proof.LossyText

namespace Rtftp
open Library

/-- This is a line feed in a byte stream. -/
def feedByte : UInt8 := 10

/-- This is a carriage return in a byte stream. -/
def returnByte : UInt8 := 13

theorem feed_not_mem_lossy {bytes : List UInt8} (fresh : feedByte ∉ bytes) : '\n' ∉ lossy bytes :=
  fun member => fresh (mem_of_mem_lossy bytes member (by decide) (by decide))

theorem return_not_mem_lossy {bytes : List UInt8} (fresh : returnByte ∉ bytes) :
    '\r' ∉ lossy bytes :=
  fun member => fresh (mem_of_mem_lossy bytes member (by decide) (by decide))

theorem lossy_feed (before after : List UInt8) :
    lossy (before ++ feedByte :: after) = lossy before ++ '\n' :: lossy after :=
  lossy_append before after (by decide)

theorem lossy_return (before after : List UInt8) :
    lossy (before ++ returnByte :: after) = lossy before ++ '\r' :: lossy after :=
  lossy_append before after (by decide)

/-- Decoding keeps the number of returns. -/
theorem count_lossy (bytes : List UInt8) : (lossy bytes).count '\r' = bytes.count returnByte := by
  induction bytes using line_induction returnByte with
  | free bytes fresh =>
      rw [List.count_eq_zero_of_not_mem fresh,
        List.count_eq_zero_of_not_mem (return_not_mem_lossy fresh)]
  | line before rest fresh ih =>
      rw [lossy_return, List.count_append, List.count_append, List.count_cons_self,
        List.count_cons_self, ih, List.count_eq_zero_of_not_mem fresh,
        List.count_eq_zero_of_not_mem (return_not_mem_lossy fresh)]

/-- A decoded text ends with a return only when its bytes do. -/
theorem getLast?_of_lossy (bytes : List UInt8) (ends : (lossy bytes).getLast? = some '\r') :
    bytes.getLast? = some returnByte := by
  induction bytes using line_induction returnByte with
  | free bytes fresh => exact absurd (List.mem_of_getLast? ends) (return_not_mem_lossy fresh)
  | line before rest fresh ih =>
      rw [List.getLast?_append_of_ne_nil _ (List.cons_ne_nil _ _)]
      cases rest with
      | nil => rfl
      | cons first rest =>
          rw [List.getLast?_cons_cons]
          refine ih ?_
          have filled := lossy_ne_nil (List.cons_ne_nil first rest)
          obtain ⟨char, chars, decoded⟩ := List.exists_cons_of_ne_nil filled
          rw [lossy_return, List.getLast?_append_of_ne_nil _ (List.cons_ne_nil _ _), decoded,
            List.getLast?_cons_cons] at ends
          rw [decoded, ends]

/-- Decoding keeps the line ending that a line loses. -/
theorem stripReturn_lossy (line : List UInt8) :
    stripReturn '\r' (lossy line) = lossy (stripReturn returnByte line) := by
  by_cases ends : line.getLast? = some returnByte
  · obtain ⟨front, rfl⟩ := List.getLast?_eq_some_iff.mp ends
    rw [lossy_return, lossy_nil, stripReturn_concat, stripReturn_concat]
  · have other : (lossy line).getLast? ≠ some '\r' := fun decoded =>
      ends (getLast?_of_lossy line decoded)
    rw [stripReturn_other ends, stripReturn_other other]

theorem keepFilled_lossy (line : List UInt8) :
    keepFilled (lossy line) = (keepFilled line).map lossy := by
  rw [keepFilled, keepFilled]
  by_cases empty : line = []
  · rw [if_pos empty, empty, lossy_nil, if_pos rfl, List.map_nil]
  · rw [if_neg empty, if_neg (lossy_ne_nil empty), List.map_singleton]

/-- The lines of a decoded text are the decoded lines of its bytes. -/
theorem filledLines_lossy (bytes : List UInt8) :
    filledLines '\n' '\r' (lossy bytes) =
      (filledLines feedByte returnByte bytes).map lossy := by
  induction bytes using line_induction feedByte with
  | free bytes fresh =>
      by_cases empty : bytes = []
      · rw [empty]
        rfl
      · rw [filledLines_free fresh empty, List.map_singleton,
          filledLines_free (feed_not_mem_lossy fresh) (lossy_ne_nil empty)]
  | line line rest fresh ih =>
      rw [lossy_feed, filledLines_feed _ (feed_not_mem_lossy fresh), filledLines_feed _ fresh, ih,
        stripReturn_lossy, keepFilled_lossy, List.map_append]

theorem ofList_lossy (bytes : List UInt8) : String.ofList (lossy bytes) = toStringLossy bytes := by
  rw [← toStringLossy_toList, String.ofList_toList]

/-- The lines of one buffer are the lines of its bytes, each decoded. -/
theorem textLines_filled (buffer : List UInt8) :
    (textLines (toStringLossy buffer)).filter (fun line => !line.isEmpty) =
      (filledLines feedByte returnByte buffer).map toStringLossy := by
  have decoded : (filledLines feedByte returnByte buffer).map toStringLossy =
      (filledLines '\n' '\r' (lossy buffer)).map String.ofList := by
    rw [filledLines_lossy, List.map_map]
    exact List.map_congr_left fun line _ => (ofList_lossy line).symm
  have filled : (fun line : String => !line.isEmpty) ∘ String.ofList =
      fun line : List Char => decide (line ≠ []) := by
    funext line
    rw [Function.comp_apply, decide_not, Bool.not_inj_iff, Bool.eq_iff_iff, String.isEmpty_iff,
      decide_eq_true_iff]
    exact String.ofList_eq_empty_iff
  rw [decoded, textLines, toStringLossy_toList, filledLines, List.filter_map, filled]

theorem retrieveApplianceStderr_eq (buffers : List (List UInt8)) :
    retrieveApplianceStderr buffers =
      (buffers.flatMap (filledLines feedByte returnByte)).map toStringLossy := by
  induction buffers with
  | nil => rfl
  | cons buffer rest ih =>
      rw [retrieveApplianceStderr, List.map_cons, List.flatMap_cons, List.filter_append,
        textLines_filled, List.flatMap_cons, List.map_append, ← ih, retrieveApplianceStderr]

/-- The buffers give the lines of the whole stream exactly when no cut is harmful. -/
theorem retrieveApplianceStderr_flatten (buffers : List (List UInt8)) :
    retrieveApplianceStderr buffers = retrieveApplianceStderr [buffers.flatten] ↔
      HarmlessCuts feedByte returnByte buffers := by
  have told (line : List UInt8) :
      (toStringLossy line).toList.count '\r' = line.count returnByte := by
    rw [toStringLossy_toList, count_lossy]
  rw [retrieveApplianceStderr_eq, retrieveApplianceStderr_eq, List.flatMap_singleton]
  exact map_filledLines_flatten (by decide) toStringLossy (fun text => text.toList.count '\r') told
    buffers

/-- Two ways of cutting give the same lines, and the same outcome of every attempt to attach. -/
structure SameDiagnosis (first second : List (List UInt8)) : Prop where
  lines : retrieveApplianceStderr first = retrieveApplianceStderr second
  attached : ∀ (handle : Handle) (url : String),
    attachNbdDisk (handle.received first) url = attachNbdDisk (handle.received second) url

theorem sameDiagnosis_iff (first second : List (List UInt8)) :
    SameDiagnosis first second ↔
      retrieveApplianceStderr first = retrieveApplianceStderr second := by
  constructor
  · intro same
    exact same.lines
  · intro lines
    refine ⟨lines, fun handle url => ?_⟩
    rw [Handle.received, lines, Handle.received]

/-- The diagnosis of a stream does not depend on its cuts exactly when none of its cuts is harmful,
and a way of cutting agrees with a harmless one exactly when it is harmless itself. -/
theorem diagnosis_independent_iff (stream : List UInt8) :
    ((∀ first second : List (List UInt8), first.flatten = stream → second.flatten = stream →
        SameDiagnosis first second) ↔
      ∀ before after, stream = before ++ after → HarmlessCut feedByte returnByte before after) ∧
    ∀ first second : List (List UInt8), first.flatten = stream → second.flatten = stream →
      HarmlessCuts feedByte returnByte first →
        (SameDiagnosis first second ↔ HarmlessCuts feedByte returnByte second) := by
  have agree (first second : List (List UInt8)) (divided : first.flatten = stream)
      (other : second.flatten = stream) (harmless : HarmlessCuts feedByte returnByte first) :
      SameDiagnosis first second ↔ HarmlessCuts feedByte returnByte second := by
    rw [sameDiagnosis_iff, (retrieveApplianceStderr_flatten first).mpr harmless, divided, ← other,
      eq_comm]
    exact retrieveApplianceStderr_flatten second
  refine ⟨⟨fun same before after cut => ?_, fun cuts first second divided other => ?_⟩, agree⟩
  · have whole := same [before, after] [stream] (by simp [cut]) (by simp)
    have harmless := (sameDiagnosis_iff _ _).mp whole
    rw [cut] at harmless
    have both := (retrieveApplianceStderr_flatten [before, after]).mp (by simpa using harmless)
    simpa using both.1
  · have left := harmlessCuts_of_each [] first cuts divided.symm
    have right := harmlessCuts_of_each [] second cuts other.symm
    exact (agree first second divided other left).mpr right

/-- A cut behind a feed changes nothing. -/
theorem diagnosis_independent_between_lines :
    HarmlessCuts feedByte returnByte [[97, 98, 10], [99, 10]] ∧
      HarmlessCuts feedByte returnByte [[97, 98, 10, 99, 10]] ∧
      SameDiagnosis [[97, 98, 10], [99, 10]] [[97, 98, 10, 99, 10]] := by
  have divided : HarmlessCuts feedByte returnByte [[97, 98, 10], [99, 10]] :=
    ⟨by decide, by decide, trivial⟩
  have whole : HarmlessCuts feedByte returnByte [[97, 98, 10, 99, 10]] := ⟨by decide, trivial⟩
  refine ⟨divided, whole, ?_⟩
  exact ((diagnosis_independent_iff [97, 98, 10, 99, 10]).2 _ _ rfl rfl divided).mpr whole

/-- This library takes every setting and does not launch. -/
def unlaunched : Handle := { willing with launch := .error .unknown }

theorem attachNbdDisk_unlaunched (buffers : List (List UInt8)) {url : String} (clean : 0 ∉ utf8 url) :
    attachNbdDisk (unlaunched.received buffers) url =
      .err (launchError url (retrieveApplianceStderr buffers) []) := by
  rw [attachNbdDisk_configured rfl rfl rfl, if_neg clean]
  rfl

theorem toStringLossy_utf8 (text : String) : toStringLossy (utf8 text) = text := by
  rw [toStringLossy, fromUtf8_utf8]

/-- A refused connection is not recognised when a buffer ends inside the line that tells of it. -/
theorem diagnosis_depends_on_cut :
    let whole := utf8 "Failed to connect to h: Connection refused" ++ [10]
    let front := utf8 "Failed to connect to h"
    let back := utf8 ": Connection refused" ++ [10]
    [whole].flatten = [front, back].flatten ∧
      attachNbdDisk (unlaunched.received [whole]) "nbd://h" = .err (.connectionRefused "nbd://h") ∧
      attachNbdDisk (unlaunched.received [front, back]) "nbd://h" =
        .err (.generic "Failed to connect to h\n: Connection refused") ∧
      ¬ SameDiagnosis [whole] [front, back] := by
  intro whole front back
  have joined : retrieveApplianceStderr [whole] = ["Failed to connect to h: Connection refused"] := by
    have lines : filledLines feedByte returnByte whole =
        [utf8 "Failed to connect to h: Connection refused"] := by
      decide
    rw [retrieveApplianceStderr_eq, List.flatMap_singleton, lines, List.map_singleton,
      toStringLossy_utf8]
  have cut : retrieveApplianceStderr [front, back] =
      ["Failed to connect to h", ": Connection refused"] := by
    have lines : [front, back].flatMap (filledLines feedByte returnByte) =
        [utf8 "Failed to connect to h", utf8 ": Connection refused"] := by
      decide
    rw [retrieveApplianceStderr_eq, lines, List.map_cons, List.map_singleton, toStringLossy_utf8,
      toStringLossy_utf8]
  have clean : 0 ∉ utf8 "nbd://h" := by decide
  refine ⟨by decide, ?_, ?_, fun same => ?_⟩
  · rw [attachNbdDisk_unlaunched _ clean, joined]
    exact congrArg Outcome.err (by decide)
  · rw [attachNbdDisk_unlaunched _ clean, cut]
    exact congrArg Outcome.err (by decide)
  · have lines := same.lines
    rw [joined, cut] at lines
    exact absurd lines (by decide)

end Rtftp

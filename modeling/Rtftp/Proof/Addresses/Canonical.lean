import Rtftp.Proof.Addresses.Spelling

namespace Rtftp.IpAddr
open Library

theorem isGroup_toDigits (group : UInt16) : IsGroup (Nat.toDigits 16 group.toNat) group where
  some := Nat.toDigits_ne_nil
  short := by
    rw [Nat.length_toDigits_le_iff (by decide) (by decide)]
    exact group.toNat_lt
  value := numeral_toDigits (by decide) (by decide) _

theorem groups_flatMap (groups : List UInt16) (index : Nat) :
    Groups (index + 1) (groups.flatMap fun segment => ':' :: Nat.toDigits 16 segment.toNat)
      groups false := by
  induction groups generalizing index with
  | nil => exact .nothing
  | cons first groups ih => exact .group (isGroup_toDigits first) (ih (index + 1))

/-- The written groups are a text of these groups. -/
theorem groups_fmtSubslice (groups : List UInt16) : Groups 0 (fmtSubslice groups) groups false := by
  cases groups with
  | nil => exact .nothing
  | cons first groups => exact .group (isGroup_toDigits first) (groups_flatMap groups 0)

/-- The span covers zeros of the segments only. -/
def ZeroRun (segments : List UInt16) (span : Span) : Prop :=
  segments = segments.take span.start ++ List.replicate span.len 0 ++
    segments.drop (span.start + span.len)

theorem zeroRun_empty (segments : List UInt16) (start : Nat) : ZeroRun segments ⟨start, 0⟩ := by
  simp [ZeroRun]

/-- A zero behind the span makes it longer. -/
theorem ZeroRun.extend {segments rest : List UInt16} {span : Span} (run : ZeroRun segments span)
    (next : segments.drop (span.start + span.len) = 0 :: rest) :
    ZeroRun segments ⟨span.start, span.len + 1⟩ := by
  have behind : segments.drop (span.start + (span.len + 1)) = rest := by
    rw [← Nat.add_assoc, ← List.tail_drop, next, List.tail_cons]
  unfold ZeroRun at run ⊢
  rw [behind, List.replicate_succ', List.append_assoc, List.append_assoc, List.singleton_append,
    ← next, ← List.append_assoc]
  exact run

/-- The loop keeps a span of zeros, and a current span that ends where the loop is. -/
theorem spans_zeroRun (segments rest : List UInt16) (index : Nat) (longest current : Span)
    (here : segments.drop index = rest) (longestRun : ZeroRun segments longest)
    (currentRun : current.len ≠ 0 → current.start + current.len = index ∧ ZeroRun segments current) :
    ZeroRun segments (spans rest index longest current) := by
  induction rest generalizing index longest current with
  | nil => exact longestRun
  | cons segment rest ih =>
      have next : segments.drop (index + 1) = rest := by
        rw [← List.tail_drop, here, List.tail_cons]
      rw [spans]
      split
      · rename_i zero
        subst zero
        have grown : (if current.len = 0 then index else current.start) + (current.len + 1) =
            index + 1 ∧ ZeroRun segments
              ⟨if current.len = 0 then index else current.start, current.len + 1⟩ := by
          split
          · rename_i empty
            rw [empty]
            exact ⟨rfl, (zeroRun_empty segments index).extend here⟩
          · rename_i some
            obtain ⟨reached, run⟩ := currentRun some
            exact ⟨by omega, run.extend (by rw [reached]; exact here)⟩
        apply ih (index + 1) _ _ next
        · by_cases longer : longest.len < current.len + 1
          · rw [if_pos longer]
            exact grown.2
          · rw [if_neg longer]
            exact longestRun
        · exact fun _ => grown
      · exact ih (index + 1) longest ⟨0, 0⟩ next longestRun (fun some => absurd rfl some)

/-- Eight segments are their own segments. -/
theorem toSegments_toList (segments : Vector UInt16 8) :
    Parser.toSegments segments.toList = segments := by
  apply Vector.ext
  intro index inside
  simp [Parser.toSegments]

theorem segmentsText_spells (segments : Vector UInt16 8) :
    Spells (segmentsText segments.toList) (.v6 segments) := by
  have complete : segments.toList.length = 8 := by simp
  have run := spans_zeroRun segments.toList segments.toList 0 ⟨0, 0⟩ ⟨0, 0⟩ rfl
    (zeroRun_empty _ _) (fun some => absurd rfl some)
  unfold segmentsText
  dsimp only
  generalize spans segments.toList 0 ⟨0, 0⟩ ⟨0, 0⟩ = zeroes at run
  have same := toSegments_toList segments
  split
  · rename_i long
    have lengths := congrArg List.length run
    rw [List.length_append, List.length_append, List.length_replicate, complete] at lengths
    have spelled : Spells _ (.v6 (Parser.toSegments _)) :=
      .shortened (groups_fmtSubslice (segments.toList.take zeroes.start))
        (groups_fmtSubslice (segments.toList.drop (zeroes.start + zeroes.len))) (by omega)
    rw [show 8 - (segments.toList.drop (zeroes.start + zeroes.len)).length -
      (segments.toList.take zeroes.start).length = zeroes.len by omega, ← run, same] at spelled
    rw [List.append_assoc]
    exact spelled
  · have spelled : Spells _ (.v6 (Parser.toSegments _)) :=
      .full (groups_fmtSubslice segments.toList) complete
    rw [same] at spelled
    exact spelled

/-- The text of a mapped address ends with an IPv4 address. -/
theorem mapped_spells (high low : UInt16) :
    Spells ("::ffff:".toList ++
        v4Text (high >>> 8).toUInt8 high.toUInt8 (low >>> 8).toUInt8 low.toUInt8)
      (.v6 (Parser.toSegments [0, 0, 0, 0, 0, 0xFFFF, high, low])) := by
  have octets : Groups 1 (':' :: v4Text (high >>> 8).toUInt8 high.toUInt8 (low >>> 8).toUInt8
      low.toUInt8) [high, low] true := by
    have spelled : Groups 1 (separated 1 (v4Text (high >>> 8).toUInt8 high.toUInt8
      (low >>> 8).toUInt8 low.toUInt8)) _ true := .octets
    rw [fromBeBytes_beBytes, fromBeBytes_beBytes] at spelled
    exact spelled
  have leading : IsGroup ['f', 'f', 'f', 'f'] 0xFFFF := ⟨by decide, by decide, by decide⟩
  have tail : Groups 0 (['f', 'f', 'f', 'f'] ++ ':' :: v4Text (high >>> 8).toUInt8 high.toUInt8
      (low >>> 8).toUInt8 low.toUInt8) [0xFFFF, high, low] true := .group leading octets
  have colons : "::ffff:".toList = [':', ':', 'f', 'f', 'f', 'f', ':'] := by decide
  have spelled : Spells _ (.v6 (Parser.toSegments _)) := .shortened .nothing tail (by simp)
  rw [colons]
  exact spelled

/-- The text that an address is written with is one of its texts. -/
theorem text_spells (address : IpAddr) : Spells address.text address := by
  cases address with
  | v4 a b c d => exact .v4
  | v6 segments =>
      change Spells (v6Text segments.toList) (.v6 segments)
      unfold v6Text
      split
      · rename_i high low mapped
        have spelled := mapped_spells high low
        rw [← mapped, toSegments_toList] at spelled
        exact spelled
      · exact segmentsText_spells segments

end Rtftp.IpAddr

import Rtftp.Construction.Server
import Rtftp.Proof.Addresses.Canonical
import Rtftp.Proof.Isolation

namespace Rtftp
open Library

namespace IpAddr

/-- The text of groups has the three dots of an IPv4 address, or none. -/
theorem Groups.dots {index : Nat} {text : List Char} {groups : List UInt16} {ipv4 : Bool}
    (spelled : Groups index text groups ipv4) : text.count '.' = if ipv4 then 3 else 0 := by
  have colon (index : Nat) (text : List Char) : (separated index text).count '.' = text.count '.' := by
    unfold separated
    split
    · rfl
    · rw [List.count_cons_of_ne (by decide)]
  induction spelled with
  | nothing => rfl
  | @group index digits rest first groups ipv4 leading more ih =>
      have dotless : '.' ∉ digits := fun member =>
        toDigit_of_mem_numeral leading.value member (by decide)
      rw [colon, List.count_append, List.count_eq_zero.mpr dotless, Nat.zero_add, ih]
  | octets => rw [colon, v4Text_dots, if_pos rfl]

theorem Spells.v4_eq {text : List Char} {a b c d : UInt8} (spelled : Spells text (.v4 a b c d)) :
    text = v4Text a b c d := by
  cases spelled
  rfl

theorem Spells.v6_dots {text : List Char} {segments : Vector UInt16 8}
    (spelled : Spells text (.v6 segments)) : text.count '.' = 0 ∨ text.count '.' = 3 := by
  cases spelled with
  | @full _ _ ipv4 read complete =>
      rw [read.dots]
      cases ipv4 with
      | true => exact .inr rfl
      | false => exact .inl rfl
  | @shortened _ _ _ _ ipv4 before behind fewer =>
      rw [List.count_append, before.dots, List.count_cons_of_ne (by decide),
        List.count_cons_of_ne (by decide), behind.dots]
      cases ipv4 with
      | true => exact .inr rfl
      | false => exact .inl rfl

/-- A text is the text of at most one address. -/
theorem Spells.unique {text : List Char} {first second : IpAddr} (one : Spells text first)
    (other : Spells text second) : first = second :=
  Option.some.inj ((fromStr_eq_some_iff.mpr one).symm.trans (fromStr_eq_some_iff.mpr other))

/-- The decimal digits of an octet are a group too. -/
theorem isGroup_octet (octet : UInt8) : ∃ group, IsGroup (Nat.toDigits 10 octet.toNat) group := by
  have short : (Nat.toDigits 10 octet.toNat).length ≤ 3 := by
    rw [Nat.length_toDigits_le_iff (by decide) (by decide)]
    have bounded := octet.toNat_lt
    omega
  have digits : ∀ char ∈ Nat.toDigits 10 octet.toNat, toDigit 16 char ≠ none := fun char member =>
    toDigit_ne_none_of_le (by decide)
      (toDigit_of_mem_numeral (numeral_toDigits (by decide) (by decide) _) member)
  obtain ⟨total, value, bounded⟩ := numeral_lt _ 0 digits
  have power : 16 ^ (Nat.toDigits 10 octet.toNat).length ≤ 16 ^ 3 :=
    Nat.pow_le_pow_right (by decide) short
  have small : total < 65536 := by omega
  refine ⟨UInt16.ofNat total, Nat.toDigits_ne_nil, by omega, ?_⟩
  rw [value, UInt16.toNat_ofNat_of_lt' small]

theorem mapped_text (octet : UInt8) : "::ffff:".toList ++ Nat.toDigits 10 octet.toNat =
    ':' :: ':' :: (['f', 'f', 'f', 'f'] ++ ':' :: Nat.toDigits 10 octet.toNat) := by
  have colons : "::ffff:".toList = [':', ':', 'f', 'f', 'f', 'f', ':'] := by decide
  rw [colons]
  rfl

theorem mapped_dotless (octet : UInt8) :
    '.' ∉ "::ffff:".toList ++ Nat.toDigits 10 octet.toNat := by
  apply List.count_eq_zero.mp
  rw [List.count_append, toDigits_count_dot]
  decide

/-- The text of a mapped address up to its first dot is a text of another address. -/
theorem mapped_cut (high low : UInt16) (octet : UInt8) :
    ¬ Spells (':' :: ':' :: (['f', 'f', 'f', 'f'] ++ ':' :: Nat.toDigits 10 octet.toNat))
      (.v6 (Parser.toSegments [0, 0, 0, 0, 0, 0xFFFF, high, low])) := by
  intro spelled
  obtain ⟨group, last⟩ := isGroup_octet octet
  have leading : IsGroup ['f', 'f', 'f', 'f'] 0xFFFF := ⟨by decide, by decide, by decide⟩
  have ending : Groups 1 (separated 1 (Nat.toDigits 10 octet.toNat ++ [])) [group] false :=
    .group last .nothing
  rw [List.append_nil] at ending
  have tail : Groups 0 (['f', 'f', 'f', 'f'] ++ ':' :: Nat.toDigits 10 octet.toNat)
      [0xFFFF, group] false := .group leading ending
  have other : Spells _ (.v6 (Parser.toSegments _)) := .shortened .nothing tail (by simp)
  have same := IpAddr.v6.inj (spelled.unique other)
  have fifth := congrArg (fun segments => segments.toList[5]?) same
  simp [Parser.toSegments] at fifth

/-- No text of an address stands before a dot of the text that the address is written with. -/
theorem Spells.not_before_dot {stem : List Char} {address : IpAddr} (spelled : Spells stem address) :
    ¬ stem ++ ['.'] <+: address.text := by
  intro shorter
  have fewer := shorter.sublist.count_le '.'
  rw [List.count_append, List.count_singleton_self] at fewer
  have dots := address.text_dots
  cases address with
  | v4 a b c d =>
      rw [spelled.v4_eq] at shorter
      have lengths := shorter.length_le
      change (v4Text a b c d ++ ['.']).length ≤ (v4Text a b c d).length at lengths
      rw [List.length_append, List.length_singleton] at lengths
      omega
  | v6 segments =>
      have dotless : '.' ∉ stem := by
        apply List.count_eq_zero.mp
        have spelledDots := spelled.v6_dots
        omega
      change stem ++ ['.'] <+: v6Text segments.toList at shorter
      unfold v6Text at shorter
      split at shorter
      · rename_i high low mapped
        obtain ⟨rest, text⟩ := shorter
        obtain ⟨more, octets⟩ := Parser.v4Text_append (high >>> 8).toUInt8 high.toUInt8
          (low >>> 8).toUInt8 low.toUInt8 []
        rw [List.append_nil] at octets
        rw [octets, ← List.append_assoc, List.append_assoc, List.singleton_append] at text
        have same := append_separator_inj dotless (mapped_dotless _) text
        apply mapped_cut high low (high >>> 8).toUInt8
        rw [← mapped, toSegments_toList, ← mapped_text, ← same]
        exact spelled
      · have none := (shorter.sublist.subset (List.mem_append_right _ List.mem_cons_self))
        exact List.count_eq_zero.mp (segmentsText_dots _) none

end IpAddr

/-- The stem of a name is the text in front of its last dot. -/
def HasStem (name stem : List Char) : Prop := ∃ ext, name = stem ++ '.' :: ext ∧ '.' ∉ ext

/-- The name is, in front of its last dot, a text of the address. -/
def Names (name : List Char) (address : IpAddr) : Prop :=
  ∃ stem, HasStem name stem ∧ address.Spells stem

/-- A modify event opens a handler for the address that its name has in front of the last dot. -/
theorem configModified_eq_some_iff {event : InotifyEvent} (modify : event.isModify = true)
    {address : IpAddr} :
    TFTPServer.configModified event = some address ↔ Names event.fileName.toList address := by
  unfold TFTPServer.configModified
  rw [modify]
  constructor
  · intro opened
    split at opened
    · rename_i stem ext divided
      have parts := rsplitOnce_eq_some_iff.mp divided
      exact ⟨stem, ⟨ext, parts⟩, IpAddr.fromStr_eq_some_iff.mp opened⟩
    · cases opened
  · rintro ⟨stem, ⟨ext, parts⟩, spelled⟩
    rw [rsplitOnce_eq_some_iff.mpr parts]
    exact IpAddr.fromStr_eq_some_iff.mpr spelled

theorem matchIp_eq_true_iff (name : List UInt8) (address : IpAddr) :
    matchIp name address.toString = true ↔
      ∃ text, fromUtf8 name = some text ∧ address.text <+: text.toList := by
  unfold matchIp
  split
  · rename_i text valid
    simp [valid, List.isPrefixOf_iff_prefix, IpAddr.toString]
  · rename_i invalid
    simp [invalid]

/-- On a modify event for the file the server opens a handler for the address exactly when the
lookup takes the file for a config of the address. -/
def Agrees (name : List UInt8) (address : IpAddr) : Prop :=
  ∀ event : InotifyEvent, event.isModify = true → event.fileName = toStringLossy name →
    (TFTPServer.configModified event = some address ↔ matchIp name address.toString = true)

theorem agrees_iff (name : List UInt8) (address : IpAddr) :
    Agrees name address ↔
      (Names (toStringLossy name).toList address ↔
        ∃ text, fromUtf8 name = some text ∧ address.text <+: text.toList) := by
  rw [← matchIp_eq_true_iff]
  constructor
  · intro agrees
    have written : decide (inCloseWrite &&& (inMovedTo ||| inCloseWrite) > 0) = true := by decide
    have modify : InotifyEvent.isModify ⟨inCloseWrite, some (toStringLossy name)⟩ = true := written
    have modified := agrees _ modify rfl
    rw [configModified_eq_some_iff modify] at modified
    exact modified
  · intro same event modify named
    rw [configModified_eq_some_iff modify, named]
    exact same

/-- The stem of the name is the text of the address or a longer text of it, or the name neither
starts with the text of the address nor has another text of it in front of the last dot. A name that
is no UTF-8 text is seen only by the monitor. -/
def Consistent (name : List UInt8) (address : IpAddr) : Prop :=
  match fromUtf8 name with
  | some text =>
      (∃ more, HasStem text.toList (address.text ++ more) ∧ address.Spells (address.text ++ more)) ∨
        (¬ address.text <+: text.toList ∧ ¬ Names text.toList address)
  | none => ¬ Names (toStringLossy name).toList address

/-- A text of the address in front of the last dot continues the text of the address, when the name
starts with the latter. -/
theorem prefix_stem {name stem : List Char} {address : IpAddr} (hasStem : HasStem name stem)
    (spelled : address.Spells stem) (starts : address.text <+: name) : address.text <+: stem := by
  obtain ⟨ext, rfl, _⟩ := hasStem
  have dotted : stem ++ ['.'] <+: stem ++ '.' :: ext := by
    rw [List.prefix_append_right_inj]
    exact ⟨ext, rfl⟩
  rcases List.prefix_or_prefix_of_prefix starts dotted with short | long
  · rcases List.prefix_concat_iff.mp short with equal | inside
    · have same : stem ++ ['.'] <+: address.text := by rw [equal]
      exact absurd same spelled.not_before_dot
    · exact inside
  · exact absurd long spelled.not_before_dot

theorem HasStem.prefix {name stem more : List Char} (hasStem : HasStem name (stem ++ more)) :
    stem <+: name := by
  obtain ⟨ext, rfl, _⟩ := hasStem
  exact (List.prefix_append _ _).trans (List.prefix_append _ _)

theorem agrees_iff_consistent (name : List UInt8) (address : IpAddr) :
    Agrees name address ↔ Consistent name address := by
  rw [agrees_iff, Consistent]
  cases valid : fromUtf8 name with
  | none => simp
  | some text =>
      have lossless : toStringLossy name = text := by rw [toStringLossy, valid]
      simp only [lossless, Option.some.injEq, exists_eq_left']
      constructor
      · intro same
        by_cases starts : address.text <+: text.toList
        · obtain ⟨stem, hasStem, spelled⟩ := same.mpr starts
          obtain ⟨more, rfl⟩ := prefix_stem hasStem spelled starts
          exact .inl ⟨more, hasStem, spelled⟩
        · exact .inr ⟨starts, fun named => starts (same.mp named)⟩
      · rintro (⟨more, hasStem, spelled⟩ | ⟨other, unnamed⟩)
        · exact ⟨fun _ => hasStem.prefix, fun _ => ⟨_, hasStem, spelled⟩⟩
        · exact ⟨fun named => absurd named unnamed, fun starts => absurd starts other⟩

/-- An IPv4 address has one text, so a name has it in front of the last dot or not at all. -/
theorem consistent_v4_iff (name : List UInt8) (a b c d : UInt8) (text : String)
    (valid : fromUtf8 name = some text) :
    Consistent name (.v4 a b c d) ↔
      ((IpAddr.v4 a b c d).text <+: text.toList →
        HasStem text.toList (IpAddr.v4 a b c d).text) := by
  rw [Consistent, valid]
  dsimp only
  constructor
  · rintro (⟨more, hasStem, spelled⟩ | ⟨other, _⟩) starts
    · rw [spelled.v4_eq] at hasStem
      exact hasStem
    · exact absurd starts other
  · intro named
    by_cases starts : (IpAddr.v4 a b c d).text <+: text.toList
    · refine .inl ⟨[], ?_⟩
      rw [List.append_nil]
      exact ⟨named starts, IpAddr.text_spells _⟩
    · refine .inr ⟨starts, ?_⟩
      rintro ⟨stem, ⟨ext, same, _⟩, spelled⟩
      apply starts
      rw [same, spelled.v4_eq]
      exact List.prefix_append _ _

/-- The monitor and the lookup agree exactly on the consistent names. For an IPv4 address these are
the names that do not start with its text, and its text with one extension. -/
theorem configMonitor_agrees_iff (name : List UInt8) (address : IpAddr) :
    (Agrees name address ↔ Consistent name address) ∧
    ∀ a b c d text, address = .v4 a b c d → fromUtf8 name = some text →
      (Agrees name address ↔
        (address.text <+: text.toList → HasStem text.toList address.text)) := by
  constructor
  · exact agrees_iff_consistent name address
  · rintro a b c d text rfl valid
    rw [agrees_iff_consistent]
    exact consistent_v4_iff name a b c d text valid

/-- The config of 10.0.0.10 is looked up for 10.0.0.1, but its change opens no handler for it. -/
theorem configMonitor_agrees_missed :
    ¬ ∀ name address, Agrees name address := by
  intro agrees
  have agreed := agrees (utf8 "10.0.0.10.nbd") (.v4 10 0 0 1)
    ⟨inCloseWrite, some (toStringLossy (utf8 "10.0.0.10.nbd"))⟩ (by decide) rfl
  have opened := agreed.mpr (by decide)
  exact absurd opened (by decide)

end Rtftp

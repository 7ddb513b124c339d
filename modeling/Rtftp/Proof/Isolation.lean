import Rtftp.Construction.NbdDisk
import Rtftp.Library.SortedSearch

namespace Rtftp

/-- No digit is a dot. -/
theorem digitChar_ne_dot (digit : Nat) : Nat.digitChar digit ≠ '.' := by
  simp only [Nat.digitChar, ne_eq, apply_ite (· = '.')]
  simp

theorem toDigitsCore_dotless (base fuel value : Nat) (digits : List Char)
    (dotless : '.' ∉ digits) : '.' ∉ Nat.toDigitsCore base fuel value digits := by
  induction fuel generalizing value digits with
  | zero => exact dotless
  | succ fuel ih =>
      have longer : '.' ∉ Nat.digitChar (value % base) :: digits := by
        rw [List.mem_cons, not_or]
        exact ⟨(digitChar_ne_dot _).symm, dotless⟩
      unfold Nat.toDigitsCore
      dsimp only
      split
      · exact longer
      · exact ih _ _ longer

/-- A number is written without dots. -/
theorem toDigits_count_dot (base value : Nat) : (Nat.toDigits base value).count '.' = 0 :=
  List.count_eq_zero.mpr (toDigitsCore_dotless base _ value [] List.not_mem_nil)

namespace IpAddr

theorem v4Text_dots (a b c d : UInt8) : (v4Text a b c d).count '.' = 3 := by
  simp [v4Text, toDigits_count_dot]

theorem fmtSubslice_dots (chunk : List UInt16) : (fmtSubslice chunk).count '.' = 0 := by
  cases chunk with
  | nil => rfl
  | cons first tail =>
      rw [fmtSubslice, List.count_append, toDigits_count_dot, Nat.zero_add]
      induction tail with
      | nil => rfl
      | cons segment tail ih =>
          rw [List.flatMap_cons, List.count_append, ih, List.count_cons_of_ne (by decide),
            toDigits_count_dot]

theorem segmentsText_dots (segments : List UInt16) : (segmentsText segments).count '.' = 0 := by
  unfold segmentsText
  dsimp only
  split
  · simp [fmtSubslice_dots]
  · exact fmtSubslice_dots segments

/-- The text of an address has no dots, or the three dots of an IPv4 address. -/
theorem text_dots (address : IpAddr) : address.text.count '.' = 0 ∨ address.text.count '.' = 3 := by
  cases address with
  | v4 a b c d => exact .inr (v4Text_dots a b c d)
  | v6 segments =>
      change (v6Text segments.toList).count '.' = 0 ∨ (v6Text segments.toList).count '.' = 3
      unfold v6Text
      split
      · right
        rw [List.count_append, v4Text_dots]
        rfl
      · exact .inl (segmentsText_dots _)

example : (IpAddr.v6 #v[0xFE80, 0, 0, 0, 1, 0, 0, 0xAB]).text = "fe80::1:0:0:ab".toList := by decide

/-- The dot before the extension would be one dot too many for an address, so an address that the
file name starts with ends within the name's own address. -/
theorem prefix_named_iff (a b : IpAddr) (ext : List Char) (dotless : '.' ∉ ext) :
    a.text <+: b.text ++ '.' :: ext ↔ a.text <+: b.text := by
  constructor
  · intro named
    have dotted : b.text ++ ['.'] <+: b.text ++ '.' :: ext := by
      rw [List.prefix_append_right_inj]
      exact ⟨ext, rfl⟩
    rcases List.prefix_or_prefix_of_prefix named dotted with short | long
    · rcases List.prefix_concat_iff.mp short with equal | inside
      · have dots := congrArg (List.count '.') equal
        rw [List.count_append, List.count_singleton_self] at dots
        rcases a.text_dots with first | first <;> rcases b.text_dots with second | second <;> omega
      · exact inside
    · obtain ⟨rest, same⟩ := long
      rw [← same, List.append_assoc, List.prefix_append_right_inj, List.singleton_append,
        List.cons_prefix_cons] at named
      have plain : rest.count '.' = 0 :=
        List.count_eq_zero.mpr fun member => dotless (named.2.subset member)
      have dots := congrArg (List.count '.') same
      rw [List.count_append, List.count_append, List.count_singleton_self, plain] at dots
      rcases a.text_dots with first | first <;> rcases b.text_dots with second | second <;> omega
  · intro inside
    exact inside.trans (List.prefix_append _ _)

end IpAddr

/-- This is the name of a config file for an address. -/
def configName (address : IpAddr) (ext : String) : List UInt8 :=
  utf8 (address.toString ++ "." ++ ext)

/-- A config file of one address matches another address exactly when the text of the second is a
prefix of the text of the first. -/
theorem matchIp_configName (a b : IpAddr) (ext : String) (dotless : '.' ∉ ext.toList) :
    matchIp (configName b ext) a.toString = true ↔ a.text <+: b.text := by
  rw [matchIp, configName, fromUtf8_utf8, ← a.prefix_named_iff b ext.toList dotless]
  simp only [List.isPrefixOf_iff_prefix, String.toList_append, IpAddr.toString,
    String.toList_ofList, List.append_assoc]
  rfl

namespace DirEntry

theorem le_iff (first second : DirEntry) :
    first.le second = true ↔ first.name.map UInt8.toNat ≤ second.name.map UInt8.toNat :=
  decide_eq_true_iff

theorem le_transitive (a b c : DirEntry) (left : a.le b) (right : b.le c) : a.le c := by
  rw [le_iff] at *
  exact left.trans right

theorem le_total (a b : DirEntry) : a.le b || b.le a := by
  rw [Bool.or_eq_true, le_iff, le_iff]
  exact Std.le_total

theorem name_eq_of_le {a b : DirEntry} (left : a.le b) (right : b.le a) : a.name = b.name := by
  rw [le_iff] at *
  exact List.map_injective_iff.mpr (fun _ _ => UInt8.toNat_inj.mp) (left.antisymm right)

end DirEntry

/-- These are the files that the lookup sorts. -/
def Directory.files (directory : Directory) : List DirEntry :=
  directory.entries.reduceOption.filter DirEntry.isFile

namespace Directory

theorem mem_files (directory : Directory) (entry : DirEntry) :
    entry ∈ directory.files ↔ some entry ∈ directory.entries ∧ entry.isFile := by
  rw [files, List.mem_filter, List.reduceOption_mem_iff]

theorem files_nodup (directory : Directory) : directory.files.Nodup :=
  (List.Nodup.of_map _ directory.distinct).filter _

theorem files_injective (directory : Directory) :
    ∀ a ∈ directory.files, ∀ b ∈ directory.files, a.name = b.name → a = b := by
  intro a first b second equal
  exact List.inj_on_of_nodup_map directory.distinct (List.mem_of_mem_filter first)
    (List.mem_of_mem_filter second) equal

/-- Two files that are not after each other are the same file. -/
theorem files_antisymmetric (directory : Directory) :
    ∀ a ∈ directory.files, ∀ b ∈ directory.files, a.le b → b.le a → a = b := by
  intro a first b second left right
  exact directory.files_injective a first b second (DirEntry.name_eq_of_le left right)

end Directory

/-- Two directories agree on every entry that does not have the name. -/
def SameExcept (name : List UInt8) (first second : Directory) : Prop :=
  ∀ entry : DirEntry, entry.name ≠ name → (some entry ∈ first.entries ↔ some entry ∈ second.entries)

/-- A file that does not match the address has no influence on the root. -/
theorem openNbdRoot_sameExcept {Value Config Remote : Type}
    (backend : NbdBackend Value Config Remote) {name : List UInt8} {ip : String}
    (unmatched : matchIp name ip = false) {first second : Directory}
    (same : SameExcept name first second) :
    openNbdRoot backend first ip = openNbdRoot backend second ip := by
  apply Library.findSome?_mergeSort_eq DirEntry.le_transitive DirEntry.le_total
  · exact first.files_antisymmetric
  · exact first.files_nodup
  · exact second.files_nodup
  · intro entry found
    have other : entry.name ≠ name := by
      rintro rfl
      rw [unmatched] at found
      exact absurd found (by simp)
    change entry ∈ first.files ↔ entry ∈ second.files
    rw [first.mem_files, second.mem_files, same entry other]

/-- No config file of `b` is seen by the lookup for `a`. -/
def Unmatched (a b : IpAddr) : Prop :=
  ∀ ext : String, '.' ∉ ext.toList → matchIp (configName b ext) a.toString = false

/-- No change of a config file of `b` changes the root for `a`. -/
def Isolated (a b : IpAddr) : Prop :=
  ∀ ext : String, '.' ∉ ext.toList → ∀ (Value Config Remote : Type)
    (backend : NbdBackend Value Config Remote) (first second : Directory),
    SameExcept (configName b ext) first second →
      openNbdRoot backend first a.toString = openNbdRoot backend second a.toString

theorem unmatched_iff (a b : IpAddr) : Unmatched a b ↔ ¬ a.text <+: b.text := by
  constructor
  · intro unmatched shared
    have matched := (matchIp_configName a b "nbd" (by decide)).mpr shared
    rw [unmatched "nbd" (by decide)] at matched
    exact Bool.false_ne_true matched
  · intro separate ext dotless
    rw [← Bool.not_eq_true, matchIp_configName a b ext dotless]
    exact separate

theorem Unmatched.isolated {a b : IpAddr} (unmatched : Unmatched a b) : Isolated a b := by
  intro ext dotless Value Config Remote backend first second same
  exact openNbdRoot_sameExcept backend (unmatched ext dotless) same

/-- Every config of this backend connects. -/
def openBackend : NbdBackend Unit Unit Unit where
  fromStr _ := some ()
  fromJson _ := some ()
  connect _ := .ok ()

def emptyDirectory : Directory where
  entries := []
  distinct := List.nodup_nil

/-- This directory has one readable file. -/
def loneDirectory (name : List UInt8) : Directory where
  entries := [some ⟨name, true, some ""⟩]
  distinct := List.nodup_singleton name

theorem sameExcept_lone (name : List UInt8) :
    SameExcept name emptyDirectory (loneDirectory name) := by
  intro entry other
  simp only [emptyDirectory, loneDirectory, List.mem_singleton, List.not_mem_nil, false_iff]
  intro equal
  exact other (congrArg DirEntry.name (Option.some.inj equal))

/-- The lone file gives its root to every address that it matches. -/
theorem openNbdRoot_lone (name : List UInt8) (ip : String) (matched : matchIp name ip = true) :
    openNbdRoot openBackend (loneDirectory name) ip = some () := by
  simp [openNbdRoot, filesSorted, loneDirectory, List.reduceOption, matched, connectConfig,
    readJson, openBackend]

theorem Isolated.unmatched {a b : IpAddr} (isolated : Isolated a b) : Unmatched a b := by
  intro ext dotless
  by_contra shared
  rw [Bool.not_eq_false] at shared
  have equal := isolated ext dotless Unit Unit Unit openBackend emptyDirectory
    (loneDirectory (configName b ext)) (sameExcept_lone _)
  rw [openNbdRoot_lone _ _ shared] at equal
  exact absurd equal (by simp [openNbdRoot, filesSorted, emptyDirectory, List.reduceOption])

/-- The configs of `b` do not serve `a` exactly when the text of `a` is no prefix of the text of
`b`. -/
theorem nbdConfig_isolated_iff (a b : IpAddr) :
    (Unmatched a b ↔ ¬ a.text <+: b.text) ∧ (Isolated a b ↔ ¬ a.text <+: b.text) := by
  have equivalent : Isolated a b ↔ Unmatched a b := ⟨Isolated.unmatched, Unmatched.isolated⟩
  rw [equivalent, and_self]
  exact unmatched_iff a b

/-- The config of 10.0.0.12 serves 10.0.0.1. -/
theorem nbdConfig_shared :
    ¬ ∀ a b : IpAddr, a ≠ b → Unmatched a b ∧ Isolated a b := by
  intro separate
  have shared := (separate (.v4 10 0 0 1) (.v4 10 0 0 12) (by decide)).2.unmatched
  rw [unmatched_iff] at shared
  exact shared (by decide)

end Rtftp

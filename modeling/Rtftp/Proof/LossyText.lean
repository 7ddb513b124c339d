import Mathlib.Data.List.Basic
import Rtftp.Construction.FsWatch

namespace Rtftp

/-- This is the text that replaces every invalid sequence. -/
def lossy (bytes : List UInt8) : List Char := replaceInvalid bytes.length bytes

theorem continuation_isPrefix (left : Nat) (low high : UInt8) (bytes : List UInt8) :
    continuation left low high bytes <+: bytes := by
  induction bytes generalizing left low high with
  | nil =>
      cases left with
      | zero => exact List.prefix_rfl
      | succ left => exact List.prefix_rfl
  | cons byte rest ih =>
      cases left with
      | zero => exact List.nil_prefix
      | succ left =>
          rw [continuation]
          split
          · exact (List.prefix_cons_inj byte).mpr (ih left 0x80 0xBF)
          · exact List.nil_prefix

/-- As many passes as bytes are enough. -/
theorem replaceInvalid_enough (bytes : List UInt8) {fuel : Nat} (enough : bytes.length ≤ fuel) :
    replaceInvalid fuel bytes = lossy bytes := by
  rw [lossy]
  induction size : bytes.length using Nat.strongRecOn generalizing bytes fuel with
  | ind size ih =>
      cases bytes with
      | nil =>
          rw [← size]
          cases fuel with
          | zero => rfl
          | succ fuel => rfl
      | cons byte rest =>
          rw [List.length_cons] at enough size
          obtain ⟨fuel, rfl⟩ := Nat.exists_eq_add_one.mpr (Nat.zero_lt_of_lt enough)
          subst size
          -- Both runs go on with the same bytes, which are fewer.
          have later (left : Nat) : replaceInvalid fuel (rest.drop left) =
              replaceInvalid rest.length (rest.drop left) := by
            have less : (rest.drop left).length ≤ rest.length := by
              rw [List.length_drop]
              omega
            rw [ih _ (Nat.lt_succ_of_le less) _ (by omega) rfl,
              ih _ (Nat.lt_succ_of_le less) _ less rfl]
          have rest_eq := later 0
          rw [List.drop_zero] at rest_eq
          simp only [replaceInvalid, later, rest_eq]

theorem lossy_nil : lossy [] = [] := rfl

theorem lossy_ascii {byte : UInt8} (rest : List UInt8) (ascii : byte < 0x80) :
    lossy (byte :: rest) = Char.ofNat byte.toNat :: lossy rest := by
  rw [lossy, List.length_cons, replaceInvalid, if_pos ascii, lossy]

theorem lossy_invalid {byte : UInt8} (rest : List UInt8) (other : ¬ byte < 0x80)
    (invalid : leadingByte byte = none) :
    lossy (byte :: rest) = Char.ofNat 0xFFFD :: lossy rest := by
  rw [lossy, List.length_cons, replaceInvalid, if_neg other, invalid, lossy]

/-- Each byte that continues a sequence adds six bits to its code. -/
def sequenceCode (code : Nat) (read : List UInt8) : Nat :=
  read.foldl (fun code next => code * 64 + next.toNat % 64) code

/-- A sequence that is complete has a character of its own. -/
def sequenceChar (byte : UInt8) (width : Nat) (read : List UInt8) : Char :=
  if read.length = width - 1 then
    Char.ofNat (sequenceCode (byte.toNat % 2 ^ (7 - width)) read)
  else Char.ofNat 0xFFFD

theorem lossy_sequence {byte : UInt8} (rest : List UInt8) (other : ¬ byte < 0x80) {width : Nat}
    {low high : UInt8} (leading : leadingByte byte = some (width, low, high)) :
    lossy (byte :: rest) =
      sequenceChar byte width (continuation (width - 1) low high rest) ::
        lossy (rest.drop (continuation (width - 1) low high rest).length) := by
  have less (left : Nat) : (rest.drop left).length ≤ rest.length := by
    rw [List.length_drop]
    omega
  rw [lossy, List.length_cons, replaceInvalid, if_neg other, leading]
  dsimp only
  rw [replaceInvalid_enough _ (less _), sequenceChar, sequenceCode]

/-- A byte below 0x80 continues no sequence. -/
theorem continuation_append {byte : UInt8} (ascii : byte < 0x80) (left : Nat) {low : UInt8}
    (high : UInt8) (bound : 0x80 ≤ low) (before after : List UInt8) :
    continuation left low high (before ++ byte :: after) = continuation left low high before := by
  induction before generalizing left low high with
  | nil =>
      cases left with
      | zero => rfl
      | succ left =>
          have outside : ¬ (low ≤ byte ∧ byte ≤ high) := by
            intro inside
            exact UInt8.lt_irrefl _
              (UInt8.lt_of_lt_of_le ascii (UInt8.le_trans bound inside.1))
          rw [List.nil_append, continuation, if_neg outside, continuation]
          simp
  | cons first rest ih =>
      cases left with
      | zero => rfl
      | succ left => rw [List.cons_append, continuation, continuation, ih left 0xBF (UInt8.le_refl _)]

theorem leadingByte_low {byte low high : UInt8} {width : Nat}
    (leading : leadingByte byte = some (width, low, high)) : 0x80 ≤ low := by
  unfold leadingByte at leading
  repeat' split at leading
  all_goals first | cases leading; decide | cases leading

theorem le_sequenceCode (code : Nat) (read : List UInt8) : code ≤ sequenceCode code read := by
  induction read generalizing code with
  | nil => exact Nat.le_refl _
  | cons next rest ih =>
      have grown := ih (code * 64 + next.toNat % 64)
      change code ≤ sequenceCode (code * 64 + next.toNat % 64) rest
      omega

/-- The byte behind the leading one lies between the bounds. -/
theorem continuation_first {left : Nat} {low high first : UInt8} {bytes rest : List UInt8}
    (read : continuation left low high bytes = first :: rest) : low ≤ first ∧ first ≤ high := by
  cases left with
  | zero => simp [continuation] at read
  | succ left =>
      cases bytes with
      | nil => simp [continuation] at read
      | cons byte bytes =>
          rw [continuation] at read
          split at read
          · next inside =>
            cases read
            exact inside
          · cases read

/-- The leading byte or the least byte behind it puts the code above the ASCII characters. -/
theorem leadingByte_start {byte low high : UInt8} {width : Nat}
    (leading : leadingByte byte = some (width, low, high)) :
    high.toNat ≤ 0xBF ∧
      (width = 2 ∧ 2 ≤ byte.toNat % 32 ∨
        2 < width ∧ (1 ≤ byte.toNat % 2 ^ (7 - width) ∨ 0x90 ≤ low.toNat)) := by
  unfold leadingByte at leading
  simp only [UInt8.le_iff_toNat_le, ← UInt8.toNat_inj, UInt8.reduceToNat] at leading
  repeat' split at leading
  all_goals cases leading
  all_goals simp only [UInt8.reduceToNat, Nat.reduceSub, Nat.reducePow, true_and]
  all_goals omega

/-- A complete sequence has a code above the ASCII characters, because the overlong ones are
invalid. -/
theorem sequenceCode_large {byte low high : UInt8} {width : Nat} {bytes : List UInt8}
    (leading : leadingByte byte = some (width, low, high))
    (complete : (continuation (width - 1) low high bytes).length = width - 1) :
    0x80 ≤ sequenceCode (byte.toNat % 2 ^ (7 - width))
      (continuation (width - 1) low high bytes) := by
  obtain ⟨top, start⟩ := leadingByte_start leading
  cases read : continuation (width - 1) low high bytes with
  | nil =>
      rw [read, List.length_nil] at complete
      omega
  | cons first rest =>
      rw [read, List.length_cons] at complete
      obtain ⟨least, most⟩ := continuation_first read
      rw [UInt8.le_iff_toNat_le] at least most
      change 0x80 ≤ sequenceCode (byte.toNat % 2 ^ (7 - width) * 64 + first.toNat % 64) rest
      rcases start with ⟨rfl, large⟩ | ⟨long, large⟩
      · have grown := le_sequenceCode (byte.toNat % 32 * 64 + first.toNat % 64) rest
        change 0x80 ≤ sequenceCode (byte.toNat % 32 * 64 + first.toNat % 64) rest
        omega
      · cases rest with
        | nil =>
            rw [List.length_nil] at complete
            omega
        | cons second rest =>
            have grown := le_sequenceCode
              ((byte.toNat % 2 ^ (7 - width) * 64 + first.toNat % 64) * 64 + second.toNat % 64) rest
            change 0x80 ≤ sequenceCode
              ((byte.toNat % 2 ^ (7 - width) * 64 + first.toNat % 64) * 64 + second.toNat % 64) rest
            generalize byte.toNat % 2 ^ (7 - width) = code at *
            omega

/-- A code that is no character becomes NUL. -/
theorem ofNat_toNat_eq (code : Nat) :
    (Char.ofNat code).toNat = if code.isValidChar then code else 0 := by
  by_cases valid : code.isValidChar
  · rw [if_pos valid, Char.ofNat, dif_pos valid]
    rfl
  · rw [if_neg valid, Char.ofNat, dif_neg valid]
    rfl

/-- A sequence gives no ASCII character but NUL. -/
theorem sequenceChar_large {byte low high : UInt8} {width : Nat} {bytes : List UInt8}
    (leading : leadingByte byte = some (width, low, high)) :
    (sequenceChar byte width (continuation (width - 1) low high bytes)).toNat = 0 ∨
      0x80 ≤ (sequenceChar byte width (continuation (width - 1) low high bytes)).toNat := by
  rw [sequenceChar]
  split
  · next complete =>
    have large := sequenceCode_large leading complete
    rw [ofNat_toNat_eq]
    split
    · exact .inr large
    · exact .inl rfl
  · exact .inr (by decide)

/-- The decoder takes one character at a time. A byte below 0x80 further on does not change the
first character, and only such a byte gives an ASCII character other than NUL. -/
theorem lossy_step (first : UInt8) (rest : List UInt8) :
    ∃ char left, lossy (first :: rest) = char :: lossy (rest.drop left) ∧
      (∀ byte : UInt8, byte < 0x80 → ∀ after, lossy (first :: (rest ++ byte :: after)) =
        char :: lossy (rest.drop left ++ byte :: after)) ∧
      (first < 0x80 ∧ char = Char.ofNat first.toNat ∨ char.toNat = 0 ∨ 0x80 ≤ char.toNat) := by
  by_cases plain : first < 0x80
  · exact ⟨Char.ofNat first.toNat, 0, lossy_ascii rest plain, fun _ _ _ => lossy_ascii _ plain,
      .inl ⟨plain, rfl⟩⟩
  · cases leading : leadingByte first with
    | none =>
        exact ⟨Char.ofNat 0xFFFD, 0, lossy_invalid rest plain leading,
          fun _ _ _ => lossy_invalid _ plain leading, .inr (.inr (by decide))⟩
    | some bounds =>
        obtain ⟨width, low, high⟩ := bounds
        have part := continuation_isPrefix (width - 1) low high rest
        refine ⟨_, _, lossy_sequence rest plain leading, ?_, .inr ?_⟩
        · intro byte ascii after
          rw [lossy_sequence _ plain leading,
            continuation_append ascii _ _ (leadingByte_low leading),
            List.drop_append_of_le_length part.length_le]
        · exact sequenceChar_large leading

/-- What holds of nothing, and of some bytes when it holds of what a character leaves of them, holds
of all bytes. -/
theorem lossy_induction {Holds : List UInt8 → Prop} (nil : Holds [])
    (step : ∀ first rest, (∀ left, Holds (rest.drop left)) → Holds (first :: rest))
    (bytes : List UInt8) : Holds bytes := by
  induction size : bytes.length using Nat.strongRecOn generalizing bytes with
  | ind size ih =>
      cases bytes with
      | nil => exact nil
      | cons first rest =>
          refine step first rest fun left => ih _ ?_ _ rfl
          rw [← size, List.length_drop, List.length_cons]
          omega

/-- A byte below 0x80 stands for itself, whatever is around it. -/
theorem lossy_append (before after : List UInt8) {byte : UInt8} (ascii : byte < 0x80) :
    lossy (before ++ byte :: after) = lossy before ++ Char.ofNat byte.toNat :: lossy after := by
  induction before using lossy_induction with
  | nil => exact lossy_ascii after ascii
  | step first rest ih =>
      obtain ⟨char, left, alone, around, -⟩ := lossy_step first rest
      rw [List.cons_append, around byte ascii after, ih left, alone, List.cons_append]

/-- An ASCII character comes from its own byte. -/
theorem mem_of_mem_lossy (bytes : List UInt8) {char : Char} (member : char ∈ lossy bytes)
    (positive : 0 < char.toNat) (ascii : char.toNat < 0x80) : UInt8.ofNat char.toNat ∈ bytes := by
  induction bytes using lossy_induction with
  | nil => simp [lossy_nil] at member
  | step first rest ih =>
      obtain ⟨head, left, alone, -, kind⟩ := lossy_step first rest
      rw [alone, List.mem_cons] at member
      rcases member with rfl | found
      · rcases kind with ⟨plain, rfl⟩ | zero | large
        · have valid : first.toNat.isValidChar := .inl (by have := first.toNat_lt; omega)
          rw [ofNat_toNat_eq, if_pos valid, UInt8.ofNat_toNat]
          exact List.mem_cons_self
        · omega
        · omega
      · exact List.mem_cons_of_mem _ (List.mem_of_mem_drop (ih left found))

theorem lossy_ne_nil {bytes : List UInt8} (some : bytes ≠ []) : lossy bytes ≠ [] := by
  obtain ⟨first, rest, rfl⟩ := List.exists_cons_of_ne_nil some
  obtain ⟨char, left, alone, -⟩ := lossy_step first rest
  rw [alone]
  exact List.cons_ne_nil _ _

theorem continuation_take {left : Nat} {low high byte : UInt8} (rest : List UInt8)
    (inside : low ≤ byte ∧ byte ≤ high) :
    continuation (left + 1) low high (byte :: rest) =
      byte :: continuation left 0x80 0xBF rest := by
  rw [continuation, if_pos inside]

theorem continuation_zero (low high : UInt8) (bytes : List UInt8) :
    continuation 0 low high bytes = [] := by
  simp [continuation]

/-- A byte that continues a sequence has the top bits 10. -/
def Continues (byte : UInt8) : Prop := 0x80 ≤ byte.toNat ∧ byte.toNat ≤ 0xBF

theorem Continues.inside {byte : UInt8} (continues : Continues byte) :
    0x80 ≤ byte ∧ byte ≤ 0xBF :=
  continues

/-- A sequence of two bytes is read as a whole. -/
theorem lossy_two {first second : UInt8} (rest : List UInt8)
    (leading : 0xC2 ≤ first.toNat ∧ first.toNat ≤ 0xDF) (continues : Continues second) :
    lossy (first :: second :: rest) =
      Char.ofNat (first.toNat % 32 * 64 + second.toNat % 64) :: lossy rest := by
  have other : ¬ first < 0x80 := by
    intro (small : first.toNat < 0x80)
    omega
  have width : leadingByte first = some (2, 0x80, 0xBF) := if_pos leading
  rw [lossy_sequence _ other width, continuation_take _ continues.inside, continuation_zero]
  rfl

/-- A sequence of three bytes is read as a whole, unless it is overlong or a surrogate. -/
theorem lossy_three {first second third : UInt8} (rest : List UInt8)
    (leading : 0xE0 ≤ first.toNat ∧ first.toNat ≤ 0xEF)
    (overlong : first.toNat = 0xE0 → 0xA0 ≤ second.toNat)
    (surrogate : first.toNat = 0xED → second.toNat ≤ 0x9F)
    (continues : Continues second) (ends : Continues third) :
    lossy (first :: second :: third :: rest) =
      Char.ofNat ((first.toNat % 16 * 64 + second.toNat % 64) * 64 + third.toNat % 64) ::
        lossy rest := by
  have other : ¬ first < 0x80 := by
    intro (small : first.toNat < 0x80)
    omega
  have bounds : ∃ low high, leadingByte first = some (3, low, high) ∧
      low.toNat ≤ second.toNat ∧ second.toNat ≤ high.toNat := by
    unfold leadingByte
    simp only [UInt8.le_iff_toNat_le, ← UInt8.toNat_inj, UInt8.reduceToNat]
    rw [if_neg (by omega)]
    by_cases least : first.toNat = 0xE0
    · rw [if_pos least]
      exact ⟨_, _, rfl, overlong least, continues.2⟩
    · rw [if_neg least]
      by_cases high : first.toNat = 0xED
      · rw [if_pos high]
        exact ⟨_, _, rfl, continues.1, surrogate high⟩
      · rw [if_neg high, if_pos (by omega)]
        exact ⟨_, _, rfl, continues.1, continues.2⟩
  obtain ⟨low, high, width, inside⟩ := bounds
  rw [lossy_sequence _ other width, continuation_take _ inside, continuation_take _ ends.inside,
    continuation_zero]
  rfl

/-- A sequence of four bytes is read as a whole, unless it is overlong or too large. -/
theorem lossy_four {first second third fourth : UInt8} (rest : List UInt8)
    (leading : 0xF0 ≤ first.toNat ∧ first.toNat ≤ 0xF4)
    (overlong : first.toNat = 0xF0 → 0x90 ≤ second.toNat)
    (large : first.toNat = 0xF4 → second.toNat ≤ 0x8F)
    (continues : Continues second) (follows : Continues third) (ends : Continues fourth) :
    lossy (first :: second :: third :: fourth :: rest) =
      Char.ofNat (((first.toNat % 8 * 64 + second.toNat % 64) * 64 + third.toNat % 64) * 64 +
        fourth.toNat % 64) :: lossy rest := by
  have other : ¬ first < 0x80 := by
    intro (small : first.toNat < 0x80)
    omega
  have bounds : ∃ low high, leadingByte first = some (4, low, high) ∧
      low.toNat ≤ second.toNat ∧ second.toNat ≤ high.toNat := by
    unfold leadingByte
    simp only [UInt8.le_iff_toNat_le, ← UInt8.toNat_inj, UInt8.reduceToNat]
    rw [if_neg (by omega), if_neg (by omega), if_neg (by omega), if_neg (by omega)]
    by_cases least : first.toNat = 0xF0
    · rw [if_pos least]
      exact ⟨_, _, rfl, overlong least, continues.2⟩
    · rw [if_neg least]
      by_cases most : first.toNat = 0xF4
      · rw [if_neg (by omega), if_pos most]
        exact ⟨_, _, rfl, continues.1, large most⟩
      · rw [if_pos (by omega)]
        exact ⟨_, _, rfl, continues.1, continues.2⟩
  obtain ⟨low, high, width, inside⟩ := bounds
  rw [lossy_sequence _ other width, continuation_take _ inside, continuation_take _ follows.inside,
    continuation_take _ ends.inside, continuation_zero]
  rfl

/-- The bytes of a character are read as that character. -/
theorem lossy_utf8EncodeChar (char : Char) (rest : List UInt8) :
    lossy (String.utf8EncodeChar char ++ rest) = char :: lossy rest := by
  have valid : char.val.toNat < 0xD800 ∨ 0xDFFF < char.val.toNat ∧ char.val.toNat < 0x110000 :=
    char.valid
  have same : Char.ofNat char.val.toNat = char := char.ofNat_toNat
  unfold String.utf8EncodeChar
  dsimp only
  generalize char.val.toNat = code at *
  have byte {value : Nat} (small : value < 256) : (UInt8.ofNat value).toNat = value :=
    UInt8.toNat_ofNat_of_lt' small
  have continues (value : Nat) : Continues (UInt8.ofNat (value % 64 + 128)) := by
    rw [Continues, byte (by omega)]
    omega
  by_cases one : code ≤ 0x7F
  · have ascii : UInt8.ofNat code < 0x80 := by
      rw [UInt8.lt_iff_toNat_lt, byte (by omega)]
      exact Nat.lt_succ_of_le one
    rw [if_pos one, List.singleton_append, lossy_ascii rest ascii, byte (by omega), same]
  · rw [if_neg one]
    by_cases two : code ≤ 0x7FF
    · have leading : (UInt8.ofNat (code / 64 % 32 + 192)).toNat = code / 64 % 32 + 192 :=
        byte (by omega)
      have total : (code / 64 % 32 + 192) % 32 * 64 + (code % 64 + 128) % 64 = code := by omega
      rw [if_pos two, List.cons_append, List.singleton_append,
        lossy_two rest (by omega) (continues code), leading, byte (by omega), total, same]
    · rw [if_neg two]
      by_cases three : code ≤ 0xFFFF
      · have leading : (UInt8.ofNat (code / 4096 % 16 + 224)).toNat = code / 4096 % 16 + 224 :=
          byte (by omega)
        have second : (UInt8.ofNat (code / 64 % 64 + 128)).toNat = code / 64 % 64 + 128 :=
          byte (by omega)
        have total : ((code / 4096 % 16 + 224) % 16 * 64 + (code / 64 % 64 + 128) % 64) * 64 +
            (code % 64 + 128) % 64 = code := by omega
        rw [if_pos three, List.cons_append, List.cons_append, List.singleton_append,
          lossy_three rest (by omega) (by omega) (by omega) (continues _) (continues _), leading,
          second, byte (by omega), total, same]
      · have leading : (UInt8.ofNat (code / 262144 % 8 + 240)).toNat = code / 262144 % 8 + 240 :=
          byte (by omega)
        have second : (UInt8.ofNat (code / 4096 % 64 + 128)).toNat = code / 4096 % 64 + 128 :=
          byte (by omega)
        have third : (UInt8.ofNat (code / 64 % 64 + 128)).toNat = code / 64 % 64 + 128 :=
          byte (by omega)
        have total : (((code / 262144 % 8 + 240) % 8 * 64 + (code / 4096 % 64 + 128) % 64) * 64 +
            (code / 64 % 64 + 128) % 64) * 64 + (code % 64 + 128) % 64 = code := by omega
        rw [if_neg three, List.cons_append, List.cons_append, List.cons_append,
          List.singleton_append,
          lossy_four rest (by omega) (by omega) (by omega) (continues _) (continues _)
            (continues _), leading, second, third, byte (by omega), total, same]

/-- A valid text is not changed. -/
theorem lossy_utf8 (text : String) : lossy (utf8 text) = text.toList := by
  have encoded : utf8 text = text.toList.flatMap String.utf8EncodeChar := by
    rw [utf8, ← String.utf8Encode_toList]
    simp [List.utf8Encode]
  rw [encoded]
  generalize text.toList = chars
  induction chars with
  | nil => rfl
  | cons char rest ih => rw [List.flatMap_cons, lossy_utf8EncodeChar, ih]

/-- Both branches of the decoder read the bytes in the same way. -/
theorem toStringLossy_toList (bytes : List UInt8) : (toStringLossy bytes).toList = lossy bytes := by
  rw [toStringLossy]
  cases decoded : fromUtf8 bytes with
  | none => exact String.toList_ofList
  | some text =>
      dsimp only
      rw [← lossy_utf8 text, utf8_of_fromUtf8 decoded]

end Rtftp

import Rtftp.Construction.IpParser

namespace Rtftp.IpAddr
open Library

/-- A group has up to four hexadecimal digits of either case, with any zeros in front. -/
structure IsGroup (digits : List Char) (group : UInt16) : Prop where
  some : digits ≠ []
  short : digits.length ≤ 4
  value : numeral 16 digits 0 = Option.some group.toNat

/-- Every group but the first one has a colon before it. -/
def separated (index : Nat) (text : List Char) : List Char :=
  if index = 0 then text else ':' :: text

theorem separated_append (index : Nat) (text rest : List Char) :
    separated index (text ++ rest) = separated index text ++ rest := by
  unfold separated
  split <;> rfl

/-- This is the text of some groups from an index on. The last two may be an IPv4 address. -/
inductive Groups : (index : Nat) → (text : List Char) → (groups : List UInt16) → (ipv4 : Bool) →
    Prop where
  | nothing {index : Nat} : Groups index [] [] false
  | group {index : Nat} {digits rest : List Char} {first : UInt16} {groups : List UInt16}
      {ipv4 : Bool} (leading : IsGroup digits first) (more : Groups (index + 1) rest groups ipv4) :
      Groups index (separated index (digits ++ rest)) (first :: groups) ipv4
  | octets {index : Nat} {a b c d : UInt8} :
      Groups index (separated index (v4Text a b c d)) [fromBeBytes a b, fromBeBytes c d] true

/-- These are all texts of an address. An IPv4 address has only one. An IPv6 address has eight
groups, or fewer with two colons in the place of zeros. -/
inductive Spells : List Char → IpAddr → Prop where
  | v4 {a b c d : UInt8} : Spells (v4Text a b c d) (.v4 a b c d)
  | full {text : List Char} {groups : List UInt16} {ipv4 : Bool} (read : Groups 0 text groups ipv4)
      (complete : groups.length = 8) : Spells text (.v6 (Parser.toSegments groups))
  | shortened {headText tailText : List Char} {head tail : List UInt16} {ipv4 : Bool}
      (before : Groups 0 headText head false) (behind : Groups 0 tailText tail ipv4)
      (fewer : head.length + tail.length < 8) :
      Spells (headText ++ ':' :: ':' :: tailText) (.v6 (Parser.toSegments
        (head ++ List.replicate (8 - tail.length - head.length) 0 ++ tail)))

namespace Parser

section
variable {radix maxDigits bound digitCount result count value : Nat} {allowZeroPrefix : Bool}
  {state digits rest : List Char}

/-- The loop stops behind the digits at the front of the text. -/
theorem readDigits_sound (room : digitCount ≤ maxDigits)
    (read : readDigits radix maxDigits state digitCount result = some (count, value, rest)) :
    ∃ digits, state = digits ++ rest ∧ numeral radix digits result = some value ∧
      digitCount + digits.length = count ∧ count ≤ maxDigits ∧ Stops radix rest := by
  induction state generalizing digitCount result with
  | nil =>
      cases read
      exact ⟨[], rfl, rfl, rfl, room, by simp [Stops]⟩
  | cons char state ih =>
      rw [readDigits] at read
      cases digit : toDigit radix char with
      | none =>
          rw [digit] at read
          cases read
          exact ⟨[], rfl, rfl, rfl, room, by simpa [Stops] using digit⟩
      | some number =>
          rw [digit] at read
          dsimp only at read
          split at read
          · cases read
          · obtain ⟨digits, rfl, numbered, length, within, stops⟩ := ih (by omega) read
            refine ⟨char :: digits, rfl, ?_, ?_, within, stops⟩
            · rw [numeral, digit]
              exact numbered
            · rw [List.length_cons]
              omega

/-- The loop reads the digits up to the first other character. -/
theorem readDigits_complete (numbered : numeral radix digits result = some value)
    (room : digitCount + digits.length ≤ maxDigits) (stops : Stops radix rest) :
    readDigits radix maxDigits (digits ++ rest) digitCount result =
      some (digitCount + digits.length, value, rest) := by
  induction digits generalizing digitCount result with
  | nil =>
      cases numbered
      cases rest with
      | nil => rfl
      | cons char rest =>
          rw [List.nil_append, readDigits, stops char rfl]
          rfl
  | cons char digits ih =>
      rw [numeral, Option.bind_eq_some_iff] at numbered
      obtain ⟨digit, front, numbered⟩ := numbered
      rw [List.length_cons] at room ⊢
      rw [List.cons_append, readDigits, front]
      dsimp only
      rw [if_neg (by omega), ih numbered (by omega), show digitCount + 1 + digits.length =
        digitCount + (digits.length + 1) by omega]

/-- A number is a run of digits that is neither empty nor too long, with a value in its type. -/
theorem readNumber_eq_some_iff :
    readNumber radix maxDigits bound allowZeroPrefix state = some (value, rest) ↔
      ∃ digits, state = digits ++ rest ∧ digits ≠ [] ∧ digits.length ≤ maxDigits ∧
        numeral radix digits 0 = some value ∧ value < bound ∧ Stops radix rest ∧
        (allowZeroPrefix = false → digits.head? = some '0' → digits.length = 1) := by
  constructor
  · intro read
    unfold readNumber at read
    split at read
    · cases read
    · rename_i count number _ digitsRead
      obtain ⟨digits, rfl, numbered, length, within, stops⟩ :=
        readDigits_sound (Nat.zero_le _) digitsRead
      rw [Nat.zero_add] at length
      subst length
      split at read
      · cases read
      · rename_i counted
        have some : digits ≠ [] := fun empty => counted (by rw [empty]; rfl)
        rw [List.head?_append_of_ne_nil _ some] at read
        split at read
        · cases read
        · rename_i plain
          split at read
          · rename_i small
            cases read
            refine ⟨digits, rfl, some, within, numbered, small, stops, ?_⟩
            intro strict zero
            simp only [strict, zero, BEq.rfl, Bool.not_false, Bool.true_and,
              decide_eq_true_eq] at plain
            omega
          · cases read
  · rintro ⟨digits, rfl, some, short, numbered, small, stops, plain⟩
    have length := List.length_pos_iff.mpr some
    unfold readNumber
    rw [readDigits_complete numbered (by omega) stops]
    dsimp only
    rw [Nat.zero_add, if_neg (by omega), if_neg, if_pos small]
    rw [List.head?_append_of_ne_nil _ some]
    intro refused
    simp only [Bool.and_eq_true, Bool.not_eq_true', beq_iff_eq, decide_eq_true_eq] at refused
    have single := plain refused.1.1 refused.1.2
    omega

end

variable {state rest : List Char}

/-- An octet is read exactly where its own decimal text stands. -/
theorem readOctet_eq_some_iff {octet : UInt8} :
    readOctet state = some (octet, rest) ↔
      state = Nat.toDigits 10 octet.toNat ++ rest ∧ Stops 10 rest := by
  unfold readOctet
  constructor
  · intro read
    obtain ⟨⟨number, _⟩, found, same⟩ := Option.map_eq_some_iff.mp read
    cases same
    obtain ⟨digits, rfl, some, _, numbered, small, stops, plain⟩ := readNumber_eq_some_iff.mp found
    have bounded : (UInt8.ofNat number).toNat = number := UInt8.toNat_ofNat_of_lt' small
    rw [bounded, ← toDigits_of_numeral some (plain rfl) numbered]
    exact ⟨rfl, stops⟩
  · rintro ⟨rfl, stops⟩
    have found : readNumber 10 3 256 false (Nat.toDigits 10 octet.toNat ++ rest) =
        some (octet.toNat, rest) := by
      apply readNumber_eq_some_iff.mpr
      refine ⟨_, rfl, Nat.toDigits_ne_nil, ?_, numeral_toDigits (by decide) (by decide) _,
        octet.toNat_lt, stops, ?_⟩
      · rw [Nat.length_toDigits_le_iff (by decide) (by decide)]
        have bounded := octet.toNat_lt
        omega
      · intro _ zero
        rw [eq_zero_of_head_toDigits (by decide) (by decide) zero]
        rfl
    rw [found]
    simp

@[simp] theorem readSeparator_zero {A : Type} (separator : Char)
    (inner : List Char → Option (A × List Char)) (state : List Char) :
    readSeparator separator 0 inner state = inner state := rfl

theorem readGivenChar_eq_some_iff {target : Char} :
    readGivenChar target state = some rest ↔ state = target :: rest := by
  cases state with
  | nil => simp [readGivenChar]
  | cons char state => simp [readGivenChar]

/-- A later item is read behind its separator. -/
theorem readSeparator_succ_eq_some_iff {A : Type} {separator : Char} {index : Nat}
    {inner : List Char → Option (A × List Char)} {result : A × List Char} :
    readSeparator separator (index + 1) inner state = some result ↔
      ∃ behind, state = separator :: behind ∧ inner behind = some result := by
  rw [readSeparator, if_pos (Nat.succ_pos _), Option.bind_eq_some_iff]
  simp only [readGivenChar_eq_some_iff]

theorem stops_dot (text : List Char) : Stops 10 ('.' :: text) := by
  simp [Stops]
  decide

/-- An IPv4 address is read exactly where its own text stands. -/
theorem readIpv4Addr_eq_some_iff {a b c d : UInt8} :
    readIpv4Addr state = some ((a, b, c, d), rest) ↔
      state = v4Text a b c d ++ rest ∧ Stops 10 rest := by
  simp only [readIpv4Addr, Option.bind_eq_some_iff, readSeparator_zero, Prod.exists,
    readSeparator_succ_eq_some_iff, readOctet_eq_some_iff, Option.some.injEq, Prod.mk.injEq]
  constructor
  · rintro ⟨a, _, ⟨rfl, _⟩, b, _, ⟨_, rfl, rfl, _⟩, c, _, ⟨_, rfl, rfl, _⟩, d, _, ⟨_, rfl, rfl, stops⟩,
      ⟨rfl, rfl, rfl, rfl⟩, rfl⟩
    exact ⟨by simp [v4Text], stops⟩
  · rintro ⟨rfl, stops⟩
    refine ⟨a, _, ⟨?_, stops_dot _⟩, b, _, ⟨_, rfl, rfl, stops_dot _⟩, c, _,
      ⟨_, rfl, rfl, stops_dot _⟩, d, rest, ⟨_, rfl, rfl, stops⟩, ⟨rfl, rfl, rfl, rfl⟩, rfl⟩
    simp [v4Text]

/-- A group is read up to the first character that is no hexadecimal digit. -/
theorem readGroup_eq_some_iff {group : UInt16} :
    readGroup state = some (group, rest) ↔
      ∃ digits, state = digits ++ rest ∧ IsGroup digits group ∧ Stops 16 rest := by
  unfold readGroup
  constructor
  · intro read
    obtain ⟨⟨number, _⟩, found, same⟩ := Option.map_eq_some_iff.mp read
    cases same
    obtain ⟨digits, rfl, some, short, numbered, small, stops, _⟩ := readNumber_eq_some_iff.mp found
    have bounded : (UInt16.ofNat number).toNat = number := UInt16.toNat_ofNat_of_lt' small
    exact ⟨digits, rfl, ⟨some, short, by rw [bounded]; exact numbered⟩, stops⟩
  · rintro ⟨digits, rfl, ⟨some, short, numbered⟩, stops⟩
    have found : readNumber 16 4 65536 true (digits ++ rest) = Option.some (group.toNat, rest) := by
      apply readNumber_eq_some_iff.mpr
      exact ⟨digits, rfl, some, short, numbered, group.toNat_lt, stops, fun strict => by cases strict⟩
    rw [found]
    simp

/-- An item is read behind the separator of its index. -/
theorem readSeparator_eq_some_iff {A : Type} {index : Nat}
    {inner : List Char → Option (A × List Char)} {result : A × List Char} :
    readSeparator ':' index inner state = some result ↔
      ∃ behind, state = separated index behind ∧ inner behind = some result := by
  cases index with
  | zero => simp [separated]
  | succ index => exact readSeparator_succ_eq_some_iff

/-- What is read as groups is a text of these groups. -/
theorem readGroups_sound {slots index : Nat} {groups : List UInt16} {ipv4 : Bool}
    (read : readGroups slots index state = (groups, ipv4, rest)) :
    ∃ text, state = text ++ rest ∧ Groups index text groups ipv4 ∧ groups.length ≤ slots := by
  induction slots generalizing index state groups with
  | zero =>
      cases read
      exact ⟨[], rfl, .nothing, Nat.le_refl _⟩
  | succ slots ih =>
      rw [readGroups] at read
      split at read
      · rename_i a b c d _ embedded
        cases read
        split at embedded
        · rename_i room
          obtain ⟨behind, rfl, found⟩ := readSeparator_eq_some_iff.mp embedded
          obtain ⟨rfl, _⟩ := readIpv4Addr_eq_some_iff.mp found
          refine ⟨separated index (v4Text a b c d), ?_, .octets, ?_⟩
          · exact separated_append _ _ _
          · rw [List.length_cons, List.length_singleton]
            omega
        · cases embedded
      · split at read
        · rename_i group _ placed
          obtain ⟨behind, rfl, found⟩ := readSeparator_eq_some_iff.mp placed
          obtain ⟨digits, rfl, leading, _⟩ := readGroup_eq_some_iff.mp found
          cases read
          obtain ⟨text, same, more, fits⟩ := ih rfl
          refine ⟨separated index (digits ++ text), ?_, .group leading more, Nat.succ_le_succ fits⟩
          rw [← separated_append, List.append_assoc, ← same]
        · cases read
          exact ⟨[], rfl, .nothing, Nat.zero_le _⟩

/-- Behind a group the text ends, or a colon follows. -/
def AtColon (rest : List Char) : Prop := rest = [] ∨ ∃ more, rest = ':' :: more

/-- Behind the groups the text ends, or the two colons follow. -/
def Closing (rest : List Char) : Prop := rest = [] ∨ ∃ more, rest = ':' :: ':' :: more

theorem Closing.atColon (closing : Closing rest) : AtColon rest := by
  rcases closing with rfl | ⟨more, rfl⟩
  · exact .inl rfl
  · exact .inr ⟨_, rfl⟩

/-- No address and no group starts with a colon. -/
theorem stops_colon (radix : Nat) (text : List Char) : Stops radix (':' :: text) := by
  have none : digitValue ':' = Option.none := by decide
  simp [Stops, toDigit, none]

theorem AtColon.stops (atColon : AtColon rest) (radix : Nat) : Stops radix rest := by
  rcases atColon with rfl | ⟨more, rfl⟩
  · simp [Stops]
  · exact stops_colon radix more

/-- A number needs a digit at the front. -/
theorem readNumber_eq_none {radix maxDigits bound : Nat} {allowZeroPrefix : Bool}
    (stops : Stops radix state) :
    readNumber radix maxDigits bound allowZeroPrefix state = none := by
  have empty : readDigits radix maxDigits ([] ++ state) 0 0 = some (0, 0, state) :=
    readDigits_complete rfl (Nat.zero_le _) stops
  rw [readNumber, ← List.nil_append state, empty]
  rfl

theorem readIpv4Addr_eq_none (stops : Stops 10 state) : readIpv4Addr state = none := by
  rw [readIpv4Addr, readSeparator_zero, readOctet, readNumber_eq_none stops]
  rfl

theorem readGroup_eq_none (stops : Stops 16 state) : readGroup state = none := by
  rw [readGroup, readNumber_eq_none stops]
  rfl

/-- Nothing more is read at the end of the groups. -/
theorem readSeparator_closing {A : Type} {inner : List Char → Option (A × List Char)}
    {radix : Nat} (fails : ∀ state, Stops radix state → inner state = none)
    (closing : Closing rest) (index : Nat) : readSeparator ':' index inner rest = none := by
  cases index with
  | zero => exact fails rest (closing.atColon.stops radix)
  | succ index =>
      rcases closing with rfl | ⟨more, rfl⟩
      · rfl
      · exact fails _ (stops_colon radix more)

theorem readSeparator_separated {A : Type} (inner : List Char → Option (A × List Char))
    (index : Nat) (text : List Char) :
    readSeparator ':' index inner (separated index text) = inner text := by
  cases index with
  | zero => rfl
  | succ index => simp [readSeparator, separated, readGivenChar]

theorem v4Text_append (a b c d : UInt8) (rest : List Char) :
    ∃ more, v4Text a b c d ++ rest = Nat.toDigits 10 a.toNat ++ '.' :: more := by
  simp only [v4Text, List.append_assoc, List.cons_append]
  exact ⟨_, rfl⟩

/-- A group with a colon or the end behind it is no IPv4 address. -/
theorem readIpv4Addr_group {digits : List Char} {group : UInt16} (leading : IsGroup digits group)
    (behind : AtColon rest) : readIpv4Addr (digits ++ rest) = none := by
  have dotless : '.' ∉ digits := fun member => toDigit_of_mem_numeral leading.value member (by decide)
  have plain (octet : UInt8) : ':' ∉ Nat.toDigits 10 octet.toNat := fun member =>
    toDigit_of_mem_numeral (numeral_toDigits (by decide) (by decide) _) member (by decide)
  cases read : readIpv4Addr (digits ++ rest) with
  | none => rfl
  | some result =>
      obtain ⟨⟨a, b, c, d⟩, last⟩ := result
      obtain ⟨more, text⟩ := v4Text_append a b c d last
      have same := (readIpv4Addr_eq_some_iff.mp read).1.trans text
      rcases List.append_eq_append_iff.mp same with ⟨between, front, back⟩ | ⟨between, front, back⟩
      · cases between with
        | nil => rcases behind with rfl | ⟨more, rfl⟩ <;> cases back
        | cons char between =>
            rcases behind with rfl | ⟨more, rfl⟩
            · cases back
            · cases back
              exact absurd (by simp [front]) (plain a)
      · cases between with
        | nil => rcases behind with rfl | ⟨more, rfl⟩ <;> cases back
        | cons char between =>
            cases back
            exact absurd (by simp [front]) dotless

/-- The text of later groups starts with a colon. -/
theorem Groups.atColon {index : Nat} {text : List Char} {groups : List UInt16} {ipv4 : Bool}
    (spelled : Groups (index + 1) text groups ipv4) (closing : Closing rest) :
    AtColon (text ++ rest) := by
  cases spelled with
  | nothing => exact closing.atColon
  | group leading more => exact .inr ⟨_, rfl⟩
  | octets => exact .inr ⟨_, rfl⟩

/-- The text of some groups is read as these groups. -/
theorem readGroups_complete {slots index : Nat} {text : List Char} {groups : List UInt16}
    {ipv4 : Bool} (spelled : Groups index text groups ipv4) (fits : groups.length ≤ slots)
    (closing : Closing rest) :
    readGroups slots index (text ++ rest) = (groups, ipv4, rest) := by
  induction spelled generalizing slots with
  | @nothing index =>
      cases slots with
      | zero => rfl
      | succ slots =>
          rw [List.nil_append, readGroups,
            readSeparator_closing (fun _ => readIpv4Addr_eq_none) closing, ite_self,
            readSeparator_closing (fun _ => readGroup_eq_none) closing]
  | @group index digits more first groups ipv4 leading spelled ih =>
      obtain ⟨slots, rfl⟩ : ∃ fewer, slots = fewer + 1 :=
        Nat.exists_eq_succ_of_ne_zero (Nat.ne_of_gt (Nat.lt_of_lt_of_le (Nat.succ_pos _) fits))
      have behind := Groups.atColon spelled closing
      have read : readGroup (digits ++ (more ++ rest)) = some (first, more ++ rest) :=
        readGroup_eq_some_iff.mpr ⟨digits, rfl, leading, behind.stops 16⟩
      rw [← separated_append, List.append_assoc, readGroups, readSeparator_separated,
        readSeparator_separated, readIpv4Addr_group leading behind, ite_self, read]
      dsimp only
      rw [ih (Nat.le_of_succ_le_succ fits)]
  | @octets index a b c d =>
      obtain ⟨slots, rfl⟩ : ∃ fewer, slots = fewer + 2 := Nat.exists_eq_add_of_le' fits
      have read : readIpv4Addr (v4Text a b c d ++ rest) = some ((a, b, c, d), rest) :=
        readIpv4Addr_eq_some_iff.mpr ⟨rfl, closing.atColon.stops 10⟩
      rw [← separated_append, readGroups, readSeparator_separated, read, if_pos (Nat.succ_pos _)]

/-- What is read as an IPv6 address to the end of the text is one of its texts. -/
theorem readIpv6Addr_sound {segments : Vector UInt16 8}
    (read : readIpv6Addr state = some (segments, [])) : Spells state (.v6 segments) := by
  unfold readIpv6Addr at read
  rcases headRead : readGroups 8 0 state with ⟨head, ipv4, behind⟩
  obtain ⟨headText, rfl, before, within⟩ := readGroups_sound headRead
  rw [headRead] at read
  dsimp only at read
  split at read
  · rename_i complete
    cases read
    rw [List.append_nil]
    exact .full before complete
  · split at read
    · cases read
    · rename_i incomplete plain
      rw [Bool.not_eq_true] at plain
      subst plain
      simp only [Option.bind_eq_some_iff, readGivenChar_eq_some_iff] at read
      obtain ⟨_, rfl, rest, rfl, read⟩ := read
      rcases tailRead : readGroups (8 - (head.length + 1)) 0 rest with ⟨tail, tailIpv4, last⟩
      obtain ⟨tailText, rfl, behind, fits⟩ := readGroups_sound tailRead
      rw [tailRead] at read
      dsimp only at read
      cases read
      rw [List.append_nil]
      exact .shortened before behind (by omega)

theorem readIpv6Addr_full {text : List Char} {groups : List UInt16} {ipv4 : Bool}
    (spelled : Groups 0 text groups ipv4) (complete : groups.length = 8) :
    readIpv6Addr text = some (toSegments groups, []) := by
  have read : readGroups 8 0 (text ++ []) = (groups, ipv4, []) :=
    readGroups_complete spelled (by omega) (.inl rfl)
  rw [List.append_nil] at read
  rw [readIpv6Addr, read]
  exact if_pos complete

theorem readIpv6Addr_shortened {headText tailText : List Char} {head tail : List UInt16}
    {ipv4 : Bool} (before : Groups 0 headText head false) (behind : Groups 0 tailText tail ipv4)
    (fewer : head.length + tail.length < 8) :
    readIpv6Addr (headText ++ ':' :: ':' :: tailText) = some (toSegments
      (head ++ List.replicate (8 - tail.length - head.length) 0 ++ tail), []) := by
  have headRead : readGroups 8 0 (headText ++ ':' :: ':' :: tailText) =
      (head, false, ':' :: ':' :: tailText) :=
    readGroups_complete before (by omega) (.inr ⟨_, rfl⟩)
  have tailRead : readGroups (8 - (head.length + 1)) 0 (tailText ++ []) = (tail, ipv4, []) :=
    readGroups_complete behind (by omega) (.inl rfl)
  rw [List.append_nil] at tailRead
  rw [readIpv6Addr, headRead]
  dsimp only
  rw [if_neg (by omega), if_neg Bool.false_ne_true, readGivenChar_eq_some_iff.mpr rfl,
    Option.bind_some, readGivenChar_eq_some_iff.mpr rfl, Option.bind_some, tailRead]

/-- The groups of an IPv6 address are no IPv4 address. -/
theorem readIpv4Addr_groups {text : List Char} {groups : List UInt16} {ipv4 : Bool}
    (spelled : Groups 0 text groups ipv4) (long : ipv4 = false ∨ groups.length = 8)
    (closing : Closing rest) : readIpv4Addr (text ++ rest) = none := by
  cases spelled with
  | nothing => exact readIpv4Addr_eq_none (closing.atColon.stops 10)
  | @group _ digits more first groups _ leading spelled =>
      rw [← separated_append, List.append_assoc]
      exact readIpv4Addr_group leading (Groups.atColon spelled closing)
  | octets =>
      rcases long with embedded | complete
      · cases embedded
      · cases complete

end Parser

/-- The parser accepts exactly the texts of an address. -/
theorem fromStr_eq_some_iff {text : List Char} {address : IpAddr} :
    fromStr text = some address ↔ Spells text address := by
  constructor
  · intro parsed
    unfold fromStr Parser.readIpAddr at parsed
    split at parsed
    · rename_i read
      cases parsed
      split at read
      · rename_i found
        cases read
        obtain ⟨rfl, _⟩ := Parser.readIpv4Addr_eq_some_iff.mp found
        rw [List.append_nil]
        exact .v4
      · obtain ⟨result, found, same⟩ := Option.map_eq_some_iff.mp read
        obtain ⟨segments, rest⟩ := result
        cases same
        exact Parser.readIpv6Addr_sound found
    · cases parsed
  · intro spelled
    cases spelled with
    | @v4 a b c d =>
        have stops : Stops 10 [] := by simp [Stops]
        have read := Parser.readIpv4Addr_eq_some_iff.mpr
          ⟨(List.append_nil (v4Text a b c d)).symm, stops⟩
        rw [fromStr, Parser.readIpAddr, read]
    | @full _ groups ipv4 read complete =>
        have other := Parser.readIpv4Addr_groups read (.inr complete) (.inl rfl)
        rw [List.append_nil] at other
        rw [fromStr, Parser.readIpAddr, other, Parser.readIpv6Addr_full read complete]
        rfl
    | @shortened _ tailText _ _ _ before behind fewer =>
        have other := Parser.readIpv4Addr_groups before (.inl rfl) (.inr ⟨tailText, rfl⟩)
        rw [fromStr, Parser.readIpAddr, other, Parser.readIpv6Addr_shortened before behind fewer]
        rfl

example : Spells "1::0:2.3.4.5".toList (.v6 #v[1, 0, 0, 0, 0, 0, 0x203, 0x405]) :=
  fromStr_eq_some_iff.mp (by decide)

end Rtftp.IpAddr

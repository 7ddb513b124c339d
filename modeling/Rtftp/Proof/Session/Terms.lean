import Rtftp.Proof.Session.Offer

namespace Rtftp
open Library

/-- A digit is one byte, and it is not NUL. -/
theorem utf8EncodeChar_digit {digit : Char} (decimal : digit.isDigit = true) :
    ∃ byte, String.utf8EncodeChar digit = [byte] ∧ byte ≠ 0 := by
  simp only [Char.isDigit, Bool.and_eq_true, decide_eq_true_eq, ge_iff_le, UInt32.le_iff_toNat_le]
    at decimal
  obtain ⟨lower, upper⟩ := decimal
  change 48 ≤ digit.val.toNat at lower
  change digit.val.toNat ≤ 57 at upper
  refine ⟨UInt8.ofNat digit.val.toNat, if_pos (by omega), fun zero => ?_⟩
  have same := congrArg UInt8.toNat zero
  rw [UInt8.toNat_ofNat'] at same
  change digit.val.toNat % 256 = 0 at same
  omega

/-- A text of digits has as many bytes as digits, and no NUL. -/
theorem utf8_digits (digits : List Char) (decimal : ∀ digit ∈ digits, digit.isDigit = true) :
    0 ∉ utf8 (String.ofList digits) ∧ (utf8 (String.ofList digits)).length = digits.length := by
  have encoded : utf8 (String.ofList digits) = digits.flatMap String.utf8EncodeChar := by
    simp [utf8, String.toByteArray_ofList, List.utf8Encode]
  rw [encoded]
  clear encoded
  induction digits with
  | nil => exact ⟨List.not_mem_nil, rfl⟩
  | cons digit rest ih =>
      obtain ⟨clean, length⟩ := ih fun digit member => decimal digit (List.mem_cons_of_mem _ member)
      obtain ⟨byte, single, nonzero⟩ := utf8EncodeChar_digit (decimal digit List.mem_cons_self)
      rw [List.flatMap_cons, single, List.singleton_append]
      refine ⟨?_, by rw [List.length_cons, length, List.length_cons]⟩
      rw [List.mem_cons, not_or]
      exact ⟨nonzero.symm, clean⟩

/-- The decimal text of a 64-bit number has at most twenty bytes, and no NUL. -/
theorem utf8_decimal (number : Nat) (bounded : number < 2 ^ 64) :
    0 ∉ utf8 (toString number) ∧ (utf8 (toString number)).length ≤ 20 := by
  have decimal (digit : Char) (member : digit ∈ Nat.toDigits 10 number) : digit.isDigit = true :=
    Nat.isDigit_of_mem_toDigits (by decide) (by decide) member
  have few : (Nat.toDigits 10 number).length ≤ 20 :=
    (Nat.length_toDigits_le_iff (by decide) (by decide)).mpr (Nat.lt_trans bounded (by decide))
  obtain ⟨clean, length⟩ := utf8_digits _ decimal
  rw [Nat.toString_eq_ofList_toDigits]
  exact ⟨clean, by omega⟩

/-- The request names a number for the option, and it lies within the caps. -/
def Requested (options : Table String String) (name : String) (bottom upper number : Nat) : Prop :=
  (∃ text, options.get name = some text ∧ parseUsize text = some number) ∧
    bottom ≤ number ∧ number ≤ upper

/-- An option is found exactly when it is requested. -/
theorem Capped.findIn_iff (name : String) {bottom upper : Nat} (options : Table String String)
    (number : Nat) :
    (findIn name options : Option (Capped bottom upper)).map Capped.number = some number ↔
      Requested options name bottom upper number := by
  unfold findIn Requested
  cases options.get name with
  | none => simp
  | some text =>
      simp only [Option.some.injEq, exists_eq_left']
      cases parseUsize text with
      | none => simp
      | some found =>
          dsimp only
          split
          · split
            · simp only [Option.map_some, Option.some.injEq]
              constructor
              · rintro rfl
                exact ⟨rfl, by assumption, by assumption⟩
              · exact fun requested => requested.1
            · simp only [Option.map_none, reduceCtorEq, Option.some.injEq, false_iff]
              rintro ⟨rfl, _, within⟩
              contradiction
          · simp only [Option.map_none, reduceCtorEq, Option.some.injEq, false_iff]
            rintro ⟨rfl, lower, _⟩
            contradiction

theorem Requested.announced {options : Table String String} {name : String}
    {bottom upper number : Nat} (requested : Requested options name bottom upper number)
    (small : upper < 2 ^ 64) : options.containsKey name = true ∧ number < 2 ^ 64 := by
  obtain ⟨⟨text, found, _⟩, _, within⟩ := requested
  exact ⟨by rw [Table.containsKey, found, Option.isSome_some], Nat.lt_of_le_of_lt within small⟩

namespace PeerHandler

/-- These are the numbers of the options that the server accepts. -/
structure Accepted where
  timeout : Option Nat
  blksize : Option Nat
  tsize : Option Nat
  windowsize : Option Nat
  deriving DecidableEq, Repr

/-- The accepted options are announced in a fixed order. -/
def Accepted.pairs (accepted : Accepted) : List (String × String) :=
  accepted.timeout.toList.map (fun number => ("timeout", toString number)) ++
    accepted.blksize.toList.map (fun number => ("blksize", toString number)) ++
    accepted.tsize.toList.map (fun number => ("tsize", toString number)) ++
    accepted.windowsize.toList.map (fun number => ("windowsize", toString number))

variable {O : Type} [OpenedFile O]

/-- The accepted options are those of the request within their caps, and the size of the file when
the request asks for it and the file tells it. -/
structure Accepted.Of (accepted : Accepted) (openedFile : O) (options : Table String String) :
    Prop where
  timeout : ∀ number, accepted.timeout = some number ↔ Requested options "timeout" 1 255 number
  blksize : ∀ number, accepted.blksize = some number ↔ Requested options "blksize" 8 65535 number
  tsize : ∀ number, accepted.tsize = some number ↔ options.containsKey "tsize" = true ∧
    ∃ fileSize, (OpenedFile.getSize openedFile).1 = .ok fileSize ∧ fileSize.toNat = number
  windowsize : ∀ number, accepted.windowsize = some number ↔
    Requested options "windowsize" 1 65535 number

/-- This is the size that an OACK announces. -/
def announcedSize (openedFile : O) (options : Table String String) : Option Nat :=
  if TSize.isRequested options then
    match (OpenedFile.getSize openedFile).1 with
    | .ok fileSize => some fileSize.toNat
    | .error _ => none
  else none

def accepted (openedFile : O) (options : Table String String) : Accepted where
  timeout := (AckTimeout.findIn options).map Capped.number
  blksize := (Blksize.findIn options).map Capped.number
  tsize := announcedSize openedFile options
  windowsize := (WindowSize.findIn options).map Capped.number

theorem announcedSize_iff (openedFile : O) (options : Table String String) (number : Nat) :
    announcedSize openedFile options = some number ↔ options.containsKey "tsize" = true ∧
      ∃ fileSize, (OpenedFile.getSize openedFile).1 = .ok fileSize ∧ fileSize.toNat = number := by
  unfold announcedSize TSize.isRequested
  cases (OpenedFile.getSize openedFile).1 with
  | ok fileSize => simp
  | error error => simp

theorem accepted_of (openedFile : O) (options : Table String String) :
    (accepted openedFile options).Of openedFile options where
  timeout := Capped.findIn_iff "timeout" options
  blksize := Capped.findIn_iff "blksize" options
  tsize := announcedSize_iff openedFile options
  windowsize := Capped.findIn_iff "windowsize" options

/-- The server announces exactly the accepted options. -/
theorem acceptOptions_pairs (openedFile : O) (options : Table String String) :
    (acceptOptions openedFile options).oack.options = (accepted openedFile options).pairs := by
  simp only [acceptOptions, accepted, Accepted.pairs, announcedSize, TSize.obtain]
  -- Each option is pushed or left out, whatever the server does with the others.
  cases AckTimeout.findIn options <;> cases Blksize.findIn options <;>
    cases WindowSize.findIn options <;> cases TSize.isRequested options <;>
    rcases OpenedFile.getSize openedFile with ⟨_ | _, _⟩ <;>
    simp [OptionsAcknowledge.push, AckTimeout.asKeyPair, Blksize.asKeyPair, TSize.asKeyPair,
      WindowSize.asKeyPair, Capped.asKeyPair]

/-- The server uses the accepted numbers, and its defaults for the others. -/
theorem acceptOptions_numbers (openedFile : O) (options : Table String String) :
    (acceptOptions openedFile options).ackTimeout.number =
        (accepted openedFile options).timeout.getD 5 ∧
      (acceptOptions openedFile options).blockSize.number =
        (accepted openedFile options).blksize.getD 512 ∧
      (acceptOptions openedFile options).windowSize.number =
        (accepted openedFile options).windowsize.getD 1 := by
  simp only [acceptOptions, accepted]
  refine ⟨?_, ?_, ?_⟩
  · cases AckTimeout.findIn options with
    | none => rfl
    | some timeout => rfl
  · cases Blksize.findIn options with
    | none => rfl
    | some blockSize => rfl
  · cases WindowSize.findIn options with
    | none => rfl
    | some windowSize => rfl

omit [OpenedFile O] in
/-- Neither size is changed by its cast to 16 bits. -/
theorem Terms.window_eq (terms : Terms O) :
    terms.window.blockSize.toNat = terms.blockSize.number ∧
      terms.window.buffers =
        List.replicate terms.windowSize.number (.zeroed (terms.blockSize.number + 4)) := by
  have blockSize := serial_toNat terms.blockSize.number (Nat.lt_succ_of_le terms.blockSize.within)
  have windowSize :=
    serial_toNat terms.windowSize.number (Nat.lt_succ_of_le terms.windowSize.within)
  simp only [window, Window.new, blockSize, windowSize, and_self]

/-- Every announced value is the decimal text of a 64-bit number. -/
theorem Accepted.Of.pairs_decimal {accepted : Accepted} {openedFile : O}
    {options : Table String String} (of : accepted.Of openedFile options) :
    ∀ pair ∈ accepted.pairs, options.containsKey pair.1 = true ∧
      ∃ number < 2 ^ 64, pair.2 = toString number := by
  intro pair member
  simp only [pairs, List.mem_append, List.mem_map, Option.mem_toList] at member
  rcases member with ((⟨number, found, rfl⟩ | ⟨number, found, rfl⟩) | ⟨number, found, rfl⟩) |
    ⟨number, found, rfl⟩
  · obtain ⟨named, small⟩ := ((of.timeout number).mp found).announced (by decide)
    exact ⟨named, number, small, rfl⟩
  · obtain ⟨named, small⟩ := ((of.blksize number).mp found).announced (by decide)
    exact ⟨named, number, small, rfl⟩
  · obtain ⟨named, fileSize, _, rfl⟩ := (of.tsize number).mp found
    exact ⟨named, fileSize.toNat, fileSize.toNat_lt, rfl⟩
  · obtain ⟨named, small⟩ := ((of.windowsize number).mp found).announced (by decide)
    exact ⟨named, number, small, rfl⟩

/-- The names keep their order, and none is announced twice. -/
theorem Accepted.pairs_names (accepted : Accepted) :
    (accepted.pairs.map Prod.fst).Sublist ["timeout", "blksize", "tsize", "windowsize"] := by
  have once (name : String) (number : Option Nat) :
      ((number.toList.map fun number => (name, toString number)).map Prod.fst).Sublist [name] := by
    cases number with
    | none => exact List.nil_sublist _
    | some number => exact List.Sublist.refl _
  simp only [pairs, List.map_append]
  exact (((once "timeout" _).append (once "blksize" _)).append (once "tsize" _)).append
    (once "windowsize" _)

theorem encodeOptions_length_le (options : List (String × String)) (bound : Nat)
    (short : ∀ option ∈ options, (encodePair option.1 option.2).length ≤ bound) :
    (encodeOptions options).length ≤ options.length * bound := by
  induction options with
  | nil => exact Nat.zero_le _
  | cons option rest ih =>
      have first := short option List.mem_cons_self
      have others := ih fun option member => short option (List.mem_cons_of_mem _ member)
      change (encodePair option.1 option.2 ++ encodeOptions rest).length ≤ _
      rw [List.length_append, List.length_cons, Nat.succ_mul]
      omega

/-- The OACK of the accepted options is small and has no stray NUL. -/
theorem Accepted.Of.pairs_clean {accepted : Accepted} {openedFile : O}
    {options : Table String String} (of : accepted.Of openedFile options) :
    (∀ pair ∈ accepted.pairs, 0 ∉ utf8 pair.1 ∧ 0 ∉ utf8 pair.2) ∧
      (OptionsAcknowledge.body ⟨accepted.pairs⟩).length ≤ 130 := by
  have name (pair : String × String) (member : pair ∈ accepted.pairs) :
      0 ∉ utf8 pair.1 ∧ (utf8 pair.1).length ≤ 10 := by
    have known := accepted.pairs_names.subset (List.mem_map.mpr ⟨pair, member, rfl⟩)
    simp only [List.mem_cons, List.not_mem_nil, or_false] at known
    rcases known with equal | equal | equal | equal
    all_goals
      rw [equal]
      decide
  have value (pair : String × String) (member : pair ∈ accepted.pairs) :
      0 ∉ utf8 pair.2 ∧ (utf8 pair.2).length ≤ 20 := by
    obtain ⟨_, number, small, decimal⟩ := of.pairs_decimal pair member
    rw [decimal]
    exact utf8_decimal number small
  have few : accepted.pairs.length ≤ 4 := by
    have sublist := accepted.pairs_names.length_le
    rwa [List.length_map] at sublist
  have short := encodeOptions_length_le accepted.pairs 32 fun pair member => by
    rw [encodePair_length]
    have bounds := And.intro (name pair member).2 (value pair member).2
    omega
  refine ⟨fun pair member => ⟨(name pair member).1, (value pair member).1⟩, ?_⟩
  rw [OptionsAcknowledge.body, List.length_append]
  change 2 + (encodeOptions accepted.pairs).length ≤ 130
  omega

namespace Negotiation

/-- A session announces the accepted options first, or nothing at all. -/
structure Announces (openedFile : O) (options : Table String String)
    (negotiation : Negotiation O) : Prop where
  terms : negotiation.terms = acceptOptions openedFile options
  silent : (accepted openedFile options).pairs = [] →
    negotiation.offering.sent = [] ∧ negotiation.offering.status = .returned (.ok ())
  first : (accepted openedFile options).pairs ≠ [] → ∃ rest, negotiation.offering.sent =
    .oack (OptionsAcknowledge.body ⟨(accepted openedFile options).pairs⟩) :: rest

theorem negotiateOptions_announces (openedFile : O) (options : Table String String)
    (verdicts : List Bool) :
    Announces openedFile options
      (negotiateOptions openedFile options (List.replicate 65535 0) verdicts) := by
  have pairs := acceptOptions_pairs openedFile options
  have short := (accepted_of openedFile options).pairs_clean.2
  have oack : (acceptOptions openedFile options).oack = ⟨(accepted openedFile options).pairs⟩ := by
    rw [← pairs]
  by_cases offered : (accepted openedFile options).pairs = []
  · have none : ¬ (acceptOptions openedFile options).oack.hasOptions := by
      rw [oack, offered]
      decide
    simp only [negotiateOptions, if_neg none]
    exact ⟨rfl, fun _ => ⟨rfl, rfl⟩, fun some => absurd offered some⟩
  · have some : (acceptOptions openedFile options).oack.hasOptions = true := by
      rw [oack, OptionsAcknowledge.hasOptions]
      simpa using offered
    simp only [negotiateOptions, if_pos some]
    refine ⟨rfl, fun none => absurd none offered, fun _ => ⟨[], ?_⟩⟩
    have started := Offering.start_zeroed ⟨(accepted openedFile options).pairs⟩ 65535 verdicts
      offered (by omega)
    rw [oack, started]
    simp only [Offering.attempt, sendAttempts, List.take_left]
    rfl

theorem Announces.resume {openedFile : O} {options : Table String String}
    {negotiation : Negotiation O} (announces : Announces openedFile options negotiation)
    (arrivals : List Arrival) : Announces openedFile options (negotiation.resume arrivals) := by
  refine ⟨announces.terms, fun none => ?_, fun some => ?_⟩
  · obtain ⟨sent, status⟩ := announces.silent none
    rw [Negotiation.resume, Offering.resume_returned _ _ status]
    exact ⟨sent, status⟩
  · obtain ⟨rest, sent⟩ := announces.first some
    obtain ⟨more, extended⟩ := negotiation.offering.resume_extends arrivals
    refine ⟨rest ++ more, ?_⟩
    rw [Negotiation.resume, extended, sent, List.cons_append]

omit [OpenedFile O] in
theorem result_window {negotiation : Negotiation O} {window : Window} {ackTimeout : AckTimeout}
    (result : negotiation.result = some (some (window, ackTimeout))) :
    window = negotiation.terms.window ∧ ackTimeout = negotiation.terms.ackTimeout := by
  unfold Negotiation.result at result
  split at result
  · cases result
  · cases result
  · obtain ⟨rfl, rfl⟩ := Prod.mk.inj (Option.some.inj (Option.some.inj result))
    exact ⟨rfl, rfl⟩

/-- The options that the first OACK announces are the options that the session uses. -/
theorem negotiateOptions_announced (openedFile : O) (options : Table String String)
    (verdicts : List Bool) {negotiation : Negotiation O}
    (reached : Reach Negotiation.resume (fun _ _ => True)
      (negotiateOptions openedFile options (List.replicate 65535 0) verdicts) negotiation) :
    ∃ accepted : Accepted, accepted.Of openedFile options ∧
      (oacksSent negotiation.offering.sent ≠ [] ↔ accepted.pairs ≠ []) ∧
      (accepted.pairs.map Prod.fst).Sublist ["timeout", "blksize", "tsize", "windowsize"] ∧
      (∀ pair ∈ accepted.pairs, options.containsKey pair.1 = true) ∧
      (accepted.pairs ≠ [] →
        (∃ size, (OptionsAcknowledge.serialize ⟨accepted.pairs⟩ (List.replicate 65535 0)).1 =
          .ok size) ∧
        ∃ datagram rest, negotiation.offering.sent = .oack datagram :: rest ∧
          readOptionsAcknowledge datagram = .ok (oackOpcode, accepted.pairs)) ∧
      ∀ window ackTimeout, negotiation.result = some (some (window, ackTimeout)) →
        window.blockSize.toNat = accepted.blksize.getD 512 ∧
        window.buffers = List.replicate (accepted.windowsize.getD 1)
          (.zeroed (accepted.blksize.getD 512 + 4)) ∧
        ackTimeout.number = accepted.timeout.getD 5 := by
  have of := accepted_of openedFile options
  obtain ⟨clean, short⟩ := of.pairs_clean
  have announces := reached.invariant (Announces openedFile options)
    (negotiateOptions_announces openedFile options verdicts)
    fun negotiation arrivals announces _ => announces.resume arrivals
  obtain ⟨terms, silent, first⟩ := announces
  refine ⟨accepted openedFile options, of, ?_, Accepted.pairs_names _,
    fun pair member => (of.pairs_decimal pair member).1, fun some => ?_, ?_⟩
  · constructor
    · intro sent none
      rw [(silent none).1] at sent
      exact sent rfl
    · intro some none
      obtain ⟨rest, sent⟩ := first some
      rw [sent] at none
      cases none
  · obtain ⟨rest, sent⟩ := first some
    have serialized := OptionsAcknowledge.serialize_zeroed ⟨(accepted openedFile options).pairs⟩
      65535 some (by omega)
    exact ⟨⟨_, congrArg Prod.fst serialized⟩, _, rest, sent, readOptionsAcknowledge_body ⟨_⟩ clean⟩
  · intro window ackTimeout result
    obtain ⟨rfl, rfl⟩ := result_window result
    obtain ⟨timeout, blksize, windowsize⟩ := acceptOptions_numbers openedFile options
    obtain ⟨blockSize, buffers⟩ := negotiation.terms.window_eq
    rw [blockSize, buffers, terms, timeout, blksize, windowsize]
    exact ⟨rfl, rfl, rfl⟩

/-- A block size within its caps is announced. -/
theorem negotiateOptions_announced_blksize :
    oacksSent (negotiateOptions (VirtualOpenedFile.new [0x2A]) ⟨[("blksize", "1024")], by decide⟩
      (List.replicate 65535 0) []).offering.sent ≠ [] := by
  obtain ⟨accepted, of, sent, _⟩ := negotiateOptions_announced (VirtualOpenedFile.new [0x2A])
    ⟨[("blksize", "1024")], by decide⟩ [] .start
  have found : accepted.blksize = some 1024 :=
    (of.blksize 1024).mpr ⟨⟨"1024", by decide, by decide⟩, by decide, by decide⟩
  apply sent.mpr
  intro none
  simp [Accepted.pairs, found] at none

end Negotiation

end PeerHandler

end Rtftp

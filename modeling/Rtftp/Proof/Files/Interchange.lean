import Mathlib.Data.List.DropRight
import Rtftp.Construction.LocalFs
import Rtftp.Proof.Files.Chunks

namespace Rtftp

/-- These are the two calls that `OpenedFile` has. -/
inductive Call where
  | readTo (room : Nat)
  | getSize
  deriving DecidableEq, Repr

inductive Answer where
  | bytes (bytes : List UInt8)
  | size (size : UInt64)
  | failed (error : IoError)
  deriving DecidableEq, Repr

/-- These are the answers of a file to one call after the other. -/
def answers {O : Type} [OpenedFile O] : O → List Call → List Answer
  | _, [] => []
  | file, .readTo room :: rest =>
      match OpenedFile.readTo file room with
      | .ok (bytes, next) => .bytes bytes :: answers next rest
      | .error error => .failed error :: answers file rest
  | file, .getSize :: rest =>
      match OpenedFile.getSize file with
      | (.ok size, next) => .size size :: answers next rest
      | (.error error, next) => .failed error :: answers next rest

/-- A read moves the position up to the end of the content. The size rewinds it or leaves it. -/
def place (rewinds : Bool) (content : List UInt8) (start : Nat) : Call → Nat
  | .readTo room => min (start + room) content.length
  | .getSize => if rewinds then 0 else start

/-- A position in the content determines the answer to a call. -/
def answerAt (content : List UInt8) (start : Nat) : Call → Answer
  | .readTo room => .bytes ((content.drop start).take room)
  | .getSize => .size (UInt64.ofNat content.length)

/-- These are the answers of a position that moves through the content. -/
def script (rewinds : Bool) (content : List UInt8) : (start : Nat) → List Call → List Answer
  | _, [] => []
  | start, call :: rest =>
      answerAt content start call :: script rewinds content (place rewinds content start call) rest

/-- A local file with full reads is a position that every size rewinds. -/
theorem answers_local (content : List UInt8) (position reads : Nat)
    (within : position ≤ content.length) (calls : List Call) :
    answers (LocalOpenedFile.mk ⟨content, position, .full, reads⟩) calls =
      script true content position calls := by
  induction calls generalizing position reads with
  | nil => rfl
  | cons call rest ih =>
      cases call with
      | readTo room =>
          have bytes : (content.drop position).take (min room (content.length - position)) =
              (content.drop position).take room := by
            rw [← List.length_drop, List.take_eq_take_iff]
            omega
          have moved : position + min room (content.length - position) =
              min (position + room) content.length := by omega
          have read : OpenedFile.readTo (LocalOpenedFile.mk ⟨content, position, .full, reads⟩) room =
              .ok ((content.drop position).take room,
                ⟨⟨content, min (position + room) content.length, .full, reads + 1⟩⟩) := by
            rw [← bytes, ← moved]
            rfl
          rw [answers, read, script]
          exact congrArg _ (ih _ _ (Nat.min_le_right _ _))
      | getSize =>
          have size : OpenedFile.getSize (LocalOpenedFile.mk ⟨content, position, .full, reads⟩) =
              (.ok (UInt64.ofNat content.length), ⟨⟨content, 0, .full, reads⟩⟩) :=
            LocalOpenedFile.getSize_eq _
          rw [answers, size, script]
          exact congrArg _ (ih 0 reads (Nat.zero_le _))

/-- A remote file is a position that no size moves. -/
theorem answers_remote {content : List UInt8} {reader : FileReader}
    (aligned : FileReader.Aligned content reader) (calls : List Call) :
    answers reader calls = script false content reader.currentOffset calls := by
  induction calls generalizing reader with
  | nil => rfl
  | cons call rest ih =>
      cases call with
      | readTo room =>
          have read := aligned.readTo room
          have called : reader.readTo room = (.ok ((content.drop reader.currentOffset).take room),
              (reader.readTo room).2) := Prod.ext read.bytes rfl
          rw [answers, FileReader.readTo_ok called, script, answerAt, place, ← read.position]
          exact congrArg _ (ih read.aligned)
      | getSize =>
          have size : OpenedFile.getSize reader = (.ok (UInt64.ofNat content.length), reader) := by
            rw [← aligned.size]
            rfl
          rw [answers, size, script]
          exact congrArg _ (ih aligned)

/-- These are the bytes that a call asks for. -/
def Call.asked : Call → Nat
  | .readTo room => room
  | .getSize => 0

def asked (calls : List Call) : Nat := (calls.map Call.asked).sum

/-- These are the calls after the last size. -/
def sinceSize (calls : List Call) : List Call := calls.rtakeWhile (· != .getSize)

/-- No size is asked for between two reads that ask for bytes. -/
def Undisturbed (calls : List Call) : Prop :=
  ∀ before between behind first second,
    calls = before ++ .readTo first :: between ++ .readTo second :: behind →
    0 < first → 0 < second → Call.getSize ∉ between

/-- Every read finds the same bytes behind the reads since the last size as behind all reads. -/
def SameBytes (content : List UInt8) (calls : List Call) : Prop :=
  ∀ front room behind, calls = front ++ .readTo room :: behind →
    (content.drop (asked (sinceSize front))).take room = (content.drop (asked front)).take room

@[simp] theorem asked_append (calls more : List Call) :
    asked (calls ++ more) = asked calls + asked more := by
  rw [asked, List.map_append, List.sum_append]
  rfl

@[simp] theorem asked_cons (call : Call) (rest : List Call) :
    asked (call :: rest) = call.asked + asked rest := by
  rw [asked, List.map_cons, List.sum_cons]
  rfl

theorem sinceSize_getSize (calls : List Call) : sinceSize (calls ++ [.getSize]) = [] :=
  List.rtakeWhile_concat_neg _ _ _ (by decide)

theorem sinceSize_readTo (calls : List Call) (room : Nat) :
    sinceSize (calls ++ [.readTo room]) = sinceSize calls ++ [.readTo room] :=
  List.rtakeWhile_concat_pos _ _ _ rfl

/-- Equal answers are equal at the positions before each call. -/
theorem script_eq_iff (content : List UInt8) (calls : List Call) (start other : Nat) :
    script true content start calls = script false content other calls ↔
      ∀ front call behind, calls = front ++ call :: behind →
        answerAt content (front.foldl (place true content) start) call =
          answerAt content (front.foldl (place false content) other) call := by
  induction calls generalizing start other with
  | nil => simp [script]
  | cons call rest ih =>
      rw [script, script, List.cons.injEq, ih]
      constructor
      · rintro ⟨first, later⟩ front next behind split
        cases front with
        | nil =>
            obtain ⟨rfl, rfl⟩ := List.cons.inj split
            exact first
        | cons earlier front =>
            obtain ⟨rfl, rfl⟩ := List.cons.inj split
            exact later front next behind rfl
      · intro each
        constructor
        · exact each [] call rest rfl
        · intro front next behind split
          exact each (call :: front) next behind (by rw [split]; rfl)

/-- A position that no size moves is as far as all reads together go. -/
theorem place_steady (content : List UInt8) (calls : List Call) :
    calls.foldl (place false content) 0 = min (asked calls) content.length := by
  induction calls using List.reverseRecOn with
  | nil => exact (Nat.zero_min _).symm
  | append_singleton calls call ih =>
      rw [List.foldl_append, ih]
      cases call with
      | readTo room =>
          change min (min (asked calls) content.length + room) content.length = _
          rw [asked_append]
          change _ = min (asked calls + room) content.length
          omega
      | getSize =>
          rw [asked_append]
          rfl

/-- A position that every size rewinds is as far as the reads since the last size go. -/
theorem place_rewound (content : List UInt8) (calls : List Call) :
    calls.foldl (place true content) 0 = min (asked (sinceSize calls)) content.length := by
  induction calls using List.reverseRecOn with
  | nil => exact (Nat.zero_min _).symm
  | append_singleton calls call ih =>
      rw [List.foldl_append, ih]
      cases call with
      | readTo room =>
          change min (min (asked (sinceSize calls)) content.length + room) content.length = _
          rw [sinceSize_readTo, asked_append]
          change _ = min (asked (sinceSize calls) + room) content.length
          omega
      | getSize =>
          rw [sinceSize_getSize]
          exact (Nat.zero_min _).symm

/-- Both positions answer alike exactly where every read finds the same bytes. -/
theorem script_sameBytes (content : List UInt8) (calls : List Call) :
    script true content 0 calls = script false content 0 calls ↔ SameBytes content calls := by
  have bytes (front : List Call) (room : Nat) :
      answerAt content (front.foldl (place true content) 0) (.readTo room) =
          answerAt content (front.foldl (place false content) 0) (.readTo room) ↔
        (content.drop (asked (sinceSize front))).take room =
          (content.drop (asked front)).take room := by
    rw [answerAt, answerAt, Answer.bytes.injEq, place_steady, place_rewound,
      ← Nat.add_zero (min (asked front) _), ← Nat.add_zero (min (asked (sinceSize front)) _),
      FileReader.drop_min_length, FileReader.drop_min_length, Nat.add_zero, Nat.add_zero]
  rw [script_eq_iff]
  constructor
  · intro each front room behind split
    exact (bytes front room).mp (each front _ behind split)
  · intro same front call behind split
    cases call with
    | readTo room => exact (bytes front room).mpr (same front room behind split)
    | getSize => rfl

/-- Calls without a size behind a read that asked for bytes have read nothing before the last
size. -/
theorem asked_sinceSize (front : List Call)
    (settled : ∀ before between first, front = before ++ .readTo first :: between → 0 < first →
      Call.getSize ∉ between) : asked (sinceSize front) = asked front := by
  induction front using List.reverseRecOn with
  | nil => rfl
  | append_singleton front call ih =>
      cases call with
      | readTo room =>
          rw [sinceSize_readTo, asked_append, asked_append, ih]
          intro before between first split positive inside
          apply settled before (between ++ [.readTo room]) first _ positive
          · exact List.mem_append_left _ inside
          · rw [split, List.append_assoc, List.cons_append]
      | getSize =>
          have nothing : ∀ asked ∈ front.map Call.asked, asked = 0 := by
            intro asked inside
            obtain ⟨call, member, rfl⟩ := List.mem_map.mp inside
            cases call with
            | getSize => rfl
            | readTo first =>
                obtain ⟨before, between, split⟩ := List.append_of_mem member
                by_contra positive
                apply settled before (between ++ [.getSize]) first _ (Nat.pos_of_ne_zero positive)
                · exact List.mem_append_right _ List.mem_cons_self
                · rw [split, List.append_assoc, List.cons_append]
          rw [sinceSize_getSize, asked_append]
          exact (List.sum_eq_zero_iff_forall_eq_nat.mpr nothing).symm

/-- At most the reads behind a size are reads since the last size. -/
theorem asked_sinceSize_le (early late : List Call) :
    asked (sinceSize (early ++ .getSize :: late)) ≤ asked late := by
  induction late using List.reverseRecOn with
  | nil =>
      have none := sinceSize_getSize early
      exact Nat.le_of_eq (congrArg asked none)
  | append_singleton late call ih =>
      rw [← List.cons_append, ← List.append_assoc]
      cases call with
      | readTo room =>
          rw [sinceSize_readTo, asked_append, asked_append]
          exact Nat.add_le_add_right ih _
      | getSize =>
          rw [sinceSize_getSize]
          exact Nat.zero_le _

/-- Undisturbed reads find the same bytes in every content. -/
theorem Undisturbed.sameBytes {calls : List Call} (undisturbed : Undisturbed calls)
    (content : List UInt8) : SameBytes content calls := by
  intro front room behind split
  by_cases positive : 0 < room
  · rw [asked_sinceSize front]
    intro before between first parts started
    exact undisturbed before between behind first room (by rw [split, parts]) started positive
  · obtain rfl : room = 0 := by omega
    rw [List.take_zero, List.take_zero]

/-- The first byte of a read is the one at its position. -/
theorem head_take_drop (content : List UInt8) (start room : Nat) (positive : 0 < room) :
    ((content.drop start).take room).head? = content[start]? := by
  rw [List.head?_take, if_neg (by omega), List.head?_drop]

/-- Reads that find the same bytes in every content are undisturbed. -/
theorem undisturbed_of_sameBytes {calls : List Call}
    (same : ∀ content, SameBytes content calls) : Undisturbed calls := by
  intro before between behind first second split started positive sized
  obtain ⟨early, late, rfl⟩ := List.append_of_mem sized
  let front := before ++ .readTo first :: (early ++ .getSize :: late)
  have rewound : asked (sinceSize front) < asked front := by
    have less := asked_sinceSize_le (before ++ .readTo first :: early) late
    rw [List.append_assoc, List.cons_append] at less
    change asked (sinceSize front) ≤ _ at less
    have total : asked front = asked before + (first + (asked early + (0 + asked late))) := by
      rw [asked_append, asked_cons, asked_append, asked_cons]
      rfl
    omega
  -- The content has zeros up to the second read and a one there.
  have bytes := congrArg List.head?
    (same (List.replicate (asked front) 0 ++ [1]) front second behind split)
  rw [head_take_drop _ _ _ positive, head_take_drop _ _ _ positive,
    List.getElem?_append_left (by rw [List.length_replicate]; exact rewound),
    List.getElem?_replicate_of_lt rewound, List.getElem?_append_right (by simp),
    List.length_replicate, Nat.sub_self] at bytes
  cases bytes

/-- The two readers give the same answers exactly when every read finds the same bytes behind the
reads since the last size as behind all reads. They do so on every content and for every way of
cutting it exactly when no size is asked for between two reads that ask for bytes. -/
theorem readers_interchangeable_iff (calls : List Call) :
    (∀ content handle, FileReader.Cuts handle content →
      ∃ reader, FileReader.openFile handle content.length = .ok reader ∧
        (answers (LocalOpenedFile.mk (File.opened content .full)) calls = answers reader calls ↔
          SameBytes content calls)) ∧
    ((∀ content handle, FileReader.Cuts handle content →
      ∃ reader, FileReader.openFile handle content.length = .ok reader ∧
        answers (LocalOpenedFile.mk (File.opened content .full)) calls = answers reader calls) ↔
      Undisturbed calls) := by
  have exact : ∀ content handle, FileReader.Cuts handle content →
      ∃ reader, FileReader.openFile handle content.length = .ok reader ∧
        (answers (LocalOpenedFile.mk (File.opened content .full)) calls = answers reader calls ↔
          SameBytes content calls) := by
    intro content handle cuts
    obtain ⟨reader, opened, aligned, start⟩ := FileReader.aligned_openFile cuts
    have near : answers (LocalOpenedFile.mk (File.opened content .full)) calls =
        script true content 0 calls := answers_local content 0 0 (Nat.zero_le _) calls
    have far := answers_remote aligned calls
    rw [start] at far
    exact ⟨reader, opened, by rw [near, far, script_sameBytes]⟩
  refine ⟨exact, ?_, ?_⟩
  · intro interchangeable
    apply undisturbed_of_sameBytes
    intro content
    have cuts := FileReader.cutAt_cuts content fun _ => 0
    obtain ⟨reader, opened, same⟩ := interchangeable content _ cuts
    obtain ⟨other, reopened, agree⟩ := exact content _ cuts
    obtain rfl : other = reader := Except.ok.inj (reopened.symm.trans opened)
    exact agree.mp same
  · intro undisturbed content handle cuts
    obtain ⟨reader, opened, agree⟩ := exact content handle cuts
    exact ⟨reader, opened, agree.mpr (undisturbed.sameBytes content)⟩

/-- A size between two reads of one byte makes the local reader give the first byte again. -/
theorem readers_interchangeable_rewound :
    ∃ reader, FileReader.openFile (FileReader.cutAt [7, 8] fun _ => 1) 2 = .ok reader ∧
      answers (LocalOpenedFile.mk (File.opened [7, 8] .full))
          [.readTo 1, .getSize, .readTo 1] = [.bytes [7], .size 2, .bytes [7]] ∧
      answers reader [.readTo 1, .getSize, .readTo 1] = [.bytes [7], .size 2, .bytes [8]] :=
  ⟨⟨_, 1, 2, 0, FileChunk.new [7, 8]⟩, rfl, by decide, by decide⟩

end Rtftp

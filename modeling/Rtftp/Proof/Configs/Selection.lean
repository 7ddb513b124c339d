import Rtftp.Proof.Isolation

namespace Rtftp
open Library

variable {Value Config Remote : Type}

/-- A file has a config of the address when it matches and reads as JSON and as a config. -/
def HasConfig (backend : NbdBackend Value Config Remote) (directory : Directory) (ip : String)
    (entry : DirEntry) (config : Config) : Prop :=
  some entry ∈ directory.entries ∧ entry.isFile = true ∧ matchIp entry.name ip = true ∧
    ∃ content value, entry.content = some content ∧ backend.fromStr content = some value ∧
      backend.fromJson value = some config

/-- A file gives a root when its config connects. -/
def Gives (backend : NbdBackend Value Config Remote) (directory : Directory) (ip : String)
    (entry : DirEntry) (root : Remote) : Prop :=
  ∃ config, HasConfig backend directory ip entry config ∧ backend.connect config = .ok root

section
variable (backend : NbdBackend Value Config Remote) (ip : String)

/-- This is what the loop takes from one file. -/
def rootOf (entry : DirEntry) : Option Remote :=
  if matchIp entry.name ip then connectConfig backend entry else none

/-- This is the config that the loop comes to connect. -/
def configOf (entry : DirEntry) : Option Config :=
  if matchIp entry.name ip then (readJson backend entry).bind backend.fromJson else none

theorem configOf_eq_some_iff (entry : DirEntry) (config : Config) :
    configOf backend ip entry = some config ↔ matchIp entry.name ip = true ∧
      ∃ content value, entry.content = some content ∧ backend.fromStr content = some value ∧
        backend.fromJson value = some config := by
  unfold configOf readJson
  cases entry.content with
  | none => simp
  | some content => simp [Option.bind_eq_some_iff]

/-- A root comes from the config of its file. -/
theorem rootOf_eq_some_iff (entry : DirEntry) (root : Remote) :
    rootOf backend ip entry = some root ↔
      ∃ config, configOf backend ip entry = some config ∧ backend.connect config = .ok root := by
  unfold rootOf configOf connectConfig
  split
  · cases readJson backend entry with
    | none => simp
    | some jsonStruct =>
        dsimp only [Option.bind_some]
        cases backend.fromJson jsonStruct with
        | none => simp
        | some nbdConfig =>
            cases answer : backend.connect nbdConfig with
            | ok disk => simp [answer]
            | error error =>
                cases error with
                | configError message => simp [answer]
                | setupError error => simp [answer]
  · simp

/-- One pass of the loop ends it with a root, or passes the file over after the connection of its
config, if there is one. -/
theorem connectInOrder_cons (entry : DirEntry) (rest : List DirEntry) :
    connectInOrder backend ip (entry :: rest) =
      match rootOf backend ip entry with
      | some root => (some root, [entry])
      | none =>
          match configOf backend ip entry with
          | some _ => ((connectInOrder backend ip rest).1, entry :: (connectInOrder backend ip rest).2)
          | none => connectInOrder backend ip rest := by
  rw [connectInOrder, rootOf, configOf, connectConfig]
  generalize connectInOrder backend ip rest = later
  split
  · cases readJson backend entry with
    | none => rfl
    | some jsonStruct =>
        simp only [Option.bind_some]
        cases backend.fromJson jsonStruct with
        | none => rfl
        | some nbdConfig =>
            dsimp only
            cases backend.connect nbdConfig with
            | ok disk => rfl
            | error error =>
                cases error with
                | configError message => rfl
                | setupError error => rfl
  · rfl

/-- The loop is the search for the first file that gives a root. -/
theorem connectInOrder_root (entries : List DirEntry) :
    (connectInOrder backend ip entries).1 = entries.findSome? (rootOf backend ip) := by
  induction entries with
  | nil => rfl
  | cons entry rest ih =>
      rw [connectInOrder_cons, List.findSome?_cons]
      cases rootOf backend ip entry with
      | some root => rfl
      | none =>
          cases configOf backend ip entry with
          | none => exact ih
          | some config => exact ih

/-- Every config is connected at most once, in the order of the files. -/
theorem connectInOrder_sublist (entries : List DirEntry) :
    (connectInOrder backend ip entries).2.Sublist entries := by
  induction entries with
  | nil => exact List.Sublist.slnil
  | cons entry rest ih =>
      rw [connectInOrder_cons]
      cases rootOf backend ip entry with
      | some root => exact List.singleton_sublist.mpr List.mem_cons_self
      | none =>
          cases configOf backend ip entry with
          | none => exact ih.cons entry
          | some config => exact ih.cons_cons entry

/-- The first of sorted files is below each of them. -/
theorem head_le {first : DirEntry} {rest : List DirEntry}
    (sorted : (first :: rest).Pairwise fun first second => second.le first = false) :
    ∀ other ∈ first :: rest, first.le other = true := by
  intro other member
  rcases List.mem_cons.mp member with rfl | later
  · simpa using DirEntry.le_total other other
  · simpa [List.rel_of_pairwise_cons sorted later] using DirEntry.le_total first other

/-- The loop connects exactly the configs that do not come after a file that gives a root. -/
theorem mem_connectInOrder {entries : List DirEntry}
    (sorted : entries.Pairwise fun first second => second.le first = false) (entry : DirEntry) :
    entry ∈ (connectInOrder backend ip entries).2 ↔
      entry ∈ entries ∧ (configOf backend ip entry).isSome = true ∧
        ∀ other ∈ entries, (rootOf backend ip other).isSome = true → entry.le other = true := by
  induction entries with
  | nil => simp [connectInOrder]
  | cons first rest ih =>
      have least := head_le sorted
      obtain ⟨before, sorted⟩ := List.pairwise_cons.mp sorted
      rw [connectInOrder_cons]
      cases given : rootOf backend ip first with
      | some root =>
          obtain ⟨config, read, _⟩ := (rootOf_eq_some_iff backend ip first root).mp given
          simp only [List.mem_singleton]
          constructor
          · rintro rfl
            exact ⟨List.mem_cons_self, by rw [read]; rfl, fun other member _ => least other member⟩
          · rintro ⟨member, _, first_⟩
            rcases List.mem_cons.mp member with same | later
            · exact same
            · have back := first_ first List.mem_cons_self (by rw [given]; rfl)
              rw [before entry later] at back
              cases back
      | none =>
          have others : (∀ other ∈ first :: rest, (rootOf backend ip other).isSome = true →
              entry.le other = true) ↔ ∀ other ∈ rest, (rootOf backend ip other).isSome = true →
                entry.le other = true := by
            rw [List.forall_mem_cons, given]
            simp
          rw [others]
          cases read : configOf backend ip first with
          | none =>
              rw [ih sorted]
              constructor
              · rintro ⟨member, config, early⟩
                exact ⟨List.mem_cons_of_mem _ member, config, early⟩
              · rintro ⟨member, config, early⟩
                rcases List.mem_cons.mp member with rfl | later
                · rw [read] at config
                  cases config
                · exact ⟨later, config, early⟩
          | some config =>
              dsimp only
              rw [List.mem_cons, ih sorted]
              constructor
              · rintro (rfl | ⟨member, config, early⟩)
                · exact ⟨List.mem_cons_self, by rw [read]; rfl,
                    fun other member _ => least other (List.mem_cons_of_mem _ member)⟩
                · exact ⟨List.mem_cons_of_mem _ member, config, early⟩
              · rintro ⟨member, config, early⟩
                rcases List.mem_cons.mp member with same | later
                · exact .inl same
                · exact .inr ⟨later, config, early⟩

variable (directory : Directory)

theorem hasConfig_iff (entry : DirEntry) (config : Config) :
    HasConfig backend directory ip entry config ↔
      entry ∈ directory.files ∧ configOf backend ip entry = some config := by
  rw [HasConfig, directory.mem_files, configOf_eq_some_iff, and_assoc]

theorem gives_iff (entry : DirEntry) (root : Remote) :
    Gives backend directory ip entry root ↔
      entry ∈ directory.files ∧ rootOf backend ip entry = some root := by
  simp only [Gives, hasConfig_iff, rootOf_eq_some_iff, and_assoc, exists_and_left]

/-- No path comes before an earlier one. -/
theorem filesSorted_strict :
    (filesSorted directory).Pairwise fun first second => second.le first = false := by
  have sorted : (filesSorted directory).Pairwise fun first second => first.le second = true :=
    List.pairwise_mergeSort DirEntry.le_transitive DirEntry.le_total directory.files
  have nodup : (filesSorted directory).Pairwise fun first second => first ≠ second :=
    (List.mergeSort_perm directory.files DirEntry.le).nodup_iff.mpr directory.files_nodup
  apply (sorted.and nodup).imp_of_mem
  intro first second firstIn secondIn before
  rw [← Bool.not_eq_true]
  intro back
  apply before.2
  exact directory.files_antisymmetric first (List.mem_mergeSort.mp firstIn) second
    (List.mem_mergeSort.mp secondIn) before.1 back

/-- The sorted files do not depend on the order of the entries or on those that cannot be read. -/
theorem filesSorted_eq {directory reordered : Directory}
    (same : ∀ entry, some entry ∈ reordered.entries ↔ some entry ∈ directory.entries) :
    filesSorted reordered = filesSorted directory := by
  have equal := filter_mergeSort_eq DirEntry.le_transitive DirEntry.le_total
    reordered.files_antisymmetric reordered.files_nodup directory.files_nodup (p := fun _ => true)
    (fun entry _ => by rw [reordered.mem_files, directory.mem_files, same])
  rw [List.filter_true, List.filter_true] at equal
  exact equal

theorem openNbdRoot_eq :
    openNbdRoot backend directory ip = (filesSorted directory).findSome? (rootOf backend ip) := rfl

/-- The files that give a root come from the sorted files. -/
theorem forall_gives_iff (entry : DirEntry) :
    (∀ other root, Gives backend directory ip other root → entry.le other = true) ↔
      ∀ other ∈ directory.files, (rootOf backend ip other).isSome = true → entry.le other = true := by
  simp only [gives_iff, Option.isSome_iff_exists]
  constructor
  · rintro first other member ⟨root, given⟩
    exact first other root ⟨member, given⟩
  · rintro first other root ⟨member, given⟩
    exact first other member ⟨root, given⟩

/-- The root is the root of the least path that gives one, and there is none exactly when no path
gives one. This depends only on the readable entries. Each config is connected at most once, in the
order of the paths, and exactly those are connected that do not come after a path that gives a
root. -/
theorem nbdRoot_selected :
    (∀ root, openNbdRoot backend directory ip = some root ↔
      ∃ entry, Gives backend directory ip entry root ∧
        ∀ other otherRoot, Gives backend directory ip other otherRoot → entry.le other = true) ∧
    (openNbdRoot backend directory ip = none ↔
      ∀ entry root, ¬ Gives backend directory ip entry root) ∧
    (∀ reordered : Directory,
      (∀ entry, some entry ∈ reordered.entries ↔ some entry ∈ directory.entries) →
        connectInOrder backend ip (filesSorted reordered) =
          connectInOrder backend ip (filesSorted directory)) ∧
    (connectInOrder backend ip (filesSorted directory)).1 = openNbdRoot backend directory ip ∧
    (connectInOrder backend ip (filesSorted directory)).2.Sublist (filesSorted directory) ∧
    ∀ entry, entry ∈ (connectInOrder backend ip (filesSorted directory)).2 ↔
      (∃ config, HasConfig backend directory ip entry config) ∧
        ∀ other root, Gives backend directory ip other root → entry.le other = true := by
  have members : ∀ entry, entry ∈ filesSorted directory ↔ entry ∈ directory.files :=
    fun entry => List.mem_mergeSort
  refine ⟨?_, ?_, ?_, connectInOrder_root backend ip _, connectInOrder_sublist backend ip _, ?_⟩
  · intro root
    have least := findSome?_mergeSort_eq_some_iff (f := rootOf backend ip)
      DirEntry.le_transitive DirEntry.le_total directory.files_antisymmetric root
    simp only [forall_gives_iff]
    simp only [gives_iff, and_assoc]
    exact least
  · rw [openNbdRoot_eq, List.findSome?_eq_none_iff]
    simp only [members, gives_iff, not_and, Option.eq_none_iff_forall_ne_some]
    exact ⟨fun none entry root member => none entry member root,
      fun none entry member root => none entry root member⟩
  · intro reordered same
    rw [filesSorted_eq same]
  · intro entry
    rw [mem_connectInOrder backend ip (filesSorted_strict directory), forall_gives_iff]
    simp only [members, hasConfig_iff, exists_and_left, Option.isSome_iff_exists, and_assoc]

end

end Rtftp

import Rtftp.Construction.FileSystem
import Rtftp.Construction.Schedule
import Rtftp.Proof.Containment

namespace Rtftp
open Library

/-- Only the empty text has no bytes. -/
theorem utf8_ne_nil {text : String} (some : text ≠ "") : utf8 text ≠ [] := by
  intro empty
  have same : fromUtf8 (utf8 text) = fromUtf8 (utf8 "") := by
    rw [empty]
    rfl
  rw [fromUtf8_utf8, fromUtf8_utf8] at same
  exact some (Option.some.inj same)

namespace IpAddr

theorem segmentsText_ne_nil {segments : List UInt16} (some : segments ≠ []) :
    segmentsText segments ≠ [] := by
  unfold segmentsText
  dsimp only
  split
  · simp
  · cases segments with
    | nil => exact absurd rfl some
    | cons first tail =>
        rw [fmtSubslice]
        exact List.append_ne_nil_of_left_ne_nil Nat.toDigits_ne_nil _

theorem toString_ne_empty (address : IpAddr) : address.toString ≠ "" := by
  have written : address.text ≠ [] := by
    cases address with
    | v4 a b c d => exact List.append_ne_nil_of_right_ne_nil _ (List.cons_ne_nil _ _)
    | v6 segments =>
        change v6Text segments.toList ≠ []
        unfold v6Text
        split
        · simp
        · apply segmentsText_ne_nil
          exact List.ne_nil_of_length_pos (by simp)
  intro empty
  apply written
  rw [← String.toList_ofList (l := address.text)]
  exact congrArg String.toList empty

end IpAddr

namespace Path

theorem join_ne_nil (path : Path) {next : Path} (some : next ≠ []) : path.join next ≠ [] := by
  unfold join
  split
  · exact some
  · split
    · exact some
    · split
      · exact List.append_ne_nil_of_right_ne_nil _ some
      · exact List.append_ne_nil_of_right_ne_nil _ (List.cons_ne_nil _ _)

theorem moves_append_separator (first second : Path) :
    moves (first ++ separator :: second) = moves first ++ moves second := by
  rw [moves, List.splitOn_append_cons_self, List.map_append]
  rfl

/-- Every path has a move, and the empty one stays. -/
theorem moves_eq_cons (path : Path) : ∃ next rest, path.moves = next :: rest := by
  apply List.exists_cons_of_ne_nil
  rw [moves, ne_eq, List.map_eq_nil_iff]
  exact List.splitOn_ne_nil _ _

/-- A joined path is walked like its two parts. -/
theorem walk_join (spot : Spot (List UInt8) (List UInt8)) (path next : Path)
    (relative : next.isAbsolute = false) :
    spot.walk (path.join next).moves = spot.walk (path.moves ++ next.moves) := by
  obtain ⟨move, rest, nextMoves⟩ := moves_eq_cons next
  unfold join
  rw [relative]
  simp only [Bool.false_eq_true, if_false]
  rcases List.eq_nil_or_concat path with rfl | ⟨before, last, rfl⟩
  · change spot.walk next.moves = spot.walk (.stay :: next.moves)
    rw [nextMoves]
    exact (spot.walk_stay move rest).symm
  · rw [List.concat_eq_append, List.getLast?_concat]
    by_cases ending : last = separator
    · subst last
      simp only [BEq.rfl, if_true]
      rw [List.append_assoc, List.singleton_append, moves_append_separator,
        moves_append_separator, List.append_assoc, nextMoves]
      exact (spot.walk_append_stay (moves before) move rest).symm
    · simp only [beq_eq_false_iff_ne.mpr ending, Bool.false_eq_true, if_false]
      rw [moves_append_separator]

end Path

namespace FileSystem
variable {fileSystem : FileSystem} {directory name : Path}

/-- A name in a directory is looked up from the spot of the directory. -/
def lookupIn (fileSystem : FileSystem) (directory name : Path) :
    Except Obstacle (Spot (List UInt8) (List UInt8)) :=
  match (fileSystem.origin directory).walk directory.moves with
  | .ok spot => spot.walk name.moves
  | .error obstacle => .error obstacle

/-- The name denotes a regular file in the directory. -/
def HasFile (fileSystem : FileSystem) (directory name : Path) (content : List UInt8) : Prop :=
  0 ∉ directory.join name ∧
    ∃ parents, fileSystem.lookupIn directory name = .ok ⟨.regular content, parents⟩

/-- A component of the name does not exist, and all components before it are directories. -/
def Missing (fileSystem : FileSystem) (directory name : Path) : Prop :=
  0 ∉ directory.join name ∧ fileSystem.lookupIn directory name = .error .missing

theorem lookupIn_eq (fileSystem : FileSystem) (directory name : Path) :
    fileSystem.lookupIn directory name =
      (fileSystem.origin directory).walk (directory.moves ++ name.moves) := by
  rw [lookupIn, Spot.walk_append]
  cases (fileSystem.origin directory).walk directory.moves with
  | ok spot => rfl
  | error obstacle => rfl

/-- A path is opened by the lookup of its name in its directory. -/
theorem openPath_join (some : directory ≠ []) (relative : name.isAbsolute = false) :
    fileSystem.openPath (directory.join name) =
      if 0 ∈ directory.join name then
        .error ⟨.other, "file name contained an unexpected NUL byte"⟩
      else
        match fileSystem.lookupIn directory name with
        | .ok spot => .ok spot.tree
        | .error .missing => .error ⟨.notFound, ""⟩
        | .error .notDirectory => .error ⟨.notADirectory, ""⟩ := by
  have joined : directory.join name ≠ [] := by
    unfold Path.join
    rw [relative]
    simp only [Bool.false_eq_true, if_false]
    cases directory with
    | nil => exact absurd rfl some
    | cons first rest =>
        rw [List.getLast?_cons]
        dsimp only
        split <;> exact List.cons_ne_nil _ _
  have origins : fileSystem.origin (directory.join name) = fileSystem.origin directory := by
    rw [origin, Path.isAbsolute_join _ _ relative, origin]
  have found := fileSystem.lookupIn_eq directory name
  rw [openPath, if_neg joined, origins, Path.walk_join _ _ _ relative]
  generalize fileSystem.lookupIn directory name = result at found ⊢
  subst found
  rfl

end FileSystem

section
variable {fileSystem : FileSystem} {directory : Path} {request : ReadRequest}
  {disk : Path → Except IoError (Tree (List UInt8) (List UInt8))} {rest : List RootKind}

/-- The name of a request is the text that a local root joins to its path. -/
def ReadRequest.name (request : ReadRequest) : Path := trimStartSlashes (utf8 request.filename)

/-- A local root opens the path of the name. -/
theorem scheduleTask_localRoot (some : directory ≠ []) :
    scheduleTask fileSystem.openPath disk request (.localRoot ⟨directory⟩ :: rest) =
      if 0 ∈ directory.join request.name then .fireError (TFTPError.undefined "Server Error")
      else
        match fileSystem.lookupIn directory request.name with
        | .ok spot => .send ⟨directory.join request.name, spot.tree⟩ request.options
        | .error .missing => scheduleTask fileSystem.openPath disk request rest
        | .error .notDirectory => .fireError (TFTPError.undefined "Server Error") := by
  have relative : request.name.isAbsolute = false := trimStartSlashes_relative _
  have opened : request.openIn (RootKind.openFile fileSystem.openPath disk
      (.localRoot ⟨directory⟩)) = openAt fileSystem.openPath (directory.join request.name) := by
    rw [ReadRequest.openIn, RootKind.openFile_eq]
    rfl
  rw [scheduleTask, opened, openAt, FileSystem.openPath_join some relative]
  by_cases nul : 0 ∈ directory.join request.name
  · rw [if_pos nul, if_pos nul]
  · rw [if_neg nul, if_neg nul]
    cases fileSystem.lookupIn directory request.name with
    | ok spot => rfl
    | error obstacle =>
        cases obstacle with
        | missing => rfl
        | notDirectory => rfl

theorem scheduleTask_hasFile (some : directory ≠ []) {content : List UInt8}
    (file : fileSystem.HasFile directory request.name content) :
    scheduleTask fileSystem.openPath disk request (.localRoot ⟨directory⟩ :: rest) =
      .send ⟨directory.join request.name, .regular content⟩ request.options := by
  obtain ⟨nul, parents, found⟩ := file
  rw [scheduleTask_localRoot some, if_neg nul, found]

theorem scheduleTask_missing (some : directory ≠ [])
    (missing : fileSystem.Missing directory request.name) :
    scheduleTask fileSystem.openPath disk request (.localRoot ⟨directory⟩ :: rest) =
      scheduleTask fileSystem.openPath disk request rest := by
  rw [scheduleTask_localRoot some, if_neg missing.1, missing.2]

/-- A name that is neither a file nor missing keeps the request from the next root. -/
theorem scheduleTask_blocked (some : directory ≠ [])
    (noFile : ∀ content, ¬ fileSystem.HasFile directory request.name content)
    (present : ¬ fileSystem.Missing directory request.name) (opened : OpenedAt _)
    (content : List UInt8) (regular : opened.file = .regular content) :
    scheduleTask fileSystem.openPath disk request (.localRoot ⟨directory⟩ :: rest) ≠
      .send opened request.options := by
  rw [scheduleTask_localRoot some]
  by_cases nul : 0 ∈ directory.join request.name
  · rw [if_pos nul]
    intro sent
    cases sent
  · rw [if_neg nul]
    intro sent
    cases result : fileSystem.lookupIn directory request.name with
    | ok spot =>
        rw [result] at sent
        obtain ⟨tree, parents⟩ := spot
        cases sent
        change tree = .regular content at regular
        subst regular
        exact noFile content ⟨nul, parents, result⟩
    | error obstacle =>
        rw [result] at sent
        cases obstacle with
        | missing => exact present ⟨nul, result⟩
        | notDirectory => cases sent

end

def peerDirectory (tftpRoot : Path) (peer : IpAddr) : Path := tftpRoot.join (utf8 peer.toString)

def defaultDirectory (tftpRoot : Path) : Path := tftpRoot.join (utf8 "default")

theorem peerDirectory_ne_nil (tftpRoot : Path) (peer : IpAddr) :
    peerDirectory tftpRoot peer ≠ [] :=
  tftpRoot.join_ne_nil (utf8_ne_nil peer.toString_ne_empty)

theorem defaultDirectory_ne_nil (tftpRoot : Path) : defaultDirectory tftpRoot ≠ [] :=
  tftpRoot.join_ne_nil (utf8_ne_nil (by decide))

/-- A file of the peer's directory is sent, and without one a file of the default directory is. -/
def BacksUp (fileSystem : FileSystem) (tftpRoot : Path) (peer : IpAddr)
    (request : ReadRequest) : Prop :=
  ∀ disk : Path → Except IoError (Tree (List UInt8) (List UInt8)),
    (∀ content, fileSystem.HasFile (peerDirectory tftpRoot peer) request.name content →
      scheduleTask fileSystem.openPath disk request (availableRoots tftpRoot peer none) =
        .send ⟨(peerDirectory tftpRoot peer).join request.name, .regular content⟩
          request.options) ∧
    ((∀ content, ¬ fileSystem.HasFile (peerDirectory tftpRoot peer) request.name content) →
      ∀ content, fileSystem.HasFile (defaultDirectory tftpRoot) request.name content →
        scheduleTask fileSystem.openPath disk request (availableRoots tftpRoot peer none) =
          .send ⟨(defaultDirectory tftpRoot).join request.name, .regular content⟩
            request.options)

/-- The default directory backs up the peer's directory exactly where the name of a default file
is a file or a missing one in the peer's directory, and neither a directory nor below a file. -/
theorem defaultDirectory_backsUp_iff (fileSystem : FileSystem) (tftpRoot : Path) (peer : IpAddr)
    (request : ReadRequest) :
    BacksUp fileSystem tftpRoot peer request ↔
      ((∃ content, fileSystem.HasFile (defaultDirectory tftpRoot) request.name content) →
        (∃ content, fileSystem.HasFile (peerDirectory tftpRoot peer) request.name content) ∨
          fileSystem.Missing (peerDirectory tftpRoot peer) request.name) := by
  have own := peerDirectory_ne_nil tftpRoot peer
  have shared := defaultDirectory_ne_nil tftpRoot
  constructor
  · rintro backsUp ⟨content, file⟩
    by_contra neither
    rw [not_or, not_exists] at neither
    have sent := (backsUp fun _ => .error ⟨.notFound, ""⟩).2 neither.1 content file
    exact scheduleTask_blocked own neither.1 neither.2 _ content rfl sent
  · intro condition disk
    constructor
    · intro content file
      exact scheduleTask_hasFile own file
    · intro noFile content file
      rcases condition ⟨content, file⟩ with ⟨content, ownFile⟩ | missing
      · exact absurd ownFile (noFile content)
      · exact (scheduleTask_missing own missing).trans (scheduleTask_hasFile shared file)

/-- The peer's directory has the file `grub`, and the default directory has `grub/grub.cfg`. -/
def blockedTree : Tree (List UInt8) (List UInt8) :=
  .directory [
    (utf8 "10.0.0.1", .directory [(utf8 "grub", .regular [])]),
    (utf8 "default", .directory [(utf8 "grub", .directory [(utf8 "grub.cfg", .regular [7])])])]

/-- A regular file in the place of a directory ends the search. -/
theorem defaultDirectory_backsUp_blocked :
    ¬ ∀ fileSystem tftpRoot peer request,
      Component.parentDir ∉ Path.components (utf8 (ReadRequest.filename request)) →
        BacksUp fileSystem tftpRoot peer request := by
  intro backsUp
  have backed := backsUp ⟨blockedTree, ⟨blockedTree, []⟩⟩ [separator] (.v4 10 0 0 1)
    ⟨"grub/grub.cfg", .empty⟩ (by decide)
  have sent := (backed fun _ => .error ⟨.notFound, ""⟩).2 ?_ [7] ⟨by decide, _, rfl⟩
  · have refused : scheduleTask (FileSystem.openPath ⟨blockedTree, ⟨blockedTree, []⟩⟩)
        (fun _ => .error ⟨.notFound, ""⟩) ⟨"grub/grub.cfg", .empty⟩
        (availableRoots [separator] (.v4 10 0 0 1) none) =
          .fireError (TFTPError.undefined "Server Error") := by rfl
    rw [refused] at sent
    cases sent
  · rintro content ⟨_, parents, found⟩
    cases found

end Rtftp

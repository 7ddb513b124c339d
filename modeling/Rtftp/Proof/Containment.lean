import Mathlib.Data.List.DropRight
import Rtftp.Construction.Root

namespace Rtftp
open Library

/-- These are the moves of the components that a body can have. -/
def Component.toMove : Component → Move (List UInt8)
  | .parentDir => .up
  | .normal name => .down name
  | _ => .stay

namespace Path

theorem body_nil : body [] = [] := rfl

/-- A separator splits the components of a path. -/
theorem body_append_separator (first second : Path) :
    body (first ++ separator :: second) = body first ++ body second := by
  rw [body, List.splitOn_append_cons_self, List.filterMap_append]
  rfl

/-- A relative path is joined after the components of the first path. -/
theorem body_join (path next : Path) (relative : next.isAbsolute = false) :
    body (path.join next) = body path ++ body next := by
  unfold join
  rw [relative]
  simp only [Bool.false_eq_true, if_false]
  rcases List.eq_nil_or_concat path with rfl | ⟨before, last, rfl⟩
  · rw [body_nil]
    rfl
  · rw [List.concat_eq_append, List.getLast?_concat]
    by_cases ending : last = separator
    · subst last
      simp only [BEq.rfl, if_true]
      have trailing := body_append_separator before []
      rw [body_nil, List.append_nil] at trailing
      rw [trailing, List.append_assoc, List.singleton_append, body_append_separator]
    · simp only [beq_eq_false_iff_ne.mpr ending, Bool.false_eq_true, if_false]
      exact body_append_separator _ _

/-- A body holds only names and parents. -/
theorem mem_body {path : Path} {component : Component} (member : component ∈ path.body) :
    component = .parentDir ∨ ∃ name, component = .normal name := by
  rw [body, List.mem_filterMap] at member
  obtain ⟨piece, _, parsed⟩ := member
  unfold parseSingleComponent at parsed
  split at parsed
  · cases parsed
  · split at parsed
    · cases parsed
    · split at parsed
      · exact .inl (Option.some.inj parsed).symm
      · exact .inr ⟨piece, (Option.some.inj parsed).symm⟩

/-- The root of a path decides where its walk starts. -/
def origin (path : Path) : Place (List UInt8) := if path.isAbsolute then ⟨true, 0, []⟩ else .here

/-- The place of a path is the walk along its body. -/
theorem resolve_eq (path : Path) :
    path.resolve = path.origin.walk (path.body.map Component.toMove) := by
  have walked (place : Place (List UInt8)) :
      path.body.foldl enter place = place.walk (path.body.map Component.toMove) := by
    rw [Place.walk, List.foldl_map]
    apply List.foldl_ext
    intro current component member
    rcases mem_body member with rfl | ⟨name, rfl⟩
    · rfl
    · rfl
  rw [resolve, components, List.foldl_append, walked, origin]
  split
  · rfl
  · split <;> rfl

/-- A relative path keeps the root of the path that it is joined to. -/
theorem isAbsolute_join (path next : Path) (relative : next.isAbsolute = false) :
    (path.join next).isAbsolute = path.isAbsolute := by
  unfold join
  rw [relative]
  simp only [Bool.false_eq_true, if_false]
  cases path with
  | nil => exact relative
  | cons first rest =>
      rw [List.getLast?_cons]
      dsimp only
      split <;> rfl

/-- A relative path keeps the leading dot of the path that it is joined to. -/
theorem includeCurDir_join (first : UInt8) (rest next : Path)
    (relative : next.isAbsolute = false) :
    (join (first :: rest) next).includeCurDir = includeCurDir (first :: rest) := by
  unfold join includeCurDir
  rw [relative, List.getLast?_cons]
  simp only [Bool.false_eq_true, if_false]
  cases rest with
  | nil =>
      by_cases slash : first = separator
      · subst first
        rfl
      · simp [slash]
  | cons second rest => split <;> rfl

/-- A relative path is joined after all components of the first path. -/
theorem components_join (path next : Path) (relative : next.isAbsolute = false) :
    (path.join next).components =
      if path = [] then next.components else path.components ++ next.body := by
  cases path with
  | nil =>
      unfold join
      rw [relative]
      rfl
  | cons first rest =>
      rw [components, isAbsolute_join _ _ relative, includeCurDir_join _ _ _ relative,
        body_join _ _ relative, if_neg (List.cons_ne_nil _ _), ← List.append_assoc, components]

/-- The check of the local root passes for every relative path. -/
theorem startsWith_join (path next : Path) (relative : next.isAbsolute = false) :
    (path.join next).startsWith path = true := by
  rw [startsWith, List.isPrefixOf_iff_prefix, components_join _ _ relative]
  split
  · rename_i empty
    subst path
    exact List.nil_prefix
  · exact List.prefix_append _ _

/-- The place of a joined path is looked up from the place of the first path. -/
theorem resolve_join (path next : Path) (relative : next.isAbsolute = false) :
    (path.join next).resolve = path.resolve.attach next.resolve := by
  have here : next.origin = .here := by
    rw [origin, relative]
    rfl
  have origins : (path.join next).origin = path.origin := by
    rw [origin, isAbsolute_join _ _ relative, origin]
  rw [resolve_eq, origins, body_join _ _ relative, List.map_append, Place.walk_append,
    Place.walk_eq_attach, ← resolve_eq, ← here, ← resolve_eq]

end Path

/-- A text without its leading slashes is relative. -/
theorem trimStartSlashes_relative (text : List UInt8) :
    Path.isAbsolute (trimStartSlashes text) = false := by
  induction text with
  | nil => rfl
  | cons first rest ih =>
      unfold trimStartSlashes at ih ⊢
      rw [List.dropWhile_cons]
      split
      · exact ih
      · rename_i other
        simpa [Path.isAbsolute] using other

/-- Slashes are trimmed only once. -/
theorem trimStartSlashes_twice (text : List UInt8) :
    trimStartSlashes (trimStartSlashes text) = trimStartSlashes text := by
  unfold trimStartSlashes
  exact List.dropWhile_idempotent _ _

variable {F : Type}

/-- Both kinds of root open the path of the trimmed name, without any refusal of their own. -/
theorem RootKind.openFile_eq (system disk : Path → Except IoError F) (kind : RootKind)
    (text : List UInt8) :
    kind.openFile system disk (trimStartSlashes text) =
      openAt (match kind with | .localRoot _ => system | .remoteRoot _ => disk)
        (kind.path.join (trimStartSlashes text)) := by
  cases kind with
  | localRoot root =>
      simp only [openFile, LocalRoot.openFile, trimStartSlashes_twice, RootKind.path,
        Path.startsWith_join _ _ (trimStartSlashes_relative text), Bool.not_true,
        Bool.false_eq_true, if_false]
  | remoteRoot root => rfl

/-- An opened file is at the path that was asked for. -/
theorem openAt_path {system : Path → Except IoError F} {path : Path} {opened : OpenedAt F}
    (returned : openAt system path = .ok opened) : opened.path = path := by
  unfold openAt at returned
  split at returned
  · rw [← Except.ok.inj returned]
  · cases returned

/-- Every file that a request opens in a root is in the root or below it. -/
def Contained (kind : RootKind) (request : ReadRequest) : Prop :=
  ∀ (F : Type) (system disk : Path → Except IoError F) (opened : OpenedAt F),
    request.openIn (kind.openFile system disk) = .ok opened →
      kind.path.resolve.Inside opened.path.resolve

/-- A request stays inside its root exactly when its name, resolved on its own, returns into every
directory of the root that it climbs out of. -/
theorem requestedFile_contained_iff (kind : RootKind) (request : ReadRequest) :
    Contained kind request ↔
      kind.path.resolve.Returns
        (Path.resolve (trimStartSlashes (utf8 request.filename))) := by
  have relative := trimStartSlashes_relative (utf8 request.filename)
  rw [← Place.inside_attach_iff, ← Path.resolve_join _ _ relative]
  constructor
  · intro contained
    apply contained Unit (fun _ => .ok ()) (fun _ => .ok ())
      ⟨kind.path.join (trimStartSlashes (utf8 request.filename)), ()⟩
    rw [ReadRequest.openIn, RootKind.openFile_eq]
    cases kind <;> rfl
  · intro inside F system disk opened returned
    rw [ReadRequest.openIn, RootKind.openFile_eq] at returned
    rw [openAt_path returned]
    exact inside

/-- A peer reads a file of another peer's directory. -/
theorem requestedFile_escapes :
    ¬ Contained (.localRoot ⟨utf8 "/srv/tftp/10.0.0.1"⟩) ⟨"../10.0.0.2/secret", .empty⟩ := by
  intro contained
  have inside := contained Unit (fun _ => .ok ()) (fun _ => .ok ())
    ⟨utf8 "/srv/tftp/10.0.0.1/../10.0.0.2/secret", ()⟩ (by decide)
  exact absurd inside (by decide)

end Rtftp

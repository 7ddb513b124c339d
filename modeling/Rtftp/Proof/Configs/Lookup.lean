import Rtftp.Proof.Configs.Connection
import Rtftp.Proof.Isolation

namespace Rtftp
open Library

section
variable {Value : Type} {reader : ConfigReader Value} {ip : String} {entries : List DirEntry}

/-- Harmless configs never panic, and every root of them has no NUL in its path. -/
theorem connectFirst_safe (handles : List UInt8 → Handle)
    (harmless : ∀ entry ∈ entries, matchIp entry.name ip = true →
      ∀ config, reader.readConfig entry = some config → Harmless config) :
    connectFirst reader handles ip entries ≠ .panic ∧
      ∀ connected, connectFirst reader handles ip entries = .ok (some connected) →
        0 ∉ connected.root.chrootPath := by
  induction entries with
  | nil => exact ⟨fun panicked => (by cases panicked), fun connected returned => (by cases returned)⟩
  | cons entry rest ih =>
      have later := ih fun entry member => harmless entry (List.mem_cons_of_mem _ member)
      rw [connectFirst]
      split
      · rename_i matched
        split
        · exact later
        · rename_i config read
          obtain ⟨safe, rooted⟩ :=
            (harmless entry List.mem_cons_self matched config read).connect (handles entry.name)
          split
          · rename_i connected returned
            exact ⟨fun panicked => (by cases panicked), fun other same => by
              cases same
              exact rooted connected returned⟩
          · exact later
          · exact later
          · rename_i panicked
            exact absurd panicked safe
      · exact later

/-- These handles refuse every config but one. -/
def onlyWilling (name : List UInt8) : List UInt8 → Handle :=
  fun other => if other = name then willing else refusing

/-- The search comes to every config when the others are refused. -/
theorem connectFirst_onlyWilling {bad : DirEntry} {config : NBDConfig} (member : bad ∈ entries)
    (distinct : ∀ entry ∈ entries, entry.name = bad.name → entry = bad)
    (matched : matchIp bad.name ip = true) (read : reader.readConfig bad = some config) :
    (config.connect willing = .panic →
      connectFirst reader (onlyWilling bad.name) ip entries = .panic) ∧
    ∀ connected, config.connect willing = .ok connected →
      connectFirst reader (onlyWilling bad.name) ip entries = .ok (some connected) := by
  induction entries with
  | nil => cases member
  | cons entry rest ih =>
      by_cases same : entry = bad
      · subst same
        simp only [connectFirst, matched, if_true, read, onlyWilling]
        constructor
        · intro panicked
          rw [panicked]
        · intro connected returned
          rw [returned]
      · have different : entry.name ≠ bad.name := fun equal =>
          same (distinct entry List.mem_cons_self equal)
        have later := ih ((List.mem_cons.mp member).resolve_left (Ne.symm same))
          fun entry inside => distinct entry (List.mem_cons_of_mem _ inside)
        have skipped : connectFirst reader (onlyWilling bad.name) ip (entry :: rest) =
            connectFirst reader (onlyWilling bad.name) ip rest := by
          rw [connectFirst]
          split
          · split
            · rfl
            · rename_i other _
              obtain ⟨error, refused⟩ := connect_refusing other
              rw [onlyWilling, if_neg different, refused]
              cases error with
              | configError message => rfl
              | setupError error => rfl
          · rfl
        rw [skipped]
        exact later

/-- The earlier lookup takes the connection for one that cannot panic. -/
def ConfigReader.backend (reader : ConfigReader Value) (handle : Handle) :
    NbdBackend Value NBDConfig ConnectedRoot where
  fromStr := reader.fromStr
  fromJson := reader.fromJson
  connect config :=
    match config.connect handle with
    | .ok connected => .ok connected
    | .err error => .error error
    | .panic => .error (.configError "")

theorem connectConfig_backend (reader : ConfigReader Value) (handle : Handle) (entry : DirEntry) :
    connectConfig (reader.backend handle) entry =
      match reader.readConfig entry with
      | none => none
      | some config =>
          match config.connect handle with
          | .ok connected => some connected
          | _ => none := by
  unfold connectConfig readJson ConfigReader.readConfig ConfigReader.backend
  cases entry.content with
  | none => rfl
  | some content =>
      dsimp only
      cases reader.fromStr content with
      | none => rfl
      | some value =>
          dsimp only
          cases reader.fromJson value with
          | none => rfl
          | some config =>
              dsimp only
              cases config.connect handle with
              | ok connected => rfl
              | err error => cases error <;> rfl
              | panic => rfl

/-- A search without a panic is the lookup of the first working config. -/
theorem connectFirst_eq (handle : Handle)
    (safe : connectFirst reader (fun _ => handle) ip entries ≠ .panic) :
    connectFirst reader (fun _ => handle) ip entries =
      .ok (entries.findSome? fun entry =>
        if matchIp entry.name ip then connectConfig (reader.backend handle) entry else none) := by
  induction entries with
  | nil => rfl
  | cons entry rest ih =>
      rw [connectFirst] at safe ⊢
      rw [List.findSome?_cons]
      split at safe
      · rename_i matched
        rw [if_pos matched, if_pos matched, connectConfig_backend]
        cases read : reader.readConfig entry with
        | none =>
            rw [read] at safe
            exact ih safe
        | some config =>
            rw [read] at safe
            dsimp only at safe ⊢
            cases answer : config.connect handle with
            | ok connected => rfl
            | err error =>
                rw [answer] at safe
                cases error with
                | configError message => exact ih safe
                | setupError failure => exact ih safe
            | panic =>
                rw [answer] at safe
                exact absurd rfl safe
      · rename_i unmatched
        rw [if_neg unmatched, if_neg unmatched]
        exact ih safe

end

/-- A thread that does not panic opens the root of the lookup. -/
theorem handlerThread_eq {Value : Type} (reader : ConfigReader Value) (handle : Handle)
    (directory : Directory) (peer : IpAddr)
    (safe : handlerThread reader (fun _ => handle) directory peer ≠ .panic) :
    handlerThread reader (fun _ => handle) directory peer =
      .ok (openNbdRoot (reader.backend handle) directory peer.toString) :=
  connectFirst_eq handle safe

/-- The disk is the system that opens the files of a remote root. -/
def ConnectedDisk.system (disk : ConnectedDisk) (path : Path) : Except IoError FileReader :=
  match disk.openFile path with
  | .ok fileReader => .ok fileReader
  | .err error => .error error
  | .panic => .error ⟨.other, ""⟩

/-- A path without NUL is opened as by a remote root. -/
theorem ConnectedRoot.openFile_eq (connected : ConnectedRoot) {path : List UInt8}
    (nulFree : 0 ∉ connected.root.chrootPath.join path) :
    connected.openFile path =
      .ofExcept ((connected.root.openFile connected.disk.system path).map OpenedAt.file) := by
  have safe := connected.disk.openFile_ne_panic nulFree
  rw [ConnectedRoot.openFile, RemoteRoot.openFile, openAt, ConnectedDisk.system]
  cases answer : connected.disk.openFile (connected.root.chrootPath.join path) with
  | ok fileReader => rfl
  | err error => rfl
  | panic => exact absurd answer safe

/-- Whatever the library does, the thread of the handler and the join of the thread do not panic,
and no request for a file of the connected root panics. -/
def CrashFree {Value : Type} (reader : ConfigReader Value) (directory : Directory)
    (peer : IpAddr) : Prop :=
  ∀ handles : List UInt8 → Handle,
    (∃ connected, handlerThread reader handles directory peer = .ok connected) ∧
    joinThread (handlerThread reader handles directory peer) = .ok () ∧
    ∀ connected, handlerThread reader handles directory peer = .ok (some connected) →
      ∀ request : ReadRequest, 0 ∉ utf8 request.filename →
        connected.openFile (trimStartSlashes (utf8 request.filename)) ≠ .panic

/-- Every config that the lookup can come to is harmless. -/
def HarmlessConfigs {Value : Type} (reader : ConfigReader Value) (directory : Directory)
    (peer : IpAddr) : Prop :=
  ∀ entry, some entry ∈ directory.entries → entry.isFile = true →
    matchIp entry.name peer.toString = true →
    ∀ config, reader.readConfig entry = some config → Harmless config

theorem mem_filesSorted (directory : Directory) (entry : DirEntry) :
    entry ∈ filesSorted directory ↔ some entry ∈ directory.entries ∧ entry.isFile = true := by
  rw [filesSorted, List.mem_mergeSort]
  exact directory.mem_files entry

theorem HarmlessConfigs.crashFree {Value : Type} {reader : ConfigReader Value}
    {directory : Directory} {peer : IpAddr} (harmless : HarmlessConfigs reader directory peer) :
    CrashFree reader directory peer := by
  intro handles
  obtain ⟨safe, rooted⟩ := connectFirst_safe handles fun entry member matched =>
    let file := (mem_filesSorted directory entry).mp member
    harmless entry file.1 file.2 matched
  have returned : ∃ connected, handlerThread reader handles directory peer = .ok connected := by
    unfold handlerThread
    cases result : connectFirst reader handles peer.toString (filesSorted directory) with
    | ok connected => exact ⟨connected, rfl⟩
    | err failure => cases failure
    | panic => exact absurd result safe
  refine ⟨returned, ?_, ?_⟩
  · obtain ⟨connected, same⟩ := returned
    rw [same]
    rfl
  · intro connected same request nulFree
    apply ConnectedDisk.openFile_ne_panic
    intro nul
    rcases mem_join nul with inRoot | slash | inName
    · exact rooted connected same inRoot
    · exact absurd slash (by decide)
    · exact nul_notMem_trimStartSlashes nulFree inName

theorem CrashFree.harmless {Value : Type} {reader : ConfigReader Value} {directory : Directory}
    {peer : IpAddr} (crashFree : CrashFree reader directory peer) :
    HarmlessConfigs reader directory peer := by
  intro entry member file matched config read
  by_contra harmful
  have listed := (mem_filesSorted directory entry).mpr ⟨member, file⟩
  have distinct : ∀ other ∈ filesSorted directory, other.name = entry.name → other = entry := by
    intro other inside same
    exact directory.files_injective other (List.mem_mergeSort.mp inside) entry
      (List.mem_mergeSort.mp listed) same
  obtain ⟨panics, connects⟩ := connectFirst_onlyWilling listed distinct matched read
  obtain ⟨⟨result, returned⟩, _, opened⟩ := crashFree (onlyWilling entry.name)
  unfold handlerThread at returned opened
  rcases connect_willing harmful with panicked | ⟨connected, answer, nul⟩
  · rw [panics panicked] at returned
    cases returned
  · apply opened connected (connects connected answer) ⟨"", .empty⟩ (by decide)
    exact ConnectedDisk.openFile_eq_panic _
      (mem_join_left (trimStartSlashes_relative _) nul)

/-- No config crashes the handler exactly when every config that the lookup can come to is
harmless. A mount outside the partitions is a config error exactly when its number is not zero. -/
theorem configs_crashFree_iff {Value : Type} (reader : ConfigReader Value) (directory : Directory)
    (peer : IpAddr) :
    (CrashFree reader directory peer ↔ HarmlessConfigs reader directory peer) ∧
    ∀ (mount : Mount) (handle : Handle) (call : Nat) (available : List CString),
      mount.partition = 0 ∨ available.length < mount.partition →
      ((∃ message, mount.mountSuitable handle call available = .err (.configError message)) ↔
        mount.partition ≠ 0) := by
  constructor
  · exact ⟨CrashFree.harmless, HarmlessConfigs.crashFree⟩
  · intro mount handle call available outside
    rw [Mount.mountSuitable]
    by_cases zero : mount.partition = 0
    · rw [if_pos zero]
      simp [zero]
    · have missing : available[mount.partition - 1]? = none := List.getElem?_eq_none (by omega)
      rw [if_neg zero, missing]
      exact ⟨fun _ => zero, fun _ => ⟨_, rfl⟩⟩

/-- This config mounts the partition zero. -/
def zeroConfig : NBDConfig := ⟨"nbd://10.0.0.2/root", [⟨0, "/"⟩], "/"⟩

def zeroJson : String :=
  "\x7b\"url\":\"nbd://10.0.0.2/root\",\"mounts\":[\x7b\"partition\":0,\"mountpoint\":\"/\"\x7d],\"tftp_root\":\"/\"\x7d"

def zeroReader : ConfigReader NBDConfig where
  fromStr text := if text = zeroJson then some zeroConfig else none
  fromJson config := some config

def zeroDirectory : Directory where
  entries := [some ⟨utf8 "10.0.0.1.nbd", true, some zeroJson⟩]
  distinct := List.nodup_singleton _

/-- A mount of partition zero panics in the thread of the handler. -/
theorem configs_crashFree_broken :
    ¬ ∀ (reader : ConfigReader NBDConfig) (directory : Directory) (peer : IpAddr),
      CrashFree reader directory peer := by
  intro crashFree
  have harmless := (crashFree zeroReader zeroDirectory (.v4 10 0 0 1)).harmless
    ⟨utf8 "10.0.0.1.nbd", true, some zeroJson⟩ List.mem_cons_self rfl (by decide) zeroConfig
    (by simp [ConfigReader.readConfig, zeroReader])
  obtain ⟨_, mounts, _⟩ := harmless (by decide)
  exact (mounts ⟨0, "/"⟩ (by decide)).1 rfl

end Rtftp

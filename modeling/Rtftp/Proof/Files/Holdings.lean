import Rtftp.Construction.Schedule
import Rtftp.Construction.ServedFile
import Rtftp.Proof.Configs.Lookup
import Rtftp.Proof.Files.Readers

namespace Rtftp
open Library PeerHandler

/-- A path of a disk is a file, or its size or its bytes cannot be had. -/
inductive Exported where
  | file (content : List UInt8)
  | unsized (error : GuestFSError)
  | unreadable (size : Nat) (error : String)
  deriving DecidableEq

/-- The library tells the size of a file and gives its bytes in pieces of any size. -/
def Handle.Exports (handle : Handle) (exported : CString → Exported) : Prop :=
  ∀ path, match exported path with
    | .file content =>
        handle.stat path = .ok content.length ∧ FileReader.Cuts (handle.pread path) content
    | .unsized error => handle.stat path = .error error
    | .unreadable size error =>
        handle.stat path = .ok size ∧ handle.pread path 0 0 = .error error

/-- What can be read of a disk is the content of its files. -/
def contentOf (exported : CString → Exported) (path : Path) : Except IoError (List UInt8) :=
  match CString.new path with
  | none => .error ⟨.other, ""⟩
  | some path =>
      match exported path with
      | .file content => .ok content
      | .unsized error =>
          if contains error.message "No such file or directory" then .error ⟨.notFound, ""⟩
          else .error ⟨.other, error.message⟩
      | .unreadable _ error => .error ⟨.other, error⟩

/-- The system opens a file at its start, and its reads fill the buffer. -/
def openSystem (system : Path → Except IoError (List UInt8)) (path : Path) :
    Except IoError ServedFile :=
  (system path).map fun content => .localFile ⟨File.opened content .full⟩

/-- A handler without a config has no disk. -/
def openDisk (connected : Option ConnectedRoot) (path : Path) : Except IoError ServedFile :=
  match connected with
  | some connected => (connected.disk.system path).map .remoteFile
  | none => .error ⟨.notFound, ""⟩

/-- This is what the disk of a handler holds. -/
def diskContent (connected : Option ConnectedRoot) (exported : CString → Exported) (path : Path) :
    Except IoError (List UInt8) :=
  match connected with
  | some _ => contentOf exported path
  | none => .error ⟨.notFound, ""⟩

/-- These are the same contents in memory. -/
def openMemory (contents : Path → Except IoError (List UInt8)) (path : Path) :
    Except IoError VirtualOpenedFile :=
  (contents path).map .new

/-- A file of a root is related to a buffer with its content at the same offset. -/
inductive ServedFile.Held : ServedFile → VirtualOpenedFile → Prop where
  | localFile {content : List UInt8} {opened : LocalOpenedFile} {file : VirtualOpenedFile} :
      Copied content opened file → Held (.localFile opened) file
  | remoteFile {content : List UInt8} {reader : FileReader} {file : VirtualOpenedFile} :
      Mirrored content reader file → Held (.remoteFile reader) file

namespace ServedFile

/-- A file that is wrapped reads as before. -/
theorem alike_readAs {O P : Type} [OpenedFile O] [OpenedFile P] {Related : O → P → Prop}
    (alike : Alike Related) {first : O} {second : P} (related : Related first second)
    (wrap : O → ServedFile) (wraps : ∀ room,
      OpenedFile.readTo (wrap first) room = OpenedFile.readAs wrap first room) (room : Nat) :
    (∃ bytes next other, OpenedFile.readTo (wrap first) room = .ok (bytes, wrap next) ∧
      OpenedFile.readTo second room = .ok (bytes, other) ∧ Related next other) ∨
    ∃ error failure, OpenedFile.readTo (wrap first) room = .error error ∧
      OpenedFile.readTo second room = .error failure := by
  rw [wraps, OpenedFile.readAs]
  rcases alike first second related room with
    ⟨bytes, next, other, read, same, kept⟩ | ⟨error, failure, failed, same⟩
  · rw [read]
    exact .inl ⟨bytes, next, other, rfl, same, kept⟩
  · rw [failed]
    exact .inr ⟨error, failure, rfl, same⟩

/-- A file of a root reads what the buffer in memory reads. -/
theorem alike_held : Alike Held := by
  intro first second held room
  cases held with
  | localFile copied =>
      rcases alike_readAs (alike_copied _) copied .localFile (fun _ => rfl) room with
        ⟨bytes, next, other, read, same, kept⟩ | failed
      · exact .inl ⟨bytes, .localFile next, other, read, same, .localFile kept⟩
      · exact .inr failed
  | remoteFile mirrored =>
      rcases alike_readAs (alike_mirrored _) mirrored .remoteFile (fun _ => rfl) room with
        ⟨bytes, next, other, read, same, kept⟩ | failed
      · exact .inl ⟨bytes, .remoteFile next, other, read, same, .remoteFile kept⟩
      · exact .inr failed

theorem interchangeable_localFile (content : List UInt8) :
    Interchangeable Held (.localFile ⟨File.opened content .full⟩)
      (VirtualOpenedFile.new content) where
  related := .localFile (interchangeable_copied content).related
  size := (interchangeable_copied content).size
  sized := .localFile (interchangeable_copied content).sized

theorem interchangeable_remoteFile {content : List UInt8} {reader : FileReader}
    (aligned : FileReader.Aligned content reader) (fresh : reader.currentOffset = 0) :
    Interchangeable Held (.remoteFile reader) (VirtualOpenedFile.new content) where
  related := .remoteFile (interchangeable_mirrored aligned fresh).related
  size := (interchangeable_mirrored aligned fresh).size
  sized := .remoteFile (interchangeable_mirrored aligned fresh).sized

end ServedFile

/-- Two openings give related files or fail with the same error. -/
inductive OpenedAlike {O P : Type} (Related : O → P → Prop) :
    Except IoError O → Except IoError P → Prop where
  | file {first : O} {second : P} :
      Related first second → OpenedAlike Related (.ok first) (.ok second)
  | failed (error : IoError) : OpenedAlike Related (.error error) (.error error)

/-- The files of the system are opened as their contents. -/
theorem openSystem_alike (system : Path → Except IoError (List UInt8)) (path : Path) :
    OpenedAlike (Interchangeable ServedFile.Held) (openSystem system path)
      (openMemory system path) := by
  unfold openSystem openMemory
  cases system path with
  | ok content => exact .file (ServedFile.interchangeable_localFile content)
  | error error => exact .failed error

/-- A disk opens what its handle exports. -/
theorem ConnectedDisk.system_alike {disk : ConnectedDisk} {exported : CString → Exported}
    (exports : disk.handle.Exports exported) (path : Path) :
    OpenedAlike (Interchangeable ServedFile.Held) ((disk.system path).map .remoteFile)
      (openMemory (contentOf exported) path) := by
  unfold openMemory contentOf
  by_cases nul : 0 ∈ path
  · rw [ConnectedDisk.system, disk.openFile_eq_panic nul, CString.new, dif_neg (not_not_intro nul)]
    exact .failed _
  · rw [ConnectedDisk.system, ConnectedDisk.openFile, GuestFS.getSize,
      CString.expected_eq_ok nul, CString.new, dif_pos nul]
    simp only [Outcome.bind_ok]
    have answer := exports ⟨path, nul⟩
    cases entry : exported ⟨path, nul⟩ with
    | file content =>
        rw [entry] at answer
        obtain ⟨size, cuts⟩ := answer
        obtain ⟨reader, opened, aligned, fresh⟩ := FileReader.aligned_openFile cuts
        rw [size]
        simp only [Outcome.ofExcept, CString.expected_eq_ok nul, Outcome.bind_ok, opened]
        exact .file (ServedFile.interchangeable_remoteFile aligned fresh)
    | unsized error =>
        rw [entry] at answer
        rw [answer]
        simp only [Outcome.ofExcept]
        cases contains error.message "No such file or directory" with
        | true => exact .failed _
        | false => exact .failed _
    | unreadable size error =>
        rw [entry] at answer
        obtain ⟨sized, failed⟩ := answer
        rw [sized]
        simp only [Outcome.ofExcept, CString.expected_eq_ok nul, Outcome.bind_ok,
          FileReader.openFile, failed]
        exact .failed _

/-- The disk of a handler is opened as its contents. -/
theorem openDisk_alike {connected : Option ConnectedRoot} {exported : CString → Exported}
    (exports : ∀ root, connected = some root → root.disk.handle.Exports exported) (path : Path) :
    OpenedAlike (Interchangeable ServedFile.Held) (openDisk connected path)
      (openMemory (diskContent connected exported) path) := by
  cases connected with
  | none => exact .failed _
  | some root => exact ConnectedDisk.system_alike (exports root rfl) path

/-- Two tasks send related files with the same options or fire the same error. -/
inductive Scheduled.Same {O P : Type} (Related : O → P → Prop) :
    Scheduled O → Scheduled P → Prop where
  | send (path : Path) (options : Table String String) {first : O} {second : P} :
      Related first second →
      Scheduled.Same Related (.send ⟨path, first⟩ options) (.send ⟨path, second⟩ options)
  | fireError (tftpError : TFTPError) :
      Scheduled.Same Related (.fireError tftpError) (.fireError tftpError)

section
variable {O P : Type} {Related : O → P → Prop}
  {system disk : Path → Except IoError O} {otherSystem otherDisk : Path → Except IoError P}
  (systems : ∀ path, OpenedAlike Related (system path) (otherSystem path))
  (disks : ∀ path, OpenedAlike Related (disk path) (otherDisk path))

theorem openAt_alike {files : Path → Except IoError O} {others : Path → Except IoError P}
    (alike : ∀ path, OpenedAlike Related (files path) (others path)) (path : Path) :
    (∃ error, openAt files path = .error error ∧ openAt others path = .error error) ∨
    ∃ first second, openAt files path = .ok ⟨path, first⟩ ∧
      openAt others path = .ok ⟨path, second⟩ ∧ Related first second := by
  unfold openAt
  have opened := alike path
  generalize files path = one, others path = two at opened
  cases opened with
  | file same => exact .inr ⟨_, _, rfl, rfl, same⟩
  | failed error => exact .inl ⟨error, rfl, rfl⟩

include systems disks

/-- A root opens the same path in both, or it fails with the same error. -/
theorem RootKind.openFile_alike (root : RootKind) (name : List UInt8) :
    (∃ error, root.openFile system disk name = .error error ∧
      root.openFile otherSystem otherDisk name = .error error) ∨
    ∃ path first second, root.openFile system disk name = .ok ⟨path, first⟩ ∧
      root.openFile otherSystem otherDisk name = .ok ⟨path, second⟩ ∧ Related first second := by
  cases root with
  | localRoot root =>
      simp only [RootKind.openFile, LocalRoot.openFile]
      split
      · exact .inl ⟨_, rfl, rfl⟩
      · rcases openAt_alike systems (root.path.join (trimStartSlashes name)) with
          failed | ⟨first, second, opened, same, files⟩
        · exact .inl failed
        · exact .inr ⟨_, first, second, opened, same, files⟩
  | remoteRoot root =>
      simp only [RootKind.openFile, RemoteRoot.openFile]
      rcases openAt_alike disks (root.chrootPath.join name) with
        failed | ⟨first, second, opened, same, files⟩
      · exact .inl failed
      · exact .inr ⟨_, first, second, opened, same, files⟩

/-- The first root that knows a name is the same in both. -/
theorem scheduleTask_same (request : ReadRequest) (roots : List RootKind) :
    Scheduled.Same Related (scheduleTask system disk request roots)
      (scheduleTask otherSystem otherDisk request roots) := by
  induction roots with
  | nil => exact .fireError _
  | cons root rest ih =>
      rw [scheduleTask, scheduleTask, ReadRequest.openIn, ReadRequest.openIn]
      rcases root.openFile_alike systems disks (trimStartSlashes (utf8 request.filename)) with
        ⟨error, failed, same⟩ | ⟨path, first, second, opened, same, files⟩
      · rw [failed, same]
        dsimp only
        cases error.kind with
        | notFound => exact ih
        | _ => exact .fireError _
      · rw [opened, same]
        exact .send path request.options files

end

/-- A handler has the directories of its peer and perhaps a disk that exports files. -/
structure Holdings where
  tftpRoot : Path
  peer : IpAddr
  system : Path → Except IoError (List UInt8)
  connected : Option ConnectedRoot
  exported : CString → Exported
  nulFree : ∀ root, connected = some root → 0 ∉ root.root.chrootPath
  exports : ∀ root, connected = some root → root.disk.handle.Exports exported

namespace Holdings

def roots (holdings : Holdings) : List RootKind :=
  availableRoots holdings.tftpRoot holdings.peer (holdings.connected.map ConnectedRoot.root)

/-- The handler opens the files of its roots. -/
def schedule (holdings : Holdings) (request : ReadRequest) : Scheduled ServedFile :=
  scheduleTask (openSystem holdings.system) (openDisk holdings.connected) request holdings.roots

/-- Only the contents of the roots are looked up. -/
def lookup (holdings : Holdings) (request : ReadRequest) : Scheduled (List UInt8) :=
  scheduleTask holdings.system (diskContent holdings.connected holdings.exported) request
    holdings.roots

/-- The contents of the roots are served from memory. -/
def inMemory (holdings : Holdings) (request : ReadRequest) : Scheduled VirtualOpenedFile :=
  scheduleTask (openMemory holdings.system)
    (openMemory (diskContent holdings.connected holdings.exported)) request holdings.roots

theorem schedule_same (holdings : Holdings) (request : ReadRequest) :
    Scheduled.Same (Interchangeable ServedFile.Held) (holdings.schedule request)
      (holdings.inMemory request) :=
  scheduleTask_same (openSystem_alike holdings.system) (openDisk_alike holdings.exports) request
    holdings.roots

/-- No name without NUL makes the disk panic. -/
theorem openFile_ne_panic (holdings : Holdings) {root : ConnectedRoot}
    (connected : holdings.connected = some root) {name : String} (clean : 0 ∉ utf8 name) :
    root.openFile (trimStartSlashes (utf8 name)) ≠ .panic := by
  apply ConnectedDisk.openFile_ne_panic
  intro nul
  rcases mem_join nul with inRoot | slash | inName
  · exact holdings.nulFree root connected inRoot
  · exact absurd slash (by decide)
  · exact nul_notMem_trimStartSlashes clean inName

end Holdings

end Rtftp

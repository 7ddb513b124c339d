import Rtftp.Construction.NbdConfig
import Rtftp.Proof.Containment

namespace Rtftp
open Library

theorem utf8_append (first second : String) : utf8 (first ++ second) = utf8 first ++ utf8 second := by
  simp [utf8]

namespace Outcome
variable {Failure Other A B : Type}

@[simp] theorem bind_ok (value : A) (next : A → Outcome Failure B) :
    (Outcome.ok value).bind next = next value := rfl

@[simp] theorem bind_err (failure : Failure) (next : A → Outcome Failure B) :
    (Outcome.err failure).bind next = .err failure := rfl

@[simp] theorem bind_panic (next : A → Outcome Failure B) :
    (Outcome.panic : Outcome Failure A).bind next = .panic := rfl

/-- A sequence panics in its first call or in the next one. -/
theorem bind_ne_panic {call : Outcome Failure A} {next : A → Outcome Failure B}
    (first : call ≠ .panic) (second : ∀ value, call = .ok value → next value ≠ .panic) :
    call.bind next ≠ .panic := by
  cases call with
  | ok value => exact second value rfl
  | err failure => intro panicked; cases panicked
  | panic => exact absurd rfl first

theorem bind_eq_ok {call : Outcome Failure A} {next : A → Outcome Failure B} {result : B}
    (returned : call.bind next = .ok result) : ∃ value, call = .ok value ∧ next value = .ok result := by
  cases call with
  | ok value => exact ⟨value, rfl, returned⟩
  | err failure => cases returned
  | panic => cases returned

theorem mapErr_ne_panic {call : Outcome Failure A} (wrap : Failure → Other)
    (safe : call ≠ .panic) : call.mapErr wrap ≠ .panic := by
  cases call with
  | ok value => intro panicked; cases panicked
  | err failure => intro panicked; cases panicked
  | panic => exact absurd rfl safe

theorem mapErr_eq_ok {call : Outcome Failure A} {wrap : Failure → Other} {value : A}
    (returned : call.mapErr wrap = .ok value) : call = .ok value := by
  cases call with
  | ok value => cases returned; rfl
  | err failure => cases returned
  | panic => cases returned

theorem ofExcept_ne_panic (result : Except Failure A) : Outcome.ofExcept result ≠ .panic := by
  cases result with
  | ok value => intro panicked; cases panicked
  | error failure => intro panicked; cases panicked

theorem ofExcept_eq_ok {result : Except Failure A} {value : A}
    (returned : Outcome.ofExcept result = .ok value) : result = .ok value := by
  cases result with
  | ok value => cases returned; rfl
  | error failure => cases returned

end Outcome

namespace CString
variable {Failure : Type} {bytes : List UInt8}

theorem expected_eq_ok (nulFree : 0 ∉ bytes) :
    (expected bytes : Outcome Failure CString) = .ok ⟨bytes, nulFree⟩ := by
  rw [expected, new, dif_pos nulFree]

theorem expected_eq_panic (nul : 0 ∈ bytes) : (expected bytes : Outcome Failure CString) = .panic := by
  rw [expected, new, dif_neg (not_not_intro nul)]

end CString

/-- The option of the drive has a NUL exactly when the url has one. -/
theorem nul_mem_drive (url : String) :
    0 ∈ utf8 ("id=nbd0,file=" ++ url ++ ",format=raw,if=none,readonly=on") ↔ 0 ∈ utf8 url := by
  have before : 0 ∉ utf8 "id=nbd0,file=" := by decide
  have behind : 0 ∉ utf8 ",format=raw,if=none,readonly=on" := by decide
  rw [utf8_append, utf8_append, List.mem_append, List.mem_append]
  simp [before, behind]

theorem addQemuOption_ne_panic {key value : String} (handle : Handle) (keyFree : 0 ∉ utf8 key)
    (valueFree : 0 ∉ utf8 value) : GuestFS.addQemuOption handle key value ≠ .panic := by
  rw [GuestFS.addQemuOption, CString.expected_eq_ok keyFree, CString.expected_eq_ok valueFree]
  exact Outcome.ofExcept_ne_panic _

theorem setAppend_ne_panic (handle : Handle) :
    GuestFS.setAppend handle "SYSTEMD_COLORS=0" ≠ .panic := by
  rw [GuestFS.setAppend, CString.expected_eq_ok (by decide)]
  exact Outcome.ofExcept_ne_panic _

theorem addDisk_ne_panic (handle : Handle) : GuestFS.addDisk handle "/dev/null" ≠ .panic := by
  rw [GuestFS.addDisk, CString.expected_eq_ok (by decide), Outcome.bind_ok]
  intro panicked
  split at panicked
  · cases panicked
  · split at panicked <;> cases panicked
  · cases panicked

/-- Only a NUL in the url can make the library calls for the disk panic. -/
theorem attachNbdDisk_ne_panic (handle : Handle) {url : String} (nulFree : 0 ∉ utf8 url) :
    attachNbdDisk handle url ≠ .panic := by
  apply Outcome.bind_ne_panic (setAppend_ne_panic handle)
  intro _ _
  apply Outcome.bind_ne_panic (addDisk_ne_panic handle)
  intro _ _
  apply Outcome.bind_ne_panic
  · apply Outcome.bind_ne_panic (addQemuOption_ne_panic handle (by decide) (by decide))
    intro _ _
    exact addQemuOption_ne_panic handle (by decide) (fun nul => nulFree ((nul_mem_drive url).mp nul))
  · intro _ _ panicked
    split at panicked <;> cases panicked

theorem mountRo_ne_panic (handle : Handle) (call : Nat) (device : CString) {mountpoint : String}
    (nulFree : 0 ∉ utf8 mountpoint) : GuestFS.mountRo handle call device mountpoint ≠ .panic := by
  rw [GuestFS.mountRo, CString.expected_eq_ok device.nulFree, Outcome.bind_ok,
    CString.expected_eq_ok nulFree]
  exact Outcome.ofExcept_ne_panic _

/-- These are the mounts that can be reached. A partition above a hundred ends them. -/
def reachable (mounts : List Mount) : List Mount :=
  mounts.takeWhile fun mount => decide (mount.partition ≤ 100)

def HarmlessMounts (mounts : List Mount) : Prop :=
  ∀ mount ∈ reachable mounts, mount.partition ≠ 0 ∧ 0 ∉ utf8 mount.mountpoint

theorem harmlessMounts_cons {mount : Mount} {rest : List Mount} (within : mount.partition ≤ 100) :
    HarmlessMounts (mount :: rest) ↔
      (mount.partition ≠ 0 ∧ 0 ∉ utf8 mount.mountpoint) ∧ HarmlessMounts rest := by
  rw [HarmlessMounts, reachable, List.takeWhile_cons, if_pos (decide_eq_true within)]
  exact List.forall_mem_cons

/-- Harmless mounts do not panic on any disk. -/
theorem mountAll_ne_panic (handle : Handle) {available : List CString}
    (bounded : available.length ≤ 100) {mounts : List Mount} (harmless : HarmlessMounts mounts)
    (call : Nat) : mountAll handle available call mounts ≠ .panic := by
  induction mounts generalizing call with
  | nil => intro panicked; cases panicked
  | cons mount rest ih =>
      rw [mountAll, Mount.mountSuitable]
      by_cases within : mount.partition ≤ 100
      · obtain ⟨⟨positive, nulFree⟩, later⟩ := (harmlessMounts_cons within).mp harmless
        rw [if_neg positive]
        apply Outcome.bind_ne_panic
        · split
          · exact Outcome.mapErr_ne_panic _ (mountRo_ne_panic handle call _ nulFree)
          · intro panicked
            cases panicked
        · intro _ _
          exact ih later (call + 1)
      · have outside : available[mount.partition - 1]? = none :=
          List.getElem?_eq_none (by omega)
        rw [if_neg (by omega), outside]
        intro panicked
        cases panicked

/-- Mounts that all succeed have partitions that the disk has. -/
theorem mountAll_within (handle : Handle) {available : List CString} {mounts : List Mount}
    {call : Nat} (mounted : mountAll handle available call mounts = .ok ()) :
    ∀ mount ∈ mounts, mount.partition ≤ available.length := by
  induction mounts generalizing call with
  | nil => exact fun mount member => absurd member List.not_mem_nil
  | cons mount rest ih =>
      rw [mountAll] at mounted
      obtain ⟨_, suitable, later⟩ := Outcome.bind_eq_ok mounted
      rw [List.forall_mem_cons]
      refine ⟨?_, ih later⟩
      by_contra beyond
      have outside : available[mount.partition - 1]? = none := List.getElem?_eq_none (by omega)
      rw [Mount.mountSuitable, if_neg (by omega), outside] at suitable
      cases suitable

/-- A config is harmless when its url is no NBD url, or when no NUL and no partition zero can be
reached. The root is used only when all mounts can succeed. -/
def Harmless (config : NBDConfig) : Prop :=
  "nbd://".toList <+: config.url.toList →
    0 ∉ utf8 config.url ∧ HarmlessMounts config.mounts ∧
      ((∀ mount ∈ config.mounts, mount.partition ≤ 100) → 0 ∉ utf8 config.tftpRoot)

theorem listPartitions_bounded {handle : Handle} {partitions : List CString}
    (listed : GuestFS.listPartitions handle = .ok partitions) : partitions.length ≤ 100 := by
  rw [GuestFS.listPartitions] at listed
  split at listed
  · cases listed
    exact List.length_take_le _ _
  · cases listed

/-- A harmless config connects or fails, and its root has no NUL in its path. -/
theorem Harmless.connect {config : NBDConfig} (harmless : Harmless config) (handle : Handle) :
    config.connect handle ≠ .panic ∧
      ∀ connected, config.connect handle = .ok connected → 0 ∉ connected.root.chrootPath := by
  unfold NBDConfig.connect
  split
  · exact ⟨fun panicked => (by cases panicked), fun connected returned => (by cases returned)⟩
  · rename_i nbd
    rw [Bool.not_eq_true, Bool.not_eq_false', List.isPrefixOf_iff_prefix] at nbd
    obtain ⟨urlFree, mountsHarmless, rootFree⟩ := harmless nbd
    constructor
    · apply Outcome.bind_ne_panic (Outcome.mapErr_ne_panic _ (attachNbdDisk_ne_panic handle urlFree))
      intro disk _
      apply Outcome.bind_ne_panic (Outcome.mapErr_ne_panic _ (Outcome.ofExcept_ne_panic _))
      intro partitions listed
      have bounded := listPartitions_bounded
        (Outcome.ofExcept_eq_ok (Outcome.mapErr_eq_ok listed))
      apply Outcome.bind_ne_panic (mountAll_ne_panic disk.handle bounded mountsHarmless 0)
      intro _ _ panicked
      cases panicked
    · intro connected returned
      obtain ⟨disk, _, returned⟩ := Outcome.bind_eq_ok returned
      obtain ⟨partitions, listed, returned⟩ := Outcome.bind_eq_ok returned
      obtain ⟨_, mounted, returned⟩ := Outcome.bind_eq_ok returned
      have bounded := listPartitions_bounded
        (Outcome.ofExcept_eq_ok (Outcome.mapErr_eq_ok listed))
      cases returned
      apply rootFree
      intro mount member
      exact (mountAll_within disk.handle mounted mount member).trans bounded

def scsiDevice : CString := ⟨utf8 "/dev/sda", by decide⟩

def hundredPartitions : List CString := List.replicate 100 scsiDevice

/-- This library does all that it is asked for, on a disk with a hundred partitions. -/
def willing : Handle where
  setAppend _ := .ok ()
  addDriveOpts _ := .ok ()
  config _ _ := .ok ()
  launch := .ok ()
  applianceStderr := []
  listPartitions := .ok hundredPartitions
  mountRo _ _ _ := .ok ()
  stat _ := .ok 0
  pread _ _ _ := .ok []

/-- This library refuses the first call. -/
def refusing : Handle := { willing with setAppend := fun _ => .error .unknown }

/-- On a library that takes every setting, only the name of the disk and the launch matter. -/
theorem attachNbdDisk_configured {handle : Handle} (append : handle.setAppend = fun _ => .ok ())
    (drive : handle.addDriveOpts = fun _ => .ok ()) (config : handle.config = fun _ _ => .ok ())
    (url : String) :
    attachNbdDisk handle url =
      if 0 ∈ utf8 url then .panic
      else
        match handle.launch with
        | .ok () => .ok ⟨handle, url⟩
        | .error _ => .err (launchError url handle.applianceStderr []) := by
  have appended : GuestFS.setAppend handle "SYSTEMD_COLORS=0" = .ok () := by
    rw [GuestFS.setAppend, CString.expected_eq_ok (by decide), append]
    rfl
  have disk : GuestFS.addDisk handle "/dev/null" = .ok () := by
    rw [GuestFS.addDisk, CString.expected_eq_ok (by decide), drive]
    rfl
  have device : GuestFS.addQemuOption handle "-device" "scsi-hd,drive=nbd0" = .ok () := by
    rw [GuestFS.addQemuOption, CString.expected_eq_ok (by decide), Outcome.bind_ok,
      CString.expected_eq_ok (by decide), config]
    rfl
  rw [attachNbdDisk, appended, Outcome.bind_ok, disk, Outcome.bind_ok, addNbdDeviceReadOnly, device,
    Outcome.bind_ok, GuestFS.addQemuOption, CString.expected_eq_ok (by decide), Outcome.bind_ok]
  by_cases nul : 0 ∈ utf8 url
  · rw [CString.expected_eq_panic ((nul_mem_drive url).mpr nul), if_pos nul]
    rfl
  · rw [CString.expected_eq_ok fun inside => nul ((nul_mem_drive url).mp inside), if_neg nul,
      config]
    rfl

theorem attachNbdDisk_willing (url : String) :
    attachNbdDisk willing url = if 0 ∈ utf8 url then .panic else .ok ⟨willing, url⟩ :=
  attachNbdDisk_configured rfl rfl rfl url

theorem mountSuitable_willing {mount : Mount} (within : mount.partition ≤ 100) (call : Nat) :
    mount.mountSuitable willing call hundredPartitions =
      if mount.partition ≠ 0 ∧ 0 ∉ utf8 mount.mountpoint then .ok () else .panic := by
  rw [Mount.mountSuitable]
  by_cases zero : mount.partition = 0
  · rw [if_pos zero, if_neg fun fine => fine.1 zero]
  · have present : hundredPartitions[mount.partition - 1]? = some scsiDevice := by
      rw [hundredPartitions, List.getElem?_replicate, if_pos (by omega)]
    rw [if_neg zero, present]
    dsimp only
    rw [GuestFS.mountRo, CString.expected_eq_ok scsiDevice.nulFree, Outcome.bind_ok]
    by_cases nul : 0 ∈ utf8 mount.mountpoint
    · rw [CString.expected_eq_panic nul, if_neg fun fine => fine.2 nul]
      rfl
    · rw [CString.expected_eq_ok nul, if_pos ⟨zero, nul⟩]
      rfl

/-- The mounts of a willing library go on to the first one that panics or is out of range. -/
theorem mountAll_willing (mounts : List Mount) (call : Nat) :
    (¬ HarmlessMounts mounts → mountAll willing hundredPartitions call mounts = .panic) ∧
    (HarmlessMounts mounts → (∀ mount ∈ mounts, mount.partition ≤ 100) →
      mountAll willing hundredPartitions call mounts = .ok ()) := by
  induction mounts generalizing call with
  | nil => exact ⟨fun harmful => absurd (by simp [HarmlessMounts, reachable]) harmful, fun _ _ => rfl⟩
  | cons mount rest ih =>
      by_cases within : mount.partition ≤ 100
      · rw [harmlessMounts_cons within, mountAll, mountSuitable_willing within]
        by_cases fine : mount.partition ≠ 0 ∧ 0 ∉ utf8 mount.mountpoint
        · rw [if_pos fine, Outcome.bind_ok]
          obtain ⟨panics, mounts⟩ := ih (call + 1)
          constructor
          · intro harmful
            exact panics fun harmless => harmful ⟨fine, harmless⟩
          · intro harmless all
            exact mounts harmless.2 fun later member => all later (List.mem_cons_of_mem _ member)
        · rw [if_neg fine]
          exact ⟨fun _ => rfl, fun harmless => absurd harmless.1 fine⟩
      · have harmless : HarmlessMounts (mount :: rest) := by
          rw [HarmlessMounts, reachable, List.takeWhile_cons, if_neg (by simpa using within)]
          exact fun mount member => absurd member List.not_mem_nil
        constructor
        · intro harmful
          exact absurd harmless harmful
        · intro _ all
          exact absurd (all mount List.mem_cons_self) within

/-- A config that is not harmless panics with a willing library, or gives a root with a NUL. -/
theorem connect_willing {config : NBDConfig} (harmful : ¬ Harmless config) :
    config.connect willing = .panic ∨
      ∃ connected, config.connect willing = .ok connected ∧ 0 ∈ connected.root.chrootPath := by
  rw [Harmless, Classical.not_imp] at harmful
  obtain ⟨nbd, harmful⟩ := harmful
  have listed : GuestFS.listPartitions willing = .ok hundredPartitions := by
    rw [GuestFS.listPartitions]
    simp [willing, hundredPartitions]
  rw [NBDConfig.connect, if_neg (by simpa using nbd), attachNbdDisk_willing]
  by_cases nul : 0 ∈ utf8 config.url
  · rw [if_pos nul]
    exact .inl rfl
  · rw [if_neg nul]
    simp only [Outcome.mapErr, Outcome.bind_ok, listed, Outcome.ofExcept]
    obtain ⟨panics, mounts⟩ := mountAll_willing config.mounts 0
    by_cases harmless : HarmlessMounts config.mounts
    · by_cases all : ∀ mount ∈ config.mounts, mount.partition ≤ 100
      · right
        rw [mounts harmless all]
        refine ⟨_, rfl, ?_⟩
        by_contra nulFree
        exact harmful ⟨nul, harmless, fun _ => nulFree⟩
      · exact absurd ⟨nul, harmless, fun within => absurd within all⟩ harmful
    · rw [panics harmless]
      exact .inl rfl

theorem connect_refusing (config : NBDConfig) : ∃ error, config.connect refusing = .err error := by
  rw [NBDConfig.connect]
  split
  · exact ⟨_, rfl⟩
  · rw [attachNbdDisk, GuestFS.setAppend, CString.expected_eq_ok (by decide)]
    exact ⟨_, rfl⟩

/-- The bytes of a joined path are bytes of its parts or the separator. -/
theorem mem_join {path next : Path} {byte : UInt8} (member : byte ∈ path.join next) :
    byte ∈ path ∨ byte = separator ∨ byte ∈ next := by
  unfold Path.join at member
  split at member
  · exact .inr (.inr member)
  · split at member
    · exact .inr (.inr member)
    · split at member
      · rcases List.mem_append.mp member with first | second
        · exact .inl first
        · exact .inr (.inr second)
      · rcases List.mem_append.mp member with first | second
        · exact .inl first
        · exact .inr (List.mem_cons.mp second)

theorem mem_join_left {path next : Path} {byte : UInt8} (relative : next.isAbsolute = false)
    (member : byte ∈ path) : byte ∈ path.join next := by
  unfold Path.join
  rw [relative, if_neg Bool.false_ne_true]
  split
  · rename_i empty
    rw [List.getLast?_eq_none_iff] at empty
    subst empty
    cases member
  · split
    · exact List.mem_append_left _ member
    · exact List.mem_append_left _ member

theorem nul_notMem_trimStartSlashes {text : List UInt8} (nulFree : 0 ∉ text) :
    0 ∉ trimStartSlashes text := by
  intro member
  exact nulFree ((List.dropWhile_sublist _).subset member)

/-- A path without NUL is opened without a panic. -/
theorem ConnectedDisk.openFile_ne_panic (disk : ConnectedDisk) {path : Path} (nulFree : 0 ∉ path) :
    disk.openFile path ≠ .panic := by
  rw [openFile, GuestFS.getSize, CString.expected_eq_ok nulFree, Outcome.bind_ok]
  intro panicked
  cases answer : disk.handle.stat ⟨path, nulFree⟩ with
  | ok fileSize =>
      rw [answer] at panicked
      simp only [Outcome.ofExcept, CString.expected_eq_ok nulFree, Outcome.bind_ok] at panicked
      split at panicked <;> cases panicked
  | error guestfsError =>
      rw [answer] at panicked
      simp only [Outcome.ofExcept] at panicked
      split at panicked <;> cases panicked

theorem ConnectedDisk.openFile_eq_panic (disk : ConnectedDisk) {path : Path} (nul : 0 ∈ path) :
    disk.openFile path = .panic := by
  rw [openFile, GuestFS.getSize, CString.expected_eq_panic nul]
  rfl

end Rtftp

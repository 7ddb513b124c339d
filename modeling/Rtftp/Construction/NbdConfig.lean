import Rtftp.Construction.GuestFs
import Rtftp.Construction.Schedule

namespace Rtftp

structure Mount where
  partition : Nat
  mountpoint : String
  deriving DecidableEq, Repr

/-- A root on a connected disk. -/
structure ConnectedRoot where
  disk : ConnectedDisk
  root : RemoteRoot

structure NBDConfig where
  url : String
  mounts : List Mount
  tftpRoot : String
  deriving DecidableEq, Repr

/-- The subtraction of one from zero panics. -/
def Mount.mountSuitable (mount : Mount) (handle : Handle) (call : Nat) (available : List CString) :
    Outcome VirtualRootError Unit :=
  if mount.partition = 0 then .panic
  else
    match available[mount.partition - 1]? with
    | some device => (GuestFS.mountRo handle call device mount.mountpoint).mapErr .setupError
    | none =>
        .err (.configError ("Can't find a config for partition " ++ mount.partition.repr))

def mountAll (handle : Handle) (available : List CString) : (call : Nat) → List Mount →
    Outcome VirtualRootError Unit
  | _, [] => .ok ()
  | call, mount :: rest =>
      (mount.mountSuitable handle call available).bind fun _ =>
        mountAll handle available (call + 1) rest

/-- The first known line of the console decides which error a failed launch has. -/
def launchError (url : String) : List String → (applianceErrors : List String) → GuestFSError
  | [], applianceErrors => .generic ("\n".intercalate applianceErrors)
  | error :: rest, applianceErrors =>
      if contains error "Failed to connect to" && contains error "Connection refused" then
        .connectionRefused url
      else if contains error "server reported: export " && contains error "not present" then
        .shareNotFound ("Share is not found on server: " ++ url)
      else launchError url rest (applianceErrors ++ [error])

def addNbdDeviceReadOnly (handle : Handle) (url : String) : Outcome GuestFSError Unit :=
  (GuestFS.addQemuOption handle "-device" "scsi-hd,drive=nbd0").bind fun _ =>
    GuestFS.addQemuOption handle "-drive"
      ("id=nbd0,file=" ++ url ++ ",format=raw,if=none,readonly=on")

def attachNbdDisk (handle : Handle) (url : String) : Outcome GuestFSError ConnectedDisk :=
  (GuestFS.setAppend handle "SYSTEMD_COLORS=0").bind fun _ =>
    (GuestFS.addDisk handle "/dev/null").bind fun _ =>
      (addNbdDeviceReadOnly handle url).bind fun _ =>
        match handle.launch with
        | .ok () => .ok ⟨handle, url⟩
        | .error _ => .err (launchError url handle.applianceStderr [])

def NBDConfig.connect (config : NBDConfig) (handle : Handle) :
    Outcome VirtualRootError ConnectedRoot :=
  if !"nbd://".toList.isPrefixOf config.url.toList then
    .err (.configError ("Invalid NBD URL: " ++ config.url))
  else
    ((attachNbdDisk handle config.url).mapErr .setupError).bind fun disk =>
      ((Outcome.ofExcept (GuestFS.listPartitions disk.handle)).mapErr .setupError).bind
        fun partitions =>
          (mountAll disk.handle partitions 0 config.mounts).bind fun _ =>
            .ok ⟨disk, ⟨utf8 config.tftpRoot⟩⟩

/-- The JSON parser and the derived reader of the config are not part of the program. -/
structure ConfigReader (Value : Type) where
  fromStr : String → Option Value
  fromJson : Value → Option NBDConfig

variable {Value : Type}

def ConfigReader.readConfig (reader : ConfigReader Value) (entry : DirEntry) : Option NBDConfig :=
  match entry.content with
  | none => none
  | some content =>
      match reader.fromStr content with
      | none => none
      | some jsonStruct => reader.fromJson jsonStruct

/-- Every config is connected with a handle of its own. This is `open_nbd_root` with its panics. -/
def connectFirst (reader : ConfigReader Value) (handles : (name : List UInt8) → Handle)
    (ip : String) : List DirEntry → Outcome Empty (Option ConnectedRoot)
  | [] => .ok none
  | entry :: rest =>
      if matchIp entry.name ip then
        match reader.readConfig entry with
        | none => connectFirst reader handles ip rest
        | some nbdConfig =>
            match nbdConfig.connect (handles entry.name) with
            | .ok connected => .ok (some connected)
            | .err (.configError _) => connectFirst reader handles ip rest
            | .err (.setupError _) => connectFirst reader handles ip rest
            | .panic => .panic
      else connectFirst reader handles ip rest

/-- The thread of a handler connects the disk before it spawns its tasks, whose panics stay in their
handles. -/
def handlerThread (reader : ConfigReader Value) (handles : (name : List UInt8) → Handle)
    (directory : Directory) (peer : IpAddr) : Outcome Empty (Option ConnectedRoot) :=
  connectFirst reader handles peer.toString (filesSorted directory)

/-- This is `thread_handle.join().expect(..)`, which fails when the thread has panicked. -/
def joinThread {Failure A : Type} : Outcome Failure A → Outcome Failure Unit
  | .ok _ => .ok ()
  | .err failure => .err failure
  | .panic => .panic

/-- The root joins the name of a request to its path. -/
def ConnectedRoot.openFile (connected : ConnectedRoot) (path : List UInt8) :
    Outcome IoError FileReader :=
  connected.disk.openFile (connected.root.chrootPath.join path)

end Rtftp

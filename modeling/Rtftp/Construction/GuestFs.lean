import Mathlib.Data.List.Infix
import Rtftp.Construction.NbdDisk
import Rtftp.Construction.RemoteFs
import Rtftp.Construction.Root

namespace Rtftp

namespace Outcome
variable {Failure A B : Type}

/-- A call without a state is followed by the next one when it returns a value. -/
def bind (call : Outcome Failure A) (next : A → Outcome Failure B) : Outcome Failure B :=
  match call with
  | .ok value => next value
  | .err failure => .err failure
  | .panic => .panic

def mapErr {Other : Type} (wrap : Failure → Other) : Outcome Failure A → Outcome Other A
  | .ok value => .ok value
  | .err failure => .err (wrap failure)
  | .panic => .panic

end Outcome

/-- A C string has no NUL inside. -/
structure CString where
  bytes : List UInt8
  nulFree : 0 ∉ bytes
  deriving DecidableEq

namespace CString

def new (bytes : List UInt8) : Option CString :=
  if nulFree : 0 ∉ bytes then some ⟨bytes, nulFree⟩ else none

/-- This is `CString::new(..).expect(..)`. -/
def expected {Failure : Type} (bytes : List UInt8) : Outcome Failure CString :=
  match new bytes with
  | some string => .ok string
  | none => .panic

end CString

/-- These are the answers of the library to the calls on one handle. The answers to `mount_ro` may
depend on the number of the calls before. -/
structure Handle where
  setAppend : CString → Except GuestFSError Unit
  addDriveOpts : CString → Except GuestFSError Unit
  config : CString → CString → Except GuestFSError Unit
  launch : Except GuestFSError Unit
  applianceStderr : List String
  listPartitions : Except GuestFSError (List CString)
  mountRo : (call : Nat) → CString → CString → Except GuestFSError Unit
  stat : CString → Except GuestFSError Nat
  pread : CString → ReadChunk

def contains (text pattern : String) : Bool := decide (pattern.toList <:+: text.toList)

def GuestFSError.message : GuestFSError → String
  | .generic message => message
  | .diskNotFound message => message
  | .connectionRefused message => message
  | .shareNotFound message => message
  | .unknown => ""

namespace GuestFS

def setAppend (handle : Handle) (string : String) : Outcome GuestFSError Unit :=
  (CString.expected (utf8 string)).bind fun string => .ofExcept (handle.setAppend string)

/-- A missing file has an error of its own. -/
def addDisk (handle : Handle) (path : String) : Outcome GuestFSError Unit :=
  (CString.expected (utf8 path)).bind fun path =>
    match handle.addDriveOpts path with
    | .ok () => .ok ()
    | .error (.generic message) =>
        if contains message "No such file or directory" then .err (.diskNotFound message)
        else .err (.generic message)
    | .error error => .err error

def addQemuOption (handle : Handle) (key value : String) : Outcome GuestFSError Unit :=
  (CString.expected (utf8 key)).bind fun key =>
    (CString.expected (utf8 value)).bind fun value => .ofExcept (handle.config key value)

/-- At most a hundred names are taken. -/
def listPartitions (handle : Handle) : Except GuestFSError (List CString) :=
  match handle.listPartitions with
  | .ok partitions => .ok (partitions.take 100)
  | .error error => .error error

/-- The name of a device comes from a C string. -/
def mountRo (handle : Handle) (call : Nat) (device : CString) (mountpoint : String) :
    Outcome GuestFSError Unit :=
  (CString.expected device.bytes).bind fun device =>
    (CString.expected (utf8 mountpoint)).bind fun mountpoint =>
      .ofExcept (handle.mountRo call device mountpoint)

def getSize (handle : Handle) (path : Path) : Outcome GuestFSError Nat :=
  (CString.expected path).bind fun path => .ofExcept (handle.stat path)

end GuestFS

structure ConnectedDisk where
  handle : Handle
  url : String

/-- The size is asked for first, and the first chunk is read at once. -/
def ConnectedDisk.openFile (disk : ConnectedDisk) (absolutePath : Path) :
    Outcome IoError FileReader :=
  match GuestFS.getSize disk.handle absolutePath with
  | .panic => .panic
  | .err guestfsError =>
      if contains guestfsError.message "No such file or directory" then .err ⟨.notFound, ""⟩
      else .err ⟨.other, guestfsError.message⟩
  | .ok fileSize =>
      (CString.expected absolutePath).bind fun path =>
        match FileReader.openFile (disk.handle.pread path) fileSize with
        | .ok fileReader => .ok fileReader
        | .error error => .err ⟨.other, error⟩

end Rtftp

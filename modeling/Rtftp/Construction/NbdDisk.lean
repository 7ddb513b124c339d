import Mathlib.Data.List.Lex
import Mathlib.Data.List.ReduceOption
import Rtftp.Construction.Cursor
import Rtftp.Construction.IpAddr

namespace Rtftp

inductive GuestFSError where
  | generic (message : String)
  | diskNotFound (message : String)
  | connectionRefused (message : String)
  | shareNotFound (message : String)
  | unknown
  deriving DecidableEq, Repr

inductive VirtualRootError where
  | configError (message : String)
  | setupError (error : GuestFSError)
  deriving DecidableEq, Repr

/-- An entry has its name and what `read_to_string` gives for it. -/
structure DirEntry where
  name : List UInt8
  isFile : Bool
  content : Option String
  deriving DecidableEq, Repr

/-- The entries come in any order, with one entry for each name. Some of them cannot be read. -/
structure Directory where
  entries : List (Option DirEntry)
  distinct : (entries.reduceOption.map DirEntry.name).Nodup

/-- Paths in one directory are sorted by the bytes of their names. -/
def DirEntry.le (first second : DirEntry) : Bool :=
  decide (first.name.map UInt8.toNat ≤ second.name.map UInt8.toNat)

def filesSorted (directory : Directory) : List DirEntry :=
  (directory.entries.reduceOption.filter DirEntry.isFile).mergeSort DirEntry.le

/-- A name that is no UTF-8 text matches nothing. -/
def matchIp (name : List UInt8) (ip : String) : Bool :=
  match fromUtf8 name with
  | some fileName => ip.toList.isPrefixOf fileName.toList
  | none => false

/-- The JSON parser, the config schema and the connection to the disk are not part of the lookup. -/
structure NbdBackend (Value Config Remote : Type) where
  fromStr : String → Option Value
  fromJson : Value → Option Config
  connect : Config → Except VirtualRootError Remote

variable {Value Config Remote : Type}

def readJson (backend : NbdBackend Value Config Remote) (entry : DirEntry) : Option Value :=
  match entry.content with
  | some content => backend.fromStr content
  | none => none

/-- A config that fails at any stage gives no root. -/
def connectConfig (backend : NbdBackend Value Config Remote) (entry : DirEntry) : Option Remote :=
  match readJson backend entry with
  | none => none
  | some jsonStruct =>
      match backend.fromJson jsonStruct with
      | none => none
      | some nbdConfig =>
          match backend.connect nbdConfig with
          | .ok disk => some disk
          | .error (.configError _) => none
          | .error (.setupError _) => none

/-- The first matching file with a working config gives the root. -/
def openNbdRoot (backend : NbdBackend Value Config Remote) (tftpRoot : Directory) (ip : String) :
    Option Remote :=
  (filesSorted tftpRoot).findSome? fun entry =>
    if matchIp entry.name ip then connectConfig backend entry else none

/-- This is the loop of `open_nbd_root` together with the files whose configs it connects. -/
def connectInOrder (backend : NbdBackend Value Config Remote) (ip : String) :
    List DirEntry → Option Remote × List DirEntry
  | [] => (none, [])
  | filePath :: rest =>
      let later := connectInOrder backend ip rest
      if matchIp filePath.name ip then
        match readJson backend filePath with
        | none => later
        | some jsonStruct =>
            match backend.fromJson jsonStruct with
            | none => later
            | some nbdConfig =>
                match backend.connect nbdConfig with
                | .ok disk => (some disk, [filePath])
                | .error (.configError _) => (later.1, filePath :: later.2)
                | .error (.setupError _) => (later.1, filePath :: later.2)
      else later

end Rtftp

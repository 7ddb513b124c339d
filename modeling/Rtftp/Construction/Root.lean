import Rtftp.Library.LexicalPath
import Rtftp.Library.Table
import Rtftp.Construction.Cursor

namespace Rtftp
open Library

def separator : UInt8 := 0x2F

/-- A path is the bytes of its text. -/
abbrev Path := List UInt8

inductive Component where
  | rootDir
  | curDir
  | parentDir
  | normal (name : List UInt8)
  deriving DecidableEq, Repr

/-- This is `trim_start_matches('/')`. -/
def trimStartSlashes (text : List UInt8) : List UInt8 := text.dropWhile (· == separator)

namespace Path

def isAbsolute (path : Path) : Bool := path.head? == some separator

/-- An empty piece and a single dot are no components. -/
def parseSingleComponent (piece : List UInt8) : Option Component :=
  if piece = [] then none
  else if piece = [0x2E] then none
  else if piece = [0x2E, 0x2E] then some .parentDir
  else some (.normal piece)

/-- A relative path may start with a dot that is a component. -/
def includeCurDir (path : Path) : Bool :=
  path.head? == some 0x2E && path[1]?.all (· == separator)

def body (path : Path) : List Component :=
  (path.splitOn separator).filterMap parseSingleComponent

def components (path : Path) : List Component :=
  (if path.isAbsolute then [.rootDir] else if path.includeCurDir then [.curDir] else []) ++
    path.body

/-- An absolute path replaces the path that it is joined to. -/
def join (path next : Path) : Path :=
  if next.isAbsolute then next
  else
    match path.getLast? with
    | none => next
    | some last => if last == separator then path ++ next else path ++ separator :: next

/-- The components of the base come first. -/
def startsWith (path base : Path) : Bool := base.components.isPrefixOf path.components

/-- A component moves from one place to the next. -/
def enter (place : Place (List UInt8)) : Component → Place (List UInt8)
  | .rootDir => ⟨true, 0, []⟩
  | .curDir => place
  | .parentDir => place.move .up
  | .normal name => place.move (.down name)

/-- The lexical place of a path resolves every dot and every pair of dots. -/
def resolve (path : Path) : Place (List UInt8) := path.components.foldl enter .here

end Path

/-- The ghost `path` of an opened file is the path that was opened. -/
structure OpenedAt (F : Type) where
  path : Path
  file : F
  deriving DecidableEq, Repr

variable {F : Type}

/-- A system opens a path. -/
def openAt (system : Path → Except IoError F) (path : Path) : Except IoError (OpenedAt F) :=
  match system path with
  | .ok file => .ok ⟨path, file⟩
  | .error error => .error error

structure LocalRoot where
  path : Path
  deriving DecidableEq, Repr

def LocalRoot.openFile (system : Path → Except IoError F) (root : LocalRoot)
    (path : List UInt8) : Except IoError (OpenedAt F) :=
  let filePath := root.path.join (trimStartSlashes path)
  if !filePath.startsWith root.path then .error ⟨.permissionDenied, ""⟩
  else openAt system filePath

/-- The connected disk of the root is the system that opens its files. -/
structure RemoteRoot where
  chrootPath : Path
  deriving DecidableEq, Repr

def RemoteRoot.openFile (disk : Path → Except IoError F) (root : RemoteRoot)
    (path : List UInt8) : Except IoError (OpenedAt F) :=
  openAt disk (root.chrootPath.join path)

inductive RootKind where
  | localRoot (root : LocalRoot)
  | remoteRoot (root : RemoteRoot)
  deriving DecidableEq, Repr

def RootKind.path : RootKind → Path
  | .localRoot root => root.path
  | .remoteRoot root => root.chrootPath

def RootKind.openFile (system disk : Path → Except IoError F) :
    RootKind → (path : List UInt8) → Except IoError (OpenedAt F)
  | .localRoot root => root.openFile system
  | .remoteRoot root => root.openFile disk

structure ReadRequest where
  filename : String
  options : Table String String
  deriving DecidableEq, Repr

def ReadRequest.openIn (request : ReadRequest)
    (filesystem : (path : List UInt8) → Except IoError (OpenedAt F)) :
    Except IoError (OpenedAt F) :=
  filesystem (trimStartSlashes (utf8 request.filename))

end Rtftp

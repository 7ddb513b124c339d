import Rtftp.Library.FileTree
import Rtftp.Construction.Root

namespace Rtftp
open Library

namespace Path

/-- An empty piece and a single dot stay where they are. -/
def pieceMove (piece : List UInt8) : Move (List UInt8) :=
  if piece = [] ∨ piece = [0x2E] then .stay
  else if piece = [0x2E, 0x2E] then .up
  else .down piece

def moves (path : Path) : List (Move (List UInt8)) := (path.splitOn separator).map pieceMove

end Path

/-- A process sees one tree from its root directory and from its working directory. -/
structure FileSystem where
  root : Tree (List UInt8) (List UInt8)
  current : Spot (List UInt8) (List UInt8)

namespace FileSystem

def origin (fileSystem : FileSystem) (path : Path) : Spot (List UInt8) (List UInt8) :=
  if path.isAbsolute then ⟨fileSystem.root, []⟩ else fileSystem.current

/-- This is `OpenOptions::new().read(true).open(path)`, where every file may be read. It opens
directories too. -/
def openPath (fileSystem : FileSystem) (path : Path) :
    Except IoError (Tree (List UInt8) (List UInt8)) :=
  if 0 ∈ path then .error ⟨.other, "file name contained an unexpected NUL byte"⟩
  else if path = [] then .error ⟨.notFound, ""⟩
  else
    match (fileSystem.origin path).walk path.moves with
    | .ok spot => .ok spot.tree
    | .error .missing => .error ⟨.notFound, ""⟩
    | .error .notDirectory => .error ⟨.notADirectory, ""⟩

end FileSystem

end Rtftp

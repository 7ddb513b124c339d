import Rtftp.Construction.Error
import Rtftp.Construction.IpAddr
import Rtftp.Construction.Root

namespace Rtftp
open Library

/-- The task that is spawned for a request sends a file or fires an error. -/
inductive Scheduled (F : Type) where
  | send (openedFile : OpenedAt F) (options : Table String String)
  | fireError (tftpError : TFTPError)
  deriving DecidableEq

/-- The peer's own directory comes first and the default directory comes last. -/
def availableRoots (tftpRoot : Path) (peer : IpAddr) (remoteRoot : Option RemoteRoot) :
    List RootKind :=
  .localRoot ⟨tftpRoot.join (utf8 peer.toString)⟩ ::
    (remoteRoot.toList.map .remoteRoot ++ [.localRoot ⟨tftpRoot.join (utf8 "default")⟩])

/-- Only a root that reports a file as not found passes the request on to the next one. -/
def scheduleTask {F : Type} (system disk : Path → Except IoError F) (request : ReadRequest) :
    (availableRoots : List RootKind) → Scheduled F
  | [] => .fireError TFTPError.fileNotFound
  | root :: rest =>
      match request.openIn (root.openFile system disk) with
      | .ok openedFile => .send openedFile request.options
      | .error error =>
          match error.kind with
          | .notFound => scheduleTask system disk request rest
          | .permissionDenied => .fireError TFTPError.accessViolation
          | _ => .fireError (TFTPError.undefined "Server Error")

end Rtftp

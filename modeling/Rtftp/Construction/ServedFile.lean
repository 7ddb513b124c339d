import Rtftp.Construction.LocalFs
import Rtftp.Construction.RemoteFs

namespace Rtftp

/-- A file of one kind is read where files of several kinds are served. -/
def OpenedFile.readAs {O P : Type} [OpenedFile O] (wrap : O → P) (file : O) (room : Nat) :
    Except IoError (List UInt8 × P) :=
  match OpenedFile.readTo file room with
  | .ok (bytes, next) => .ok (bytes, wrap next)
  | .error error => .error error

theorem OpenedFile.readAs_fits {O P : Type} [OpenedFile O] {wrap : O → P} {file : O} {room : Nat}
    {bytes : List UInt8} {next : P} (returned : readAs wrap file room = .ok (bytes, next)) :
    bytes.length ≤ room := by
  unfold readAs at returned
  split at returned
  · next other read =>
      cases returned
      exact OpenedFile.readTo_fits file room bytes other read
  · cases returned

/-- A task of a handler sends a file of one of the two kinds of roots. -/
inductive ServedFile where
  | localFile (opened : LocalOpenedFile)
  | remoteFile (reader : FileReader)

namespace ServedFile

def readTo : ServedFile → (room : Nat) → Except IoError (List UInt8 × ServedFile)
  | .localFile opened => OpenedFile.readAs .localFile opened
  | .remoteFile reader => OpenedFile.readAs .remoteFile reader

def getSize : ServedFile → Except IoError UInt64 × ServedFile
  | .localFile opened => (OpenedFile.getSize opened).map id .localFile
  | .remoteFile reader => (OpenedFile.getSize reader).map id .remoteFile

end ServedFile

instance : OpenedFile ServedFile where
  readTo := ServedFile.readTo
  getSize := ServedFile.getSize
  readTo_fits file room bytes next returned := by
    cases file with
    | localFile opened =>
        change OpenedFile.readAs ServedFile.localFile opened room = _ at returned
        exact OpenedFile.readAs_fits returned
    | remoteFile reader =>
        change OpenedFile.readAs ServedFile.remoteFile reader room = _ at returned
        exact OpenedFile.readAs_fits returned

end Rtftp

import Rtftp.Construction.FsWatch
import Rtftp.Construction.IpParser
import Rtftp.Construction.Messages

namespace Rtftp
open Library

def bufferSize : Nat := 65535

/-- The listening buffer keeps its size. -/
structure TFTPServer where
  buffer : List UInt8
  sized : buffer.length = bufferSize

/-- A request goes to the handler of its peer, an error goes back to its sender, and an error that
cannot be serialized is dropped. -/
inductive Handled where
  | fed (request : ReadRequest)
  | replied (datagram : List UInt8)
  | dropped
  deriving DecidableEq, Repr

namespace TFTPServer

/-- The socket writes a datagram to the front of the buffer and cuts what does not fit. -/
def recvFrom (server : TFTPServer) (datagram : List UInt8) : Nat × TFTPServer :=
  (min datagram.length bufferSize,
    ⟨overwrite server.buffer 0 datagram, by rw [overwrite_length, server.sized]⟩)

/-- This is the part of `handle_request` that uses the listening socket. -/
def handleRequest (server : TFTPServer) (size : Nat) : Handled × TFTPServer :=
  match ReadRequest.parse (server.buffer.take size) with
  | .ok request => (.fed request, server)
  | .error tftpError =>
      let serialized := tftpError.serialize server.buffer
      let server : TFTPServer :=
        ⟨serialized.2, (tftpError.serialize_length server.buffer).trans server.sized⟩
      match serialized.1 with
      | .ok size => (.replied (server.buffer.take size), server)
      | _ => (.dropped, server)

/-- One turn of the server takes a datagram from its socket. -/
def serve (server : TFTPServer) (datagram : List UInt8) : Handled × TFTPServer :=
  let received := server.recvFrom datagram
  received.2.handleRequest received.1

/-- This is the branch of `serve_augmented` for an event. A change of a config opens a new handler
for the address in front of the last dot. -/
def configModified (event : InotifyEvent) : Option IpAddr :=
  match rsplitOnce '.' event.fileName.toList with
  | some (stem, _) => if event.isModify then IpAddr.fromStr stem else none
  | none => none

/-- Every reply goes to the other server, until there is none. -/
def exchange : (turns : Nat) → (addressed other : TFTPServer) → (datagram : List UInt8) →
    List (List UInt8)
  | 0, _, _, _ => []
  | turns + 1, addressed, other, datagram =>
      match addressed.serve datagram with
      | (.replied reply, addressed) => reply :: exchange turns other addressed reply
      | _ => []

end TFTPServer

end Rtftp

import Rtftp.Construction.Client
import Rtftp.Construction.Schedule
import Rtftp.Construction.Server
import Rtftp.Construction.Serving

namespace Rtftp.Client
open Library PeerHandler

/-- A datagram that a session sent. -/
def sentDatagram : Entry → Option (List UInt8)
  | .sent (.oack datagram) => some datagram
  | .sent (.data _ datagram) => some datagram
  | .sent (.error _ datagram) => some datagram
  | .received _ _ => none

/-- One client meets the listening socket first and the socket of its session after its request. A
task that fires an error sends nothing more. -/
inductive Host (F : Type) where
  | listening (server : TFTPServer)
  | serving (session : Serving F)
  | refused

section
variable {F : Type} [OpenedFile F]

/-- The handler of the client schedules the request at once. -/
def Host.receive (schedule : ReadRequest → Scheduled F) (host : Host F) (datagram : List UInt8) :
    List (List UInt8) × Host F :=
  match host with
  | .listening server =>
      match server.serve datagram with
      | (.fed request, _) =>
          match schedule request with
          | .send openedFile options =>
              let session := Serving.start openedFile.file options (List.replicate 65535 0) []
              (session.log.filterMap sentDatagram, .serving session)
          | .fireError tftpError =>
              (((fireErrorFrom tftpError (List.replicate 65535 0)).1.map .sent).filterMap
                sentDatagram, .refused)
      | (.replied reply, server) => ([reply], .listening server)
      | (.dropped, server) => ([], .listening server)
  | .serving session =>
      if datagram.length < 4 then ([], .serving session)
      else
        let next := session.resume [.datagram true datagram]
        ((next.log.drop session.log.length).filterMap sentDatagram, .serving next)
  | .refused => ([], .refused)

end

/-- The datagrams of each direction arrive in their order. -/
structure Exchange (C F : Type) where
  host : Host F
  client : C
  toServer : List (List UInt8)
  toClient : List (List UInt8)

/-- The network delivers the oldest datagram of one direction. -/
inductive Delivery where
  | toServer
  | toClient
  deriving DecidableEq, Repr

namespace Exchange
variable {C F : Type}

def step [Peer C] [OpenedFile F] (schedule : ReadRequest → Scheduled F)
    (exchange : Exchange C F) : Delivery → Exchange C F
  | .toServer =>
      match exchange.toServer with
      | [] => exchange
      | datagram :: rest =>
          let received := exchange.host.receive schedule datagram
          { exchange with
            host := received.2
            toServer := rest
            toClient := exchange.toClient ++ received.1 }
  | .toClient =>
      match exchange.toClient with
      | [] => exchange
      | datagram :: rest =>
          let received := Peer.receive exchange.client datagram
          { exchange with
            client := received.2
            toServer := exchange.toServer ++ received.1
            toClient := rest }

/-- A datagram is in flight in this direction. -/
def Pending (exchange : Exchange C F) : Delivery → Prop
  | .toServer => exchange.toServer ≠ []
  | .toClient => exchange.toClient ≠ []

/-- The client has sent its request. -/
def start (server : TFTPServer) (client : C) (request : List UInt8) : Exchange C F :=
  ⟨.listening server, client, [request], []⟩

end Exchange

end Rtftp.Client

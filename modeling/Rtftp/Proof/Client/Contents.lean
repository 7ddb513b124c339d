import Rtftp.Proof.Client.Downloads
import Rtftp.Proof.Files.Holdings

namespace Rtftp.Client
open Library PeerHandler

section
variable {C O P : Type}

/-- Two hosts are at the same place, and their files are related. -/
inductive Host.Same (Related : O → P → Prop) : Host O → Host P → Prop where
  | listening (server : TFTPServer) : Host.Same Related (.listening server) (.listening server)
  | serving {session : Serving O} {twin : Serving P} :
      Serving.Same Related session twin → Host.Same Related (.serving session) (.serving twin)
  | refused : Host.Same Related .refused .refused

/-- Two hosts at the same place serve together. -/
theorem Host.Same.sessions {Related : O → P → Prop} {host : Host O} {twin : Host P}
    (same : Host.Same Related host twin) :
    (∀ session, host = .serving session →
      ∃ other, twin = .serving other ∧ Serving.Same Related session other) ∧
    ∀ other, twin = .serving other →
      ∃ session, host = .serving session ∧ Serving.Same Related session other := by
  cases same with
  | listening server => constructor <;> rintro _ ⟨⟩
  | serving sessions =>
      constructor
      · rintro session ⟨⟩
        exact ⟨_, rfl, sessions⟩
      · rintro other ⟨⟩
        exact ⟨_, rfl, sessions⟩
  | refused => constructor <;> rintro _ ⟨⟩

/-- Two exchanges differ only in the files of their hosts. -/
structure Exchange.Same (Related : O → P → Prop) (exchange : Exchange C O)
    (twin : Exchange C P) : Prop where
  host : Host.Same Related exchange.host twin.host
  client : exchange.client = twin.client
  toServer : exchange.toServer = twin.toServer
  toClient : exchange.toClient = twin.toClient

variable [Peer C] [OpenedFile O] [OpenedFile P] {Related : O → P → Prop}
  {schedule : ReadRequest → Scheduled O} {mirror : ReadRequest → Scheduled P}
  (alike : Alike Related)
  (scheduled : ∀ request,
    Scheduled.Same (Interchangeable Related) (schedule request) (mirror request))
include alike scheduled

/-- Both hosts answer a datagram with the same datagrams. -/
theorem Host.Same.receive {host : Host O} {twin : Host P} (same : Host.Same Related host twin)
    (datagram : List UInt8) :
    (host.receive schedule datagram).1 = (twin.receive mirror datagram).1 ∧
      Host.Same Related (host.receive schedule datagram).2 (twin.receive mirror datagram).2 := by
  cases same with
  | listening server =>
      unfold Host.receive
      dsimp only
      cases server.serve datagram with
      | mk handled next =>
          cases handled with
          | replied reply => exact ⟨rfl, .listening next⟩
          | dropped => exact ⟨rfl, .listening next⟩
          | fed request =>
              dsimp only
              have tasks := scheduled request
              generalize schedule request = task, mirror request = twin at tasks
              cases tasks with
              | fireError tftpError => exact ⟨rfl, .refused⟩
              | send path options opened =>
                  have started := opened.sessions alike options (List.replicate 65535 0) [] []
                  exact ⟨congrArg (List.filterMap sentDatagram) started.log, .serving started⟩
  | @serving session twin sessions =>
      unfold Host.receive
      dsimp only
      by_cases runt : datagram.length < 4
      · rw [if_pos runt, if_pos runt]
        exact ⟨rfl, .serving sessions⟩
      · rw [if_neg runt, if_neg runt]
        have resumed := alike.step sessions [.datagram true datagram]
        refine ⟨?_, .serving resumed⟩
        dsimp only
        rw [resumed.log, sessions.log]
  | refused => exact ⟨rfl, .refused⟩

/-- Both exchanges do the same with every delivery. -/
theorem Exchange.Same.step {exchange : Exchange C O} {twin : Exchange C P}
    (same : Exchange.Same Related exchange twin) (delivery : Delivery) :
    Exchange.Same Related (exchange.step schedule delivery) (twin.step mirror delivery) := by
  obtain ⟨host, client, toServer, toClient⟩ := exchange
  obtain ⟨other, _, _, _⟩ := twin
  obtain ⟨hosts, rfl, rfl, rfl⟩ := same
  dsimp only at hosts
  cases delivery with
  | toServer =>
      cases toServer with
      | nil => exact ⟨hosts, rfl, rfl, rfl⟩
      | cons datagram rest =>
          obtain ⟨answers, kept⟩ := hosts.receive alike scheduled datagram
          exact ⟨kept, rfl, rfl, congrArg (toClient ++ ·) answers⟩
  | toClient =>
      cases toClient with
      | nil => exact ⟨hosts, rfl, rfl, rfl⟩
      | cons datagram rest => exact ⟨hosts, rfl, rfl, rfl⟩

/-- Both exchanges stay the same along every run. -/
theorem Exchange.Same.run {exchange : Exchange C O} {twin : Exchange C P}
    (same : Exchange.Same Related exchange twin) (deliveries : List Delivery) :
    Exchange.Same Related (deliveries.foldl (Exchange.step schedule) exchange)
      (deliveries.foldl (Exchange.step mirror) twin) :=
  List.foldl_rel same fun delivery _ _ _ kept => kept.step alike scheduled delivery

end

/-- The exchange with the files of the roots is the exchange with their contents in memory. -/
theorem Exchange.Same.served {C : Type} [Peer C] (holdings : Holdings) (server : TFTPServer)
    (client : C) (request : List UInt8) (deliveries : List Delivery) :
    Exchange.Same ServedFile.Held
      (deliveries.foldl (Exchange.step holdings.schedule) (Exchange.start server client request))
      (deliveries.foldl (Exchange.step holdings.inMemory)
        (Exchange.start server client request)) :=
  Exchange.Same.run ServedFile.alike_held holdings.schedule_same
    ⟨.listening server, rfl, rfl, rfl⟩ deliveries

end Rtftp.Client

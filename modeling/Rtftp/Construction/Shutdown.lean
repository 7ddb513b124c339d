import Rtftp.Construction.ServeAugmented

namespace Rtftp.ServeAugmented
open Library PeerHandler

/-- These are the places of `drop`, which panics when a thread that it waits for has panicked. -/
inductive DropStatus where
  | draining
  | joining (handle : Nat)
  | panicked
  | returned
  deriving DecidableEq, Repr

/-- The map of a server that is dropped has the handlers that are not shut down yet. -/
structure Dropping where
  handlers : List Handler
  peerHandlers : List Nat
  status : DropStatus

namespace Dropping

/-- The handlers come in the order of the map, which is any order. -/
def shutdown (dropping : Dropping) (place : Nat) : Dropping :=
  match dropping.status with
  | .draining =>
      match dropping.peerHandlers[place]? with
      | some handle =>
          { handlers := dropping.handlers.modify handle fun handler =>
              { handler with requests := handler.requests.step .dropSender }
            peerHandlers := dropping.peerHandlers.eraseIdx place
            status := .joining handle }
      | none => dropping
  | _ => dropping

def joined (dropping : Dropping) : Dropping :=
  match dropping.status with
  | .joining handle =>
      match (dropping.handlers[handle]?).map Handler.thread with
      | some .finished => { dropping with status := .draining }
      | some .panicked => { dropping with status := .panicked }
      | _ => dropping
  | _ => dropping

/-- The server is gone when its map is empty. -/
def exhausted (dropping : Dropping) : Dropping :=
  match dropping.status, dropping.peerHandlers with
  | .draining, [] => { dropping with status := .returned }
  | _, _ => dropping

/-- The destructor goes on, a thread goes on, or time passes. -/
inductive Event where
  | shutdown (place : Nat)
  | joined
  | exhausted
  | start (handle : Nat)
  | advance (handle : Nat) (event : RequestsHandler.Event Accepted)
  | panic (handle : Nat)
  | finish (handle : Nat)
  | elapse (duration : Nat)

def step (dropping : Dropping) : Event → Dropping
  | .shutdown place => dropping.shutdown place
  | .joined => dropping.joined
  | .exhausted => dropping.exhausted
  | .start handle => { dropping with handlers := dropping.handlers.modify handle Handler.start }
  | .advance handle event =>
      { dropping with handlers := dropping.handlers.modify handle (·.advance event) }
  | .panic handle => { dropping with handlers := dropping.handlers.modify handle Handler.panic }
  | .finish handle => { dropping with handlers := dropping.handlers.modify handle Handler.finish }
  | .elapse duration =>
      { dropping with handlers := dropping.handlers.map fun handler =>
          { handler with requests := handler.requests.step (.elapse duration) } }

end Dropping

end Rtftp.ServeAugmented

import Rtftp.Construction.RequestsHandler
import Rtftp.Construction.Server

namespace Rtftp.ServeAugmented
open Library PeerHandler

/-- A request that was parsed has a number of its own. -/
structure Accepted where
  serial : Nat
  request : ReadRequest
  deriving DecidableEq, Repr

/-- The thread of a handler opens its roots, runs the requests handler and ends with its last task.
A panic of a config ends the thread, and a panic of the requests handler ends only that task. -/
inductive ThreadStatus where
  | opening
  | running
  | unwound
  | panicked
  | finished
  deriving DecidableEq, Repr

structure Handler where
  senderAddress : IpAddr
  thread : ThreadStatus
  requests : RequestsHandler Accepted

namespace Handler

def isFinished (handler : Handler) : Bool :=
  match handler.thread with
  | .panicked => true
  | .finished => true
  | _ => false

/-- The requests handler starts its clock when the roots are open. -/
def start (handler : Handler) : Handler :=
  match handler.thread with
  | .opening =>
      { handler with
        thread := .running
        requests := { handler.requests with
          status := .waiting handler.requests.clock
          lastActive := handler.requests.clock } }
  | _ => handler

/-- These are the events that the thread of the handler makes itself. -/
def ownEvent : RequestsHandler.Event Accepted → Bool
  | .feed _ _ => false
  | .dropSender => false
  | .elapse _ => false
  | _ => true

/-- Only the tasks go on when the requests handler has panicked. -/
def advance (handler : Handler) (event : RequestsHandler.Event Accepted) : Handler :=
  match handler.thread with
  | .running =>
      if ownEvent event then { handler with requests := handler.requests.step event } else handler
  | .unwound =>
      match event with
      | .finish task => { handler with requests := handler.requests.step (.finish task) }
      | _ => handler
  | _ => handler

/-- The channel is dropped together with the requests that it has. -/
def unwind (handler : Handler) (thread : ThreadStatus) : Handler :=
  { handler with
    thread := thread
    requests := { handler.requests with queue := [], receiverClosed := true } }

/-- A config panics while the roots are opened. The requests handler panics when it cannot bind its
socket or when a root panics at the name of the request. -/
def panic (handler : Handler) : Handler :=
  match handler.thread, handler.requests.status with
  | .opening, _ => handler.unwind .panicked
  | .running, .binding _ _ _ => handler.unwind .unwound
  | .running, .refusing _ _ _ => handler.unwind .unwound
  | _, _ => handler

/-- The thread ends when the requests handler is over and all tasks are finished. -/
def finish (handler : Handler) : Handler :=
  if handler.requests.tasks.all fun task => task.finishedAt.isSome then
    match handler.thread, handler.requests.status with
    | .running, .returned _ => { handler with thread := .finished }
    | .unwound, _ => { handler with thread := .finished }
    | _, _ => handler
  else handler

end Handler

/-- The server waits for its next branch, for room in a channel or for the end of a thread. It panics
when a thread that it waits for has panicked. -/
inductive ServerStatus where
  | selecting
  | feeding (handle : Nat) (remoteIp : IpAddr) (port : UInt16) (item : Accepted)
  | joining (handle : Nat)
  | panicked
  deriving DecidableEq, Repr

structure Arrival where
  remoteIp : IpAddr
  port : UInt16
  request : ReadRequest
  deriving DecidableEq, Repr

/-- A handle is the place of a handler among all handlers that were ever opened. The last field is a
record of the run that the server itself does not have. -/
structure State where
  server : TFTPServer
  maxIdleTime : Nat
  clock : Nat
  handlers : List Handler
  peerHandlers : Table IpAddr Nat
  status : ServerStatus
  accepted : List Arrival

namespace State

def new (server : TFTPServer) (maxIdleTime now : Nat) : State where
  server := server
  maxIdleTime := maxIdleTime
  clock := now
  handlers := []
  peerHandlers := .empty
  status := .selecting
  accepted := []

/-- The new handler takes the place of the address in the map. -/
def openHandler (state : State) (remoteIp : IpAddr) (capacity : Nat) : State :=
  { state with
    handlers := state.handlers ++
      [⟨remoteIp, .opening, RequestsHandler.new state.maxIdleTime capacity state.clock⟩]
    peerHandlers := state.peerHandlers.insert remoteIp state.handlers.length }

/-- The server drops its sender and waits for the thread. -/
def shutdown (state : State) (handle : Nat) : State :=
  { state with
    handlers := state.handlers.modify handle fun handler =>
      { handler with requests := handler.requests.step .dropSender }
    status := .joining handle }

/-- This is the branch of `handle_request` for a request, up to its wait for the channel. -/
def handleRequest (state : State) (remoteIp : IpAddr) (port : UInt16) (request : ReadRequest)
    (capacity : Nat) : State :=
  let item : Accepted := ⟨state.accepted.length, request⟩
  let state : State :=
    { state with accepted := state.accepted ++ [⟨remoteIp, port, request⟩] }
  match state.peerHandlers.get remoteIp with
  | some handle => { state with status := .feeding handle remoteIp port item }
  | none =>
      { state.openHandler remoteIp capacity with
        status := .feeding state.handlers.length remoteIp port item }

def arrive (state : State) (remoteIp : IpAddr) (port : UInt16) (datagram : List UInt8)
    (capacity : Nat) : State :=
  match state.status with
  | .selecting =>
      match state.server.serve datagram with
      | (.fed request, server) =>
          { state with server := server }.handleRequest remoteIp port request capacity
      | (_, server) => { state with server := server }
  | _ => state

/-- The send goes on when the channel has room. It fails when the channel is closed, and the request
is gone with it. -/
def feed (state : State) : State :=
  match state.status with
  | .feeding handle remoteIp port item =>
      match state.handlers[handle]? with
      | none => state
      | some handler =>
          if handler.requests.receiverClosed then
            match state.peerHandlers.get remoteIp with
            | some handle =>
                { state with
                  peerHandlers := state.peerHandlers.retain fun ip _ => ip != remoteIp }.shutdown
                  handle
            | none => { state with status := .selecting }
          else if handler.requests.queue.length < channelSize then
            { state with
              handlers := state.handlers.modify handle fun handler =>
                { handler with requests := handler.requests.step (.feed port item) }
              status := .selecting }
          else state
  | _ => state

def isFinished (state : State) (handle : Nat) : Bool :=
  match state.handlers[handle]? with
  | some handler => handler.isFinished
  | none => true

/-- The finished handlers are dropped together with their senders. -/
def turn (state : State) : State :=
  match state.status with
  | .selecting =>
      { state with
        peerHandlers := state.peerHandlers.retain fun _ handle => !state.isFinished handle
        handlers := state.handlers.map fun handler =>
          if handler.isFinished then
            { handler with requests := handler.requests.step .dropSender }
          else handler }
  | _ => state

/-- A modified config opens a new handler and shuts the previous one down. -/
def observe (state : State) (event : InotifyEvent) (capacity : Nat) : State :=
  match state.status with
  | .selecting =>
      match TFTPServer.configModified event with
      | none => state
      | some remoteIp =>
          match state.peerHandlers.get remoteIp with
          | some previous => (state.openHandler remoteIp capacity).shutdown previous
          | none => state.openHandler remoteIp capacity
  | _ => state

def joined (state : State) : State :=
  match state.status with
  | .joining handle =>
      match (state.handlers[handle]?).map Handler.thread with
      | some .finished => { state with status := .selecting }
      | some .panicked => { state with status := .panicked }
      | _ => state
  | _ => state

def elapse (state : State) (duration : Nat) : State :=
  { state with
    clock := state.clock + duration
    handlers := state.handlers.map fun handler =>
      { handler with requests := handler.requests.step (.elapse duration) } }

end State

/-- The server takes one of its branches or goes on from a wait, a thread goes on, or time
passes. -/
inductive Event where
  | arrive (remoteIp : IpAddr) (port : UInt16) (datagram : List UInt8) (capacity : Nat)
  | feed
  | turn
  | observe (event : InotifyEvent) (capacity : Nat)
  | joined
  | start (handle : Nat)
  | advance (handle : Nat) (event : RequestsHandler.Event Accepted)
  | panic (handle : Nat)
  | finish (handle : Nat)
  | elapse (duration : Nat)

def step (state : State) : Event → State
  | .arrive remoteIp port datagram capacity => state.arrive remoteIp port datagram capacity
  | .feed => state.feed
  | .turn => state.turn
  | .observe event capacity => state.observe event capacity
  | .joined => state.joined
  | .start handle => { state with handlers := state.handlers.modify handle Handler.start }
  | .advance handle event =>
      { state with handlers := state.handlers.modify handle (·.advance event) }
  | .panic handle => { state with handlers := state.handlers.modify handle Handler.panic }
  | .finish handle => { state with handlers := state.handlers.modify handle Handler.finish }
  | .elapse duration => state.elapse duration

end Rtftp.ServeAugmented

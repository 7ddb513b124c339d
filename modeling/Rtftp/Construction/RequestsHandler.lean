import Rtftp.Library.Table

namespace Rtftp.PeerHandler
open Library

def maxSessionsPerIp : Nat := 128

def channelSize : Nat := 10

/-- The clock counts nanoseconds. -/
def second : Nat := 1000000000

/-- A task of the runtime was spawned for the request with this number. -/
structure Task (R : Type) where
  serial : Nat
  port : UInt16
  request : R
  startedAt : Nat
  finishedAt : Option Nat
  deriving DecidableEq, Repr

/-- The loop of the handler ends when its channel is closed or when it was idle for too long. -/
inductive Exit where
  | shutdown
  | inactive
  deriving DecidableEq, Repr

/-- These are the places where `peer_requests_handler` waits. After its loop it closes the channel
and waits for the handles that it still has. -/
inductive HandlerStatus (R : Type) where
  | waiting (since : Nat)
  | binding (serial : Nat) (port : UInt16) (request : R)
  | refusing (serial : Nat) (port : UInt16) (request : R)
  | leaving (exit : Exit)
  | draining (exit : Exit) (handles : List (UInt16 × Nat))
  | returned (exit : Exit)
  deriving DecidableEq, Repr

/-- A request that was ignored came from a port with a live session, or it did not. -/
structure Ignored where
  serial : Nat
  port : UInt16
  alive : Bool
  deriving DecidableEq, Repr

/-- The channel, the variables of `peer_requests_handler` and the tasks of its runtime. A handle is
the place of its task among the tasks. The last seven fields are a record of the run that the
handler itself does not have. -/
structure RequestsHandler (R : Type) where
  idleTimeout : Nat
  queue : List (UInt16 × R)
  senderDropped : Bool
  receiverClosed : Bool
  status : HandlerStatus R
  sendSessions : Table UInt16 Nat
  capacity : Nat
  lastActive : Nat
  clock : Nat
  tasks : List (Task R)
  fed : List (UInt16 × R)
  taken : List (UInt16 × R)
  takenAt : List Nat
  ignored : List Ignored
  crowded : List Nat
  refused : List Nat
  stoppedAt : Option Nat

variable {R : Type}

namespace RequestsHandler

/-- The table is created with the capacity that the allocator chose. -/
def new (idleTimeout capacity now : Nat) : RequestsHandler R where
  idleTimeout := idleTimeout
  queue := []
  senderDropped := false
  receiverClosed := false
  status := .waiting now
  sendSessions := .empty
  capacity := capacity
  lastActive := now
  clock := now
  tasks := []
  fed := []
  taken := []
  takenAt := []
  ignored := []
  crowded := []
  refused := []
  stoppedAt := none

def isFinished (handler : RequestsHandler R) (handle : Nat) : Bool :=
  match handler.tasks[handle]? with
  | some task => task.finishedAt.isSome
  | none => true

/-- The port has a session that is not finished. -/
def isLive (handler : RequestsHandler R) (port : UInt16) : Bool :=
  handler.tasks.any fun task => task.port == port && task.finishedAt.isNone

/-- This is `send_sessions.retain(..)`, which drops the finished sessions. -/
def purge (handler : RequestsHandler R) : RequestsHandler R :=
  { handler with
    sendSessions := handler.sendSessions.retain fun _ handle => !handler.isFinished handle }

/-- These are the entries whose sessions are not finished. -/
def unfinished (handler : RequestsHandler R) : List (UInt16 × Nat) :=
  handler.sendSessions.entries.filter fun entry => !handler.isFinished entry.2

/-- The sender waits while the channel is full, and it fails when the receiver is gone. -/
def feed (handler : RequestsHandler R) (port : UInt16) (request : R) : RequestsHandler R :=
  if handler.queue.length < channelSize && !handler.senderDropped && !handler.receiverClosed then
    { handler with
      queue := handler.queue ++ [(port, request)]
      fed := handler.fed ++ [(port, request)] }
  else handler

/-- The handler ignores a request when its table has the port. -/
def take (handler : RequestsHandler R) (port : UInt16) (request : R) : RequestsHandler R :=
  let serial := handler.taken.length
  let handler := { handler with
    taken := handler.taken ++ [(port, request)]
    takenAt := handler.takenAt ++ [handler.clock] }
  if handler.sendSessions.containsKey port then
    { handler with
      status := .waiting handler.clock
      ignored := handler.ignored ++ [⟨serial, port, handler.isLive port⟩] }
  else { handler with status := .binding serial port request }

/-- The channel reports its closure only after its last message. -/
def receive (handler : RequestsHandler R) : RequestsHandler R :=
  match handler.status with
  | .waiting _ =>
      match handler.queue with
      | (port, request) :: rest => { handler with queue := rest }.take port request
      | [] =>
          if handler.senderDropped then { handler with status := .leaving .shutdown } else handler
  | _ => handler

/-- This is the branch of an elapsed second. -/
def tick (handler : RequestsHandler R) : RequestsHandler R :=
  match handler.status with
  | .waiting since =>
      if since + second ≤ handler.clock then
        let handler := handler.purge
        if handler.sendSessions.entries.isEmpty then
          if handler.clock - handler.lastActive > handler.idleTimeout * second then
            { handler with
              status := .leaving .inactive
              stoppedAt := some handler.clock }
          else { handler with status := .waiting handler.clock }
        else
          { handler with
            lastActive := handler.clock
            status := .waiting handler.clock }
      else handler
  | _ => handler

/-- Every request that is not ignored gets a session in the end. An insertion may grow the
table. -/
def scheduleTask (handler : RequestsHandler R) (serial : Nat) (port : UInt16) (request : R)
    (grown : Nat) : RequestsHandler R :=
  { handler with
    sendSessions := handler.sendSessions.insert port handler.tasks.length
    tasks := handler.tasks ++ [⟨serial, port, request, handler.clock, none⟩]
    capacity := max handler.capacity grown
    status := .waiting handler.clock }

/-- The limit is the capacity of the table itself. -/
def bound (handler : RequestsHandler R) (grown : Nat) : RequestsHandler R :=
  match handler.status with
  | .binding serial port request =>
      let handler := handler.purge
      let handler := { handler with
        crowded := handler.crowded ++
          if maxSessionsPerIp ≤ handler.unfinished.length then [serial] else [] }
      if handler.sendSessions.entries.length ≥ handler.capacity then
        { handler with status := .refusing serial port request }
      else handler.scheduleTask serial port request grown
  | _ => handler

/-- The branch of the refusal goes on to the insertion. -/
def refusalSent (handler : RequestsHandler R) (grown : Nat) : RequestsHandler R :=
  match handler.status with
  | .refusing serial port request =>
      { handler with refused := handler.refused ++ [serial] }.scheduleTask serial port request grown
  | _ => handler

/-- The handler returns when it has no handle left. -/
def await (exit : Exit) : List (UInt16 × Nat) → HandlerStatus R
  | [] => .returned exit
  | handles => .draining exit handles

def close (handler : RequestsHandler R) : RequestsHandler R :=
  match handler.status with
  | .leaving exit =>
      { handler with
        receiverClosed := true
        sendSessions := .empty
        status := await exit handler.sendSessions.entries }
  | _ => handler

/-- The handles come in the order of the table, which is any order. -/
def join (handler : RequestsHandler R) (place : Nat) : RequestsHandler R :=
  match handler.status with
  | .draining exit handles =>
      match handles[place]? with
      | some (_, handle) =>
          if handler.isFinished handle then
            { handler with status := await exit (handles.eraseIdx place) }
          else handler
      | none => handler
  | _ => handler

/-- A task that has finished stays finished. -/
def finish (handler : RequestsHandler R) (handle : Nat) : RequestsHandler R :=
  { handler with tasks := handler.tasks.modify handle fun task =>
      { task with finishedAt := task.finishedAt.or (some handler.clock) } }

/-- The server feeds the channel and drops it, the handler goes on from its await, a task finishes
or time passes. -/
inductive Event (R : Type) where
  | feed (port : UInt16) (request : R)
  | dropSender
  | receive
  | tick
  | bound (grown : Nat)
  | refusalSent (grown : Nat)
  | close
  | join (place : Nat)
  | finish (handle : Nat)
  | elapse (duration : Nat)
  deriving DecidableEq, Repr

def step (handler : RequestsHandler R) : Event R → RequestsHandler R
  | .feed port request => handler.feed port request
  | .dropSender => { handler with senderDropped := true }
  | .receive => handler.receive
  | .tick => handler.tick
  | .bound grown => handler.bound grown
  | .refusalSent grown => handler.refusalSent grown
  | .close => handler.close
  | .join place => handler.join place
  | .finish handle => handler.finish handle
  | .elapse duration => { handler with clock := handler.clock + duration }

end RequestsHandler

end Rtftp.PeerHandler

import Rtftp.Library.Machine

namespace Rtftp.AsyncChannel
open Library

/-- Both ends of the channel share the queue and one place for a waker. -/
structure SharedQueue (T W : Type) where
  queue : List T
  waker : Option W
  deriving DecidableEq, Repr

inductive QueueError where
  | noData
  deriving DecidableEq, Repr

inductive Poll (T : Type) where
  | ready (item : T)
  | pending
  deriving DecidableEq, Repr

namespace SharedQueue

variable {T W : Type}

def new : SharedQueue T W := ⟨[], none⟩

/-- The waker that the push takes and wakes is returned beside the queue. -/
def push (shared : SharedQueue T W) (item : T) : SharedQueue T W × Option W :=
  (⟨shared.queue ++ [item], none⟩, shared.waker)

def popNowait (shared : SharedQueue T W) : Except QueueError T × SharedQueue T W :=
  match shared.queue with
  | item :: rest => (.ok item, { shared with queue := rest })
  | [] => (.error .noData, shared)

def registerWaker (shared : SharedQueue T W) (waker : W) : SharedQueue T W :=
  { shared with waker := some waker }

/-- This is `_Future::poll`, with the waker of its context. -/
def poll (shared : SharedQueue T W) (waker : W) : Poll T × SharedQueue T W :=
  match shared.popNowait with
  | (.ok item, shared) => (.ready item, shared)
  | (.error .noData, shared) => (.pending, shared.registerWaker waker)

end SharedQueue

/-- A future is told by what its last poll returned, and a pending poll by its waker too. -/
inductive LastPoll (W : Type) where
  | none
  | pending (waker : W)
  | ready
  deriving DecidableEq, Repr

/-- A channel in use has at most one live future. The three lists record the items pushed, the items
that polls returned, and the wakers woken since the last poll. -/
structure Channel (T W : Type) where
  shared : SharedQueue T W
  future : Option (LastPoll W)
  pushed : List T
  returned : List T
  woken : List W
  deriving DecidableEq, Repr

/-- Dropping a future only gives up its reference to the queue. -/
inductive Call (T W : Type) where
  | push (item : T)
  | next
  | poll (waker : W)
  | drop
  deriving DecidableEq, Repr

namespace Channel

variable {T W : Type}

def new : Channel T W := ⟨.new, none, [], [], []⟩

/-- A second future needs that the first one is gone, and a poll or a drop needs a future. -/
def Allowed (channel : Channel T W) : Call T W → Prop
  | .push _ => True
  | .next => channel.future = none
  | .poll _ => channel.future ≠ none
  | .drop => channel.future ≠ none

def step (channel : Channel T W) : Call T W → Channel T W
  | .push item =>
      let (shared, taken) := channel.shared.push item
      { channel with
        shared := shared
        pushed := channel.pushed ++ [item]
        woken := channel.woken ++ taken.toList }
  | .next => { channel with future := some .none }
  | .poll waker =>
      match channel.shared.poll waker with
      | (.ready item, shared) =>
          { channel with
            shared := shared
            future := some .ready
            returned := channel.returned ++ [item]
            woken := [] }
      | (.pending, shared) =>
          { channel with
            shared := shared
            future := some (.pending waker)
            woken := [] }
  | .drop => { channel with future := none }

end Channel

end Rtftp.AsyncChannel

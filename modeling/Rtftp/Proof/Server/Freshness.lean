import Rtftp.Construction.Observer
import Rtftp.Proof.EventChannel
import Rtftp.Proof.Handler.Accepted
import Rtftp.Proof.InotifyEvents
import Rtftp.Proof.Server.Steps

namespace Rtftp
open Library AsyncChannel

namespace INotifyObserver

variable {W : Type}

/-- The pushes of one read only add to the channel. -/
theorem push_adds (events : List InotifyEvent) (channel : Channel InotifyEvent W) :
    (push channel events).pushed = channel.pushed ++ events ∧
      (push channel events).returned = channel.returned ∧
      (push channel events).future = channel.future := by
  induction events generalizing channel with
  | nil => exact ⟨(List.append_nil _).symm, rfl, rfl⟩
  | cons event rest ih =>
      obtain ⟨pushed, returned, future⟩ := ih (channel.step (.push event))
      refine ⟨pushed.trans ?_, returned, future⟩
      show channel.pushed ++ [event] ++ rest = channel.pushed ++ event :: rest
      simp

theorem push_sound (events : List InotifyEvent) {channel : Channel InotifyEvent W}
    (sound : channel.Sound) : (push channel events).Sound := by
  induction events generalizing channel with
  | nil => exact sound
  | cons event rest ih => exact ih (sound.push event)

/-- A pass sends the events that the kernel wrote, whatever the buffer had before. -/
theorem readLoop_encoded (order : ByteOrder) {observer : INotifyObserver W}
    (looping : observer.status = .looping) {events : List RawEvent} (some : events ≠ [])
    (fits : (events.flatMap (RawEvent.encode order)).length ≤ observer.buffer.length) :
    observer.readLoop order (.read (events.flatMap (RawEvent.encode order))) =
      { observer with
        buffer := overwrite observer.buffer 0 (events.flatMap (RawEvent.encode order))
        channel := push observer.channel (events.map RawEvent.decoded) } := by
  have headers := encoded_length_le order events
  have positive := List.length_pos_iff.mpr some
  unfold eventHeaderSize at headers
  have nothing : Incomplete order [] := .inl (Nat.zero_lt_succ _)
  generalize written : events.flatMap (RawEvent.encode order) = bytes at fits headers ⊢
  have front : overwrite observer.buffer 0 bytes = bytes ++ observer.buffer.drop bytes.length := by
    rw [overwrite_front, List.take_of_length_le fits]
  have parsed : parseEventsLoop order (bytes ++ observer.buffer.drop bytes.length) bytes.length
      (bytes.length + 1) 0 [] = .some (.ok (events.map RawEvent.decoded)) :=
    parseEventsLoop_encoded order _ nothing events [] [] (by omega)
      (by rw [written, List.append_nil, List.nil_append])
  rw [← front] at parsed
  cases bytes with
  | nil =>
      have empty : ([] : List UInt8).length = 0 := rfl
      omega
  | cons byte rest =>
      change parseEvents order (rest.length + 2) _ (rest.length + 1) = _ at parsed
      unfold readLoop
      rw [looping]
      dsimp only
      rw [parsed]

end INotifyObserver

namespace ServeAugmented
open PeerHandler

variable {W : Type}

/-- Every handle of the map was there before or belongs to a new handler. -/
structure State.Extends (state next : State) : Prop where
  grown : state.handlers.length ≤ next.handlers.length
  mapped : ∀ remoteIp handle, next.peerHandlers.get remoteIp = some handle →
    state.peerHandlers.get remoteIp = some handle ∨
      state.handlers.length ≤ handle ∧ handle < next.handlers.length

namespace State

variable {state next : State}

theorem Changed.extends (changed : state.Changed next) : state.Extends next := by
  cases changed with
  | kept _ handlers table =>
      refine ⟨handlers.length_eq.le, fun remoteIp handle found => .inl ?_⟩
      rw [Table.get_eq_some_iff] at found ⊢
      exact table _ found
  | opened remoteIp capacity _ handlers table =>
      have length : state.handlers.length + 1 = next.handlers.length := by
        rw [← handlers.length_eq, openHandler, List.length_append, List.length_singleton]
      refine ⟨by omega, fun other handle found => ?_⟩
      rw [table, openHandler, Table.get_insert] at found
      split at found
      · cases found
        exact .inr ⟨Nat.le_refl _, by omega⟩
      · exact .inl found

/-- The branch of an event opens a handler for the address of the config. -/
theorem observe_opens {event : InotifyEvent} {remoteIp : IpAddr} {handle : Nat}
    (selecting : state.status = .selecting) (capacity : Nat)
    (modified : TFTPServer.configModified event = some remoteIp)
    (found : (state.observe event capacity).peerHandlers.get remoteIp = some handle) :
    state.handlers.length ≤ handle ∧
      handle < (state.observe event capacity).handlers.length := by
  have newest : (state.openHandler remoteIp capacity).peerHandlers.get remoteIp =
      some state.handlers.length := by
    rw [openHandler, Table.get_insert, if_pos rfl]
  have inside : (state.openHandler remoteIp capacity).handlers.length =
      state.handlers.length + 1 := by
    rw [openHandler, List.length_append, List.length_singleton]
  unfold observe at found ⊢
  rw [selecting, modified] at found ⊢
  dsimp only at found ⊢
  split at found
  · rename_i previous _
    have place := Option.some.inj (newest.symm.trans found)
    have length : ((state.openHandler remoteIp capacity).shutdown previous).handlers.length =
        (state.openHandler remoteIp capacity).handlers.length := List.length_modify _ _ _
    omega
  · have place := Option.some.inj (newest.symm.trans found)
    omega

end State

/-- A name of the kernel has at most 255 bytes, and its field is filled up with NUL bytes. -/
def nameFieldLimit : Nat := 256

/-- The kernel, the task of `read_loop` and the server run together. The kernel keeps the events
that nothing has read yet. The fields `queued` and `openedAt` are records of the run: all events of
the kernel, and their number when each handler was opened. -/
structure Watched (W : Type) where
  queued : List RawEvent
  pending : List RawEvent
  observer : INotifyObserver W
  state : State
  openedAt : List Nat

/-- The kernel reports an event, `read_loop` takes some events, the server polls its observer, or it
does something else. -/
inductive Happening (W : Type) where
  | queue (event : RawEvent)
  | read (count : Nat)
  | poll (waker : W) (capacity : Nat)
  | serve (event : Event)

/-- These are the branches of `serve_augmented` that cancel the wait for an event. -/
def cancels : Event → Bool
  | .arrive _ _ _ _ => true
  | .turn => true
  | _ => false

namespace Watched

def new (server : TFTPServer) (maxIdleTime now : Nat) : Watched W :=
  ⟨[], [], .observe, .new server maxIdleTime now, []⟩

/-- These events have reached the server. -/
def taken (watched : Watched W) : List InotifyEvent := watched.observer.channel.returned

/-- The record has the number of events at the opening of every handler. -/
def advance (watched : Watched W) (state : State) : Watched W :=
  { watched with
    state := state
    openedAt := watched.openedAt ++ List.replicate
      (state.handlers.length - watched.state.handlers.length) watched.queued.length }

/-- The kernel gives whole events, and it does not block. -/
def read (order : ByteOrder) (watched : Watched W) (count : Nat) : Watched W :=
  match watched.pending with
  | [] => { watched with observer := watched.observer.readLoop order .wouldBlock }
  | _ :: _ =>
      { watched with
        pending := watched.pending.drop count
        observer := watched.observer.readLoop order
          (.read ((watched.pending.take count).flatMap (RawEvent.encode order))) }

/-- A pass of `serve_augmented` makes a new future, and the branch of an event ends it. -/
def poll (watched : Watched W) (waker : W) (capacity : Nat) : Watched W :=
  match watched.state.status with
  | .selecting =>
      let channel := watched.observer.channel
      let channel := if channel.future.isNone then channel.step .next else channel
      let polled := channel.step (.poll waker)
      match channel.shared.poll waker with
      | (.ready event, _) =>
          { watched with
            observer := { watched.observer with channel := polled.step .drop } }.advance
            (watched.state.observe event capacity)
      | (.pending, _) => { watched with observer := { watched.observer with channel := polled } }
  | _ => watched

/-- The server takes another branch. An event comes from the observer only. -/
def serve (watched : Watched W) (event : Event) : Watched W :=
  match event with
  | .observe _ _ => watched
  | _ =>
      let channel := watched.observer.channel
      let channel :=
        if cancels event ∧ watched.state.status = .selecting then channel.step .drop else channel
      { watched with observer := { watched.observer with channel := channel } }.advance
        (ServeAugmented.step watched.state event)

def step (order : ByteOrder) (watched : Watched W) : Happening W → Watched W
  | .queue event =>
      { watched with
        queued := watched.queued ++ [event]
        pending := watched.pending ++ [event] }
  | .read count => watched.read order count
  | .poll waker capacity => watched.poll waker capacity
  | .serve event => watched.serve event

/-- A read of the kernel gives some of the events that fit into the buffer. -/
def Allowed (order : ByteOrder) (watched : Watched W) : Happening W → Prop
  | .queue event => event.nameField.length ≤ nameFieldLimit
  | .read count => watched.pending ≠ [] → 0 < count ∧
      ((watched.pending.take count).flatMap (RawEvent.encode order)).length ≤ eventBufferSize
  | _ => True

/-- The handler was opened after every change of its config that has reached the server. -/
def Current (watched : Watched W) (remoteIp : IpAddr) (handle : Nat) : Prop :=
  ∃ opened, watched.openedAt[handle]? = some opened ∧
    ∀ place event, place < watched.taken.length → watched.queued[place]? = some event →
      TFTPServer.configModified event.decoded = some remoteIp → place < opened

/-- The events keep their order on their way, and every handler in the map is current. -/
structure Fresh (watched : Watched W) : Prop where
  looping : watched.observer.status = .looping
  sized : watched.observer.buffer.length = eventBufferSize
  sound : watched.observer.channel.Sound
  ordered : watched.observer.channel.pushed ++ watched.pending.map RawEvent.decoded =
    watched.queued.map RawEvent.decoded
  short : ∀ event ∈ watched.pending, event.nameField.length ≤ nameFieldLimit
  opened : watched.openedAt.length = watched.state.handlers.length
  current : ∀ remoteIp handle, watched.state.peerHandlers.get remoteIp = some handle →
    watched.Current remoteIp handle

section
variable {watched next : Watched W} {remoteIp : IpAddr} {handle : Nat}

/-- All events that the server has taken came from the kernel. -/
theorem Fresh.taken_decoded (fresh : watched.Fresh) :
    watched.taken ++ watched.observer.channel.shared.queue ++
      watched.pending.map RawEvent.decoded = watched.queued.map RawEvent.decoded := by
  rw [taken, fresh.sound.kept, fresh.ordered]

theorem Fresh.taken_length_le (fresh : watched.Fresh) :
    watched.taken.length ≤ watched.queued.length := by
  have lengths := congrArg List.length fresh.taken_decoded
  simp only [List.length_append, List.length_map] at lengths
  omega

/-- A handler stays current when no new change of its config reaches the server. -/
theorem Current.later (current : watched.Current remoteIp handle)
    (known : watched.taken.length ≤ watched.queued.length)
    (queued : watched.queued <+: next.queued) (openedAt : watched.openedAt <+: next.openedAt)
    (news : ∀ place event, watched.taken.length ≤ place → place < next.taken.length →
      next.queued[place]? = some event → TFTPServer.configModified event.decoded ≠ some remoteIp) :
    next.Current remoteIp handle := by
  obtain ⟨opened, here, after⟩ := current
  obtain ⟨more, queued⟩ := queued
  obtain ⟨newer, openedAt⟩ := openedAt
  refine ⟨opened, ?_, ?_⟩
  · have inside := (List.getElem?_eq_some_iff.mp here).1
    rw [← openedAt, List.getElem?_append_left inside, here]
  · intro place event before found modified
    by_cases old : place < watched.taken.length
    · have inside := Nat.lt_of_lt_of_le old known
      rw [← queued, List.getElem?_append_left inside] at found
      exact after place event old found modified
    · exact absurd modified (news place event (Nat.le_of_not_lt old) before found)

/-- A new handler is current. -/
theorem current_of_opened (here : watched.openedAt[handle]? = some watched.queued.length) :
    watched.Current remoteIp handle :=
  ⟨_, here, fun _ _ _ found _ => (List.getElem?_eq_some_iff.mp found).1⟩

theorem Fresh.queue (fresh : watched.Fresh) (order : ByteOrder) {event : RawEvent}
    (short : event.nameField.length ≤ nameFieldLimit) :
    (watched.step order (.queue event)).Fresh where
  looping := fresh.looping
  sized := fresh.sized
  sound := fresh.sound
  ordered := by
    show watched.observer.channel.pushed ++ (watched.pending ++ [event]).map RawEvent.decoded =
      (watched.queued ++ [event]).map RawEvent.decoded
    rw [List.map_append, ← List.append_assoc, fresh.ordered, List.map_append]
  short other member := by
    rcases List.mem_append.mp member with old | new
    · exact fresh.short other old
    · rw [List.mem_singleton.mp new]
      exact short
  opened := fresh.opened
  current remoteIp handle found := by
    apply (fresh.current remoteIp handle found).later fresh.taken_length_le
    · exact List.prefix_append _ _
    · exact List.prefix_refl _
    · intro place other after before
      exact absurd before (Nat.not_lt_of_le after)

/-- A pass of `read_loop` moves the events that the kernel gives into the channel. -/
theorem Fresh.read (fresh : watched.Fresh) (order : ByteOrder) {count : Nat}
    (allowed : Allowed order watched (.read count)) : (watched.read order count).Fresh := by
  unfold Watched.read
  cases waiting : watched.pending with
  | nil =>
      dsimp only
      have idle : watched.observer.readLoop order .wouldBlock = watched.observer := by
        unfold INotifyObserver.readLoop
        rw [fresh.looping]
      rw [idle, ← waiting]
      exact fresh
  | cons event rest =>
      dsimp only
      rw [← waiting]
      obtain ⟨positive, fits⟩ := allowed (waiting ▸ List.cons_ne_nil _ _)
      have some : watched.pending.take count ≠ [] := by
        apply List.ne_nil_of_length_pos
        rw [List.length_take, waiting, List.length_cons]
        omega
      rw [INotifyObserver.readLoop_encoded order fresh.looping some (fresh.sized ▸ fits)]
      obtain ⟨pushed, returned, _⟩ := INotifyObserver.push_adds
        ((watched.pending.take count).map RawEvent.decoded) watched.observer.channel
      constructor
      · exact fresh.looping
      · exact (overwrite_length _ _ _).trans fresh.sized
      · exact INotifyObserver.push_sound _ fresh.sound
      · dsimp only
        rw [pushed, List.append_assoc, ← List.map_append, List.take_append_drop, fresh.ordered]
      · intro other member
        exact fresh.short other (List.mem_of_mem_drop member)
      · exact fresh.opened
      · intro remoteIp handle found
        apply (fresh.current remoteIp handle found).later fresh.taken_length_le
        · exact List.prefix_refl _
        · exact List.prefix_refl _
        · intro place other after before
          unfold taken at after before
          dsimp only at before
          rw [returned] at before
          exact absurd before (Nat.not_lt_of_le after)

/-- A step of the server that gives handles only to new handlers keeps the handlers current. -/
theorem Fresh.advance (fresh : watched.Fresh) {channel : Channel InotifyEvent W} {state : State}
    (sound : channel.Sound) (pushed : channel.pushed = watched.observer.channel.pushed)
    (grown : watched.state.handlers.length ≤ state.handlers.length)
    (mapped : ∀ remoteIp handle, state.peerHandlers.get remoteIp = some handle →
      (watched.state.peerHandlers.get remoteIp = some handle ∧
        ∀ place event, watched.taken.length ≤ place → place < channel.returned.length →
          watched.queued[place]? = some event →
          TFTPServer.configModified event.decoded ≠ some remoteIp) ∨
      watched.state.handlers.length ≤ handle ∧ handle < state.handlers.length) :
    ({ watched with observer := { watched.observer with channel := channel } }.advance
      state).Fresh where
  looping := fresh.looping
  sized := fresh.sized
  sound := sound
  ordered := by
    show channel.pushed ++ watched.pending.map RawEvent.decoded =
      watched.queued.map RawEvent.decoded
    rw [pushed, fresh.ordered]
  short := fresh.short
  opened := by
    show (watched.openedAt ++ _).length = _
    rw [List.length_append, List.length_replicate, fresh.opened]
    exact Nat.add_sub_of_le grown
  current remoteIp handle found := by
    rcases mapped remoteIp handle found with ⟨old, news⟩ | ⟨new, inside⟩
    · apply (fresh.current remoteIp handle old).later fresh.taken_length_le
      · exact List.prefix_refl _
      · exact List.prefix_append _ _
      · exact news
    · apply current_of_opened
      show (watched.openedAt ++ List.replicate (state.handlers.length -
        watched.state.handlers.length) watched.queued.length)[handle]? = some watched.queued.length
      rw [List.getElem?_append_right (fresh.opened ▸ new), List.getElem?_replicate, fresh.opened,
        if_pos (by omega)]

/-- The event at the front of the channel is the next one of the kernel. -/
theorem Fresh.next_event (fresh : watched.Fresh) {event : InotifyEvent}
    {rest : List InotifyEvent} (queue : watched.observer.channel.shared.queue = event :: rest)
    {raw : RawEvent} (here : watched.queued[watched.taken.length]? = some raw) :
    raw.decoded = event := by
  have decoded : (watched.taken ++ watched.observer.channel.shared.queue ++
      watched.pending.map RawEvent.decoded)[watched.taken.length]? =
        (watched.queued.map RawEvent.decoded)[watched.taken.length]? := by
    rw [fresh.taken_decoded]
  rw [queue, List.append_assoc, List.getElem?_append_right (Nat.le_refl _), Nat.sub_self,
    List.getElem?_map, here] at decoded
  exact (Option.some.inj decoded).symm

/-- The branch of an event renews the handler of its config. -/
theorem Fresh.poll (fresh : watched.Fresh) (waker : W) (capacity : Nat) :
    (watched.poll waker capacity).Fresh := by
  unfold Watched.poll
  split
  · rename_i selecting
    dsimp only
    -- A new future leaves the queue and the records of the channel as they are.
    generalize waits : (if watched.observer.channel.future.isNone = true then
      watched.observer.channel.step .next else watched.observer.channel) = channel
    have same : channel.Sound ∧ channel.shared = watched.observer.channel.shared ∧
        channel.pushed = watched.observer.channel.pushed ∧
        channel.returned = watched.observer.channel.returned := by
      rw [← waits]
      split
      · exact ⟨fresh.sound.step .next, rfl, rfl, rfl⟩
      · exact ⟨fresh.sound, rfl, rfl, rfl⟩
    obtain ⟨sound, shared, pushed, returned⟩ := same
    rcases channel.shared.poll_cases waker with ⟨event, rest, queue, polled⟩ | ⟨queue, polled⟩
    · rw [polled]
      have took : (channel.step (.poll waker)).pushed = channel.pushed ∧
          (channel.step (.poll waker)).returned = channel.returned ++ [event] := by
        simp only [Channel.step, polled, and_self]
      have extended := (watched.state.changed_observe event capacity).extends
      apply fresh.advance ((sound.poll waker).step .drop) (took.1.trans pushed) extended.grown
      intro remoteIp handle found
      by_cases modified : TFTPServer.configModified event = some remoteIp
      · exact .inr (State.observe_opens selecting capacity modified found)
      · refine (extended.mapped remoteIp handle found).imp_left fun old => ⟨old, ?_⟩
        intro place raw after before here
        have last : place = watched.taken.length := by
          have length := congrArg List.length took.2
          rw [List.length_append, returned, List.length_singleton] at length
          change place < (channel.step (.poll waker)).returned.length at before
          change watched.observer.channel.returned.length ≤ place at after
          show place = watched.observer.channel.returned.length
          omega
        rw [last] at here
        rw [fresh.next_event (shared ▸ queue) here]
        exact modified
    · rw [polled]
      have kept : (channel.step (.poll waker)).pushed = channel.pushed ∧
          (channel.step (.poll waker)).returned = channel.returned := by
        simp only [Channel.step, polled, and_self]
      constructor
      · exact fresh.looping
      · exact fresh.sized
      · exact sound.poll waker
      · dsimp only
        rw [kept.1, pushed, fresh.ordered]
      · exact fresh.short
      · exact fresh.opened
      · intro remoteIp handle found
        apply (fresh.current remoteIp handle found).later fresh.taken_length_le
        · exact List.prefix_refl _
        · exact List.prefix_refl _
        · intro place other after before
          unfold taken at after before
          dsimp only at before
          rw [kept.2, returned] at before
          exact absurd before (Nat.not_lt_of_le after)
  · exact fresh

theorem Fresh.serve (fresh : watched.Fresh) (event : Event) : (watched.serve event).Fresh := by
  unfold Watched.serve
  split
  · exact fresh
  · dsimp only
    have extended := (watched.state.step_changed event).extends
    -- The wait for an event is cancelled without a loss.
    split
    · apply fresh.advance (fresh.sound.step .drop) rfl extended.grown
      intro remoteIp handle found
      refine (extended.mapped remoteIp handle found).imp_left fun old => ⟨old, ?_⟩
      intro place other after before
      exact absurd before (Nat.not_lt_of_le after)
    · apply fresh.advance fresh.sound rfl extended.grown
      intro remoteIp handle found
      refine (extended.mapped remoteIp handle found).imp_left fun old => ⟨old, ?_⟩
      intro place other after before
      exact absurd before (Nat.not_lt_of_le after)

theorem Fresh.step (fresh : watched.Fresh) (order : ByteOrder) {happening : Happening W}
    (allowed : Allowed order watched happening) : (watched.step order happening).Fresh := by
  cases happening with
  | queue event => exact fresh.queue order allowed
  | read count => exact fresh.read order allowed
  | poll waker capacity => exact fresh.poll waker capacity
  | serve event => exact fresh.serve event

/-- The buffer of `read_loop` has room for every event. -/
theorem Fresh.readable (fresh : watched.Fresh) (order : ByteOrder) :
    Allowed order watched (.read 1) := by
  intro some
  obtain ⟨event, rest, pending⟩ := List.exists_cons_of_ne_nil some
  have short := fresh.short event (by rw [pending]; exact List.mem_cons_self)
  refine ⟨Nat.one_pos, ?_⟩
  rw [pending, List.take_succ_cons, List.take_zero, List.flatMap_singleton, event.encode_length]
  unfold nameFieldLimit at short
  unfold eventBufferSize
  omega

end

end Watched

end ServeAugmented

end Rtftp

import Rtftp.Construction.RequestsHandler

namespace Rtftp.PeerHandler.RequestsHandler
open Library

variable {R : Type}

/-- These are all changes that one step can make, and an event that is not enabled makes none. -/
inductive Change (handler : RequestsHandler R) : Event R → RequestsHandler R → Prop where
  | stay (event : Event R) : Change handler event handler
  | feed (port : UInt16) (request : R) (present : handler.senderDropped = false) :
      Change handler (.feed port request) { handler with
        queue := handler.queue ++ [(port, request)]
        fed := handler.fed ++ [(port, request)] }
  | dropSender : Change handler .dropSender { handler with senderDropped := true }
  | elapse (duration : Nat) :
      Change handler (.elapse duration) { handler with clock := handler.clock + duration }
  | ignore {since : Nat} {port : UInt16} {request : R} {rest : List (UInt16 × R)}
      (waiting : handler.status = .waiting since) (next : handler.queue = (port, request) :: rest)
      (repeated : handler.sendSessions.containsKey port = true) :
      Change handler .receive { handler with
        queue := rest
        taken := handler.taken ++ [(port, request)]
        takenAt := handler.takenAt ++ [handler.clock]
        status := .waiting handler.clock
        ignored := handler.ignored ++ [⟨handler.taken.length, port, handler.isLive port⟩] }
  | accept {since : Nat} {port : UInt16} {request : R} {rest : List (UInt16 × R)}
      (waiting : handler.status = .waiting since) (next : handler.queue = (port, request) :: rest)
      (vacant : handler.sendSessions.containsKey port = false) :
      Change handler .receive { handler with
        queue := rest
        taken := handler.taken ++ [(port, request)]
        takenAt := handler.takenAt ++ [handler.clock]
        status := .binding handler.taken.length port request }
  | leave {since : Nat} (waiting : handler.status = .waiting since) (empty : handler.queue = [])
      (dropped : handler.senderDropped = true) :
      Change handler .receive { handler with status := .leaving .shutdown }
  | stop {since : Nat} (waiting : handler.status = .waiting since)
      (elapsed : since + second ≤ handler.clock) (empty : handler.purge.sendSessions.entries = [])
      (idle : handler.idleTimeout * second < handler.clock - handler.lastActive) :
      Change handler .tick { handler.purge with
        status := .leaving .inactive
        stoppedAt := some handler.clock }
  | rest {since : Nat} (waiting : handler.status = .waiting since)
      (elapsed : since + second ≤ handler.clock) (empty : handler.purge.sendSessions.entries = [])
      (short : handler.clock - handler.lastActive ≤ handler.idleTimeout * second) :
      Change handler .tick { handler.purge with status := .waiting handler.clock }
  | notice {since : Nat} (waiting : handler.status = .waiting since)
      (elapsed : since + second ≤ handler.clock)
      (busy : handler.purge.sendSessions.entries ≠ []) :
      Change handler .tick { handler.purge with
        lastActive := handler.clock
        status := .waiting handler.clock }
  | refuse {serial : Nat} {port : UInt16} {request : R} (grown : Nat) (crowded : List Nat)
      (binding : handler.status = .binding serial port request)
      (limit : crowded =
        if maxSessionsPerIp ≤ handler.purge.unfinished.length then [serial] else [])
      (full : handler.capacity ≤ handler.purge.sendSessions.entries.length) :
      Change handler (.bound grown) { handler.purge with
        crowded := handler.crowded ++ crowded
        status := .refusing serial port request }
  | schedule {serial : Nat} {port : UInt16} {request : R} (grown : Nat) (crowded : List Nat)
      (binding : handler.status = .binding serial port request)
      (limit : crowded =
        if maxSessionsPerIp ≤ handler.purge.unfinished.length then [serial] else [])
      (room : handler.purge.sendSessions.entries.length < handler.capacity) :
      Change handler (.bound grown) ({ handler.purge with
        crowded := handler.crowded ++ crowded }.scheduleTask serial port request grown)
  | override {serial : Nat} {port : UInt16} {request : R} (grown : Nat)
      (refusing : handler.status = .refusing serial port request) :
      Change handler (.refusalSent grown) ({ handler with
        refused := handler.refused ++ [serial] }.scheduleTask serial port request grown)
  | close {exit : Exit} (leaving : handler.status = .leaving exit) :
      Change handler .close { handler with
        receiverClosed := true
        sendSessions := .empty
        status := await exit handler.sendSessions.entries }
  | join {exit : Exit} {handles : List (UInt16 × Nat)} {place : Nat} {entry : UInt16 × Nat}
      (draining : handler.status = .draining exit handles) (found : handles[place]? = some entry)
      (finished : handler.isFinished entry.2 = true) :
      Change handler (.join place) { handler with status := await exit (handles.eraseIdx place) }
  | finish (handle : Nat) : Change handler (.finish handle) (handler.finish handle)

theorem receive_change (handler : RequestsHandler R) : Change handler .receive handler.receive := by
  unfold receive
  split
  · rename_i since waiting
    split
    · rename_i port request rest next
      unfold take
      dsimp only
      split
      · rename_i repeated
        exact .ignore waiting next repeated
      · rename_i vacant
        exact .accept waiting next (Bool.eq_false_iff.mpr vacant)
    · rename_i empty
      split
      · rename_i dropped
        exact .leave waiting empty dropped
      · exact .stay _
  · exact .stay _

theorem tick_change (handler : RequestsHandler R) : Change handler .tick handler.tick := by
  unfold tick
  split
  · rename_i since waiting
    split
    · rename_i elapsed
      dsimp only
      split
      · rename_i empty
        split
        · rename_i idle
          exact .stop waiting elapsed (List.isEmpty_iff.mp empty) idle
        · rename_i short
          exact .rest waiting elapsed (List.isEmpty_iff.mp empty) (Nat.le_of_not_gt short)
      · rename_i busy
        exact .notice waiting elapsed (mt List.isEmpty_iff.mpr busy)
    · exact .stay _
  · exact .stay _

theorem bound_change (handler : RequestsHandler R) (grown : Nat) :
    Change handler (.bound grown) (handler.bound grown) := by
  unfold bound
  split
  · rename_i serial port request binding
    dsimp only
    split
    · rename_i full
      exact .refuse grown _ binding rfl full
    · rename_i room
      exact .schedule grown _ binding rfl (Nat.lt_of_not_ge room)
  · exact .stay _

/-- Every step makes one of the changes. -/
theorem step_change (handler : RequestsHandler R) (event : Event R) :
    Change handler event (handler.step event) := by
  cases event with
  | feed port request =>
      change Change handler (.feed port request) (handler.feed port request)
      unfold feed
      split
      · rename_i accepted
        simp only [Bool.and_eq_true, Bool.not_eq_true'] at accepted
        exact .feed port request accepted.1.2
      · exact .stay _
  | dropSender => exact .dropSender
  | receive => exact handler.receive_change
  | tick => exact handler.tick_change
  | bound grown => exact handler.bound_change grown
  | refusalSent grown =>
      change Change handler (.refusalSent grown) (handler.refusalSent grown)
      unfold refusalSent
      split
      · rename_i refusing
        exact .override grown refusing
      · exact .stay _
  | close =>
      change Change handler .close handler.close
      unfold close
      split
      · rename_i leaving
        exact .close leaving
      · exact .stay _
  | join place =>
      change Change handler (.join place) (handler.join place)
      unfold join
      split
      · rename_i draining
        split
        · rename_i found
          split
          · rename_i finished
            exact .join draining found finished
          · exact .stay _
        · exact .stay _
      · exact .stay _
  | finish handle => exact .finish handle
  | elapse duration => exact .elapse duration

/-- The later task is the same task, and it may have finished at this moment. -/
structure Succeeds (now : Nat) (task later : Task R) : Prop where
  serial : later.serial = task.serial
  port : later.port = task.port
  request : later.request = task.request
  startedAt : later.startedAt = task.startedAt
  finishedAt : later.finishedAt = task.finishedAt ∨
    task.finishedAt = none ∧ later.finishedAt = some now

theorem finish_succeeds (handler : RequestsHandler R) (handle index : Nat) (task : Task R) :
    Succeeds handler.clock task (if handle = index then
      { task with finishedAt := task.finishedAt.or (some handler.clock) } else task) := by
  split
  · refine ⟨rfl, rfl, rfl, rfl, ?_⟩
    cases finished : task.finishedAt with
    | none => exact .inr ⟨rfl, rfl⟩
    | some time => exact .inl rfl
  · exact ⟨rfl, rfl, rfl, rfl, .inl rfl⟩

/-- No task is lost when one finishes. -/
theorem finish_task (handler : RequestsHandler R) (handle : Nat) {task : Task R}
    (member : task ∈ handler.tasks) :
    ∃ later ∈ (handler.finish handle).tasks, Succeeds handler.clock task later := by
  obtain ⟨index, located⟩ := List.mem_iff_getElem?.mp member
  have found : (handler.finish handle).tasks[index]? = some (if handle = index then
      { task with finishedAt := task.finishedAt.or (some handler.clock) } else task) := by
    simp only [finish, List.getElem?_modify, located, Option.map_eq_map, Option.map_some]
  exact ⟨_, List.mem_of_getElem? found, handler.finish_succeeds handle index task⟩

/-- No task starts when one finishes. -/
theorem task_of_finish (handler : RequestsHandler R) (handle : Nat) {later : Task R}
    (member : later ∈ (handler.finish handle).tasks) :
    ∃ task ∈ handler.tasks, Succeeds handler.clock task later := by
  obtain ⟨index, located⟩ := List.mem_iff_getElem?.mp member
  simp only [finish, List.getElem?_modify, Option.map_eq_map] at located
  obtain ⟨task, found, rfl⟩ := Option.map_eq_some_iff.mp located
  exact ⟨task, List.mem_of_getElem? found, handler.finish_succeeds handle index task⟩

end Rtftp.PeerHandler.RequestsHandler

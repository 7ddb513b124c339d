import Rtftp.Library.Machine
import Rtftp.Proof.Handler.Steps

namespace Rtftp.PeerHandler.RequestsHandler
open Library

variable {R : Type}

/-- The entries have one handle for each port, each is the handle of a session of its port, and no
session that is not finished is without its entry. -/
structure Tracks (tasks : List (Task R)) (entries : List (UInt16 × Nat)) : Prop where
  held : ∀ handle task, tasks[handle]? = some task → task.finishedAt = none →
    (task.port, handle) ∈ entries
  known : ∀ entry ∈ entries, ∃ task, tasks[entry.2]? = some task ∧ task.port = entry.1
  distinct : (entries.map Prod.fst).Nodup

namespace Tracks

variable {tasks : List (Task R)} {entries : List (UInt16 × Nat)}

theorem nil : Tracks ([] : List (Task R)) [] where
  held handle task found := by cases found
  known entry member := by cases member
  distinct := List.nodup_nil

/-- Two live sessions of one port are the same session. -/
theorem unique (tracks : Tracks tasks entries) {first second : Nat} {one two : Task R}
    (firstFound : tasks[first]? = some one) (secondFound : tasks[second]? = some two)
    (firstLive : one.finishedAt = none) (secondLive : two.finishedAt = none)
    (samePort : one.port = two.port) : first = second := by
  have firstHeld := tracks.held first one firstFound firstLive
  have secondHeld := tracks.held second two secondFound secondLive
  rw [← samePort] at secondHeld
  exact (⟨entries, tracks.distinct⟩ : Table UInt16 Nat).entry_unique firstHeld secondHeld

/-- Only entries of finished sessions may be dropped. -/
theorem sublist (tracks : Tracks tasks entries) {fewer : List (UInt16 × Nat)}
    (sub : fewer.Sublist entries)
    (kept : ∀ entry ∈ entries, ∀ task, tasks[entry.2]? = some task → task.finishedAt = none →
      entry ∈ fewer) : Tracks tasks fewer where
  held handle task found live :=
    kept _ (tracks.held handle task found live) task found live
  known entry member := tracks.known entry (sub.subset member)
  distinct := tracks.distinct.sublist (sub.map Prod.fst)

/-- A new session is tracked when its port has no entry. -/
theorem insert {table : Table UInt16 Nat} (tracks : Tracks tasks table.entries) (task : Task R)
    (vacant : table.containsKey task.port = false) :
    Tracks (tasks ++ [task]) (table.insert task.port tasks.length).entries where
  held handle other found live := by
    rw [Table.mem_insert]
    by_cases old : handle < tasks.length
    · rw [List.getElem?_append_left old] at found
      have member := tracks.held handle other found live
      refine .inl ⟨member, fun same => ?_⟩
      rw [← Bool.not_eq_true, Table.containsKey_iff] at vacant
      exact vacant ⟨handle, by rwa [← same]⟩
    · rw [List.getElem?_append_right (by omega), List.getElem?_singleton] at found
      split at found
      · obtain rfl := Option.some.inj found
        exact .inr (by rw [show handle = tasks.length by omega])
      · cases found
  known entry member := by
    rw [Table.mem_insert] at member
    rcases member with ⟨old, _⟩ | rfl
    · obtain ⟨known, found, port⟩ := tracks.known entry old
      have inside := (List.getElem?_eq_some_iff.mp found).1
      exact ⟨known, by rw [List.getElem?_append_left inside, found], port⟩
    · exact ⟨task, by simp, rfl⟩
  distinct := (table.insert task.port tasks.length).distinct

/-- A session that finishes keeps its entry for now. -/
theorem finish (tracks : Tracks tasks entries) (handle now : Nat) :
    Tracks (tasks.modify handle fun task =>
      { task with finishedAt := task.finishedAt.or (some now) }) entries where
  held other task found live := by
    rw [List.getElem?_modify] at found
    obtain ⟨before, foundBefore, rfl⟩ := Option.map_eq_some_iff.mp found
    split at live
    · simp at live
    · rename_i different
      simp only [if_neg different]
      exact tracks.held other before foundBefore live
  known entry member := by
    obtain ⟨task, found, port⟩ := tracks.known entry member
    rw [List.getElem?_modify, found]
    refine ⟨_, rfl, ?_⟩
    split
    · exact port
    · exact port
  distinct := tracks.distinct

end Tracks

/-- The handler holds these handles. -/
def held (handler : RequestsHandler R) : List (UInt16 × Nat) :=
  match handler.status with
  | .draining _ handles => handles
  | .returned _ => []
  | _ => handler.sendSessions.entries

/-- The loop has ended. -/
def exit (handler : RequestsHandler R) : Option Exit :=
  match handler.status with
  | .leaving exit => some exit
  | .draining exit _ => some exit
  | .returned exit => some exit
  | _ => none

/-- The request in work comes from this port. -/
def inWork (handler : RequestsHandler R) : Option UInt16 :=
  match handler.status with
  | .binding _ port _ => some port
  | .refusing _ port _ => some port
  | _ => none

/-- The handler holds every live session and has lost no request. -/
structure Sound (handler : RequestsHandler R) : Prop where
  tracks : Tracks handler.tasks handler.held
  vacant : ∀ port, handler.inWork = some port → handler.sendSessions.containsKey port = false
  conserved : handler.fed = handler.taken ++ handler.queue
  emptied : handler.exit = some .shutdown → handler.queue = [] ∧ handler.senderDropped = true

theorem isFinished_iff (handler : RequestsHandler R) {handle : Nat} {task : Task R}
    (found : handler.tasks[handle]? = some task) :
    handler.isFinished handle = false ↔ task.finishedAt = none := by
  simp [isFinished, found]

theorem new_sound (idleTimeout capacity now : Nat) :
    (new idleTimeout capacity now : RequestsHandler R).Sound where
  tracks := Tracks.nil
  vacant port working := by cases working
  conserved := rfl
  emptied ended := by cases ended

theorem mem_purge (handler : RequestsHandler R) (entry : UInt16 × Nat) :
    entry ∈ handler.purge.sendSessions.entries ↔
      entry ∈ handler.sendSessions.entries ∧ handler.isFinished entry.2 = false := by
  simp [purge]

/-- A purge drops only finished sessions. -/
theorem purge_tracks {handler : RequestsHandler R}
    (tracks : Tracks handler.tasks handler.sendSessions.entries) :
    Tracks handler.purge.tasks handler.purge.sendSessions.entries := by
  apply tracks.sublist List.filter_sublist
  intro entry member task found live
  exact (handler.mem_purge entry).mpr ⟨member, (handler.isFinished_iff found).mpr live⟩

theorem purge_vacant {handler : RequestsHandler R} {port : UInt16}
    (vacant : handler.sendSessions.containsKey port = false) :
    handler.purge.sendSessions.containsKey port = false := by
  rw [← Bool.not_eq_true, Table.containsKey_iff] at vacant ⊢
  rintro ⟨handle, member⟩
  exact vacant ⟨handle, ((handler.mem_purge _).mp member).1⟩

/-- The handles that are left are all that the handler holds after its loop. -/
theorem await_holds {exit : Exit} {handles : List (UInt16 × Nat)} {handler : RequestsHandler R}
    (status : handler.status = await exit handles) :
    handler.held = handles ∧ handler.exit = some exit ∧ handler.inWork = none := by
  cases handles with
  | nil => simp only [held, RequestsHandler.exit, inWork, status, await, and_self]
  | cons handle rest => simp only [held, RequestsHandler.exit, inWork, status, await, and_self]

namespace Sound

variable {handler : RequestsHandler R}

/-- While the handler waits for a request, the handles are those of the table. -/
theorem waiting (sound : handler.Sound) {since : Nat} (status : handler.status = .waiting since) :
    Tracks handler.tasks handler.sendSessions.entries := by
  simpa only [held, status] using sound.tracks

/-- While a request is in work, the handles are those of the table, and the table does not have the
port of the request. -/
theorem working (sound : handler.Sound) {port : UInt16} (working : handler.inWork = some port) :
    Tracks handler.tasks handler.sendSessions.entries ∧
      handler.sendSessions.containsKey port = false := by
  have vacant := sound.vacant port working
  have tracks := sound.tracks
  unfold inWork at working
  split at working
  · rename_i status
    simp only [held, status] at tracks
    exact ⟨tracks, vacant⟩
  · rename_i status
    simp only [held, status] at tracks
    exact ⟨tracks, vacant⟩
  · cases working

/-- A session that starts on a vacant port keeps the handler sound. -/
theorem scheduleTask {serial : Nat} {port : UInt16} {request : R} (grown : Nat)
    (tracks : Tracks handler.tasks handler.sendSessions.entries)
    (vacant : handler.sendSessions.containsKey port = false)
    (conserved : handler.fed = handler.taken ++ handler.queue) :
    (handler.scheduleTask serial port request grown).Sound where
  tracks := tracks.insert ⟨serial, port, request, handler.clock, none⟩ vacant
  vacant _ working := by cases working
  conserved := conserved
  emptied ended := by cases ended

/-- The handles that are left after the loop are those of the unfinished sessions at least. -/
theorem awaiting {exit : Exit} {handles : List (UInt16 × Nat)}
    (status : handler.status = await exit handles) (tracks : Tracks handler.tasks handles)
    (conserved : handler.fed = handler.taken ++ handler.queue)
    (emptied : exit = .shutdown → handler.queue = [] ∧ handler.senderDropped = true) :
    handler.Sound := by
  obtain ⟨holds, exits, idle⟩ := await_holds status
  refine ⟨by rwa [holds], fun port working => ?_, conserved, fun ended => ?_⟩
  · rw [idle] at working
    cases working
  · rw [exits] at ended
    exact emptied (Option.some.inj ended)

/-- A handle is dropped from the handles that are left when its session is finished. -/
theorem joined {handles : List (UInt16 × Nat)} {place : Nat} {entry : UInt16 × Nat}
    (tracks : Tracks handler.tasks handles) (found : handles[place]? = some entry)
    (finished : handler.isFinished entry.2 = true) :
    Tracks handler.tasks (handles.eraseIdx place) := by
  apply tracks.sublist (List.eraseIdx_sublist _ _)
  intro other member task known live
  obtain ⟨index, located⟩ := List.mem_iff_getElem?.mp member
  refine List.mem_eraseIdx_iff_getElem?.mpr ⟨index, fun same => ?_, located⟩
  rw [same, found] at located
  obtain rfl := Option.some.inj located
  rw [(handler.isFinished_iff known).mpr live] at finished
  cases finished

theorem change {event : Event R} {next : RequestsHandler R} (sound : handler.Sound)
    (change : Change handler event next) : next.Sound := by
  cases change with
  | stay => exact sound
  | feed port request present =>
      refine ⟨sound.tracks, sound.vacant, ?_, fun ended => ?_⟩
      · simp only [sound.conserved, List.append_assoc]
      · rw [(sound.emptied ended).2] at present
        cases present
  | dropSender =>
      exact ⟨sound.tracks, sound.vacant, sound.conserved,
        fun ended => ⟨(sound.emptied ended).1, rfl⟩⟩
  | elapse duration => exact ⟨sound.tracks, sound.vacant, sound.conserved, sound.emptied⟩
  | ignore status first repeated =>
      have conserved := sound.conserved
      rw [first] at conserved
      exact ⟨sound.waiting status, fun _ working => (nomatch working), by simp [conserved],
        fun ended => (nomatch ended)⟩
  | accept status first vacant =>
      have conserved := sound.conserved
      rw [first] at conserved
      refine ⟨sound.waiting status, fun other working => ?_, by simp [conserved],
        fun ended => (nomatch ended)⟩
      obtain rfl := Option.some.inj working
      exact vacant
  | leave status empty dropped =>
      exact ⟨sound.waiting status, fun _ working => (nomatch working), sound.conserved,
        fun _ => ⟨empty, dropped⟩⟩
  | stop status | rest status | notice status =>
      exact ⟨purge_tracks (sound.waiting status), fun _ working => (nomatch working),
        sound.conserved, fun ended => (nomatch ended)⟩
  | @refuse serial port request grown crowded status limit full =>
      have working : handler.inWork = some port := by simp only [inWork, status]
      obtain ⟨tracks, vacant⟩ := sound.working working
      refine ⟨purge_tracks tracks, fun other same => ?_, sound.conserved,
        fun ended => (nomatch ended)⟩
      obtain rfl := Option.some.inj same
      exact purge_vacant vacant
  | @schedule serial port request grown crowded status limit room =>
      have working : handler.inWork = some port := by simp only [inWork, status]
      obtain ⟨tracks, vacant⟩ := sound.working working
      exact scheduleTask grown (purge_tracks tracks) (purge_vacant vacant) sound.conserved
  | @override serial port request grown status =>
      have working : handler.inWork = some port := by simp only [inWork, status]
      obtain ⟨tracks, vacant⟩ := sound.working working
      exact scheduleTask grown tracks vacant sound.conserved
  | @close exit status =>
      have tracks := sound.tracks
      have ended := sound.emptied
      simp only [held, status] at tracks
      simp only [RequestsHandler.exit, status, Option.some.injEq] at ended
      exact awaiting rfl tracks sound.conserved ended
  | @join exit handles place entry status found finished =>
      have tracks := sound.tracks
      have ended := sound.emptied
      simp only [held, status] at tracks
      simp only [RequestsHandler.exit, status, Option.some.injEq] at ended
      exact awaiting rfl (joined tracks found finished) sound.conserved ended
  | finish handle =>
      exact ⟨sound.tracks.finish handle handler.clock, sound.vacant, sound.conserved,
        sound.emptied⟩

theorem step (sound : handler.Sound) (event : Event R) : (handler.step event).Sound :=
  sound.change (handler.step_change event)

end Sound

/-- Every reachable handler is sound. -/
theorem reach_sound {idleTimeout capacity now : Nat} {handler : RequestsHandler R}
    {allowed : RequestsHandler R → Event R → Prop}
    (reached : Reach step allowed (new idleTimeout capacity now) handler) : handler.Sound := by
  apply reached.invariant Sound (new_sound idleTimeout capacity now)
  exact fun handler event sound _ => sound.step event

end Rtftp.PeerHandler.RequestsHandler

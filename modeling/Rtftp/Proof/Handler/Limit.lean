import Rtftp.Proof.Handler.Sessions

namespace Rtftp.PeerHandler.RequestsHandler
open Library

variable {R : Type}

/-- The limit holds, and a request that came to it has no session. It has one error, or the error
is being sent. -/
def Enforced (handler : RequestsHandler R) : Prop :=
  handler.unfinished.length ≤ maxSessionsPerIp ∧ ∀ serial ∈ handler.crowded,
    (∀ task ∈ handler.tasks, task.serial ≠ serial) ∧
    (handler.refused.count serial = 1 ∨
      handler.refused.count serial = 0 ∧
        ∃ port request, handler.status = .refusing serial port request)

/-- No request comes to its session check at the limit. -/
def Uncrowded (handler : RequestsHandler R) (event : Event R) : Prop :=
  ∀ grown serial port request, event = .bound grown →
    handler.status = .binding serial port request → handler.unfinished.length < maxSessionsPerIp

theorem purge_unfinished (handler : RequestsHandler R) :
    handler.purge.unfinished = handler.unfinished := by
  have same : handler.purge.isFinished = handler.isFinished := rfl
  simp only [unfinished, same]
  simp [purge, Table.retain, List.filter_filter]

theorem purge_count (handler : RequestsHandler R) :
    handler.purge.unfinished.length = handler.unfinished.length := by
  rw [purge_unfinished]

/-- A finished session stays finished. -/
theorem finish_isFinished (handler : RequestsHandler R) (handle : Nat) {other : Nat}
    (finished : handler.isFinished other = true) :
    (handler.finish handle).isFinished other = true := by
  unfold isFinished at finished ⊢
  simp only [finish, List.getElem?_modify]
  cases found : handler.tasks[other]? with
  | none => rfl
  | some task =>
      simp only [found] at finished
      simp only [Option.map_eq_map, Option.map_some]
      split
      · simp
      · exact finished

/-- A session that finishes is no longer counted. -/
theorem finish_unfinished (handler : RequestsHandler R) (handle : Nat) :
    (handler.finish handle).unfinished.length ≤ handler.unfinished.length := by
  apply List.Sublist.length_le
  apply List.monotone_filter_right
  intro entry live
  simp only [Bool.not_eq_true'] at live ⊢
  rw [Bool.eq_false_iff] at live ⊢
  exact fun finished => live (handler.finish_isFinished handle finished)

/-- A new session changes none of the earlier ones. -/
theorem scheduleTask_isFinished (handler : RequestsHandler R) (serial : Nat) (port : UInt16)
    (request : R) (grown : Nat) {other : Nat} (old : other < handler.tasks.length) :
    (handler.scheduleTask serial port request grown).isFinished other =
      handler.isFinished other := by
  simp only [isFinished, scheduleTask, List.getElem?_append_left old]

/-- A new session is one more at most. -/
theorem scheduleTask_unfinished (handler : RequestsHandler R)
    (tracks : Tracks handler.tasks handler.sendSessions.entries) (serial : Nat) (port : UInt16)
    (request : R) (grown : Nat) :
    (handler.scheduleTask serial port request grown).unfinished.length ≤
      handler.unfinished.length + 1 := by
  have kept : (handler.sendSessions.entries.filter fun entry => entry.1 != port).filter
      (fun entry => !(handler.scheduleTask serial port request grown).isFinished entry.2) =
      (handler.sendSessions.entries.filter fun entry => entry.1 != port).filter
        (fun entry => !handler.isFinished entry.2) := by
    apply List.filter_congr
    intro entry member
    obtain ⟨task, found, _⟩ := tracks.known entry (List.mem_of_mem_filter member)
    rw [handler.scheduleTask_isFinished serial port request grown
      (List.getElem?_eq_some_iff.mp found).1]
  have fewer := ((List.filter_sublist (p := fun entry : UInt16 × Nat => entry.1 != port)
    (l := handler.sendSessions.entries)).filter
      fun entry => !handler.isFinished entry.2).length_le
  have one := List.length_filter_le
    (fun entry => !(handler.scheduleTask serial port request grown).isFinished entry.2)
    [(port, handler.tasks.length)]
  simp only [List.length_singleton] at one
  change (((handler.sendSessions.entries.filter fun entry => entry.1 != port) ++
    [(port, handler.tasks.length)]).filter _).length ≤ _
  rw [List.filter_append, List.length_append, kept]
  simp only [unfinished]
  omega

/-- No request has come to the limit yet. -/
structure Calm (handler : RequestsHandler R) : Prop where
  sound : handler.Sound
  crowded : handler.crowded = []
  within : handler.unfinished.length ≤ maxSessionsPerIp
  room : ∀ serial port request, handler.status = .refusing serial port request →
    handler.unfinished.length < maxSessionsPerIp

namespace Calm

variable {handler next : RequestsHandler R}

theorem new (idleTimeout capacity now : Nat) :
    (new idleTimeout capacity now : RequestsHandler R).Calm where
  sound := new_sound idleTimeout capacity now
  crowded := rfl
  within := Nat.zero_le _
  room _ _ _ status := by cases status

theorem enforced (calm : handler.Calm) : handler.Enforced := by
  refine ⟨calm.within, fun serial member => ?_⟩
  rw [calm.crowded] at member
  cases member

/-- A request that has room is not recorded. -/
theorem uncrowded (calm : handler.Calm) {serial : Nat}
    (room : handler.unfinished.length < maxSessionsPerIp) :
    (handler.crowded ++ if maxSessionsPerIp ≤ handler.purge.unfinished.length then [serial]
      else []) = [] := by
  rw [calm.crowded, purge_unfinished, if_neg (Nat.not_le_of_gt room), List.append_nil]

theorem change {event : Event R} (calm : handler.Calm) (change : Change handler event next)
    (allowed : Uncrowded handler event) : next.Calm := by
  have sound := calm.sound.change change
  cases change with
  | stay => exact calm
  | feed | dropSender | elapse =>
      exact ⟨sound, calm.crowded, calm.within, calm.room⟩
  | ignore | accept | leave =>
      exact ⟨sound, calm.crowded, calm.within, fun _ _ _ status => by cases status⟩
  | stop | rest | notice =>
      refine ⟨sound, calm.crowded, ?_, fun _ _ _ status => by cases status⟩
      exact Nat.le_trans (Nat.le_of_eq handler.purge_count) calm.within
  | refuse grown crowded status limit =>
      have room := allowed grown _ _ _ rfl status
      have same := handler.purge_count
      refine ⟨sound, ?_, ?_, fun _ _ _ _ => ?_⟩
      · rw [limit]
        exact calm.uncrowded room
      · exact Nat.le_trans (Nat.le_of_eq same) (Nat.le_of_lt room)
      · exact Nat.lt_of_le_of_lt (Nat.le_of_eq same) room
  | @schedule serial port request grown crowded status limit =>
      have room := allowed grown _ _ _ rfl status
      have same := handler.purge_count
      refine ⟨sound, ?_, ?_, fun _ _ _ status => by cases status⟩
      · rw [limit]
        exact calm.uncrowded room
      · have working : handler.inWork = some port := by simp only [inWork, status]
        have tracks := purge_tracks (calm.sound.working working).1
        have more := scheduleTask_unfinished { handler.purge with
          crowded := handler.crowded ++ crowded } tracks serial port request grown
        exact Nat.le_trans more (Nat.lt_of_le_of_lt (Nat.le_of_eq same) room)
  | @override serial port request grown status =>
      have room := calm.room serial port request status
      have working : handler.inWork = some port := by simp only [inWork, status]
      have tracks := (calm.sound.working working).1
      have more := scheduleTask_unfinished { handler with
        refused := handler.refused ++ [serial] } tracks serial port request grown
      exact ⟨sound, calm.crowded, Nat.le_trans more room,
        fun _ _ _ status => by cases status⟩
  | close =>
      refine ⟨sound, calm.crowded, Nat.zero_le _, fun _ _ _ _ => ?_⟩
      exact Nat.zero_lt_succ _
  | @join exit handles place =>
      refine ⟨sound, calm.crowded, calm.within, fun _ _ _ refusing => ?_⟩
      change await exit (handles.eraseIdx place) = _ at refusing
      cases left : handles.eraseIdx place with
      | nil => rw [left] at refusing; cases refusing
      | cons => rw [left] at refusing; cases refusing
  | finish handle =>
      have fewer := handler.finish_unfinished handle
      refine ⟨sound, calm.crowded, Nat.le_trans fewer calm.within,
        fun _ _ _ refusing => ?_⟩
      exact Nat.lt_of_le_of_lt fewer (calm.room _ _ _ refusing)

theorem step (calm : handler.Calm) {event : Event R} (allowed : Uncrowded handler event) :
    (handler.step event).Calm :=
  calm.change (handler.step_change event) allowed

end Calm

theorem bound_room {handler : RequestsHandler R} {serial : Nat} {port : UInt16} {request : R}
    (grown : Nat) (binding : handler.status = .binding serial port request)
    (room : handler.purge.sendSessions.entries.length < handler.capacity) :
    handler.bound grown = { handler.purge with
      crowded := handler.crowded ++
        if maxSessionsPerIp ≤ handler.purge.unfinished.length then [serial]
        else [] }.scheduleTask serial port request grown := by
  simp only [bound, binding]
  exact if_neg (Nat.not_le_of_lt room)

/-- A request at the limit is recorded and still gets a session. -/
theorem bound_crowded {handler : RequestsHandler R} {serial : Nat} {port : UInt16} {request : R}
    (grown : Nat) (binding : handler.status = .binding serial port request)
    (limit : maxSessionsPerIp ≤ handler.unfinished.length) :
    ¬ ((handler.step (.bound grown)).Enforced ∧
      ((handler.step (.bound grown)).step (.refusalSent grown)).Enforced) := by
  have count : maxSessionsPerIp ≤ handler.purge.unfinished.length := by rwa [purge_count]
  rintro ⟨first, second⟩
  have crowded : serial ∈ handler.crowded ++ [serial] :=
    List.mem_append_right _ (List.mem_singleton_self _)
  -- The session starts at once, or the refusal is sent first and the session starts after it.
  simp only [RequestsHandler.step, bound, binding] at first second
  rw [if_pos count] at first second
  split at first
  · rename_i full
    rw [if_pos full] at second
    exact (second.2 serial crowded).1 ⟨serial, port, request, handler.clock, none⟩
      (List.mem_append_right _ (List.mem_singleton_self _)) rfl
  · exact (first.2 serial crowded).1 ⟨serial, port, request, handler.clock, none⟩
      (List.mem_append_right _ (List.mem_singleton_self _)) rfl

/-- The limit is kept as long as no request comes to it, and the first one that does breaks it, at
once or when its refusal is sent. -/
theorem sessions_limited_iff (idleTimeout capacity now : Nat) {handler : RequestsHandler R}
    (reached : Reach step Uncrowded (new idleTimeout capacity now) handler) :
    handler.Enforced ∧ ∀ event, ((handler.step event).Enforced ∧
      ∀ grown, ((handler.step event).step (.refusalSent grown)).Enforced) ↔
        Uncrowded handler event := by
  have calm := reached.invariant Calm (Calm.new idleTimeout capacity now)
    fun handler event calm allowed => calm.step allowed
  refine ⟨calm.enforced, fun event => ⟨?_, fun allowed => ?_⟩⟩
  · rintro ⟨first, second⟩ grown serial port request rfl binding
    by_contra crowded
    exact bound_crowded grown binding (Nat.le_of_not_lt crowded) ⟨first, second grown⟩
  · have next := calm.step allowed
    refine ⟨next.enforced, fun grown => ?_⟩
    have refusal : Uncrowded (handler.step event) (.refusalSent grown) :=
      fun _ _ _ _ other => (nomatch other)
    exact (next.step refusal).enforced

/-- One session is within the limit. -/
theorem sessions_limited_one :
    ([.feed 7 (), .receive, .bound 0].foldl step
      (new 30 224 0 : RequestsHandler Unit)).Enforced := by
  have permitted : Permits step Uncrowded (new 30 224 0 : RequestsHandler Unit)
      [.feed 7 (), .receive, .bound 0] := by
    refine ⟨?_, ?_, ?_, trivial⟩
    · exact fun _ _ _ _ other => (nomatch other)
    · exact fun _ _ _ _ other => (nomatch other)
    · exact fun _ _ _ _ _ _ => by decide
  exact (sessions_limited_iff 30 224 0 (Reach.permits permitted)).1

/-- The next request comes from a port of its own. -/
def arrive (handler : RequestsHandler Unit) (port : Nat) : RequestsHandler Unit :=
  [.feed (.ofNat port) (), .receive, .bound 0].foldl step handler

/-- As many sessions run as there were requests. -/
structure Crowd (count : Nat) (handler : RequestsHandler Unit) : Prop where
  status : handler.status = .waiting 0
  queue : handler.queue = []
  present : handler.senderDropped = false
  opened : handler.receiverClosed = false
  capacity : handler.capacity = 224
  sessions : handler.sendSessions.entries = (List.range count).map fun port => (.ofNat port, port)
  tasks : handler.tasks = (List.range count).map fun port => ⟨port, .ofNat port, (), 0, none⟩
  taken : handler.taken.length = count
  clock : handler.clock = 0

namespace Crowd

variable {count : Nat} {handler : RequestsHandler Unit}

theorem live (crowd : Crowd count handler) {port : Nat} (old : port < count) :
    handler.isFinished port = false := by
  simp [isFinished, crowd.tasks, old]

theorem unfinished (crowd : Crowd count handler) :
    handler.unfinished = handler.sendSessions.entries := by
  apply List.filter_eq_self.mpr
  intro entry member
  rw [crowd.sessions] at member
  obtain ⟨port, inside, rfl⟩ := List.mem_map.mp member
  rw [crowd.live (List.mem_range.mp inside)]
  rfl

theorem vacant (crowd : Crowd count handler) (few : count < 224) :
    ∀ entry ∈ handler.sendSessions.entries, entry.1 ≠ .ofNat count := by
  intro entry member same
  rw [crowd.sessions] at member
  obtain ⟨port, inside, rfl⟩ := List.mem_map.mp member
  have older := List.mem_range.mp inside
  have equal := congrArg UInt16.toNat same
  simp only [UInt16.toNat_ofNat'] at equal
  omega

/-- A request from a new port is taken up. -/
theorem received (crowd : Crowd count handler) (few : count < 224) :
    [.feed (.ofNat count) (), .receive].foldl step handler = { handler with
      fed := handler.fed ++ [(.ofNat count, ())]
      taken := handler.taken ++ [(.ofNat count, ())]
      takenAt := handler.takenAt ++ [handler.clock]
      status := .binding count (.ofNat count) () } := by
  have absent : handler.sendSessions.containsKey (.ofNat count) = false := by
    rw [← Bool.not_eq_true, Table.containsKey_iff]
    rintro ⟨handle, member⟩
    exact crowd.vacant few _ member rfl
  simp [step, feed, receive, take, channelSize, crowd.queue, crowd.present, crowd.opened,
    crowd.status, crowd.taken, absent]

/-- One more request is one more session. -/
theorem arrive (crowd : Crowd count handler) (few : count < 224) :
    Crowd (count + 1) (handler.arrive count) := by
  have room : handler.unfinished.length < handler.capacity := by
    rw [crowd.unfinished, crowd.sessions, crowd.capacity, List.length_map, List.length_range]
    exact few
  have kept : handler.unfinished.filter (fun entry => entry.1 != .ofNat count) =
      handler.sendSessions.entries := by
    rw [crowd.unfinished]
    apply List.filter_eq_self.mpr
    exact fun entry member => bne_iff_ne.mpr (crowd.vacant few entry member)
  change Crowd (count + 1) (([.feed (.ofNat count) (), .receive].foldl step handler).bound 0)
  rw [crowd.received few]
  refine Eq.mpr (congrArg (Crowd (count + 1)) (bound_room 0 rfl room)) ?_
  refine ⟨?_, crowd.queue, crowd.present, crowd.opened, ?_, ?_, ?_, ?_, crowd.clock⟩
  · exact congrArg HandlerStatus.waiting crowd.clock
  · exact (Nat.max_eq_left (Nat.zero_le _)).trans crowd.capacity
  · change handler.unfinished.filter (fun entry => entry.1 != .ofNat count) ++
      [(.ofNat count, handler.tasks.length)] = _
    rw [kept, crowd.sessions, crowd.tasks, List.length_map, List.length_range, List.range_succ,
      List.map_append, List.map_singleton]
  · change handler.tasks ++ [⟨count, .ofNat count, (), handler.clock, none⟩] = _
    rw [crowd.tasks, crowd.clock, List.range_succ, List.map_append, List.map_singleton]
  · change (handler.taken ++ [_]).length = _
    rw [List.length_append, crowd.taken, List.length_singleton]

end Crowd

/-- This many requests come one after the other, and no session finishes. -/
def crowd (count : Nat) : RequestsHandler Unit :=
  (List.range count).foldl arrive (new 30 224 0)

theorem crowd_holds {count : Nat} (few : count ≤ 224) : Crowd count (crowd count) := by
  induction count with
  | zero => exact ⟨rfl, rfl, rfl, rfl, rfl, rfl, rfl, rfl, rfl⟩
  | succ count ih =>
      rw [crowd, List.range_succ, List.foldl_append]
      exact (ih (by omega)).arrive (by omega)

/-- The table has room for more sessions than the limit allows. -/
theorem sessions_limited_exceeded : ¬ (crowd 129).Enforced := by
  rintro ⟨within, _⟩
  have running : Crowd 129 (crowd 129) := crowd_holds (by decide)
  rw [running.unfinished, running.sessions, List.length_map, List.length_range] at within
  exact absurd within (by decide)

end Rtftp.PeerHandler.RequestsHandler

import Mathlib.Data.List.Flatten
import Rtftp.Proof.Server.Ownership

namespace Rtftp.ServeAugmented
open Library PeerHandler

namespace State

/-- The handler at this place has a live session of this peer. -/
def Live (state : State) (remoteIp : IpAddr) (port : UInt16) (handle session : Nat) : Prop :=
  ∃ handler task, state.handlers[handle]? = some handler ∧ handler.senderAddress = remoteIp ∧
    handler.requests.tasks[session]? = some task ∧ task.port = port ∧ task.finishedAt = none

section
variable {state : State}

/-- A thread with a live session has not ended. -/
theorem Owned.living (owned : state.Owned) {handle session : Nat} {handler : Handler}
    {task : PeerHandler.Task Accepted} (here : state.handlers[handle]? = some handler)
    (found : handler.requests.tasks[session]? = some task) (live : task.finishedAt = none) :
    handler.isFinished = false := by
  have orderly := owned.orderly handler (List.mem_of_getElem? here)
  cases finished : handler.isFinished with
  | false => rfl
  | true =>
      have ended := orderly.ended finished task (List.mem_of_getElem? found)
      rw [live] at ended
      cases ended

/-- While the server waits for the thread of an address, its new thread has no session. -/
theorem Owned.replacement (owned : state.Owned) {place handle session : Nat} {old new : Handler}
    {task : PeerHandler.Task Accepted} (joining : state.status = .joining place)
    (oldHere : state.handlers[place]? = some old) (newHere : state.handlers[handle]? = some new)
    (mapped : state.peerHandlers.get old.senderAddress = some handle)
    (found : new.requests.tasks[session]? = some task) : False := by
  have nothing := owned.fresh place handle old new joining oldHere newHere mapped
  rw [(owned.orderly new (List.mem_of_getElem? newHere)).sessionless nothing] at found
  cases found

/-- Two live sessions of one peer are in one thread. -/
theorem Owned.sameThread (owned : state.Owned) {remoteIp : IpAddr} {port : UInt16}
    {first second one two : Nat} (firstLive : state.Live remoteIp port first one)
    (secondLive : state.Live remoteIp port second two) : first = second := by
  obtain ⟨firstHandler, firstTask, firstHere, firstAddress, firstFound, _, firstUnfinished⟩ :=
    firstLive
  obtain ⟨secondHandler, secondTask, secondHere, secondAddress, secondFound, _, secondUnfinished⟩ :=
    secondLive
  have firstOwned := owned.owned first firstHandler firstHere
    (owned.living firstHere firstFound firstUnfinished)
  have secondOwned := owned.owned second secondHandler secondHere
    (owned.living secondHere secondFound secondUnfinished)
  rcases firstOwned with firstMapped | firstJoining
  · rcases secondOwned with secondMapped | secondJoining
    · rw [firstAddress, ← secondAddress, secondMapped] at firstMapped
      exact (Option.some.inj firstMapped).symm
    · rw [firstAddress, ← secondAddress] at firstMapped
      exact (owned.replacement secondJoining secondHere firstHere firstMapped firstFound).elim
  · rcases secondOwned with secondMapped | secondJoining
    · rw [secondAddress, ← firstAddress] at secondMapped
      exact (owned.replacement firstJoining firstHere secondHere secondMapped secondFound).elim
    · cases firstJoining.symm.trans secondJoining
      rfl

end

/-- A peer has at most one live session on the whole server, also while its handler is replaced. A
thread that has not ended is in the map or the server waits for its end. -/
theorem liveSessions_unique (server : TFTPServer) (maxIdleTime now : Nat) {state : State}
    (reached : Reach step (fun _ _ => True) (new server maxIdleTime now) state) :
    (∀ remoteIp port first second one two, state.Live remoteIp port first one →
      state.Live remoteIp port second two → first = second ∧ one = two) ∧
    ∀ (handle : Nat) (handler : Handler), state.handlers[handle]? = some handler →
      handler.isFinished = false →
        state.peerHandlers.get handler.senderAddress = some handle ∨
          state.status = .joining handle := by
  have owned := reach_owned reached
  refine ⟨?_, owned.owned⟩
  intro remoteIp port first second one two firstLive secondLive
  have same := owned.sameThread firstLive secondLive
  subst same
  obtain ⟨handler, firstTask, here, _, firstFound, firstPort, firstUnfinished⟩ := firstLive
  obtain ⟨other, secondTask, there, _, secondFound, secondPort, secondUnfinished⟩ := secondLive
  cases here.symm.trans there
  have tracks := (owned.orderly handler (List.mem_of_getElem? here)).tracks
  exact ⟨rfl, tracks.unique firstFound secondFound firstUnfinished secondUnfinished
    (firstPort.trans secondPort.symm)⟩

/-- The config of a peer is modified while its session is live. -/
def reloadRun : List Event :=
  promptRun ++ [.advance 0 (.bound maxSessionsPerIp),
    .observe ⟨inCloseWrite, some "10.0.0.1.nbd"⟩ maxSessionsPerIp]

/-- The server waits for the handler with the session, and the new handler has no session. -/
theorem liveSessions_unique_reload :
    (reloadRun.foldl step (new TFTPServer.fresh 1 0)).status = .joining 0 ∧
      (reloadRun.foldl step (new TFTPServer.fresh 1 0)).Live (.v4 10 0 0 1) 2000 0 0 ∧
      ∀ session, ¬ (reloadRun.foldl step (new TFTPServer.fresh 1 0)).Live (.v4 10 0 0 1) 2000 1
        session := by
  have live : (reloadRun.foldl step (new TFTPServer.fresh 1 0)).Live (.v4 10 0 0 1) 2000 0 0 := by
    have located : ((reloadRun.foldl step (new TFTPServer.fresh 1 0)).handlers[0]?).map
        (fun handler => (handler.senderAddress, handler.requests.tasks.map fun task =>
          (task.port, task.finishedAt))) = some (.v4 10 0 0 1, [(2000, none)]) := by
      decide +kernel
    obtain ⟨handler, here, facts⟩ := Option.map_eq_some_iff.mp located
    obtain ⟨address, tasks⟩ := Prod.mk.inj facts
    obtain ⟨task, single, content⟩ := List.map_eq_singleton_iff.mp tasks
    obtain ⟨source, unfinished⟩ := Prod.mk.inj content
    exact ⟨handler, task, here, address, by rw [single]; rfl, source, unfinished⟩
  refine ⟨by decide +kernel, live, fun session other => ?_⟩
  have same := (liveSessions_unique TFTPServer.fresh 1 0 (Reach.foldl reloadRun)).1
    _ _ _ _ _ _ live other
  exact absurd same.1 (by decide)

/-- The sessions of an address answer what its handlers were fed. -/
theorem Owned.answered {state : State} (owned : state.Owned) (remoteIp : IpAddr) :
    (state.sessionsOf remoteIp).Sublist (state.fedTo remoteIp) := by
  apply List.Sublist.flatMap_right
  intro handler member
  have orderly := owned.orderly handler (List.mem_filter.mp member).1
  exact orderly.answers.sublist.trans orderly.taken.sublist

theorem mem_arrivalsFrom {state : State} {remoteIp : IpAddr} {port : UInt16} {item : Accepted}
    (member : (port, item) ∈ state.arrivalsFrom remoteIp) :
    state.accepted[item.serial]? = some ⟨remoteIp, port, item.request⟩ := by
  obtain ⟨⟨arrival, serial⟩, located, found⟩ := List.mem_filterMap.mp member
  split at found
  · rename_i mine
    cases found
    rw [List.mem_zipIdx_iff_getElem?] at located
    rw [← mine]
    exact located
  · cases found

/-- The numbers of the requests grow with their arrival. -/
theorem arrivalsFrom_pairwise (state : State) (remoteIp : IpAddr) :
    (state.arrivalsFrom remoteIp).Pairwise fun first second =>
      first.2.serial < second.2.serial := by
  have numbered : state.accepted.zipIdx.Pairwise fun first second => first.2 < second.2 := by
    rw [← List.pairwise_map, List.zipIdx_map_snd]
    exact List.pairwise_lt_range'
  apply numbered.filterMap
  intro first second before one firstFound two secondFound
  split at firstFound
  · split at secondFound
    · cases firstFound
      cases secondFound
      exact before
    · cases secondFound
  · cases firstFound

/-- The sessions of one address are a part of its accepted requests in the order of their arrival.
A session answers the request with its number, no request has two sessions, and no session answers
the request of another address or port. -/
theorem sessions_ordered (server : TFTPServer) (maxIdleTime now : Nat) {state : State}
    (reached : Reach step (fun _ _ => True) (new server maxIdleTime now) state)
    (remoteIp : IpAddr) :
    (state.sessionsOf remoteIp).Sublist (state.arrivalsFrom remoteIp) ∧
      ((state.sessionsOf remoteIp).Pairwise fun first second =>
        first.2.serial < second.2.serial) ∧
      ∀ session ∈ state.sessionsOf remoteIp,
        state.accepted[session.2.serial]? = some ⟨remoteIp, session.1, session.2.request⟩ := by
  have owned := reach_owned reached
  have sublist := (owned.answered remoteIp).trans (owned.arrived remoteIp)
  refine ⟨sublist, (state.arrivalsFrom_pairwise remoteIp).sublist sublist, ?_⟩
  exact fun session member => mem_arrivalsFrom (sublist.subset member)

/-- The old handler ends, and the new handler answers the next request. -/
def renewedRun : List Event :=
  reloadRun ++ [.advance 0 .receive, .advance 0 .close, .advance 0 (.finish 0),
    .advance 0 (.join 0), .finish 0, .joined, .arrive (.v4 10 0 0 1) 2001 shortRequest
      maxSessionsPerIp, .feed, .start 1, .advance 1 .receive, .advance 1 (.bound maxSessionsPerIp)]

theorem sessions_ordered_renewed :
    ((renewedRun.foldl step (new TFTPServer.fresh 1 0)).sessionsOf (.v4 10 0 0 1)).length = 2 ∧
      ((renewedRun.foldl step (new TFTPServer.fresh 1 0)).sessionsOf (.v4 10 0 0 1)).Pairwise
        fun first second => first.2.serial < second.2.serial :=
  ⟨by decide +kernel,
    (sessions_ordered TFTPServer.fresh 1 0 (Reach.foldl renewedRun) (.v4 10 0 0 1)).2.1⟩

end State

end Rtftp.ServeAugmented

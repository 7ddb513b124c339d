import Rtftp.Proof.Handler.Handover
import Rtftp.Proof.Handler.Sessions

namespace Rtftp.PeerHandler
open Library

variable {R : Type}

/-- The request in work was taken and has no session yet. -/
def HandlerStatus.working : HandlerStatus R → List (UInt16 × R)
  | .binding _ port request => [(port, request)]
  | .refusing _ port request => [(port, request)]
  | _ => []

/-- The handler has closed its channel. -/
def HandlerStatus.closed : HandlerStatus R → Bool
  | .draining _ _ => true
  | .returned _ => true
  | _ => false

namespace RequestsHandler

/-- These are the sessions in the order of their start. -/
def sessions (handler : RequestsHandler R) : List (UInt16 × R) :=
  handler.tasks.map fun task => (task.port, task.request)

/-- The sessions answer requests that were taken, each its own and in their order. -/
def Answers (handler : RequestsHandler R) : Prop :=
  ∃ earlier, handler.taken = earlier ++ handler.status.working ∧
    handler.sessions.Sublist earlier

/-- The handler waits only for handles that it has, and its channel is closed then. -/
structure Closes (handler : RequestsHandler R) : Prop where
  closed : handler.status.closed = true → handler.receiverClosed = true
  handles : ∀ exit, handler.status ≠ .draining exit []

theorem finish_sessions (handler : RequestsHandler R) (handle : Nat) :
    (handler.finish handle).sessions = handler.sessions := by
  apply List.ext_getElem?
  intro place
  simp only [sessions, finish, List.getElem?_map, List.getElem?_modify]
  cases handler.tasks[place]? with
  | none => rfl
  | some task =>
      simp only [Option.map_eq_map, Option.map_some]
      split
      · rfl
      · rfl

theorem await_working (exit : Exit) (handles : List (UInt16 × Nat)) :
    (await exit handles : HandlerStatus R).working = [] := by
  cases handles with
  | nil => rfl
  | cons handle rest => rfl

/-- The request in work gets its session. -/
theorem Answers.scheduleTask {handler before : RequestsHandler R} {serial : Nat} {port : UInt16}
    {request : R} (grown : Nat) (answers : before.Answers)
    (working : before.status.working = [(port, request)]) (taken : handler.taken = before.taken)
    (tasks : handler.tasks = before.tasks) :
    (handler.scheduleTask serial port request grown).Answers := by
  obtain ⟨earlier, parts, sublist⟩ := answers
  refine ⟨earlier ++ [(port, request)], ?_, ?_⟩
  · change handler.taken = _
    rw [taken, parts, working]
    exact (List.append_nil _).symm
  · have started : (handler.scheduleTask serial port request grown).sessions =
        before.sessions ++ [(port, request)] := by
      simp only [sessions, RequestsHandler.scheduleTask, tasks, List.map_append, List.map_cons,
        List.map_nil]
    rw [started]
    exact sublist.append (List.Sublist.refl _)

/-- A step that neither takes a request nor starts a session. -/
theorem Answers.same {handler next : RequestsHandler R} (answers : handler.Answers)
    (taken : next.taken = handler.taken) (sessions : next.sessions = handler.sessions)
    (working : next.status.working = handler.status.working) : next.Answers := by
  obtain ⟨earlier, parts, sublist⟩ := answers
  refine ⟨earlier, ?_, ?_⟩
  · rw [taken, working, parts]
  · rwa [sessions]

/-- A request that the loop takes is ignored or in work. -/
theorem Answers.take {handler next : RequestsHandler R} (answers : handler.Answers)
    {item : UInt16 × R} (idle : handler.status.working = [])
    (taken : next.taken = handler.taken ++ [item]) (sessions : next.sessions = handler.sessions)
    (working : next.status.working = [] ∨ next.status.working = [item]) : next.Answers := by
  obtain ⟨earlier, parts, sublist⟩ := answers
  rw [idle, List.append_nil] at parts
  rcases working with ignored | accepted
  · refine ⟨earlier ++ [item], ?_, ?_⟩
    · rw [taken, ignored, parts, List.append_nil]
    · rw [sessions]
      exact sublist.trans (List.sublist_append_left _ _)
  · refine ⟨earlier, ?_, ?_⟩
    · rw [taken, accepted, parts]
    · rwa [sessions]

theorem Answers.step {handler : RequestsHandler R} (answers : handler.Answers) (event : Event R) :
    (handler.step event).Answers := by
  have change := handler.step_change event
  generalize handler.step event = next at change ⊢
  cases change with
  | stay => exact answers
  | feed | dropSender | elapse => exact answers.same rfl rfl rfl
  | ignore waiting => exact answers.take (by rw [waiting]; rfl) rfl rfl (.inl rfl)
  | accept waiting => exact answers.take (by rw [waiting]; rfl) rfl rfl (.inr rfl)
  | leave waiting | stop waiting | rest waiting | notice waiting =>
      exact answers.same rfl rfl (by rw [waiting]; rfl)
  | refuse grown crowded binding => exact answers.same rfl rfl (by rw [binding]; rfl)
  | schedule grown crowded binding =>
      exact answers.scheduleTask grown (by rw [binding]; rfl) rfl rfl
  | override grown refusing => exact answers.scheduleTask grown (by rw [refusing]; rfl) rfl rfl
  | close leaving => exact answers.same rfl rfl (by rw [leaving]; exact await_working _ _)
  | join draining => exact answers.same rfl rfl (by rw [draining]; exact await_working _ _)
  | finish handle => exact answers.same rfl (handler.finish_sessions handle) rfl

theorem Answers.sublist {handler : RequestsHandler R} (answers : handler.Answers) :
    handler.sessions.Sublist handler.taken := by
  obtain ⟨earlier, parts, sublist⟩ := answers
  rw [parts]
  exact sublist.trans (List.sublist_append_left _ _)

/-- A step that stays before the closure keeps the channel as it is. -/
theorem Closes.open {handler : RequestsHandler R} (before : handler.status.closed = false) :
    handler.Closes where
  closed after := by
    rw [before] at after
    cases after
  handles exit draining := by
    rw [draining] at before
    cases before

theorem Closes.await {handler : RequestsHandler R} {exit : Exit} {handles : List (UInt16 × Nat)}
    (status : handler.status = await exit handles) (closed : handler.receiverClosed = true) :
    handler.Closes where
  closed _ := closed
  handles other draining := by
    rw [status] at draining
    cases handles with
    | nil => cases draining
    | cons handle rest => cases draining

theorem Closes.step {handler : RequestsHandler R} (closes : handler.Closes) (event : Event R) :
    (handler.step event).Closes := by
  have change := handler.step_change event
  generalize handler.step event = next at change ⊢
  cases change with
  | stay => exact closes
  | feed | dropSender | elapse | finish => exact ⟨closes.closed, closes.handles⟩
  | ignore | accept | leave | stop | rest | notice | refuse | schedule | override => exact .open rfl
  | close leaving => exact .await rfl rfl
  | join draining => exact .await rfl (closes.closed (by rw [draining]; rfl))

end RequestsHandler

end Rtftp.PeerHandler

namespace Rtftp.ServeAugmented
open Library PeerHandler

namespace Handler

/-- The thread tracks its live sessions and answers what it was fed in order. It has no live session
when it has ended, and it has taken nothing while it opens its roots. -/
structure Orderly (handler : Handler) : Prop where
  sound : handler.serving = true → handler.requests.Sound
  tracks : RequestsHandler.Tracks handler.requests.tasks handler.requests.held
  answers : handler.requests.Answers
  taken : handler.requests.taken.IsPrefix handler.requests.fed
  handed : handler.requests.exit = some .shutdown → handler.requests.taken = handler.requests.fed
  closes : handler.requests.Closes
  gone : handler.serving = false → handler.requests.receiverClosed = true
  ended : handler.isFinished = true → ∀ task ∈ handler.requests.tasks, task.finishedAt.isSome = true
  opening : handler.thread = .opening → handler.requests.taken = [] ∧
    ∃ since, handler.requests.status = .waiting since

/-- The thread goes on by itself. -/
structure Continues (before after : Handler) : Prop where
  orderly : after.Orderly
  address : after.senderAddress = before.senderAddress
  sender : after.requests.senderDropped = before.requests.senderDropped
  fed : after.requests.fed = before.requests.fed
  finished : before.isFinished = true → after.isFinished = true

theorem orderly_new (remoteIp : IpAddr) (maxIdleTime capacity now : Nat) :
    Orderly ⟨remoteIp, .opening, RequestsHandler.new maxIdleTime capacity now⟩ where
  sound _ := RequestsHandler.new_sound maxIdleTime capacity now
  tracks := RequestsHandler.Tracks.nil
  answers := ⟨[], rfl, List.Sublist.refl _⟩
  taken := List.nil_prefix
  handed left := by cases left
  closes := .open rfl
  gone ceased := by cases ceased
  ended finished := by cases finished
  opening _ := ⟨rfl, now, rfl⟩

section
variable {handler : Handler}

theorem Orderly.continues (orderly : handler.Orderly) : handler.Continues handler :=
  ⟨orderly, rfl, rfl, rfl, id⟩

theorem serving_of_opening (opening : handler.thread = .opening) : handler.serving = true := by
  rw [serving, opening]

theorem serving_of_running (running : handler.thread = .running) : handler.serving = true := by
  rw [serving, running]

/-- A thread that was fed nothing has no session. -/
theorem Orderly.sessionless (orderly : handler.Orderly)
    (nothing : handler.requests.fed = []) : handler.requests.tasks = [] := by
  have answered := orderly.answers.sublist.trans orderly.taken.sublist
  rw [nothing, List.sublist_nil] at answered
  exact List.map_eq_nil_iff.mp answered

theorem ceased_of_finished (finished : handler.isFinished = true) : handler.serving = false := by
  rw [isFinished] at finished
  split at finished
  · rename_i thread
    rw [serving, thread]
  · rename_i thread
    rw [serving, thread]
  · cases finished

/-- What was taken was fed before. -/
theorem taken_of_sound {requests : RequestsHandler Accepted} (sound : requests.Sound) :
    requests.taken.IsPrefix requests.fed := by
  rw [sound.conserved]
  exact List.prefix_append _ _

/-- A handler that left its loop for a shutdown has taken all that it was fed. -/
theorem handed_of_sound {requests : RequestsHandler Accepted} (sound : requests.Sound)
    (left : requests.exit = some .shutdown) : requests.taken = requests.fed := by
  rw [sound.conserved, (sound.emptied left).1, List.append_nil]

/-- A step of the requests handler keeps the thread orderly while it serves. -/
theorem Orderly.step (orderly : handler.Orderly) (serving : handler.serving = true)
    (event : RequestsHandler.Event Accepted)
    (opening : handler.thread = .opening → (handler.requests.step event).taken = [] ∧
      ∃ since, (handler.requests.step event).status = .waiting since) :
    Orderly { handler with requests := handler.requests.step event } where
  sound _ := (orderly.sound serving).step event
  tracks := ((orderly.sound serving).step event).tracks
  answers := orderly.answers.step event
  taken := taken_of_sound ((orderly.sound serving).step event)
  handed := handed_of_sound ((orderly.sound serving).step event)
  closes := orderly.closes.step event
  gone ceased := absurd (serving.symm.trans ceased) (by decide)
  ended finished := by
    rw [Handler.serving] at serving
    split at serving
    · rename_i thread
      change handler.isFinished = true at finished
      rw [isFinished, thread] at finished
      cases finished
    · rename_i thread
      change handler.isFinished = true at finished
      rw [isFinished, thread] at finished
      cases finished
    · cases serving
  opening := opening

/-- The requests handler of this thread changes only fields that the invariant does not read. -/
theorem Orderly.kept (orderly : handler.Orderly) {requests : RequestsHandler Accepted}
    (sound : handler.requests.Sound → requests.Sound) (tasks : requests.tasks = handler.requests.tasks)
    (held : requests.held = handler.requests.held) (answers : requests.Answers)
    (taken : requests.taken = handler.requests.taken) (fed : requests.fed = handler.requests.fed)
    (closed : requests.receiverClosed = handler.requests.receiverClosed)
    (status : requests.status = handler.requests.status) :
    Orderly { handler with requests := requests } where
  sound serving := sound (orderly.sound serving)
  tracks := by
    rw [tasks, held]
    exact orderly.tracks
  answers := answers
  taken := by
    rw [taken, fed]
    exact orderly.taken
  handed left := by
    rw [taken, fed]
    rw [RequestsHandler.exit, status] at left
    exact orderly.handed left
  closes := by
    constructor
    · rw [status, closed]
      exact orderly.closes.closed
    · rw [status]
      exact orderly.closes.handles
  gone ceased := closed.trans (orderly.gone ceased)
  ended finished := by
    rw [tasks]
    exact orderly.ended finished
  opening opening := by
    rw [taken, status]
    exact orderly.opening opening

theorem Orderly.dropSender (orderly : handler.Orderly) :
    Orderly { handler with requests := handler.requests.step .dropSender } :=
  orderly.kept (·.step .dropSender) rfl rfl (orderly.answers.step .dropSender) rfl rfl rfl rfl

theorem Orderly.elapse (orderly : handler.Orderly) (duration : Nat) :
    handler.Continues { handler with requests := handler.requests.step (.elapse duration) } where
  orderly := orderly.kept (·.step (.elapse duration)) rfl rfl (orderly.answers.step (.elapse duration))
    rfl rfl rfl rfl
  address := rfl
  sender := rfl
  fed := rfl
  finished := id

/-- A request that is fed is in the channel of a thread that serves. -/
theorem Orderly.feed (orderly : handler.Orderly)
    (opened : handler.requests.receiverClosed = false) (port : UInt16) (item : Accepted) :
    Orderly { handler with requests := handler.requests.step (.feed port item) } := by
  have serving : handler.serving = true := by
    cases serves : handler.serving with
    | true => rfl
    | false =>
        rw [orderly.gone serves] at opened
        cases opened
  apply orderly.step serving
  intro opening
  change (handler.requests.feed port item).taken = [] ∧
    ∃ since, (handler.requests.feed port item).status = .waiting since
  unfold RequestsHandler.feed
  split
  · exact orderly.opening opening
  · exact orderly.opening opening

/-- The loop starts when the roots are open, and it has taken no request before. -/
theorem Orderly.start (orderly : handler.Orderly) : handler.Continues handler.start := by
  unfold Handler.start
  split
  · rename_i opening
    have sound := orderly.sound (serving_of_opening opening)
    obtain ⟨nothing, since, waiting⟩ := orderly.opening opening
    have tracks := sound.waiting waiting
    have restarted : RequestsHandler.Sound { handler.requests with
        status := .waiting handler.requests.clock
        lastActive := handler.requests.clock } :=
      ⟨tracks, fun _ working => (nomatch working), sound.conserved, fun ended => (nomatch ended)⟩
    constructor
    · constructor
      · exact fun _ => restarted
      · exact restarted.tracks
      · exact orderly.answers.same rfl rfl (by rw [waiting]; rfl)
      · exact orderly.taken
      · exact fun left => (nomatch left)
      · exact .open rfl
      · exact fun ceased => (nomatch ceased)
      · exact fun finished => (nomatch finished)
      · exact fun opening => (nomatch opening)
    · rfl
    · rfl
    · rfl
    · intro finished
      rw [isFinished, opening] at finished
      cases finished
  · exact orderly.continues

theorem step_fed (requests : RequestsHandler Accepted) {event : RequestsHandler.Event Accepted}
    (own : ownEvent event = true) : (requests.step event).fed = requests.fed := by
  have change := requests.step_change event
  generalize requests.step event = next at change ⊢
  cases change with
  | feed => cases own
  | _ => rfl

/-- A thread whose requests handler has panicked goes on with its sessions. -/
theorem Orderly.finishTask (orderly : handler.Orderly) (unwound : handler.thread = .unwound)
    (task : Nat) :
    Orderly { handler with requests := handler.requests.step (.finish task) } where
  sound serving := by
    change handler.serving = true at serving
    rw [Handler.serving, unwound] at serving
    cases serving
  tracks := orderly.tracks.finish task handler.requests.clock
  answers := orderly.answers.step (.finish task)
  taken := orderly.taken
  handed := orderly.handed
  closes := orderly.closes.step (.finish task)
  gone := orderly.gone
  ended finished := by
    change handler.isFinished = true at finished
    rw [isFinished, unwound] at finished
    cases finished
  opening opening := by
    change handler.thread = .opening at opening
    rw [unwound] at opening
    cases opening

theorem Orderly.advance (orderly : handler.Orderly) (event : RequestsHandler.Event Accepted) :
    handler.Continues (handler.advance event) := by
  unfold Handler.advance
  split
  · rename_i running
    split
    · rename_i own
      have other : event ≠ .dropSender := by
        rintro rfl
        cases own
      have absent : handler.thread ≠ .opening := by
        rw [running]
        nofun
      exact ⟨orderly.step (serving_of_running running) event fun opening => absurd opening absent,
        rfl, handler.requests.step_senderDropped event other, step_fed handler.requests own, id⟩
    · exact orderly.continues
  · rename_i unwound
    split
    · rename_i task
      exact ⟨orderly.finishTask unwound task, rfl, rfl, rfl, id⟩
    · exact orderly.continues
  · exact orderly.continues

/-- The channel of a thread that unwinds is closed, and the sessions stay. -/
theorem Orderly.unwind (orderly : handler.Orderly) {thread : ThreadStatus}
    (unfinished : handler.isFinished = false) (ceased : (handler.unwind thread).serving = false)
    (ended : (handler.unwind thread).isFinished = true → handler.requests.tasks = []) :
    handler.Continues (handler.unwind thread) where
  orderly := by
    constructor
    · intro serving
      rw [ceased] at serving
      cases serving
    · exact orderly.tracks
    · exact orderly.answers.same rfl rfl rfl
    · exact orderly.taken
    · exact orderly.handed
    · exact ⟨fun _ => rfl, orderly.closes.handles⟩
    · exact fun _ => rfl
    · intro finished task member
      change task ∈ handler.requests.tasks at member
      rw [ended finished] at member
      cases member
    · intro opening
      rw [serving_of_opening opening] at ceased
      cases ceased
  address := rfl
  sender := rfl
  fed := rfl
  finished before := by
    rw [unfinished] at before
    cases before

theorem Orderly.panic (orderly : handler.Orderly) : handler.Continues handler.panic := by
  unfold Handler.panic
  split
  · rename_i opening
    refine orderly.unwind (by rw [isFinished, opening]) rfl fun _ => ?_
    have answered := orderly.answers.sublist
    rw [(orderly.opening opening).1, List.sublist_nil] at answered
    exact List.map_eq_nil_iff.mp answered
  · rename_i running binding
    exact orderly.unwind (by rw [isFinished, running]) rfl fun finished => (nomatch finished)
  · rename_i running refusing
    exact orderly.unwind (by rw [isFinished, running]) rfl fun finished => (nomatch finished)
  · exact orderly.continues

/-- The thread ends with the channel closed and no live session. -/
theorem Orderly.finish (orderly : handler.Orderly) : handler.Continues handler.finish := by
  have finishes (closed : handler.requests.receiverClosed = true)
      (each : handler.requests.tasks.all fun task => task.finishedAt.isSome) :
      handler.Continues { handler with thread := .finished } := by
    constructor
    · exact ⟨fun serving => (nomatch serving), orderly.tracks, orderly.answers, orderly.taken,
        orderly.handed, orderly.closes, fun _ => closed, fun _ => List.all_eq_true.mp each,
        fun opening => (nomatch opening)⟩
    · rfl
    · rfl
    · rfl
    · exact fun _ => rfl
  unfold Handler.finish
  split
  · rename_i each
    split
    · rename_i exit running returned
      exact finishes (orderly.closes.closed (by rw [returned]; rfl)) each
    · rename_i unwound
      exact finishes (orderly.gone (by rw [serving, unwound])) each
    · exact orderly.continues
  · exact orderly.continues

end

end Handler

end Rtftp.ServeAugmented

import Rtftp.Proof.Handler.Accepted
import Rtftp.Proof.Server.Threads

namespace Rtftp.ServeAugmented
open Library PeerHandler

namespace State

/-- The accepted requests of one address have their numbers and come in the order of their
arrival. -/
def arrivalsFrom (state : State) (remoteIp : IpAddr) : List (UInt16 × Accepted) :=
  state.accepted.zipIdx.filterMap fun entry =>
    if entry.1.remoteIp = remoteIp then some (entry.1.port, ⟨entry.2, entry.1.request⟩) else none

/-- These are the handlers of one address in the order of their opening. -/
def handlersOf (state : State) (remoteIp : IpAddr) : List Handler :=
  state.handlers.filter fun handler => handler.senderAddress == remoteIp

/-- The handlers of one address were fed these requests. -/
def fedTo (state : State) (remoteIp : IpAddr) : List (UInt16 × Accepted) :=
  (state.handlersOf remoteIp).flatMap fun handler => handler.requests.fed

/-- The handlers of one address started these sessions. -/
def sessionsOf (state : State) (remoteIp : IpAddr) : List (UInt16 × Accepted) :=
  (state.handlersOf remoteIp).flatMap fun handler => handler.requests.sessions

/-- The server waits for room for this request. -/
def offered (state : State) (remoteIp : IpAddr) : List (UInt16 × Accepted) :=
  match state.status with
  | .feeding _ address port item => if address = remoteIp then [(port, item)] else []
  | _ => []

/-- The map has the last handler of each address that it has, with its sender. -/
structure Arranged (state : State) : Prop where
  orderly : ∀ handler ∈ state.handlers, handler.Orderly
  mapped : ∀ remoteIp handle, state.peerHandlers.get remoteIp = some handle →
    ∃ handler, state.handlers[handle]? = some handler ∧ handler.senderAddress = remoteIp ∧
      handler.requests.senderDropped = false
  latest : ∀ remoteIp handle, state.peerHandlers.get remoteIp = some handle →
    ∀ place handler, state.handlers[place]? = some handler → handler.senderAddress = remoteIp →
      place ≤ handle

/-- A thread that has not ended is in the map or the server waits for its end, and the handler that
takes its place was fed nothing so far. What the handlers of an address were fed is a part of what
arrived from there. -/
structure Owned (state : State) : Prop extends Arranged state where
  owned : ∀ (place : Nat) (handler : Handler), state.handlers[place]? = some handler →
    handler.isFinished = false →
      state.peerHandlers.get handler.senderAddress = some place ∨ state.status = .joining place
  fresh : ∀ place handle (old new : Handler), state.status = .joining place →
    state.handlers[place]? = some old → state.handlers[handle]? = some new →
      state.peerHandlers.get old.senderAddress = some handle → new.requests.fed = []
  dropped : ∀ place, state.status = .joining place → ∃ handler : Handler,
    state.handlers[place]? = some handler ∧ handler.requests.senderDropped = true
  feeding : ∀ handle remoteIp port item, state.status = .feeding handle remoteIp port item →
    state.peerHandlers.get remoteIp = some handle
  ordered : ∀ remoteIp, ∃ earlier, state.arrivalsFrom remoteIp = earlier ++ state.offered remoteIp ∧
    (state.fedTo remoteIp).Sublist earlier

theorem owned_new (server : TFTPServer) (maxIdleTime now : Nat) :
    Owned (new server maxIdleTime now) where
  orderly handler member := by cases member
  mapped remoteIp handle found := by cases found
  latest remoteIp handle found := by cases found
  owned place handler found := by cases found
  fresh place handle old new joining := by cases joining
  dropped place joining := by cases joining
  feeding handle remoteIp port item feeding := by cases feeding
  ordered remoteIp := ⟨[], rfl, List.Sublist.refl _⟩

section
variable {state : State} {handlers : List Handler} {change : Nat → Handler → Handler}

/-- Every handler of the new list was there before. -/
theorem Pointwise.before (pointwise : state.Pointwise change handlers) {place : Nat}
    {after : Handler} (here : handlers[place]? = some after) :
    ∃ handler, state.handlers[place]? = some handler ∧ change place handler = after := by
  rw [pointwise place] at here
  exact Option.map_eq_some_iff.mp here

theorem Pointwise.after (pointwise : state.Pointwise change handlers) {place : Nat}
    {handler : Handler} (here : state.handlers[place]? = some handler) :
    handlers[place]? = some (change place handler) := by
  rw [pointwise place, here, Option.map_some]

/-- What the handlers of an address were fed depends on their addresses and channels only. -/
theorem fedTo_congr {other : State}
    (same : other.handlers.map (fun handler => (handler.senderAddress, handler.requests.fed)) =
      state.handlers.map fun handler => (handler.senderAddress, handler.requests.fed))
    (remoteIp : IpAddr) : other.fedTo remoteIp = state.fedTo remoteIp := by
  have projected (one : State) : one.fedTo remoteIp =
      ((one.handlers.map fun handler => (handler.senderAddress, handler.requests.fed)).filter
        fun entry => entry.1 == remoteIp).flatMap Prod.snd := by
    rw [fedTo, handlersOf, List.filter_map, List.flatMap_map]
    rfl
  rw [projected, projected, same]

/-- Changes that keep the addresses and what was fed. -/
theorem Pointwise.fedTo (pointwise : state.Pointwise change handlers)
    (kept : ∀ (place : Nat) (handler : Handler), state.handlers[place]? = some handler →
      (change place handler).senderAddress = handler.senderAddress ∧
        (change place handler).requests.fed = handler.requests.fed) (remoteIp : IpAddr) :
    State.fedTo { state with handlers := handlers } remoteIp = state.fedTo remoteIp := by
  apply fedTo_congr
  apply List.ext_getElem?
  intro place
  rw [List.getElem?_map, List.getElem?_map, pointwise place]
  cases here : state.handlers[place]? with
  | none => rfl
  | some handler =>
      obtain ⟨address, fed⟩ := kept place handler here
      simp only [Option.map_some, address, fed]

/-- A request that the last handler of its address is fed comes after what was fed before. -/
theorem fedTo_modify {handle : Nat} {handler : Handler} {next : Handler → Handler}
    {items : List (UInt16 × Accepted)} (here : state.handlers[handle]? = some handler)
    (address : (next handler).senderAddress = handler.senderAddress)
    (fed : (next handler).requests.fed = handler.requests.fed ++ items)
    (latest : ∀ (place : Nat) (other : Handler), state.handlers[place]? = some other →
      other.senderAddress = handler.senderAddress → place ≤ handle) (remoteIp : IpAddr) :
    State.fedTo { state with handlers := state.handlers.modify handle next } remoteIp =
      state.fedTo remoteIp ++ if handler.senderAddress = remoteIp then items else [] := by
  obtain ⟨inside, located⟩ := List.getElem?_eq_some_iff.mp here
  have parts : state.handlers = state.handlers.take handle ++
      handler :: state.handlers.drop (handle + 1) := by
    rw [← located, List.getElem_cons_drop, List.take_append_drop]
  have changed : state.handlers.modify handle next = state.handlers.take handle ++
      next handler :: state.handlers.drop (handle + 1) := by
    rw [List.modify_eq_take_cons_drop inside, located]
  have none : ∀ other ∈ state.handlers.drop (handle + 1),
      other.senderAddress ≠ handler.senderAddress := by
    intro other member same
    obtain ⟨place, found⟩ := List.mem_iff_getElem?.mp member
    rw [List.getElem?_drop] at found
    have late := latest _ other found same
    omega
  unfold fedTo handlersOf
  dsimp only
  rw [changed]
  nth_rewrite 3 [parts]
  simp only [List.filter_append, List.filter_cons, List.flatMap_append, address]
  by_cases mine : handler.senderAddress = remoteIp
  · have rest : (state.handlers.drop (handle + 1)).filter
        (fun handler => handler.senderAddress == remoteIp) = [] := by
      apply List.filter_eq_nil_iff.mpr
      intro other member same
      exact none other member ((beq_iff_eq.mp same).trans mine.symm)
    simp [mine, rest, fed]
  · simp [mine]

/-- The map may lose handlers, and a handler that stays in the map keeps its sender. -/
theorem Arranged.update (arranged : state.Arranged) (pointwise : state.Pointwise change handlers)
    {table : Table IpAddr Nat} (clock : Nat) (status : ServerStatus)
    (orderly : ∀ (place : Nat) (handler : Handler), state.handlers[place]? = some handler →
      handler.Orderly → (change place handler).Orderly)
    (address : ∀ (place : Nat) (handler : Handler), handler.Orderly →
      (change place handler).senderAddress = handler.senderAddress)
    (rest : ∀ remoteIp handle, table.get remoteIp = some handle →
      state.peerHandlers.get remoteIp = some handle ∧
        ∀ handler : Handler, state.handlers[handle]? = some handler →
          handler.requests.senderDropped = false →
            (change handle handler).requests.senderDropped = false) :
    Arranged { state with
      handlers := handlers, peerHandlers := table, clock := clock, status := status } := by
  have each {place : Nat} {handler : Handler} (here : state.handlers[place]? = some handler) :=
    arranged.orderly handler (List.mem_of_getElem? here)
  constructor
  · intro after member
    obtain ⟨place, here⟩ := List.mem_iff_getElem?.mp member
    obtain ⟨handler, before, rfl⟩ := pointwise.before here
    exact orderly place handler before (each before)
  · intro remoteIp handle found
    obtain ⟨before, kept⟩ := rest remoteIp handle found
    obtain ⟨handler, here, addressed, present⟩ := arranged.mapped remoteIp handle before
    exact ⟨_, pointwise.after here, (address handle handler (each here)).trans addressed,
      kept handler here present⟩
  · intro remoteIp handle found place after here addressed
    obtain ⟨handler, before, rfl⟩ := pointwise.before here
    exact arranged.latest remoteIp handle (rest remoteIp handle found).1 place handler before
      ((address place handler (each before)).symm.trans addressed)

/-- Threads that go on by themselves keep the invariant. -/
theorem Owned.replace (owned : state.Owned) (pointwise : state.Pointwise change handlers)
    (clock : Nat) (continues : ∀ (place : Nat) (handler : Handler), handler.Orderly →
      handler.Continues (change place handler)) :
    Owned { state with handlers := handlers, clock := clock } := by
  have each {place : Nat} {handler : Handler} (here : state.handlers[place]? = some handler) :=
    continues place handler (owned.orderly handler (List.mem_of_getElem? here))
  refine ⟨?_, ?_, ?_, ?_, owned.feeding, ?_⟩
  · apply owned.toArranged.update pointwise clock state.status
    · exact fun place handler _ orderly => (continues place handler orderly).orderly
    · exact fun place handler orderly => (continues place handler orderly).address
    · exact fun remoteIp handle found =>
        ⟨found, fun handler here present => (each here).sender.trans present⟩
  · intro place after here unfinished
    obtain ⟨handler, before, rfl⟩ := pointwise.before here
    rw [(each before).address]
    apply owned.owned place handler before
    cases finished : handler.isFinished with
    | false => rfl
    | true =>
        rw [(each before).finished finished] at unfinished
        cases unfinished
  · intro place handle old new joining oldHere newHere found
    obtain ⟨oldBefore, oldThere, rfl⟩ := pointwise.before oldHere
    obtain ⟨newBefore, newThere, rfl⟩ := pointwise.before newHere
    rw [(each oldThere).address] at found
    rw [(each newThere).fed]
    exact owned.fresh place handle oldBefore newBefore joining oldThere newThere found
  · intro place joining
    obtain ⟨handler, here, dropped⟩ := owned.dropped place joining
    exact ⟨_, pointwise.after here, (each here).sender.trans dropped⟩
  · intro remoteIp
    obtain ⟨earlier, arrived, sublist⟩ := owned.ordered remoteIp
    have same := pointwise.fedTo
      (fun place handler here => ⟨(each here).address, (each here).fed⟩) remoteIp
    exact ⟨earlier, arrived, same.symm ▸ sublist⟩

theorem Owned.modify (owned : state.Owned) (handle : Nat) {next : Handler → Handler}
    (continues : ∀ handler : Handler, handler.Orderly → handler.Continues (next handler)) :
    Owned { state with handlers := state.handlers.modify handle next } := by
  apply owned.replace (pointwise_modify state handle next) state.clock
  intro place handler orderly
  split
  · exact continues handler orderly
  · exact orderly.continues

theorem Owned.elapse (owned : state.Owned) (duration : Nat) : Owned (state.elapse duration) :=
  owned.replace (pointwise_map state fun handler =>
    { handler with requests := handler.requests.step (.elapse duration) }) _
    fun _ _ orderly => orderly.elapse duration

/-- A handler whose sender is dropped is the same thread with the same requests. -/
theorem release_orderly (dropped : Nat → Handler → Bool) (place : Nat) {handler : Handler}
    (orderly : handler.Orderly) : (release dropped place handler).Orderly := by
  unfold release
  split
  · exact orderly.dropSender
  · exact orderly

theorem release_kept (dropped : Nat → Handler → Bool) (place : Nat) (handler : Handler) :
    (release dropped place handler).senderAddress = handler.senderAddress ∧
      (release dropped place handler).requests.fed = handler.requests.fed := by
  unfold release
  split
  · exact ⟨rfl, rfl⟩
  · exact ⟨rfl, rfl⟩

theorem release_isFinished (dropped : Nat → Handler → Bool) (place : Nat) (handler : Handler) :
    (release dropped place handler).isFinished = handler.isFinished := by
  unfold release
  split
  · rfl
  · rfl

theorem isFinished_at {handle : Nat} {handler : Handler}
    (here : state.handlers[handle]? = some handler) :
    state.isFinished handle = handler.isFinished := by
  rw [isFinished, here]

/-- The map loses only threads that have ended. -/
theorem Owned.turn (owned : state.Owned) : Owned state.turn := by
  unfold State.turn
  split
  · rename_i selecting
    have pointwise : state.Pointwise (release fun _ => Handler.isFinished) _ :=
      pointwise_map state (release (fun _ => Handler.isFinished) 0)
    refine ⟨?_, ?_, ?_, ?_, ?_, ?_⟩
    · apply owned.toArranged.update pointwise state.clock state.status
      · exact fun place _ _ => release_orderly _ place
      · exact fun place handler _ => (release_kept _ place handler).1
      · intro remoteIp handle found
        rw [Table.get_eq_some_iff, Table.mem_retain] at found
        refine ⟨(Table.get_eq_some_iff _ _ _).mpr found.1, fun handler here present => ?_⟩
        have unfinished := found.2
        rw [isFinished_at here, Bool.not_eq_true'] at unfinished
        rw [release, unfinished]
        exact present
    · intro place after here unfinished
      obtain ⟨handler, before, rfl⟩ := pointwise.before here
      rw [release_isFinished] at unfinished
      rw [(release_kept _ _ _).1]
      rcases owned.owned place handler before unfinished with mapped | joining
      · left
        rw [Table.get_eq_some_iff, Table.mem_retain, isFinished_at before]
        exact ⟨(Table.get_eq_some_iff _ _ _).mp mapped, (Bool.not_eq_true' _).mpr unfinished⟩
      · exact .inr joining
    · intro place handle old new joining
      cases selecting.symm.trans joining
    · intro place joining
      cases selecting.symm.trans joining
    · intro handle remoteIp port item feeding
      cases selecting.symm.trans feeding
    · intro remoteIp
      obtain ⟨earlier, arrived, sublist⟩ := owned.ordered remoteIp
      have same := pointwise.fedTo (fun place handler _ => release_kept _ place handler) remoteIp
      exact ⟨earlier, arrived, same.symm ▸ sublist⟩
  · exact owned

/-- The handler at this place has left the map, and the handler that takes its place is new. -/
structure Evicts (state : State) (handle : Nat) : Prop extends Arranged state where
  owned : ∀ (place : Nat) (handler : Handler), state.handlers[place]? = some handler →
    handler.isFinished = false →
      state.peerHandlers.get handler.senderAddress = some place ∨ handle = place
  present : ∃ handler : Handler, state.handlers[handle]? = some handler
  unmapped : ∀ remoteIp, state.peerHandlers.get remoteIp ≠ some handle
  fresh : ∀ place (old new : Handler), state.handlers[handle]? = some old →
    state.handlers[place]? = some new → state.peerHandlers.get old.senderAddress = some place →
      new.requests.fed = []
  ordered : ∀ remoteIp, (state.fedTo remoteIp).Sublist (state.arrivalsFrom remoteIp)

/-- The server waits for the thread that has left the map. -/
theorem Evicts.shutdown {handle : Nat} (evicts : state.Evicts handle) :
    Owned (state.shutdown handle) := by
  have pointwise : state.Pointwise (release fun place _ => decide (handle = place))
      (state.handlers.modify handle fun handler =>
        { handler with requests := handler.requests.step .dropSender }) := by
    intro place
    rw [pointwise_modify state handle _ place]
    unfold release
    simp only [decide_eq_true_eq]
  refine ⟨?_, ?_, ?_, ?_, ?_, ?_⟩
  · apply evicts.toArranged.update pointwise state.clock (.joining handle)
    · exact fun place _ _ => release_orderly _ place
    · exact fun place handler _ => (release_kept _ place handler).1
    · intro remoteIp place found
      refine ⟨found, fun handler here present => ?_⟩
      have other : decide (handle = place) = false := by
        apply decide_eq_false
        rintro rfl
        exact evicts.unmapped remoteIp found
      rw [release, other]
      exact present
  · intro place after here unfinished
    obtain ⟨handler, before, rfl⟩ := pointwise.before here
    rw [release_isFinished] at unfinished
    rw [(release_kept _ _ _).1]
    rcases evicts.owned place handler before unfinished with mapped | rfl
    · exact .inl mapped
    · exact .inr rfl
  · intro place other old new joining oldHere newHere found
    cases joining
    obtain ⟨oldBefore, oldThere, rfl⟩ := pointwise.before oldHere
    obtain ⟨newBefore, newThere, rfl⟩ := pointwise.before newHere
    rw [(release_kept _ _ _).1] at found
    rw [(release_kept _ _ _).2]
    exact evicts.fresh other oldBefore newBefore oldThere newThere found
  · intro place joining
    cases joining
    obtain ⟨handler, here⟩ := evicts.present
    refine ⟨_, pointwise.after here, ?_⟩
    rw [release, decide_eq_true rfl]
    rfl
  · intro place remoteIp port item feeding
    cases feeding
  · intro remoteIp
    have same := pointwise.fedTo (fun place handler _ => release_kept _ place handler) remoteIp
    exact ⟨state.arrivalsFrom remoteIp, (List.append_nil _).symm, same.symm ▸ evicts.ordered remoteIp⟩

/-- What was fed arrived before. -/
theorem Owned.arrived (owned : state.Owned) (remoteIp : IpAddr) :
    (state.fedTo remoteIp).Sublist (state.arrivalsFrom remoteIp) := by
  obtain ⟨earlier, parts, sublist⟩ := owned.ordered remoteIp
  rw [parts]
  exact sublist.trans (List.sublist_append_left _ _)

/-- A failed send takes the handler out of the map, and the request is gone. -/
theorem Owned.expel (owned : state.Owned) {remoteIp : IpAddr} {handle : Nat}
    (found : state.peerHandlers.get remoteIp = some handle) (idle : ∀ place, state.status ≠ .joining place) :
    Evicts { state with peerHandlers := state.peerHandlers.retain fun ip _ => ip != remoteIp }
      handle := by
  have retained {ip : IpAddr} {place : Nat}
      (kept : (state.peerHandlers.retain fun ip _ => ip != remoteIp).get ip = some place) :
      state.peerHandlers.get ip = some place ∧ ip ≠ remoteIp := by
    rw [Table.get_eq_some_iff, Table.mem_retain] at kept
    exact ⟨(Table.get_eq_some_iff _ _ _).mpr kept.1, bne_iff_ne.mp kept.2⟩
  obtain ⟨expelled, expelledHere, expelledAddress, _⟩ := owned.mapped remoteIp handle found
  refine ⟨⟨owned.orderly, ?_, ?_⟩, ?_, ⟨expelled, expelledHere⟩, ?_, ?_, owned.arrived⟩
  · exact fun ip place kept => owned.mapped ip place (retained kept).1
  · exact fun ip place kept => owned.latest ip place (retained kept).1
  · intro place handler here unfinished
    rcases owned.owned place handler here unfinished with mapped | joining
    · by_cases same : handler.senderAddress = remoteIp
      · rw [same, found] at mapped
        exact .inr (Option.some.inj mapped)
      · left
        rw [Table.get_eq_some_iff, Table.mem_retain]
        exact ⟨(Table.get_eq_some_iff _ _ _).mp mapped, bne_iff_ne.mpr same⟩
    · exact absurd joining (idle place)
  · intro ip kept
    obtain ⟨mapped, other⟩ := retained kept
    obtain ⟨handler, here, address, _⟩ := owned.mapped ip handle mapped
    cases expelledHere.symm.trans here
    exact other (address.symm.trans expelledAddress)
  · intro place old new oldHere newHere kept
    cases expelledHere.symm.trans oldHere
    exact absurd expelledAddress (retained kept).2

/-- A new handler takes the place of its address in the map. -/
theorem Arranged.openHandler (arranged : state.Arranged) (remoteIp : IpAddr) (capacity : Nat) :
    Arranged (state.openHandler remoteIp capacity) := by
  constructor
  · intro handler member
    rcases List.mem_append.mp member with earlier | new
    · exact arranged.orderly handler earlier
    · rw [List.mem_singleton.mp new]
      exact Handler.orderly_new remoteIp state.maxIdleTime capacity state.clock
  · intro other handle found
    change (state.peerHandlers.insert remoteIp state.handlers.length).get other = _ at found
    rw [Table.get_insert] at found
    split at found
    · rename_i same
      cases found
      exact ⟨_, List.getElem?_concat_length, same.symm, rfl⟩
    · obtain ⟨handler, here, facts⟩ := arranged.mapped other handle found
      have inside : handle < state.handlers.length := (List.getElem?_eq_some_iff.mp here).choose
      exact ⟨handler, (List.getElem?_append_left inside).trans here, facts⟩
  · intro other handle found place handler here address
    change (state.peerHandlers.insert remoteIp state.handlers.length).get other = _ at found
    have inside : place < (state.openHandler remoteIp capacity).handlers.length :=
      (List.getElem?_eq_some_iff.mp here).choose
    simp only [State.openHandler, List.length_append, List.length_singleton] at inside
    rw [Table.get_insert] at found
    split at found
    · cases found
      omega
    · rename_i different
      rcases Nat.lt_or_ge place state.handlers.length with earlier | last
      · exact arranged.latest other handle found place handler
          ((List.getElem?_append_left earlier).symm.trans here) address
      · have new : place = state.handlers.length := by omega
        rw [new] at here
        cases List.getElem?_concat_length.symm.trans here
        exact absurd address.symm different

/-- A new handler was fed nothing. -/
theorem openHandler_fedTo (state : State) (remoteIp : IpAddr) (capacity : Nat) (other : IpAddr) :
    (state.openHandler remoteIp capacity).fedTo other = state.fedTo other := by
  have nothing : ∀ handler ∈ [(⟨remoteIp, .opening,
      RequestsHandler.new state.maxIdleTime capacity state.clock⟩ : Handler)].filter
        (fun handler => handler.senderAddress == other), handler.requests.fed = [] := by
    intro handler member
    cases List.mem_singleton.mp (List.mem_filter.mp member).1
    rfl
  unfold fedTo handlersOf State.openHandler
  dsimp only
  rw [List.filter_append, List.flatMap_append, List.flatMap_eq_nil_iff.mpr nothing, List.append_nil]

/-- A thread that has not ended is in the new map, or the new handler has taken its place. -/
theorem openHandler_owned (owned : state.Owned) (idle : ∀ place, state.status ≠ .joining place)
    {remoteIp : IpAddr} {capacity place : Nat} {handler : Handler}
    (here : (state.openHandler remoteIp capacity).handlers[place]? = some handler)
    (unfinished : handler.isFinished = false) :
    (state.openHandler remoteIp capacity).peerHandlers.get handler.senderAddress = some place ∨
      state.peerHandlers.get remoteIp = some place := by
  change (state.peerHandlers.insert remoteIp state.handlers.length).get _ = _ ∨ _
  rw [Table.get_insert]
  rcases Nat.lt_or_ge place state.handlers.length with earlier | last
  · have before := (List.getElem?_append_left earlier).symm.trans here
    rcases owned.owned place handler before unfinished with mapped | joining
    · by_cases same : handler.senderAddress = remoteIp
      · exact .inr (same ▸ mapped)
      · exact .inl (by rw [if_neg same, mapped])
    · exact absurd joining (idle place)
  · have inside : place < (state.openHandler remoteIp capacity).handlers.length :=
      (List.getElem?_eq_some_iff.mp here).choose
    simp only [State.openHandler, List.length_append, List.length_singleton] at inside
    have new : place = state.handlers.length := by omega
    rw [new] at here
    cases List.getElem?_concat_length.symm.trans here
    exact .inl (by rw [if_pos rfl, new])

/-- An address without a handler gets one. -/
theorem Owned.openHandler (owned : state.Owned) (selecting : state.status = .selecting)
    {remoteIp : IpAddr} (capacity : Nat) (absent : state.peerHandlers.get remoteIp = none) :
    Owned (state.openHandler remoteIp capacity) := by
  have idle (place : Nat) : state.status ≠ .joining place := by
    rw [selecting]
    nofun
  refine ⟨owned.toArranged.openHandler remoteIp capacity, ?_, ?_, ?_, ?_, ?_⟩
  · intro place handler here unfinished
    rcases openHandler_owned owned idle here unfinished with mapped | replaced
    · exact .inl mapped
    · rw [absent] at replaced
      cases replaced
  · exact fun place _ _ _ joining => absurd joining (idle place)
  · exact fun place joining => absurd joining (idle place)
  · exact fun _ _ _ _ feeding => absurd (selecting.symm.trans feeding) nofun
  · intro other
    rw [openHandler_fedTo]
    exact owned.ordered other

/-- A modified config replaces the handler of its address. -/
theorem Owned.reload (owned : state.Owned) (selecting : state.status = .selecting)
    {remoteIp : IpAddr} (capacity : Nat) {previous : Nat}
    (found : state.peerHandlers.get remoteIp = some previous) :
    Evicts (state.openHandler remoteIp capacity) previous := by
  have idle (place : Nat) : state.status ≠ .joining place := by
    rw [selecting]
    nofun
  obtain ⟨before, beforeHere, beforeAddress, _⟩ := owned.mapped remoteIp previous found
  have inside : previous < state.handlers.length := (List.getElem?_eq_some_iff.mp beforeHere).choose
  refine ⟨owned.toArranged.openHandler remoteIp capacity, ?_,
    ⟨before, (List.getElem?_append_left inside).trans beforeHere⟩, ?_, ?_, ?_⟩
  · intro place handler here unfinished
    rcases openHandler_owned owned idle here unfinished with mapped | replaced
    · exact .inl mapped
    · rw [found] at replaced
      exact .inr (Option.some.inj replaced)
  · intro other mapped
    change (state.peerHandlers.insert remoteIp state.handlers.length).get other = _ at mapped
    rw [Table.get_insert] at mapped
    split at mapped
    · cases mapped
      exact absurd inside (Nat.lt_irrefl _)
    · rename_i different
      obtain ⟨after, there, address, _⟩ := owned.mapped other previous mapped
      cases beforeHere.symm.trans there
      exact different (address.symm.trans beforeAddress)
  · intro place old new oldHere newHere mapped
    cases ((List.getElem?_append_left inside).trans beforeHere).symm.trans oldHere
    change (state.peerHandlers.insert remoteIp state.handlers.length).get _ = _ at mapped
    rw [Table.get_insert, if_pos beforeAddress] at mapped
    cases mapped
    cases List.getElem?_concat_length.symm.trans newHere
    rfl
  · intro other
    rw [openHandler_fedTo]
    exact owned.arrived other

theorem Owned.observe (owned : state.Owned) (event : InotifyEvent) (capacity : Nat) :
    Owned (state.observe event capacity) := by
  unfold State.observe
  split
  · rename_i selecting
    split
    · exact owned
    · split
      · rename_i previous found
        exact (owned.reload selecting capacity found).shutdown
      · rename_i absent
        exact owned.openHandler selecting capacity absent
  · exact owned

/-- The server goes on when the thread that it waits for has ended. -/
theorem Owned.rejoin (owned : state.Owned) {handle : Nat} {handler : Handler}
    (joining : state.status = .joining handle) (here : state.handlers[handle]? = some handler)
    (ended : handler.isFinished = true) {status : ServerStatus}
    (idle : ∀ place, status ≠ .joining place)
    (still : ∀ place remoteIp port item, status ≠ .feeding place remoteIp port item) :
    Owned { state with status := status } := by
  refine ⟨⟨owned.orderly, owned.mapped, owned.latest⟩, ?_, ?_, ?_, ?_, ?_⟩
  · intro place other there unfinished
    rcases owned.owned place other there unfinished with mapped | same
    · exact .inl mapped
    · cases joining.symm.trans same
      cases here.symm.trans there
      exact absurd (ended.symm.trans unfinished) (by decide)
  · exact fun place _ _ _ joining => absurd joining (idle place)
  · exact fun place joining => absurd joining (idle place)
  · exact fun _ _ _ _ feeding => absurd feeding (still _ _ _ _)
  · intro remoteIp
    have nothing : offered { state with status := status } remoteIp = [] := by
      unfold offered
      split
      · rename_i feeding
        exact absurd feeding (still _ _ _ _)
      · rfl
    refine ⟨state.arrivalsFrom remoteIp, ?_, owned.arrived remoteIp⟩
    rw [nothing, List.append_nil]
    rfl

theorem Owned.joined (owned : state.Owned) : Owned state.joined := by
  unfold State.joined
  split
  · rename_i handle joining
    split
    · rename_i finished
      obtain ⟨handler, here, thread⟩ := Option.map_eq_some_iff.mp finished
      exact owned.rejoin joining here (by rw [Handler.isFinished, thread]) (by simp) (by simp)
    · rename_i panicked
      obtain ⟨handler, here, thread⟩ := Option.map_eq_some_iff.mp panicked
      exact owned.rejoin joining here (by rw [Handler.isFinished, thread]) (by simp) (by simp)
    · exact owned
  · exact owned

/-- The request comes after all that arrived before. -/
theorem arrivalsFrom_append (state : State) (arrival : Arrival) (remoteIp : IpAddr)
    (status : ServerStatus) :
    arrivalsFrom { state with accepted := state.accepted ++ [arrival], status := status } remoteIp =
      state.arrivalsFrom remoteIp ++ if arrival.remoteIp = remoteIp then
        [(arrival.port, ⟨state.accepted.length, arrival.request⟩)] else [] := by
  unfold arrivalsFrom
  dsimp only
  rw [List.zipIdx_append, List.filterMap_append]
  congr 1
  by_cases mine : arrival.remoteIp = remoteIp
  · simp [mine]
  · simp [mine]

/-- The server accepts a request for the handler of its address. -/
theorem Owned.accept (owned : state.Owned) (selecting : state.status = .selecting)
    {remoteIp : IpAddr} {handle : Nat} (found : state.peerHandlers.get remoteIp = some handle)
    (port : UInt16) (request : ReadRequest) :
    Owned { state with
      accepted := state.accepted ++ [⟨remoteIp, port, request⟩]
      status := .feeding handle remoteIp port ⟨state.accepted.length, request⟩ } := by
  refine ⟨⟨owned.orderly, owned.mapped, owned.latest⟩, ?_, ?_, ?_, ?_, ?_⟩
  · intro place handler here unfinished
    rcases owned.owned place handler here unfinished with mapped | joining
    · exact .inl mapped
    · exact absurd (selecting.symm.trans joining) nofun
  · exact fun _ _ _ _ joining => (nomatch joining)
  · exact fun _ joining => (nomatch joining)
  · intro place address port item feeding
    cases feeding
    exact found
  · intro other
    exact ⟨state.arrivalsFrom other, arrivalsFrom_append state _ other _, owned.arrived other⟩

theorem Owned.arrive (owned : state.Owned) (remoteIp : IpAddr) (port : UInt16)
    (datagram : List UInt8) (capacity : Nat) :
    Owned (state.arrive remoteIp port datagram capacity) := by
  have heard (server : TFTPServer) : Owned { state with server := server } :=
    ⟨⟨owned.orderly, owned.mapped, owned.latest⟩, owned.owned, owned.fresh, owned.dropped,
      owned.feeding, owned.ordered⟩
  unfold State.arrive
  split
  · rename_i selecting
    split
    · rename_i request server served
      unfold State.handleRequest
      dsimp only
      split
      · rename_i handle found
        exact (heard server).accept selecting found port request
      · rename_i absent
        have opened := (heard server).openHandler selecting capacity absent
        have found : (state.peerHandlers.insert remoteIp state.handlers.length).get remoteIp =
            some state.handlers.length := by
          rw [Table.get_insert, if_pos rfl]
        exact opened.accept selecting found port request
    · rename_i server _ _
      exact heard server
  · exact owned

/-- The channel has room for the request. -/
theorem Owned.enqueue (owned : state.Owned) {handle : Nat} {remoteIp : IpAddr} {port : UInt16}
    {item : Accepted} {handler : Handler}
    (feeding : state.status = .feeding handle remoteIp port item)
    (here : state.handlers[handle]? = some handler)
    (opened : handler.requests.receiverClosed = false)
    (room : handler.requests.queue.length < channelSize) :
    Owned { state with
      handlers := state.handlers.modify handle fun handler =>
        { handler with requests := handler.requests.step (.feed port item) }
      status := .selecting } := by
  have found := owned.feeding handle remoteIp port item feeding
  obtain ⟨mapped, there, address, present⟩ := owned.mapped remoteIp handle found
  cases here.symm.trans there
  have pointwise := pointwise_modify state handle fun handler =>
    { handler with requests := handler.requests.step (.feed port item) }
  have enqueued : (handler.requests.step (.feed port item)).fed =
      handler.requests.fed ++ [(port, item)] := by
    simp [RequestsHandler.step, RequestsHandler.feed, room, present, opened]
  have finished (place : Nat) (other : Handler) : (if handle = place then
      { other with requests := other.requests.step (.feed port item) } else other).isFinished =
        other.isFinished := by
    split
    · rfl
    · rfl
  refine ⟨?_, ?_, ?_, ?_, ?_, ?_⟩
  · apply owned.toArranged.update pointwise state.clock .selecting
    · intro place other there orderly
      split
      · rename_i same
        cases same
        cases here.symm.trans there
        exact orderly.feed opened port item
      · exact orderly
    · intro place other _
      split
      · rfl
      · rfl
    · intro ip place kept
      refine ⟨kept, fun other _ present => ?_⟩
      split
      · exact (other.requests.step_senderDropped (.feed port item) (by simp)).trans present
      · exact present
  · intro place after there unfinished
    obtain ⟨other, before, rfl⟩ := pointwise.before there
    rw [finished] at unfinished
    rcases owned.owned place other before unfinished with inMap | joining
    · left
      split
      · exact inMap
      · exact inMap
    · cases feeding.symm.trans joining
  · intro _ _ _ _ joining
    cases joining
  · intro _ joining
    cases joining
  · intro _ _ _ _ feeding
    cases feeding
  · intro other
    obtain ⟨earlier, parts, sublist⟩ := owned.ordered other
    refine ⟨state.arrivalsFrom other, (List.append_nil _).symm, ?_⟩
    have appended : State.fedTo { state with handlers := state.handlers.modify handle fun handler =>
        { handler with requests := handler.requests.step (.feed port item) } } other =
          state.fedTo other ++ if handler.senderAddress = other then [(port, item)] else [] :=
      fedTo_modify here rfl enqueued (fun place rival there same =>
        owned.latest remoteIp handle found place rival there (same.trans address)) other
    have offer : state.offered other = if handler.senderAddress = other then [(port, item)] else [] := by
      rw [offered, feeding, address]
    rw [parts, offer]
    exact appended ▸ sublist.append (List.Sublist.refl _)

theorem Owned.feed (owned : state.Owned) : Owned state.feed := by
  unfold State.feed
  split
  · rename_i handle remoteIp port item feeding
    have idle (place : Nat) : state.status ≠ .joining place := by
      rw [feeding]
      nofun
    have found := owned.feeding handle remoteIp port item feeding
    obtain ⟨handler, here, _⟩ := owned.mapped remoteIp handle found
    rw [here]
    dsimp only
    split
    · rw [found]
      exact (owned.expel found idle).shutdown
    · rename_i opened
      split
      · rename_i room
        exact owned.enqueue feeding here (Bool.eq_false_iff.mpr opened) room
      · exact owned
  · exact owned

theorem Owned.step (owned : state.Owned) (event : Event) : Owned (step state event) := by
  cases event with
  | arrive remoteIp port datagram capacity => exact owned.arrive remoteIp port datagram capacity
  | feed => exact owned.feed
  | turn => exact owned.turn
  | observe event capacity => exact owned.observe event capacity
  | joined => exact owned.joined
  | start handle => exact owned.modify handle fun _ orderly => orderly.start
  | advance handle event => exact owned.modify handle fun _ orderly => orderly.advance event
  | panic handle => exact owned.modify handle fun _ orderly => orderly.panic
  | finish handle => exact owned.modify handle fun _ orderly => orderly.finish
  | elapse duration => exact owned.elapse duration

end

/-- Every reachable server owns its threads. -/
theorem reach_owned {server : TFTPServer} {maxIdleTime now : Nat} {state : State}
    {allowed : State → Event → Prop}
    (reached : Reach ServeAugmented.step allowed (new server maxIdleTime now) state) :
    state.Owned := by
  apply reached.invariant Owned (owned_new server maxIdleTime now)
  exact fun state event owned _ => owned.step event

end State

end Rtftp.ServeAugmented

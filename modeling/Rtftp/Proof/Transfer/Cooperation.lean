import Rtftp.Library.Cycles
import Rtftp.Library.Progress
import Rtftp.Proof.Transfer.Completion

namespace Rtftp.PeerHandler
open Library

variable {O : Type} [OpenedFile O] {file : O} {window : Window} {transfer next : Transfer O}
  {sending : Sending O} {acked count group : Nat}

/-- A cooperative peer acknowledges the last block of the burst, or it lets an attempt time out that
is not the last one. -/
def Cooperates {O : Type} (sending : Sending O) (ack : AckResult) : Prop :=
  ∃ toSend attempts, sending.status = .awaiting toSend attempts ∧
    (ack = .ok (sending.transfer.windowIndex + (toSend - 1)) ∨ ack = .error .timeout ∧ 0 < attempts)

/-- The blocks in flight are in their buffers when they lie in one cycle of the indices. -/
def Loaded (file : O) (acked : Nat) (transfer : Transfer O) : Prop :=
  (acked + 1) / 65536 = transfer.blocksRead / 65536 →
    ∀ position, acked < position → position ≤ transfer.blocksRead →
      transfer.window.send (UInt16.ofNat position) =
        blockDatagram file transfer.window.blockSize.toNat position

/-- A read into a free slot keeps the blocks of the cycle. -/
theorem Flying.readBlock_loaded (flying : Flying file acked transfer)
    (loaded : Loaded file acked transfer)
    (free : transfer.blocksRead < acked + transfer.window.buffers.length)
    {isLast : Bool} (read : transfer.readBlock = .ok (next, isLast)) : Loaded file acked next := by
  obtain ⟨bytes, rest, window, taken, changed, _, rfl⟩ := transfer.readBlock_cases read
  rw [flying.opened] at taken
  have ordered := flying.ordered
  intro cycle position after inside
  dsimp only at cycle inside ⊢
  rw [changed.blockSize]
  rw [flying.lastReadIndex, serial_succ] at changed
  by_cases newest : position = transfer.blocksRead + 1
  · subst position
    rw [blockDatagram, payload_succ taken]
    exact changed.written _ rfl
  · rw [changed.kept]
    · have middle : (acked + 1) / 65536 = transfer.blocksRead / 65536 := by omega
      exact loaded middle position after (by omega)
    · rw [UInt16.toNat_ofNat', UInt16.toNat_ofNat']
      exact ringSlot_ne_of_cycle (by omega) (by omega) (by omega)

/-- A fill keeps the blocks of the cycle. -/
theorem Flying.fill_loaded (flying : Flying file acked transfer)
    (loaded : Loaded file acked transfer) (unfinished : transfer.done = false)
    {result : Except TFTPError UInt16} (filled : transfer.fill = (result, next)) :
    Loaded file acked next := by
  have count := flying.unacknowledgedCount
  have ordered := flying.ordered
  have room := flying.room
  have kept := fillWindow_invariant
    (fun left current => Flying file acked current ∧ Loaded file acked current ∧
      current.blocksRead + left ≤ acked + current.window.buffers.length)
    (by
      rintro left current following isLast ⟨inFlight, loaded, spare⟩ going read
      have shape := current.readBlock_filled read
      refine ⟨inFlight.readBlock going (by omega) read,
        inFlight.readBlock_loaded loaded (by omega) read, ?_⟩
      rw [shape.blocksRead, shape.length]
      omega)
    _ _ _ _ _ filled
    ⟨flying, loaded, by rw [Window.size_toNat, count]; omega⟩ unfinished
  obtain ⟨_, _, last, _⟩ := kept
  exact last

/-- The head of the loop keeps the blocks of the cycle. -/
theorem Flying.enterLoop_loaded (flying : Flying file acked transfer)
    (loaded : Loaded file acked transfer) (unfinished : transfer.done = false) (line : Line) :
    Loaded file acked (PeerHandler.enterLoop transfer line).transfer := by
  unfold PeerHandler.enterLoop
  cases filled : transfer.fill with
  | mk result next =>
      have kept := flying.fill_loaded loaded unfinished filled
      simp only [unfinished, Bool.false_eq_true, if_false]
      cases result with
      | error error => exact kept
      | ok toSend => rwa [attempt_transfer]

/-- A burst in one cycle has the exact datagrams of its blocks. -/
theorem Flying.emissions_loaded (flying : Flying file acked transfer)
    (loaded : Loaded file acked transfer)
    (cycle : (acked + 1) / 65536 = transfer.blocksRead / 65536) :
    emissions transfer.window
        (PeerHandler.burstIndices transfer.windowIndex transfer.unacknowledgedCount) =
      (List.range' (acked + 1) (transfer.blocksRead - acked)).map fun position =>
        .block (UInt16.ofNat position)
          (blockDatagram file transfer.window.blockSize.toNat position) := by
  rw [flying.burstIndices, emissions, List.map_map, List.range'_eq_map_range, List.map_map]
  apply List.map_congr_left
  intro v inside
  rw [List.mem_range] at inside
  simp only [Function.comp_apply, Emission.block.injEq, true_and]
  exact loaded cycle (acked + 1 + v) (by omega) (by omega)

/-- The last index of a flight is not below its first one exactly when the flight lies in one
cycle. -/
theorem Flying.accepts_iff (flying : Flying file acked transfer)
    (pending : acked < transfer.blocksRead) :
    transfer.windowIndex ≤ transfer.lastReadIndex ↔
      (acked + 1) / 65536 = transfer.blocksRead / 65536 := by
  have room := flying.room
  have narrow := transfer.window.narrow
  rw [Transfer.windowIndex, flying.acknowledged, serial_succ, flying.lastReadIndex,
    UInt16.le_iff_toNat_le, UInt16.toNat_ofNat', UInt16.toNat_ofNat']
  exact mod_le_mod_iff pending (by omega)

/-- These are the blocks of one group as they are sent. -/
def groupEmissions (file : O) (window : Window) (count group : Nat) : List Emission :=
  (List.range' (group * window.buffers.length + 1)
    (min ((group + 1) * window.buffers.length) count - group * window.buffers.length)).map
      fun position => .block (UInt16.ofNat position)
        (blockDatagram file window.blockSize.toNat position)

/-- Every datagram on the line is the datagram of a block of the file. -/
def Line.Exactly (file : O) (size count : Nat) (line : Line) : Prop :=
  ∀ index datagram, .block index datagram ∈ line.sent →
    ∃ position, 1 ≤ position ∧ position ≤ count ∧ index = UInt16.ofNat position ∧
      datagram = blockDatagram file size position

/-- The transfer waits for the acknowledge of one group of blocks, and every earlier group lay in one
cycle. -/
structure Cooperating (file : O) (window : Window) (count group : Nat) (sending : Sending O) : Prop
    extends Waiting file window (group * window.buffers.length)
      (min ((group + 1) * window.buffers.length) count) sending where
  some : group * window.buffers.length < count
  loaded : Loaded file (group * window.buffers.length) sending.transfer
  earlier : ∀ before < group, InOneCycle 65536 window.buffers.length count before
  attempts : ∀ toSend left, sending.status = .awaiting toSend left → left < sendAttempts
  exactly : InOneCycle 65536 window.buffers.length count group →
    sending.line.Exactly file window.blockSize.toNat count

/-- The loop has ended with success after groups in one cycle each. -/
structure Finished (file : O) (window : Window) (count : Nat) (sending : Sending O) : Prop where
  shaped : Shaped file window sending.transfer
  read : sending.transfer.blocksRead = count
  status : sending.status = .returned (.ok (sending.transfer.bytesSent, 0))
  aligned : ∀ group, group * window.buffers.length < count →
    InOneCycle 65536 window.buffers.length count group
  exactly : sending.line.Exactly file window.blockSize.toNat count

/-- The loop has failed at a group in two cycles. -/
structure Rejected (window : Window) (count : Nat) (sending : Sending O) : Prop where
  status : sending.status = .returned (.error (.undefined "Unknown error occurred"))
  group : ∃ group, group * window.buffers.length < count ∧
    ¬ InOneCycle 65536 window.buffers.length count group

/-- The blocks of a group are blocks of the file. -/
theorem Line.Exactly.append {line : Line} (exactly : line.Exactly file window.blockSize.toNat count)
    (group : Nat) : Line.Exactly file window.blockSize.toNat count
      ⟨[], line.sent ++ groupEmissions file window count group⟩ := by
  intro index datagram member
  rcases List.mem_append.mp member with old | new
  · exact exactly index datagram old
  · obtain ⟨position, inside, same⟩ := List.mem_map.mp new
    obtain ⟨rfl, rfl⟩ := Emission.block.inj same
    rw [List.mem_range'_1] at inside
    exact ⟨position, by omega, by omega, rfl, rfl⟩

/-- A burst of one cycle has the blocks of its group. -/
theorem Flying.emissions_group
    (flying : Flying file (group * window.buffers.length) transfer)
    (shaped : Shaped file window transfer)
    (loaded : Loaded file (group * window.buffers.length) transfer)
    (read : transfer.blocksRead = min ((group + 1) * window.buffers.length) count)
    (aligned : InOneCycle 65536 window.buffers.length count group) :
    emissions transfer.window
        (PeerHandler.burstIndices transfer.windowIndex transfer.unacknowledgedCount) =
      groupEmissions file window count group := by
  rw [flying.emissions_loaded loaded (by rw [read]; exact aligned), read, groupEmissions,
    shaped.blockSize]

namespace Cooperating

section Enter
variable (flying : Flying file (group * window.buffers.length) transfer)
  (shaped : Shaped file window transfer) (unfinished : transfer.done = false) {line : Line}
  (clear : line.verdicts = []) (ends : Ends file window.blockSize.toNat count)
  (read : transfer.blocksRead = group * window.buffers.length)
  (some : group * window.buffers.length < count)
include flying shaped unfinished clear ends read some

/-- The head of the loop loads the blocks of a group and sends them. -/
theorem enterLoop_group :
    ∃ next, Shaped file window next ∧ Flying file (group * window.buffers.length) next ∧
      next.blocksRead = min ((group + 1) * window.buffers.length) count ∧
      Loaded file (group * window.buffers.length) next ∧
      enterLoop transfer line = ⟨next, ⟨[], line.sent ++ emissions next.window
        (burstIndices next.windowIndex next.unacknowledgedCount)⟩,
          .awaiting next.unacknowledgedCount 4⟩ := by
  have occupied := window.occupied
  have following : (group + 1) * window.buffers.length =
      group * window.buffers.length + window.buffers.length := by ring
  obtain ⟨next, shape, flight, fresh, entered⟩ :=
    flying.enterLoop_fills shaped unfinished line clear (by omega) ends.readable (.inr ends)
  rw [← following] at fresh
  have nothing : Loaded file (group * window.buffers.length) transfer := by
    intro _ position after inside
    omega
  have loaded := flying.enterLoop_loaded nothing unfinished line
  rw [entered] at loaded
  exact ⟨next, shape, flight, fresh, loaded, entered⟩

/-- The head of the loop starts a group when everything before it was acknowledged. -/
theorem enter (earlier : ∀ before < group, InOneCycle 65536 window.buffers.length count before)
    (exactly : line.Exactly file window.blockSize.toNat count) :
    Cooperating file window count group (enterLoop transfer line) := by
  obtain ⟨next, shape, flight, fresh, loaded, entered⟩ :=
    enterLoop_group flying shaped unfinished clear ends read some
  rw [entered]
  refine ⟨⟨shape, flight, fresh, rfl, 4, rfl⟩, some, loaded, earlier, ?_, fun aligned => ?_⟩
  · intro toSend left same
    obtain ⟨-, rfl⟩ := Status.awaiting.inj same
    decide
  · rw [flight.emissions_group shape loaded fresh aligned]
    exact exactly.append group

/-- The blocks of a group in one cycle are sent once. -/
theorem enter_sent (aligned : InOneCycle 65536 window.buffers.length count group) :
    (enterLoop transfer line).line.sent =
      line.sent ++ groupEmissions file window count group := by
  obtain ⟨next, shape, flight, fresh, loaded, entered⟩ :=
    enterLoop_group flying shaped unfinished clear ends read some
  rw [entered, flight.emissions_group shape loaded fresh aligned]

end Enter

/-- The blocks of the group are in flight. -/
theorem pending (cooperating : Cooperating file window count group sending) :
    group * window.buffers.length < sending.transfer.blocksRead ∧
      sending.transfer.blocksRead = min ((group + 1) * window.buffers.length) count := by
  have occupied := window.occupied
  have next : (group + 1) * window.buffers.length =
      group * window.buffers.length + window.buffers.length := by ring
  have some := cooperating.some
  rw [cooperating.read]
  omega

/-- The group lies in one cycle exactly when its last index is accepted. -/
theorem accepts_iff (cooperating : Cooperating file window count group sending) :
    sending.transfer.windowIndex ≤ sending.transfer.lastReadIndex ↔
      InOneCycle 65536 window.buffers.length count group := by
  obtain ⟨pending, read⟩ := cooperating.pending
  rw [cooperating.flying.accepts_iff pending, read]
  rfl

/-- The transfer is done in the last group of its file. -/
theorem done_iff (cooperating : Cooperating file window count group sending)
    (ends : Ends file window.blockSize.toNat count) :
    sending.transfer.done = true ↔ sending.transfer.blocksRead = count := by
  obtain ⟨pending, read⟩ := cooperating.pending
  rw [cooperating.flying.done, cooperating.shaped.blockSize]
  constructor
  · rintro ⟨some, short⟩
    by_contra before
    rw [ends.readable.full _ some (by omega)] at short
    exact absurd short (Nat.lt_irrefl _)
  · intro last
    rw [last]
    exact ⟨ends.some, ends.short⟩

/-- The waiting transfer sends the blocks in flight. -/
theorem tracked (cooperating : Cooperating file window count group sending) :
    Tracked file window sending := by
  refine ⟨cooperating.shaped, fun toSend attempts waiting => ?_⟩
  obtain ⟨left, status⟩ := cooperating.status
  rw [waiting] at status
  exact (Status.awaiting.inj status).1

/-- An acknowledged group with blocks behind it leaves a transfer with nothing in flight. -/
theorem regrouped (cooperating : Cooperating file window count group sending)
    (ends : Ends file window.blockSize.toNat count)
    (more : sending.transfer.blocksRead ≠ count) :
    Flying file ((group + 1) * window.buffers.length)
        { sending.transfer with lastAcknowledgedIndex := sending.transfer.lastReadIndex } ∧
      sending.transfer.done = false ∧
      sending.transfer.blocksRead = (group + 1) * window.buffers.length := by
  obtain ⟨pending, read⟩ := cooperating.pending
  have full : sending.transfer.blocksRead = (group + 1) * window.buffers.length := by omega
  refine ⟨⟨(cooperating.shaped.acknowledge sending.transfer.lastReadIndex).toReading,
    ?_, ?_, ?_, ?_⟩, ?_, full⟩
  · dsimp only
    rw [cooperating.flying.lastReadIndex, full]
  · exact Nat.le_of_eq full.symm
  · dsimp only
    omega
  · intro _ position after inside
    dsimp only at inside
    omega
  · rw [Bool.eq_false_iff, ne_eq, cooperating.done_iff ends]
    exact more

/-- The acknowledge of the last group ends the loop. -/
theorem acknowledged_last (cooperating : Cooperating file window count group sending)
    (ends : Ends file window.blockSize.toNat count)
    (aligned : InOneCycle 65536 window.buffers.length count group)
    (last : sending.transfer.blocksRead = count) :
    Finished file window count (enterLoop
      { sending.transfer with lastAcknowledgedIndex := sending.transfer.lastReadIndex }
      sending.line) := by
  have read := cooperating.pending.2
  have finished : { sending.transfer with
      lastAcknowledgedIndex := sending.transfer.lastReadIndex }.done = true :=
    (cooperating.done_iff ends).mpr last
  rw [enterLoop_done _ _ finished]
  refine ⟨cooperating.shaped.acknowledge sending.transfer.lastReadIndex, last, ?_, ?_,
    cooperating.exactly aligned⟩
  · dsimp only
    rw [cooperating.shaped.blocksSent]
  · intro other inside
    by_cases before : other < group
    · exact cooperating.earlier other before
    · have same : other = group := by
        by_contra different
        have beyond : (group + 1) * window.buffers.length ≤ other * window.buffers.length :=
          Nat.mul_le_mul_right _ (by omega)
        omega
      rwa [same]

/-- The acknowledge of another group is followed by the next one. -/
theorem acknowledged_more (cooperating : Cooperating file window count group sending)
    (ends : Ends file window.blockSize.toNat count)
    (aligned : InOneCycle 65536 window.buffers.length count group)
    (more : sending.transfer.blocksRead ≠ count) :
    Cooperating file window count (group + 1) (enterLoop
      { sending.transfer with lastAcknowledgedIndex := sending.transfer.lastReadIndex }
      sending.line) := by
  obtain ⟨flying, unfinished, full⟩ := cooperating.regrouped ends more
  have read := cooperating.pending.2
  apply enter flying (cooperating.shaped.acknowledge _) unfinished cooperating.clear ends full
    (by omega) ?_ (cooperating.exactly aligned)
  intro before old
  by_cases same : before = group
  · rwa [same]
  · exact cooperating.earlier before (by omega)

/-- An accepted group is followed by the next one, and the last group ends the loop. -/
theorem acknowledged (cooperating : Cooperating file window count group sending)
    (ends : Ends file window.blockSize.toNat count)
    (aligned : InOneCycle 65536 window.buffers.length count group) :
    Cooperating file window count (group + 1) (enterLoop
        { sending.transfer with lastAcknowledgedIndex := sending.transfer.lastReadIndex }
        sending.line) ∨
      Finished file window count (enterLoop
        { sending.transfer with lastAcknowledgedIndex := sending.transfer.lastReadIndex }
        sending.line) := by
  by_cases last : sending.transfer.blocksRead = count
  · exact .inr (cooperating.acknowledged_last ends aligned last)
  · exact .inl (cooperating.acknowledged_more ends aligned last)

/-- A timeout with attempts left sends the group again. -/
theorem timeout (cooperating : Cooperating file window count group sending) {toSend : UInt16}
    {attempts : Nat} (waiting : sending.status = .awaiting toSend (attempts + 1)) :
    Cooperating file window count group (sending.resume (.error .timeout)) := by
  have count_ := cooperating.tracked.count toSend (attempts + 1) waiting
  have few := cooperating.attempts toSend (attempts + 1) waiting
  have pending := cooperating.pending
  rw [Sending.resume_timeout waiting, attempt_clear _ _ _ _ cooperating.clear]
  refine ⟨⟨cooperating.shaped, cooperating.flying, cooperating.read, rfl, attempts,
    by rw [count_]⟩, cooperating.some, cooperating.loaded, cooperating.earlier, ?_, ?_⟩
  · intro other left same
    obtain ⟨-, rfl⟩ := Status.awaiting.inj same
    omega
  · intro aligned
    rw [count_, cooperating.flying.emissions_group cooperating.shaped cooperating.loaded pending.2
      aligned]
    exact (cooperating.exactly aligned).append group

/-- A cooperative step stays in its group, goes on to the next one or ends the loop. -/
theorem step (cooperating : Cooperating file window count group sending)
    (ends : Ends file window.blockSize.toNat count) {ack : AckResult}
    (cooperates : Cooperates sending ack) :
    (ack = .error .timeout ∧ Cooperating file window count group (sending.resume ack)) ∨
      ack ≠ .error .timeout ∧
        (Cooperating file window count (group + 1) (sending.resume ack) ∨
          Finished file window count (sending.resume ack) ∨
          Rejected window count (sending.resume ack)) := by
  obtain ⟨toSend, attempts, waiting, rfl | ⟨rfl, left⟩⟩ := cooperates
  · refine .inr ⟨nofun, ?_⟩
    rw [cooperating.tracked.lastIndex waiting]
    by_cases aligned : InOneCycle 65536 window.buffers.length count group
    · rw [Sending.resume_accepted waiting (cooperating.accepts_iff.mpr aligned)]
      exact (cooperating.acknowledged ends aligned).imp_right .inl
    · rw [Sending.resume_past waiting (mt cooperating.accepts_iff.mp aligned)]
      exact .inr (.inr ⟨rfl, group, cooperating.some, aligned⟩)
  · obtain ⟨fewer, rfl⟩ := Nat.exists_eq_succ_of_ne_zero (Nat.ne_of_gt left)
    exact .inl ⟨rfl, cooperating.timeout waiting⟩

end Cooperating

/-- The groups that were not sent yet take five outcomes each, and so does the group that waits. -/
def outcomesLeft (window : Window) (count : Nat) (sending : Sending O) : Nat :=
  match sending.status with
  | .awaiting _ attempts =>
      sendAttempts * ((count - sending.transfer.blocksRead + window.buffers.length - 1) /
        window.buffers.length) + attempts + 1
  | .returned _ => 0

/-- A cooperative transfer waits in a group, or its loop has ended. -/
def Going (file : O) (window : Window) (count : Nat) (sending : Sending O) : Prop :=
  (∃ group, Cooperating file window count group sending) ∨ Finished file window count sending ∨
    Rejected window count sending

theorem going_start (openedFile : O) (window : Window)
    (ends : Ends openedFile window.blockSize.toNat count) :
    Cooperating openedFile window count 0 (Sending.start openedFile window []) := by
  have flying := Flying.new openedFile window
  rw [← Nat.zero_mul window.buffers.length] at flying
  have some := ends.some
  apply Cooperating.enter flying (Shaped.new openedFile window) rfl rfl ends
    (Nat.zero_mul _).symm (by omega)
  · intro before old
    exact absurd old (Nat.not_lt_zero before)
  · intro index datagram member
    cases member

/-- A cooperative step is possible only in a waiting group. -/
theorem Going.waiting (going : Going file window count sending) {ack : AckResult}
    (cooperates : Cooperates sending ack) :
    ∃ group, Cooperating file window count group sending := by
  obtain ⟨toSend, attempts, waiting, _⟩ := cooperates
  rcases going with inside | finished | rejected
  · exact inside
  · rw [finished.status] at waiting
    cases waiting
  · rw [rejected.status] at waiting
    cases waiting

theorem Going.step (going : Going file window count sending)
    (ends : Ends file window.blockSize.toNat count) {ack : AckResult}
    (cooperates : Cooperates sending ack) : Going file window count (sending.resume ack) := by
  obtain ⟨group, cooperating⟩ := going.waiting cooperates
  rcases cooperating.step ends cooperates with ⟨-, same⟩ | ⟨-, next | ended⟩
  · exact .inl ⟨group, same⟩
  · exact .inl ⟨group + 1, next⟩
  · exact .inr ended

/-- A group takes its width from the blocks that are left, or all of them. -/
theorem groupsLeft_succ {width left : Nat} (positive : 0 < width) (some : 0 < left) :
    (left - min width left + width - 1) / width + 1 = (left + width - 1) / width := by
  rw [← Nat.add_div_right _ positive]
  by_cases full : width ≤ left
  · rw [Nat.min_eq_left full]
    congr 1
    omega
  · rw [Nat.min_eq_right (by omega), Nat.sub_self, Nat.zero_add,
      Nat.div_eq_of_lt_le (k := 1) (by omega) (by omega),
      Nat.div_eq_of_lt_le (k := 1) (by omega) (by omega)]

/-- The next group takes its share of the outcomes that are left. -/
theorem Cooperating.outcomesLeft_succ {later : Sending O}
    (cooperating : Cooperating file window count group sending)
    (next : Cooperating file window count (group + 1) later) {toSend : UInt16} {attempts : Nat}
    (waiting : sending.status = .awaiting toSend attempts) :
    outcomesLeft window count later < outcomesLeft window count sending := by
  obtain ⟨left, status⟩ := next.status
  have few := next.attempts _ _ status
  have fresh := next.pending
  have read := cooperating.pending.2
  have following : (group + 1 + 1) * window.buffers.length =
      (group + 1) * window.buffers.length + window.buffers.length := by ring
  have blocks : count - later.transfer.blocksRead =
      count - sending.transfer.blocksRead - min window.buffers.length
        (count - sending.transfer.blocksRead) := by omega
  have groups := groupsLeft_succ window.occupied
    (show 0 < count - sending.transfer.blocksRead by omega)
  rw [outcomesLeft, status, outcomesLeft, waiting]
  dsimp only
  rw [blocks, ← groups, Nat.mul_add]
  omega

/-- The first group waits with at most five outcomes for every group of the file. -/
theorem Cooperating.outcomesLeft_le (first : Cooperating file window count 0 sending) :
    outcomesLeft window count sending ≤
      sendAttempts * ((count + window.buffers.length - 1) / window.buffers.length) := by
  obtain ⟨attempts, waiting⟩ := first.status
  have few := first.attempts _ _ waiting
  have read := first.pending.2
  have some := first.some
  rw [Nat.zero_add, Nat.one_mul] at read
  rw [Nat.zero_mul] at some
  rw [outcomesLeft, waiting, ← groupsLeft_succ window.occupied some, Nat.mul_add]
  dsimp only
  rw [read]
  omega

/-- Every cooperative step uses up one of the outcomes that are left. -/
theorem Going.lowers (going : Going file window count sending)
    (ends : Ends file window.blockSize.toNat count) {ack : AckResult}
    (cooperates : Cooperates sending ack) :
    outcomesLeft window count (sending.resume ack) < outcomesLeft window count sending := by
  obtain ⟨group, cooperating⟩ := going.waiting cooperates
  have stepped := cooperating.step ends cooperates
  obtain ⟨toSend, attempts, waiting, answered⟩ := cooperates
  have ended {result : Except TFTPError (Nat × Nat)}
      (returned : (sending.resume ack).status = .returned result) :
      outcomesLeft window count (sending.resume ack) < outcomesLeft window count sending := by
    rw [outcomesLeft, returned, outcomesLeft, waiting]
    exact Nat.succ_pos _
  rcases stepped with ⟨rfl, -⟩ | ⟨-, next | finished | rejected⟩
  · obtain ⟨-, left⟩ := answered.resolve_left nofun
    obtain ⟨fewer, rfl⟩ := Nat.exists_eq_succ_of_ne_zero (Nat.ne_of_gt left)
    rw [Sending.resume_timeout waiting, attempt_clear _ _ _ _ cooperating.clear, outcomesLeft,
      outcomesLeft, waiting]
    dsimp only
    omega
  · exact cooperating.outcomesLeft_succ next waiting
  · exact ended finished.status
  · exact ended rejected.status

/-- A file with full reads ends with its last block. -/
theorem ends_blockCount [FullReads O] (file : O) {size : Nat} (sized : 0 < size) :
    Ends file size (blockCount (FullReads.remaining file) size) where
  some := Nat.succ_pos _
  readable := (readable_iff file sized).mpr (Nat.le_refl _)
  short := by
    rw [blockCount, payload_eq_block file size _ (Nat.succ_pos _)]
    exact (block_short _ size _ sized (Nat.lt_succ_self _)).mpr rfl

/-- A cooperative run goes on or has ended. -/
theorem going_of_permits (openedFile : O) (window : Window)
    (ends : Ends openedFile window.blockSize.toNat count) {acks : List AckResult}
    (permitted : Permits Sending.resume Cooperates (Sending.start openedFile window []) acks) :
    Going openedFile window count ((Sending.start openedFile window []).run acks) := by
  apply (Reach.permits permitted).invariant (Going openedFile window count)
  · exact .inl ⟨0, going_start openedFile window ends⟩
  · intro state ack going cooperates
    exact going.step ends cooperates

/-- A run that a cooperative peer cannot continue has ended. -/
theorem Going.ended (going : Going file window count sending)
    (exhausted : ∀ ack, ¬ Cooperates sending ack) :
    Finished file window count sending ∨ Rejected window count sending := by
  rcases going with ⟨group, cooperating⟩ | ended
  · obtain ⟨attempts, waiting⟩ := cooperating.status
    exact absurd ⟨_, _, waiting, .inl rfl⟩ (exhausted _)
  · exact ended

/-- The datagrams are exact as long as every group lies in one cycle. -/
theorem Going.exactly (going : Going file window count sending)
    (aligned : ∀ group, group * window.buffers.length < count →
      InOneCycle 65536 window.buffers.length count group) :
    sending.line.Exactly file window.blockSize.toNat count := by
  rcases going with ⟨group, cooperating⟩ | finished | rejected
  · exact cooperating.exactly (aligned group cooperating.some)
  · exact finished.exactly
  · obtain ⟨group, inside, broken⟩ := rejected.group
    exact absurd (aligned group inside) broken

/-- A finished transfer with full reads counts the bytes of its file. -/
theorem Finished.returned [FullReads O]
    (finished : Finished file window
      (blockCount (FullReads.remaining file) window.blockSize.toNat) sending)
    (sized : 0 < window.blockSize.toNat) :
    sending.status = .returned (.ok ((FullReads.remaining file).length, 0)) := by
  have covered := blockCount_covers (FullReads.remaining file) window.blockSize.toNat sized
  have bytes := finished.shaped.toReading.bytes
  rw [finished.shaped.blockSize, finished.read, Nat.min_eq_right (Nat.le_of_lt covered)] at bytes
  rw [finished.status, bytes]

/-- A cooperative transfer ends after at most five outcomes for every burst. It succeeds exactly when
no burst has a block 65536 or 131072 behind its first block, and then all its datagrams are exact. -/
theorem cooperativeTransfer_completes_iff [FullReads O] (openedFile : O)
    (blockSize windowSize : UInt16) (positive : 0 < windowSize.toNat) (sized : 0 < blockSize.toNat)
    (acks : List AckResult) :
    let content := FullReads.remaining openedFile
    let count := content.length / blockSize.toNat + 1
    let width := windowSize.toNat
    let start := Sending.start openedFile (Window.new blockSize windowSize positive) []
    Permits Sending.resume Cooperates start acks →
      acks.length ≤ 5 * ((count + width - 1) / width) ∧
      ((∀ ack, ¬ Cooperates (start.run acks) ack) →
        (start.run acks).status =
          if count < 65536 ∨ width = 1 ∨ width ∣ 65535 ∧ count < 131072 then
            .returned (.ok (content.length, 0))
          else .returned (.error (.undefined "Unknown error occurred"))) ∧
      (count < 65536 ∨ width = 1 ∨ width ∣ 65535 ∧ count < 131072 →
        ∀ index datagram, .block index datagram ∈ (start.run acks).line.sent →
          ∃ position, 1 ≤ position ∧ position ≤ count ∧ index = UInt16.ofNat position ∧
            datagram = dataDatagram content blockSize.toNat position) := by
  intro content count width start permitted
  have size := Window.new_length blockSize windowSize positive
  have narrow := windowSize.toNat_lt
  have ends : Ends openedFile (Window.new blockSize windowSize positive).blockSize.toNat count :=
    ends_blockCount openedFile sized
  have condition : (∀ group, group * (Window.new blockSize windowSize positive).buffers.length <
        count → InOneCycle 65536 (Window.new blockSize windowSize positive).buffers.length count
          group) ↔ count < 65536 ∨ width = 1 ∨ width ∣ 65535 ∧ count < 131072 := by
    rw [size]
    exact inOneCycle_all_iff 65536 width count positive narrow
  have going := going_of_permits openedFile _ ends permitted
  refine ⟨?_, fun exhausted => ?_, fun aligned => ?_⟩
  · have first := going_start openedFile (Window.new blockSize windowSize positive) ends
    have bounded := permitted.length_le (Going openedFile _ count)
      (outcomesLeft (Window.new blockSize windowSize positive) count) (.inl ⟨0, first⟩)
      (fun _ _ state allowed => state.step ends allowed)
      (fun _ _ state allowed => state.lowers ends allowed)
    have initial := first.outcomesLeft_le
    rw [size] at initial
    exact Nat.le_trans (Nat.le_of_add_right_le bounded) initial
  · rcases going.ended exhausted with finished | rejected
    · rw [if_pos (condition.mp finished.aligned)]
      exact finished.returned sized
    · obtain ⟨group, inside, broken⟩ := rejected.group
      rw [if_neg fun aligned => broken (condition.mpr aligned group inside)]
      exact rejected.status
  · intro index datagram member
    obtain ⟨position, least, most, same, bytes⟩ :=
      going.exactly (condition.mpr aligned) index datagram member
    rw [blockDatagram_eq openedFile _ position least] at bytes
    exact ⟨position, least, most, same, bytes⟩

/-- Two bursts of two blocks and one of a short block are acknowledged with one timeout between. -/
theorem cooperativeTransfer_completes_three :
    let file := VirtualOpenedFile.new (List.replicate 36 7)
    let acks : List AckResult := [.ok 2, .error .timeout, .ok 4, .ok 5]
    let start := Sending.start file (Window.new 8 2 (by decide)) []
    Permits Sending.resume Cooperates start acks ∧ acks.length ≤ 15 ∧
      (start.run acks).status = .returned (.ok (36, 0)) := by
  intro file acks start
  have permitted : Permits Sending.resume Cooperates start acks := by
    refine ⟨⟨2, 4, by decide, .inl (by decide)⟩, ⟨2, 4, by decide, .inr ⟨rfl, by decide⟩⟩,
      ⟨2, 3, by decide, .inl (by decide)⟩, ⟨1, 4, by decide, .inl (by decide)⟩, trivial⟩
  have exhausted : ∀ ack, ¬ Cooperates (start.run acks) ack := by
    rintro ack ⟨toSend, attempts, waiting, -⟩
    rw [show (start.run acks).status = .returned (.ok (36, 0)) by decide] at waiting
    cases waiting
  obtain ⟨bounded, completed, -⟩ :=
    cooperativeTransfer_completes_iff file 8 2 (by decide) (by decide) acks permitted
  exact ⟨permitted, bounded.trans (by decide), (completed exhausted).trans (if_pos (.inl (by decide)))⟩

end Rtftp.PeerHandler

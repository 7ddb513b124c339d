import Rtftp.Library.Progress
import Rtftp.Proof.Transfer.Cooperation
import Rtftp.Proof.Transfer.Totals
import Rtftp.Construction.Session

namespace Rtftp.PeerHandler
open Library

variable {O : Type} {sending : Sending O} {toSend : UInt16} {attempts : Nat}

/-- The transfer has not returned, and the outcome is one of its burst. -/
def AwaitsInBurst (sending : Sending O) (ack : AckResult) : Prop :=
  InBurst sending ack ∧ ∃ toSend attempts, sending.status = .awaiting toSend attempts

/-- Every block behind the acknowledged position takes at most five outcomes. -/
def outcomesBound (count : Nat) (sending : Sending O) : Nat :=
  match sending.status with
  | .awaiting toSend attempts =>
      sendAttempts * (count - (sending.transfer.blocksRead - toSend.toNat) - 1) + attempts + 1
  | .returned _ => 0

variable [OpenedFile O] {file : O} {window : Window} {acked count : Nat}

/-- A new burst has all its attempts but one left. -/
theorem enterLoop_awaiting {transfer : Transfer O} {line : Line}
    (waiting : (enterLoop transfer line).status = .awaiting toSend attempts) : attempts = 4 := by
  unfold enterLoop at waiting
  split at waiting
  · cases waiting
  · split at waiting
    · cases waiting
    · exact (Nat.succ.inj (attempt_awaiting waiting).2).symm

/-- A transfer that goes on after an acknowledge has entered its loop again. -/
theorem Sending.resume_entered {ack : AckResult} {count : UInt16} {left : Nat}
    (waiting : sending.status = .awaiting toSend attempts) (other : ack ≠ .error .timeout)
    (waits : (sending.resume ack).status = .awaiting count left) : left = 4 := by
  rcases ack with error | index
  · have final : error ≠ .timeout := fun same => other (congrArg Except.error same)
    obtain ⟨failure, failed, -⟩ := Sending.resume_failed waiting final
    rw [failed] at waits
    cases waits
  · by_cases accepted : sending.transfer.windowIndex ≤ index
    · rw [Sending.resume_accepted waiting accepted] at waits
      exact enterLoop_awaiting waits
    · rw [Sending.resume_past waiting accepted] at waits
      cases waits

/-- No read goes past the end of the file. -/
theorem readable_le_of_ends {size blocks : Nat} (ends : Ends file size count)
    (readable : Readable file size blocks) : blocks ≤ count := by
  by_contra more
  have full := readable.full count ends.some (by omega)
  exact absurd ends.short (by omega)

/-- The burst of a waiting transfer lies in the file, and few attempts are left for it. -/
structure Counted (file : O) (window : Window) (sending : Sending O) : Prop where
  sound : Sound file sending
  tracked : Tracked file window sending
  few : ∀ toSend left, sending.status = .awaiting toSend left → left < sendAttempts

theorem Counted.resume (counted : Counted file window sending) {ack : AckResult}
    (allowed : AwaitsInBurst sending ack) :
    Counted file window (sending.resume ack) := by
  obtain ⟨inside, toSend, attempts, waiting⟩ := allowed
  refine ⟨counted.sound.resume ack inside.bounded, counted.tracked.resume ack, ?_⟩
  intro next left waits
  by_cases timeout : ack = .error .timeout
  · subst timeout
    rw [Sending.resume_timeout waiting] at waits
    have fewer := (attempt_awaiting waits).2
    have few := counted.few toSend attempts waiting
    omega
  · rw [Sending.resume_entered waiting timeout waits]
    decide

/-- Every outcome of the burst uses up one of the outcomes that are left. -/
theorem Counted.lowers (counted : Counted file window sending)
    (ends : Ends file window.blockSize.toNat count) {ack : AckResult}
    (allowed : AwaitsInBurst sending ack) :
    outcomesBound count (sending.resume ack) < outcomesBound count sending := by
  have later := counted.resume allowed
  obtain ⟨inside, toSend, attempts, waiting⟩ := allowed
  obtain ⟨acked, burst⟩ := counted.sound.burst toSend attempts waiting
  cases status : (sending.resume ack).status with
  | returned result =>
      rw [outcomesBound, status, outcomesBound, waiting]
      exact Nat.succ_pos _
  | awaiting next left =>
      obtain ⟨moved, after, within, advanced⟩ := burst.resume waiting counted.sound inside status
      have size := burst.unacknowledgedCount
      have sizeAfter := after.unacknowledgedCount
      have ordered := after.ordered
      have read : (sending.resume ack).transfer.blocksRead ≤ count := by
        have readable := later.tracked.readable
        rw [later.tracked.blockSize] at readable
        exact readable_le_of_ends ends readable
      have pending := after.pending
      have before := burst.ordered
      rw [outcomesBound, status, outcomesBound, waiting]
      dsimp only
      rw [burst.count, after.count, size, sizeAfter,
        show sending.transfer.blocksRead - (sending.transfer.blocksRead - acked) = acked by omega,
        show (sending.resume ack).transfer.blocksRead -
          ((sending.resume ack).transfer.blocksRead - moved) = moved by omega]
      rcases advanced with ⟨rfl, rfl⟩ | ⟨other, further⟩
      · rw [Sending.resume_timeout waiting] at status
        have fewer := (attempt_awaiting status).2
        omega
      · have entered := Sending.resume_entered waiting other status
        unfold sendAttempts
        omega

theorem counted_start (openedFile : O) (window : Window) (verdicts : List Bool) :
    Counted openedFile window (Sending.start openedFile window verdicts) where
  sound := sound_of_reach openedFile window verdicts .start
  tracked := (Shaped.new openedFile window).enterLoop _
  few := by
    intro toSend left waiting
    rw [enterLoop_awaiting waiting]
    decide

/-- The first burst waits with at most five outcomes for every block. -/
theorem outcomesBound_start (openedFile : O) (window : Window) (verdicts : List Bool) (count : Nat)
    (some : 0 < count) :
    outcomesBound count (Sending.start openedFile window verdicts) ≤ sendAttempts * count := by
  unfold outcomesBound
  split
  · next toSend attempts waiting =>
    have entered := enterLoop_awaiting waiting
    unfold sendAttempts
    omega
  · exact Nat.zero_le _

omit [OpenedFile O] in
/-- An attempt sends at most its burst. -/
theorem attempt_dataSent (transfer : Transfer O) (toSend : UInt16) (line : Line) (attempts : Nat) :
    (dataSent (attempt transfer toSend line attempts).line.sent).length ≤
      (dataSent line.sent).length + toSend.toNat := by
  cases attempts with
  | zero => exact Nat.le_add_right _ _
  | succ attempts =>
      obtain ⟨few, sent, -⟩ := sendBlocks_sent transfer.window
        (burstIndices transfer.windowIndex toSend) line
      have size : (dataSent ((emissions transfer.window
          (burstIndices transfer.windowIndex toSend)).take few)).length ≤ toSend.toNat := by
        apply Nat.le_trans (List.length_filterMap_le _ _)
        rw [List.length_take, emissions, List.length_map, burstIndices, List.length_map,
          List.length_range]
        exact Nat.min_le_right _ _
      have line_ : (attempt transfer toSend line (attempts + 1)).line =
          (sendBlocks transfer.window (burstIndices transfer.windowIndex toSend) line).2 := by
        unfold attempt
        dsimp only
        split <;> simp_all
      rw [line_, sent, dataSent, List.filterMap_append, List.length_append]
      exact Nat.add_le_add_left size _

/-- The head of the loop sends at most one window. -/
theorem Flying.enterLoop_dataSent {transfer : Transfer O} (flying : Flying file acked transfer)
    (line : Line) :
    (dataSent (PeerHandler.enterLoop transfer line).line.sent).length ≤
      (dataSent line.sent).length + transfer.window.buffers.length := by
  unfold PeerHandler.enterLoop
  cases finished : transfer.done with
  | true => exact Nat.le_add_right _ _
  | false =>
      cases filled : transfer.fill with
      | mk result next =>
          simp only [Bool.false_eq_true, if_false]
          cases result with
          | error error => exact Nat.le_add_right _ _
          | ok toSend =>
              have after := flying.fill finished filled
              obtain ⟨rounds, _, shape, _⟩ := fillWindow_filled _ _ _ _ _ filled
              have size := after.unacknowledgedCount
              have room := after.room
              rw [shape.length] at room
              apply Nat.le_trans (attempt_dataSent next toSend line sendAttempts)
              rw [Transfer.fill_count filled]
              omega

/-- Every outcome of the burst is answered with at most one window. -/
theorem Counted.resume_dataSent (counted : Counted file window sending) {ack : AckResult}
    (allowed : AwaitsInBurst sending ack) :
    (dataSent (sending.resume ack).line.sent).length ≤
      (dataSent sending.line.sent).length + window.buffers.length := by
  obtain ⟨inside, toSend, attempts, waiting⟩ := allowed
  obtain ⟨acked, burst⟩ := counted.sound.burst toSend attempts waiting
  have size := burst.unacknowledgedCount
  have room := burst.room
  rw [counted.tracked.length] at room
  rcases ack with error | index
  · by_cases timeout : error = .timeout
    · subst error
      rw [Sending.resume_timeout waiting]
      apply Nat.le_trans (attempt_dataSent sending.transfer toSend sending.line attempts)
      rw [burst.count]
      omega
    · obtain ⟨failure, failed, -⟩ := Sending.resume_failed waiting timeout
      rw [failed]
      exact Nat.le_add_right _ _
  · by_cases accepted : sending.transfer.windowIndex ≤ index
    · obtain ⟨v, few, rfl⟩ := inside index toSend attempts rfl waiting
      rw [burst.count, size] at few
      rw [Sending.resume_accepted waiting accepted, ← counted.tracked.length]
      exact (burst.toFlying.acknowledge few).enterLoop_dataSent sending.line
    · rw [Sending.resume_past waiting accepted, fireError_sent, dataSent, List.filterMap_append,
        List.length_append]
      exact Nat.add_le_add_left (Nat.zero_le _) _

/-- A transfer whose peer acknowledges only blocks of the burst returns after at most five outcomes for
every block of the file, and it answers every outcome with at most one window. -/
theorem inBurstTransfer_bounded [FullReads O] (openedFile : O) (blockSize windowSize : UInt16)
    (positive : 0 < windowSize.toNat) (sized : 0 < blockSize.toNat) (verdicts : List Bool)
    (acks : List AckResult)
    (permitted : Permits Sending.resume AwaitsInBurst
      (Sending.start openedFile (Window.new blockSize windowSize positive) verdicts) acks) :
    acks.length ≤ 5 * ((FullReads.remaining openedFile).length / blockSize.toNat + 1) ∧
      (dataSent ((Sending.start openedFile (Window.new blockSize windowSize positive)
        verdicts).run acks).line.sent).length ≤ (acks.length + 1) * windowSize.toNat := by
  have ends := ends_blockCount openedFile sized
  have width := Window.new_length blockSize windowSize positive
  have initial := counted_start openedFile (Window.new blockSize windowSize positive) verdicts
  constructor
  · have bounded := permitted.length_le (Counted openedFile _) (outcomesBound _) initial
      (fun _ _ counted allowed => counted.resume allowed)
      (fun _ _ counted allowed => counted.lowers ends allowed)
    exact Nat.le_trans (Nat.le_of_add_right_le bounded) (outcomesBound_start _ _ _ _ ends.some)
  · have bounded := permitted.amount_le (Counted openedFile _)
      (fun state => (dataSent state.line.sent).length) _ initial
      (fun _ _ counted allowed => counted.resume allowed)
      (fun _ _ counted allowed => counted.resume_dataSent allowed)
    have first := (Flying.new openedFile
      (Window.new blockSize windowSize positive)).enterLoop_dataSent ⟨verdicts, []⟩
    change _ ≤ 0 + (Window.new blockSize windowSize positive).buffers.length at first
    rw [width] at bounded first
    rw [Nat.add_mul]
    exact Nat.le_trans bounded (by rw [Sending.start]; omega)

/-- The second of two blocks is acknowledged after a timeout. -/
theorem inBurstTransfer_bounded_two :
    let acks : List AckResult := [.ok 1, .error .timeout, .ok 2]
    acks.length ≤ 10 ∧ (dataSent ((Sending.start (VirtualOpenedFile.new (List.replicate 12 7))
      (Window.new 8 1 (by decide)) []).run acks).line.sent).length ≤ 4 := by
  intro acks
  apply inBurstTransfer_bounded (VirtualOpenedFile.new (List.replicate 12 7)) 8 1 (by decide)
    (by decide) []
  refine ⟨⟨?_, 1, 4, by decide⟩, ⟨nofun, 1, 4, by decide⟩, ⟨?_, 1, 3, by decide⟩, trivial⟩
  · exact inBurst_ok (show _ = Status.awaiting 1 4 by decide) ⟨0, by decide, by decide⟩
  · exact inBurst_ok (show _ = Status.awaiting 1 3 by decide) ⟨0, by decide, by decide⟩

/-- The head of the loop reads nothing when the unacknowledged blocks fill the window. -/
theorem enterLoop_full {transfer : Transfer O} {line : Line} (unfinished : transfer.done = false)
    (clear : line.verdicts = [])
    (full : transfer.window.buffers.length ≤ transfer.unacknowledgedCount.toNat) :
    enterLoop transfer line =
      ⟨transfer, ⟨[], line.sent ++ emissions transfer.window
        (burstIndices transfer.windowIndex transfer.unacknowledgedCount)⟩,
        .awaiting transfer.unacknowledgedCount 4⟩ := by
  have none : transfer.fill = (.ok transfer.unacknowledgedCount, transfer) := by
    rw [Transfer.fill, Window.size_toNat, Nat.sub_eq_zero_of_le full]
    rfl
  rw [enterLoop, unfinished, none]
  exact attempt_clear transfer _ line 4 clear

theorem dataSent_burst (sent : List Emission) (window : Window) (windowIndex toSend : UInt16) :
    (dataSent (sent ++ emissions window (burstIndices windowIndex toSend))).length =
      (dataSent sent).length + toSend.toNat := by
  have blocks (indices : List UInt16) : (dataSent (emissions window indices)).length =
      indices.length := by
    induction indices with
    | nil => rfl
    | cons index rest ih => exact congrArg Nat.succ ih
  rw [dataSent, List.filterMap_append, List.length_append, ← dataSent, ← dataSent, blocks,
    burstIndices, List.length_map, List.length_range]

/-- The transfer waits with its first window in flight and with more blocks to read. -/
structure Stalled (width : UInt16) (sending : Sending O) : Prop where
  unfinished : sending.transfer.done = false
  acknowledged : sending.transfer.lastAcknowledgedIndex = 0
  read : sending.transfer.lastReadIndex = width
  length : sending.transfer.window.buffers.length = width.toNat
  clear : sending.line.verdicts = []
  status : sending.status = .awaiting width 4

/-- An acknowledge that leaves the window full repeats old buffers and reads nothing. -/
theorem Stalled.acknowledged_full {width : UInt16} (stalled : Stalled width sending)
    (index : UInt16) {toSend : UInt16} (sent : List Emission) (count : width - index = toSend)
    (full : width.toNat ≤ toSend.toNat) :
    enterLoop { sending.transfer with lastAcknowledgedIndex := index } ⟨[], sent⟩ =
      ⟨{ sending.transfer with lastAcknowledgedIndex := index },
        ⟨[], sent ++ emissions sending.transfer.window (burstIndices (index + 1) toSend)⟩,
        .awaiting toSend 4⟩ := by
  have unacknowledged : { sending.transfer with
      lastAcknowledgedIndex := index }.unacknowledgedCount = toSend := by
    rw [Transfer.unacknowledgedCount, stalled.read, count]
  have unfinished : { sending.transfer with lastAcknowledgedIndex := index }.done = false :=
    stalled.unfinished
  rw [enterLoop_full unfinished rfl (by
    rw [unacknowledged]
    exact Nat.le_trans (Nat.le_of_eq stalled.length) full), unacknowledged]
  rfl

/-- Two acknowledges of blocks outside of the burst lead back to the first window. -/
theorem Stalled.round {width : UInt16} (stalled : Stalled width sending)
    (narrow : width.toNat < 65535) :
    Stalled width ((sending.resume (.ok 65535)).resume (.ok 0)) ∧
      ((sending.resume (.ok 65535)).resume (.ok 0)).transfer.blocksRead =
        sending.transfer.blocksRead ∧
      (dataSent ((sending.resume (.ok 65535)).resume (.ok 0)).line.sent).length =
        (dataSent sending.line.sent).length + (2 * width.toNat + 1) := by
  have larger : (width + 1).toNat = width.toNat + 1 := by
    rw [UInt16.toNat_add]
    exact Nat.mod_eq_of_lt (by change width.toNat + 1 < 65536; omega)
  have last : sending.transfer.windowIndex ≤ 65535 :=
    UInt16.le_iff_toNat_le.mpr (Nat.le_of_lt_succ sending.transfer.windowIndex.toNat_lt)
  have ahead : width - 65535 = width + 1 := by grind
  have wrapped : (65535 : UInt16) + 1 ≤ 0 := by decide
  have line : sending.line = ⟨[], sending.line.sent⟩ := by rw [← stalled.clear]
  rw [Sending.resume_accepted stalled.status last, line,
    stalled.acknowledged_full 65535 _ ahead (by omega), Sending.resume_accepted rfl wrapped]
  dsimp only
  rw [stalled.acknowledged_full 0 _ (UInt16.sub_zero width) (Nat.le_refl _)]
  refine ⟨⟨stalled.unfinished, rfl, stalled.read, stalled.length, rfl, rfl⟩, rfl, ?_⟩
  rw [dataSent_burst, dataSent_burst, larger]
  omega

/-- The peer can repeat this as often as it wants. -/
theorem Stalled.rounds {width : UInt16} (stalled : Stalled width sending)
    (narrow : width.toNat < 65535) (rounds : Nat) :
    let later := sending.run (List.replicate rounds [.ok 65535, .ok 0]).flatten
    Stalled width later ∧ later.transfer.blocksRead = sending.transfer.blocksRead ∧
      (dataSent later.line.sent).length =
        (dataSent sending.line.sent).length + rounds * (2 * width.toNat + 1) := by
  induction rounds with
  | zero => exact ⟨stalled, rfl, by rw [Nat.zero_mul]; rfl⟩
  | succ rounds ih =>
      obtain ⟨held, same, count⟩ := ih
      obtain ⟨again, unread, more⟩ := held.round narrow
      rw [List.replicate_succ', List.flatten_concat, Sending.run_append]
      refine ⟨again, unread.trans same, ?_⟩
      rw [Nat.add_mul, Nat.one_mul]
      exact more.trans (by rw [count, Nat.add_assoc])

/-- The first window of a file that is longer than the window stalls. -/
theorem stalled_start (openedFile : O) (blockSize windowSize : UInt16)
    (positive : 0 < windowSize.toNat)
    (readable : Readable openedFile blockSize.toNat (windowSize.toNat + 1)) :
    let start := Sending.start openedFile (Window.new blockSize windowSize positive) []
    Stalled windowSize start ∧ start.transfer.blocksRead = windowSize.toNat ∧
      (dataSent start.line.sent).length = windowSize.toNat := by
  intro start
  have width := Window.new_length blockSize windowSize positive
  obtain ⟨next, shaped, flying, read, entered⟩ :=
    (Flying.new openedFile (Window.new blockSize windowSize positive)).enterLoop_fills
      (Shaped.new openedFile _) rfl ⟨[], []⟩ rfl (Nat.zero_le _) readable (.inl (by omega))
  rw [width, Nat.zero_add, Nat.min_eq_left (Nat.le_succ _)] at read
  have count : next.unacknowledgedCount = windowSize := by
    apply UInt16.toNat.inj
    rw [flying.unacknowledgedCount, read, Nat.sub_zero]
  have unfinished : next.done = false := by
    rw [Bool.eq_false_iff]
    intro finished
    have short := (flying.done.mp finished).2
    rw [read, shaped.blockSize] at short
    exact absurd (readable.full _ positive (Nat.lt_succ_self _)) (Nat.ne_of_lt short)
  have begun : start = ⟨next, ⟨[], [] ++ emissions next.window
      (burstIndices next.windowIndex next.unacknowledgedCount)⟩,
      .awaiting next.unacknowledgedCount 4⟩ := entered
  rw [begun, count]
  refine ⟨⟨unfinished, flying.acknowledged, ?_, shaped.length.trans width, rfl, rfl⟩, read, ?_⟩
  · dsimp only
    rw [flying.lastReadIndex, read, UInt16.ofNat_toNat]
  · rw [dataSent_burst]
    exact Nat.zero_add _

/-- A peer that acknowledges blocks outside of the burst keeps the transfer of a file that is longer
than the window in its first window, and it gets at least a window for every acknowledge. -/
theorem hostileTransfer_endless [FullReads O] (openedFile : O) (blockSize windowSize : UInt16)
    (positive : 0 < windowSize.toNat) (narrow : windowSize.toNat < 65535)
    (sized : 0 < blockSize.toNat)
    (long : windowSize.toNat * blockSize.toNat ≤ (FullReads.remaining openedFile).length)
    (rounds : Nat) :
    let sending := (Sending.start openedFile (Window.new blockSize windowSize positive) []).run
      (List.replicate rounds [.ok 65535, .ok 0]).flatten
    sending.status = .awaiting windowSize 4 ∧
      sending.transfer.blocksRead = windowSize.toNat ∧
      (dataSent sending.line.sent).length =
        windowSize.toNat + rounds * (2 * windowSize.toNat + 1) := by
  have readable : Readable openedFile blockSize.toNat (windowSize.toNat + 1) := by
    rw [readable_iff openedFile sized, blockCount]
    exact Nat.succ_le_succ ((Nat.le_div_iff_mul_le sized).mpr long)
  obtain ⟨initial, read, sent⟩ := stalled_start openedFile blockSize windowSize positive readable
  obtain ⟨stalled, same, count⟩ := initial.rounds narrow rounds
  exact ⟨stalled.status, same.trans read, by rw [count, sent]⟩

/-- Three blocks are sent for the first two acknowledges of a peer with a window of one block. -/
theorem hostileTransfer_endless_one :
    (dataSent ((Sending.start (VirtualOpenedFile.new (List.replicate 12 7))
      (Window.new 8 1 (by decide)) []).run [.ok 65535, .ok 0]).line.sent).length = 4 :=
  (hostileTransfer_endless (VirtualOpenedFile.new (List.replicate 12 7)) 8 1 (by decide) (by decide)
    (by decide) (by decide) 1).2.2

end Rtftp.PeerHandler

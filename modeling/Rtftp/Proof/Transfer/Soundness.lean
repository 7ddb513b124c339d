import Rtftp.Proof.Transfer.Alignment
import Rtftp.Proof.Transfer.Coroutine

namespace Rtftp.PeerHandler
open Library

/-- A received acknowledge names a block of the burst just sent. -/
def InBurst {O : Type} (sending : Sending O) (ack : AckResult) : Prop :=
  ∀ index toSend attempts, ack = .ok index → sending.status = .awaiting toSend attempts →
    ∃ v < toSend.toNat, index = sending.transfer.windowIndex + UInt16.ofNat v

/-- The peer has not sent an ERROR. -/
def NoPeerError (ack : AckResult) : Prop := ∀ code message, ack ≠ .error (.clientError code message)

/-- A received acknowledge is not past the burst just sent, by plain comparison of its number. -/
def Bounded {O : Type} (sending : Sending O) (ack : AckResult) : Prop :=
  ∀ index toSend attempts, ack = .ok index → sending.status = .awaiting toSend attempts →
    index.toNat < sending.transfer.windowIndex.toNat + toSend.toNat

/-- An accepted index is in the burst exactly when it is not past its end. -/
theorem inBurst_iff_bounded (windowIndex toSend index : UInt16) (accepted : windowIndex ≤ index) :
    (∃ v < toSend.toNat, index = windowIndex + UInt16.ofNat v) ↔
      index.toNat < windowIndex.toNat + toSend.toNat := by
  have ordered := UInt16.le_iff_toNat_le.mp accepted
  have first := windowIndex.toNat_lt
  have last := index.toNat_lt
  constructor
  · rintro ⟨v, inside, rfl⟩
    have narrow := toSend.toNat_lt
    rw [UInt16.toNat_add, UInt16.toNat_ofNat'] at *
    omega
  · intro bounded
    refine ⟨index.toNat - windowIndex.toNat, by omega, ?_⟩
    apply UInt16.toNat.inj
    rw [UInt16.toNat_add, UInt16.toNat_ofNat']
    omega

/-- An acknowledge of the burst is bounded, also when its index has wrapped. -/
theorem InBurst.bounded {O : Type} {sending : Sending O} {ack : AckResult}
    (permitted : InBurst sending ack) : Bounded sending ack := by
  intro index toSend attempts same waiting
  by_cases accepted : sending.transfer.windowIndex ≤ index
  · exact (inBurst_iff_bounded _ _ _ accepted).mp (permitted index toSend attempts same waiting)
  · have below := mt UInt16.le_iff_toNat_le.mpr accepted
    omega

/-- An acknowledge is in the burst when it is close enough behind the window index. -/
theorem inBurst_ok {O : Type} {sending : Sending O} {toSend index : UInt16} {attempts : Nat}
    (waiting : sending.status = .awaiting toSend attempts)
    (inside : ∃ v < toSend.toNat, index = sending.transfer.windowIndex + UInt16.ofNat v) :
    InBurst sending (.ok index) := by
  intro received count left same status
  rw [waiting] at status
  simp only [Status.awaiting.injEq] at status
  obtain ⟨rfl, rfl⟩ := status
  obtain rfl := Except.ok.inj same
  exact inside

variable {O : Type} [OpenedFile O] {file : O} {transfer next : Transfer O} {acked : Nat}
  {line : Line}

/-- Every datagram has the index of a block that was read. While the slots are exact, it is the
datagram of this block. -/
def Traced (file : O) (transfer : Transfer O) (line : Line) : Prop :=
  ∀ index datagram, .block index datagram ∈ line.sent →
    ∃ position, 1 ≤ position ∧ position ≤ transfer.blocksRead ∧ index = UInt16.ofNat position ∧
      (Exact transfer →
        datagram = blockDatagram file transfer.window.blockSize.toNat position)

/-- A waiting transfer has sent its whole burst of blocks in flight. -/
structure Burst (file : O) (sending : Sending O) (toSend : UInt16) (acked : Nat) : Prop
    extends Flying file acked sending.transfer where
  count : toSend = sending.transfer.unacknowledgedCount
  pending : acked < sending.transfer.blocksRead
  latest : ∃ earlier, sending.line.sent = earlier ++
    emissions sending.transfer.window (burstIndices sending.transfer.windowIndex toSend)

/-- Every state of a run with acknowledges of its own bursts is sound. -/
structure Sound (file : O) (sending : Sending O) : Prop where
  reading : Reading file sending.transfer
  traced : Traced file sending.transfer sending.line
  burst : ∀ toSend attempts, sending.status = .awaiting toSend attempts →
    ∃ acked, Burst file sending toSend acked

/-- The indices of a burst are the serial numbers of the blocks in flight. -/
theorem Flying.burstIndices (flying : Flying file acked transfer) :
    burstIndices transfer.windowIndex transfer.unacknowledgedCount =
      (List.range (transfer.blocksRead - acked)).map fun v => UInt16.ofNat (acked + 1 + v) := by
  rw [PeerHandler.burstIndices, flying.unacknowledgedCount]
  apply List.map_congr_left
  intro v _
  exact flying.index v

/-- The line ends with the datagrams of the blocks in flight. -/
theorem Burst.sent_positions {sending : Sending O} {toSend : UInt16}
    (burst : Burst file sending toSend acked) :
    ∃ earlier, sending.line.sent = earlier ++
      (List.range' (acked + 1) (sending.transfer.blocksRead - acked)).map fun position =>
        .block (UInt16.ofNat position) (sending.transfer.window.send (UInt16.ofNat position)) := by
  obtain ⟨earlier, sent⟩ := burst.latest
  refine ⟨earlier, ?_⟩
  rw [sent, burst.count, burst.toFlying.burstIndices, emissions, List.map_map,
    List.range'_eq_map_range, List.map_map]
  rfl

/-- More reads keep the earlier datagrams exact. -/
theorem Traced.mono {rounds : Nat} (traced : Traced file transfer line)
    (filled : Filled transfer next rounds) : Traced file next line := by
  intro index datagram member
  have size := filled.blocksRead
  obtain ⟨position, positive, within, same, bytes⟩ := traced index datagram member
  refine ⟨position, positive, by omega, same, ?_⟩
  intro exact_
  have earlier : Exact transfer := by
    unfold Exact at exact_ ⊢
    rw [filled.length] at exact_
    exact exact_.imp_right fun bounded => by omega
  rw [filled.blockSize]
  exact bytes earlier

/-- The datagrams of a burst in flight are exact. -/
theorem Flying.emissions_exact (flying : Flying file acked transfer) {index : UInt16}
    {datagram : List UInt8}
    (member : .block index datagram ∈ emissions transfer.window
      (PeerHandler.burstIndices transfer.windowIndex transfer.unacknowledgedCount)) :
    ∃ position, 1 ≤ position ∧ position ≤ transfer.blocksRead ∧ index = UInt16.ofNat position ∧
      (Exact transfer →
        datagram = blockDatagram file transfer.window.blockSize.toNat position) := by
  rw [flying.burstIndices] at member
  simp only [emissions, List.map_map, List.mem_map, List.mem_range, Function.comp_apply,
    Emission.block.injEq] at member
  obtain ⟨v, inside, rfl, rfl⟩ := member
  refine ⟨acked + 1 + v, by omega, by omega, rfl, ?_⟩
  intro exact_
  exact flying.held exact_ _ (by omega) (by omega)

/-- An attempt of a flying burst is sound. -/
theorem Flying.attempt (flying : Flying file acked transfer)
    (traced : Traced file transfer line) (pending : acked < transfer.blocksRead)
    (attempts : Nat) :
    Sound file (attempt transfer transfer.unacknowledgedCount line attempts) := by
  cases attempts with
  | zero => exact ⟨flying.toReading, traced, fun _ _ waiting => by cases waiting⟩
  | succ attempts =>
      have sends := sendBlocks_sent transfer.window
        (PeerHandler.burstIndices transfer.windowIndex transfer.unacknowledgedCount) line
      unfold PeerHandler.attempt
      cases sent : sendBlocks transfer.window
        (PeerHandler.burstIndices transfer.windowIndex transfer.unacknowledgedCount) line with
      | mk verdict after =>
          rw [sent] at sends
          obtain ⟨count, appended, complete⟩ := sends
          have exactly : Traced file transfer after := by
            intro index datagram member
            rw [appended, List.mem_append] at member
            rcases member with old | new
            · exact traced index datagram old
            · exact flying.emissions_exact (List.mem_of_mem_take new)
          cases verdict with
          | false => exact ⟨flying.toReading, exactly, fun _ _ waiting => by cases waiting⟩
          | true =>
              refine ⟨flying.toReading, exactly, ?_⟩
              intro toSend left waiting
              simp only [Status.awaiting.injEq] at waiting
              obtain ⟨rfl, rfl⟩ := waiting
              refine ⟨acked, flying, rfl, pending, line.sent, ?_⟩
              dsimp only at appended ⊢
              rw [appended, List.take_of_length_le]
              rw [emissions, List.length_map]
              exact complete rfl

/-- The head of the loop is sound for a flying transfer with room in its window. -/
theorem Flying.enterLoop (flying : Flying file acked transfer)
    (traced : Traced file transfer line)
    (spare : transfer.blocksRead < acked + transfer.window.buffers.length) :
    Sound file (enterLoop transfer line) := by
  unfold PeerHandler.enterLoop
  cases finished : transfer.done with
  | true => exact ⟨flying.toReading, traced, fun _ _ waiting => by cases waiting⟩
  | false =>
      cases filled : transfer.fill with
      | mk result next =>
          have inFlight := flying.fill finished filled
          obtain ⟨rounds, _, shape, _⟩ := fillWindow_filled _ _ _ _ _ filled
          have kept := traced.mono shape
          simp only [Bool.false_eq_true, if_false]
          cases result with
          | error error => exact ⟨inFlight.toReading, kept, fun _ _ waiting => by cases waiting⟩
          | ok toSend =>
              have ordered := flying.ordered
              have advanced := flying.fill_reads spare filled
              dsimp only
              rw [Transfer.fill_count filled]
              exact inFlight.attempt kept (by omega) sendAttempts

/-- An acknowledge of a block in flight moves the acknowledged position to it. -/
theorem Flying.acknowledge (flying : Flying file acked transfer) {v : Nat}
    (inside : v < transfer.blocksRead - acked) :
    Flying file (acked + 1 + v)
      { transfer with lastAcknowledgedIndex := transfer.windowIndex + UInt16.ofNat v } := by
  have room := flying.room
  refine ⟨⟨flying.opened, flying.lastReadIndex, flying.readable, flying.done,
    flying.bytesSent⟩, ?_, ?_, ?_, ?_⟩
  · exact flying.index v
  · dsimp only
    omega
  · dsimp only
    omega
  · intro exact_ position after within
    exact flying.held exact_ position (by omega) within

/-- A step with a bounded acknowledge keeps the run sound. -/
theorem Sound.resume {sending : Sending O} (sound : Sound file sending) (ack : AckResult)
    (permitted : Bounded sending ack) : Sound file (sending.resume ack) := by
  cases status : sending.status with
  | returned result => rwa [Sending.resume_returned status]
  | awaiting toSend attempts =>
      obtain ⟨acked, burst⟩ := sound.burst toSend attempts status
      have flying := burst.toFlying
      have ended (line : Line) (result : Except TFTPError (Nat × Nat))
          (traced : Traced file sending.transfer line) :
          Sound file ⟨sending.transfer, line, .returned result⟩ :=
        ⟨sound.reading, traced, fun _ _ waiting => by cases waiting⟩
      rcases ack with error | index
      · by_cases timeout : error = .timeout
        · subst error
          rw [Sending.resume_timeout status, burst.count]
          exact flying.attempt sound.traced burst.pending attempts
        · obtain ⟨failure, failed, _⟩ := Sending.resume_failed status timeout
          rw [failed]
          exact ended _ _ sound.traced
      · by_cases accepted : sending.transfer.windowIndex ≤ index
        · obtain ⟨v, inside, rfl⟩ := (inBurst_iff_bounded _ _ _ accepted).mpr
            (permitted index toSend attempts rfl status)
          rw [Sending.resume_accepted status accepted]
          rw [burst.count, flying.unacknowledgedCount] at inside
          have room := flying.room
          apply (flying.acknowledge inside).enterLoop sound.traced
          dsimp only
          omega
        · rw [Sending.resume_past status accepted]
          apply ended
          intro index datagram member
          rw [fireError_sent, List.mem_append, List.mem_singleton] at member
          rcases member with old | new
          · exact sound.traced index datagram old
          · cases new

/-- A transfer starts with nothing in flight. -/
theorem Flying.new (file : O) (window : Window) : Flying file 0 (Transfer.new file window) := by
  apply Flying.mk (Reading.new file window) rfl (Nat.le_refl 0) (Nat.zero_le _)
  intro _ position after within
  simp only [Transfer.new] at within
  omega

/-- Every state that bounded acknowledges reach is sound. -/
theorem sound_of_bounded (openedFile : O) (window : Window) (verdicts : List Bool)
    {sending : Sending O}
    (reached : Reach Sending.resume Bounded (Sending.start openedFile window verdicts) sending) :
    Sound openedFile sending := by
  apply reached.invariant (Sound openedFile)
  · apply (Flying.new openedFile window).enterLoop
    · exact fun index datagram member => absurd member List.not_mem_nil
    · have occupied := window.occupied
      simp only [Transfer.new]
      omega
  · intro state ack sound permitted
    exact sound.resume ack permitted

/-- Every state that acknowledges of bursts reach is sound. -/
theorem sound_of_reach (openedFile : O) (window : Window) (verdicts : List Bool)
    {sending : Sending O}
    (reached : Reach Sending.resume InBurst (Sending.start openedFile window verdicts) sending) :
    Sound openedFile sending :=
  sound_of_bounded openedFile window verdicts (reached.mono fun _ _ permitted => permitted.bounded)

end Rtftp.PeerHandler

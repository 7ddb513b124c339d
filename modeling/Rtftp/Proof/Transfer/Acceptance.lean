import Rtftp.Proof.Transfer.Advance

namespace Rtftp.PeerHandler
open Library

variable {O : Type} [OpenedFile O] {file : O} {window : Window} {sending : Sending O}
  {toSend : UInt16} {attempts : Nat}

/-- The call of `send_reliably` returns the acknowledged index, and `send_file` goes on with it. -/
def Accepts (sending : Sending O) (index : UInt16) : Prop :=
  answer sending.transfer.windowIndex sending.line (.ok index) =
      (some (.ok index), sending.line) ∧
    sending.resume (.ok index) =
      enterLoop { sending.transfer with lastAcknowledgedIndex := index } sending.line

/-- Every index of the current burst is accepted. -/
def AcceptsBurst (sending : Sending O) : Prop :=
  ∀ toSend attempts, sending.status = .awaiting toSend attempts →
    ∀ v < toSend.toNat, Accepts sending (sending.transfer.windowIndex + UInt16.ofNat v)

omit [OpenedFile O] in
/-- A call returns an index exactly when the plain comparison lets it pass. -/
theorem answer_ok_iff (windowIndex index : UInt16) (line : Line) (ack : AckResult) :
    (answer windowIndex line ack).1 = some (.ok index) ↔
      ack = .ok index ∧ windowIndex ≤ index := by
  rcases ack with error | received
  · cases error <;> simp [answer]
  · by_cases accepted : windowIndex ≤ received
    · simp only [answer, if_pos accepted, Option.some.injEq, Except.ok.injEq]
      constructor
      · rintro rfl
        exact ⟨rfl, accepted⟩
      · exact And.left
    · simp only [answer, if_neg accepted, Option.some.injEq, reduceCtorEq, false_iff, not_and,
        Except.ok.injEq]
      rintro rfl
      exact accepted

/-- A waiting transfer accepts exactly the indices from its window index on. -/
theorem accepts_iff (waiting : sending.status = .awaiting toSend attempts) (index : UInt16) :
    Accepts sending index ↔ sending.transfer.windowIndex ≤ index := by
  constructor
  · rintro ⟨returned, _⟩
    have passed := congrArg Prod.fst returned
    exact ((answer_ok_iff _ _ _ _).mp passed).2
  · intro accepted
    exact ⟨by simp only [answer, if_pos accepted], Sending.resume_accepted waiting accepted⟩

/-- A burst is accepted as a whole exactly when its indices do not wrap. -/
theorem acceptsBurst_iff (waiting : sending.status = .awaiting toSend attempts) :
    AcceptsBurst sending ↔
      sending.transfer.windowIndex.toNat + toSend.toNat ≤ 65536 := by
  have first := sending.transfer.windowIndex.toNat_lt
  have narrow := toSend.toNat_lt
  have compare (v : Nat) (inside : v < toSend.toNat) :
      Accepts sending (sending.transfer.windowIndex + UInt16.ofNat v) ↔
        sending.transfer.windowIndex.toNat + v < 65536 := by
    rw [accepts_iff waiting, UInt16.le_iff_toNat_le, UInt16.toNat_add, UInt16.toNat_ofNat']
    omega
  constructor
  · intro accepted
    by_cases empty : toSend.toNat = 0
    · omega
    · have last := (compare (toSend.toNat - 1) (by omega)).mp
        (accepted toSend attempts waiting _ (by omega))
      omega
  · intro unwrapped count left status v inside
    rw [waiting] at status
    simp only [Status.awaiting.injEq] at status
    obtain ⟨rfl, rfl⟩ := status
    exact (compare v inside).mpr (by omega)

/-- A burst of a single block, or one that ends before the wrap, is accepted as a whole. -/
theorem Sound.acceptsBurst (sound : Sound file sending)
    (safe : sending.transfer.window.buffers.length = 1 ∨ sending.transfer.blocksRead ≤ 65535) :
    AcceptsBurst sending := by
  cases status : sending.status with
  | returned result =>
      intro toSend attempts waiting
      rw [status] at waiting
      cases waiting
  | awaiting toSend attempts =>
      obtain ⟨acked, burst⟩ := sound.burst toSend attempts status
      rw [acceptsBurst_iff status, burst.count, burst.unacknowledgedCount]
      have room := burst.room
      have pending := burst.pending
      have first := sending.transfer.windowIndex.toNat_lt
      rcases safe with single | unwrapped
      · omega
      · have index : sending.transfer.windowIndex.toNat = acked + 1 := by
          rw [Transfer.windowIndex, burst.acknowledged, serial_succ]
          exact serial_toNat _ (by omega)
        omega

/-- A file with 65536 blocks takes every larger window to a burst that wraps. -/
theorem acceptsBurst_fails (openedFile : O) (window : Window)
    (several : window.buffers.length ≠ 1)
    (long : Readable openedFile window.blockSize.toNat 65536) :
    ∃ sending, Reach Sending.resume InBurst (Sending.start openedFile window []) sending ∧
      ¬ AcceptsBurst sending := by
  have narrow := window.narrow
  have occupied := window.occupied
  obtain ⟨sending, reached, waiting⟩ := waiting_reached openedFile window
    (65536 - window.buffers.length) (by rwa [Nat.sub_add_cancel (by omega)])
  obtain ⟨attempts, status⟩ := waiting.status
  have flying := waiting.flying
  refine ⟨sending, reached.mono fun _ _ permitted => permitted.1, ?_⟩
  rw [acceptsBurst_iff status, flying.unacknowledgedCount, waiting.read, Transfer.windowIndex,
    flying.acknowledged, serial_succ, serial_toNat _ (by omega)]
  omega

/-- Every acknowledge of a burst is accepted exactly while the burst does not wrap. Over whole
runs this means a window of one block or a file with fewer than 65536 blocks. -/
theorem legitimateAcks_accepted_iff (openedFile : O) (blockSize windowSize : UInt16)
    (positive : 0 < windowSize.toNat) :
    (∀ (sending : Sending O) toSend attempts, sending.status = .awaiting toSend attempts →
      (AcceptsBurst sending ↔
        sending.transfer.windowIndex.toNat + toSend.toNat ≤ 65536)) ∧
    ((∀ verdicts sending, Reach Sending.resume InBurst
      (Sending.start openedFile (Window.new blockSize windowSize positive) verdicts) sending →
        AcceptsBurst sending) ↔
      windowSize = 1 ∨ ¬ Readable openedFile blockSize.toNat 65536) := by
  have length := Window.new_length blockSize windowSize positive
  constructor
  · intro sending toSend attempts waiting
    exact acceptsBurst_iff waiting
  constructor
  · intro accepted
    by_contra neither
    rw [not_or, not_not] at neither
    obtain ⟨several, long⟩ := neither
    obtain ⟨sending, reached, refused⟩ := acceptsBurst_fails openedFile
      (Window.new blockSize windowSize positive)
      (by rw [length]; exact fun one => several (UInt16.toNat.inj one)) long
    exact refused (accepted [] sending reached)
  · intro condition verdicts sending reached
    have sound := sound_of_reach openedFile _ verdicts reached
    have tracked := tracked_of_reach openedFile _ verdicts reached
    apply sound.acceptsBurst
    rw [tracked.length, length]
    rcases condition with single | short
    · subst windowSize
      exact .inl rfl
    · exact .inr (tracked.unwrapped short)

/-- A window of one block accepts the acknowledge of its second burst. -/
theorem legitimateAcks_accepted_lockstep :
    AcceptsBurst ((Sending.start (VirtualOpenedFile.new (List.replicate 20 7))
      (Window.new 8 1 (by decide)) []).resume (.ok 1)) := by
  have inside : InBurst (Sending.start (VirtualOpenedFile.new (List.replicate 20 7))
      (Window.new 8 1 (by decide)) []) (.ok 1) :=
    inBurst_ok (show _ = Status.awaiting 1 4 by decide) ⟨0, by decide, by decide⟩
  exact (legitimateAcks_accepted_iff (VirtualOpenedFile.new (List.replicate 20 7)) 8 1
    (by decide)).2.mpr (.inl rfl) [] _ (.next .start inside)

/-- A window of two blocks refuses the acknowledge of the wrapped block of a long file. -/
theorem legitimateAcks_refused :
    ¬ ∀ verdicts sending, Reach Sending.resume InBurst
      (Sending.start (VirtualOpenedFile.new (List.replicate (65535 * 8) 0))
        (Window.new 8 2 (by decide)) verdicts) sending → AcceptsBurst sending := by
  intro accepted
  have long : Readable (VirtualOpenedFile.new (List.replicate (65535 * 8) 0)) 8 65536 :=
    readable_replicate 65535 0 (by decide)
  obtain ⟨sending, reached, refused⟩ := acceptsBurst_fails
    (VirtualOpenedFile.new (List.replicate (65535 * 8) 0)) (Window.new 8 2 (by decide))
    (by decide) long
  exact refused (accepted [] sending reached)

/-- The acknowledged position counts the blocks of the file that the peer has acknowledged. -/
def Transfer.acknowledgedPosition (transfer : Transfer O) : Int :=
  transfer.blocksRead - transfer.unacknowledgedCount.toNat

/-- An acknowledge that `send_reliably` returns is in the burst and moves the position on, and
both assertions of the next pass hold. -/
def KeepsFlight (sending : Sending O) (ack : AckResult) : Prop :=
  ∀ index toSend attempts, sending.status = .awaiting toSend attempts →
    (answer sending.transfer.windowIndex sending.line ack).1 = some (.ok index) →
      let next := { sending.transfer with lastAcknowledgedIndex := index }
      (∃ v < toSend.toNat, index = sending.transfer.windowIndex + UInt16.ofNat v) ∧
      sending.transfer.acknowledgedPosition < next.acknowledgedPosition ∧
      next.unacknowledgedCount ≤ next.window.size ∧
      ∀ count filled, next.done = false → next.fill = (.ok count, filled) →
        count ≤ filled.window.size

/-- The burst fits in the window, and every transmitted index was read. -/
structure InFlightOnly (sending : Sending O) : Prop where
  burst : ∀ toSend attempts, sending.status = .awaiting toSend attempts →
    toSend ≤ sending.transfer.window.size
  read : ∀ index datagram, .block index datagram ∈ sending.line.sent →
    ∃ position, 1 ≤ position ∧ position ≤ sending.transfer.blocksRead ∧
      index = UInt16.ofNat position

/-- The blocks in flight always fit in the window. -/
theorem Flying.unacknowledgedCount_le {transfer : Transfer O} {acked : Nat}
    (flying : Flying file acked transfer) :
    transfer.unacknowledgedCount ≤ transfer.window.size := by
  have room := flying.room
  rw [UInt16.le_iff_toNat_le, flying.unacknowledgedCount, Window.size_toNat]
  omega

/-- The acknowledged position of a flying transfer is its number of acknowledged blocks. -/
theorem Flying.acknowledgedPosition {transfer : Transfer O} {acked : Nat}
    (flying : Flying file acked transfer) : transfer.acknowledgedPosition = acked := by
  have ordered := flying.ordered
  rw [Transfer.acknowledgedPosition, flying.unacknowledgedCount]
  omega

/-- A sound state has only blocks in flight. -/
theorem Sound.inFlightOnly (sound : Sound file sending) : InFlightOnly sending := by
  constructor
  · intro toSend attempts waiting
    obtain ⟨acked, burst⟩ := sound.burst toSend attempts waiting
    rw [burst.count]
    exact burst.unacknowledgedCount_le
  · intro index datagram member
    obtain ⟨position, counted, within, same, _⟩ := sound.traced index datagram member
    exact ⟨position, counted, within, same⟩

/-- A sound state keeps its flight under exactly the bounded acknowledges. -/
theorem Sound.keepsFlight_iff (sound : Sound file sending) (ack : AckResult) :
    KeepsFlight sending ack ↔ Bounded sending ack := by
  constructor
  · intro keeps index toSend attempts same waiting
    by_cases accepted : sending.transfer.windowIndex ≤ index
    · have returned := (answer_ok_iff _ _ sending.line _).mpr ⟨same, accepted⟩
      exact (inBurst_iff_bounded _ _ _ accepted).mp
        (keeps index toSend attempts waiting returned).1
    · have below := mt UInt16.le_iff_toNat_le.mpr accepted
      omega
  · intro bounded index toSend attempts waiting returned next
    obtain ⟨same, accepted⟩ := (answer_ok_iff _ _ _ _).mp returned
    obtain ⟨v, inside, rfl⟩ := (inBurst_iff_bounded _ _ _ accepted).mpr
      (bounded index toSend attempts same waiting)
    obtain ⟨acked, burst⟩ := sound.burst toSend attempts waiting
    have place := inside
    rw [burst.count, burst.unacknowledgedCount] at place
    have flying := burst.toFlying.acknowledge place
    refine ⟨⟨v, inside, rfl⟩, ?_, flying.unacknowledgedCount_le, ?_⟩
    · rw [burst.acknowledgedPosition, flying.acknowledgedPosition]
      omega
    · intro count filled unfinished full
      rw [Transfer.fill_count full]
      exact (flying.fill unfinished full).unacknowledgedCount_le

/-- In runs whose acknowledges are not past their bursts, only blocks in flight are acknowledged
and sent, and at each state exactly these acknowledges are safe. -/
theorem onlyInFlightAcks_accepted (openedFile : O) (blockSize windowSize : UInt16)
    (positive : 0 < windowSize.toNat) (verdicts : List Bool) (sending : Sending O)
    (reached : Reach Sending.resume Bounded
      (Sending.start openedFile (Window.new blockSize windowSize positive) verdicts) sending) :
    InFlightOnly sending ∧ ∀ ack, KeepsFlight sending ack ↔ Bounded sending ack := by
  have sound := sound_of_bounded openedFile _ verdicts reached
  constructor
  · exact sound.inFlightOnly
  · intro ack
    exact sound.keepsFlight_iff ack

/-- The acknowledge of the second block of the first burst is in flight. -/
theorem onlyInFlightAcks_accepted_two :
    KeepsFlight (Sending.start (VirtualOpenedFile.new (List.replicate 20 7))
      (Window.new 8 2 (by decide)) []) (.ok 2) := by
  apply ((onlyInFlightAcks_accepted (VirtualOpenedFile.new (List.replicate 20 7)) 8 2 (by decide) []
    _ .start).2 (.ok 2)).mpr
  intro index toSend attempts same waiting
  have status : (Sending.start (VirtualOpenedFile.new (List.replicate 20 7))
      (Window.new 8 2 (by decide)) []).status = .awaiting 2 4 := by decide
  rw [status] at waiting
  simp only [Status.awaiting.injEq] at waiting
  obtain ⟨rfl, rfl⟩ := waiting
  obtain rfl := Except.ok.inj same
  decide

/-- A lockstep transfer that has sent block one takes an acknowledge of block 65535. -/
theorem neverSentAck_accepted :
    ¬ ∀ sending, Reach Sending.resume (fun _ _ => True)
      (Sending.start (VirtualOpenedFile.new (List.replicate 20 7))
        (Window.new 8 1 (by decide)) []) sending →
      InFlightOnly sending ∧ ∀ ack, KeepsFlight sending ack := by
  intro safe
  obtain ⟨v, inside, same⟩ := ((safe _ .start).2 (.ok 65535) 65535 1 4 (by decide) (by decide)).1
  change v < 1 at inside
  obtain rfl : v = 0 := by omega
  exact absurd same (by decide)

end Rtftp.PeerHandler

import Rtftp.Proof.Transfer.Advance

namespace Rtftp.PeerHandler
open Library

variable {O : Type} {transfer : Transfer O} {line : Line} {toSend : UInt16} {attempts : Nat}

/-- An attempt never ends a transfer with success. -/
theorem attempt_returned {result : Except TFTPError (Nat × Nat)}
    (returned : (attempt transfer toSend line attempts).status = .returned result) :
    ∃ error, result = .error error := by
  cases attempts with
  | zero =>
      cases returned
      exact ⟨_, rfl⟩
  | succ attempts =>
      unfold attempt at returned
      dsimp only at returned
      split at returned
      · cases returned
        exact ⟨_, rfl⟩
      · cases returned

variable [OpenedFile O] {file : O} {window : Window} {sending : Sending O}

/-- The loop ends with success only where it has found its last block before. -/
theorem enterLoop_returned {totals : Nat × Nat}
    (returned : (enterLoop transfer line).status = .returned (.ok totals)) :
    transfer.done = true := by
  unfold enterLoop at returned
  split at returned
  · assumption
  · split at returned
    · cases returned
    · obtain ⟨error, impossible⟩ := attempt_returned returned
      cases impossible

/-- The loop ends at its head when the last block was read. -/
theorem enterLoop_done (transfer : Transfer O) (line : Line) (finished : transfer.done = true) :
    enterLoop transfer line =
      ⟨transfer, line, .returned (.ok (transfer.bytesSent, transfer.blocksSent))⟩ := by
  rw [enterLoop, if_pos finished]

/-- A transfer that has ended with success has an acknowledge of its final short block. -/
def Complete (file : O) (sending : Sending O) : Prop :=
  ∀ totals, sending.status = .returned (.ok totals) →
    sending.transfer.lastAcknowledgedIndex = sending.transfer.lastReadIndex ∧
      Ends file sending.transfer.window.blockSize.toNat sending.transfer.blocksRead

/-- An accepted acknowledge of the final burst names the last block of that burst. -/
def FinalAcknowledge (sending : Sending O) (ack : AckResult) : Prop :=
  ∀ index toSend attempts, ack = .ok index → sending.status = .awaiting toSend attempts →
    sending.transfer.done = true → sending.transfer.windowIndex ≤ index →
      index = sending.transfer.windowIndex + (toSend - 1)

/-- The last index of a burst is the last index that was read. -/
theorem Tracked.lastIndex (tracked : Tracked file window sending)
    (waiting : sending.status = .awaiting toSend attempts) :
    sending.transfer.windowIndex + (toSend - 1) = sending.transfer.lastReadIndex := by
  rw [tracked.count toSend attempts waiting, Transfer.windowIndex, Transfer.unacknowledgedCount]
  grind

/-- A finished transfer has read its file to the end. -/
theorem Reading.ends (reading : Reading file transfer) (finished : transfer.done = true) :
    Ends file transfer.window.blockSize.toNat transfer.blocksRead :=
  ⟨(reading.done.mp finished).1, reading.readable, (reading.done.mp finished).2⟩

/-- An accepted acknowledge of the final burst always ends the transfer, and it completes it
exactly when it names the last block. -/
theorem Tracked.complete_iff (tracked : Tracked file window sending)
    (waiting : sending.status = .awaiting toSend attempts) (finished : sending.transfer.done = true)
    {index : UInt16} (accepted : sending.transfer.windowIndex ≤ index) :
    Complete file (sending.resume (.ok index)) ↔
      index = sending.transfer.windowIndex + (toSend - 1) := by
  rw [Sending.resume_accepted waiting accepted, tracked.lastIndex waiting,
    enterLoop_done { sending.transfer with lastAcknowledgedIndex := index } _ finished]
  constructor
  · intro complete
    exact (complete _ rfl).1
  · intro last totals _
    exact ⟨last, tracked.ends finished⟩

/-- A step without an ERROR from the peer completes the transfer or goes on. -/
theorem Tracked.complete_resume (tracked : Tracked file window sending)
    (complete : Complete file sending) {ack : AckResult} (quiet : NoPeerError ack)
    (final : FinalAcknowledge sending ack) : Complete file (sending.resume ack) := by
  cases status : sending.status with
  | returned result => rwa [Sending.resume_returned status]
  | awaiting toSend attempts =>
      rcases ack with error | index
      · by_cases timeout : error = .timeout
        · subst error
          rw [Sending.resume_timeout status]
          intro totals returned
          obtain ⟨error, impossible⟩ := attempt_returned returned
          cases impossible
        · obtain ⟨failure, failed, origin⟩ := Sending.resume_failed status timeout
          rw [failed]
          intro totals returned
          cases failure with
          | clientError code message =>
              exact absurd (congrArg Except.error (origin code message rfl)) (quiet code message)
          | network => cases returned
          | timeout => cases returned
          | ackError => cases returned
      · by_cases accepted : sending.transfer.windowIndex ≤ index
        · cases finished : sending.transfer.done with
          | true =>
              rw [tracked.complete_iff status finished accepted]
              exact final index toSend attempts rfl status finished accepted
          | false =>
              rw [Sending.resume_accepted status accepted]
              intro totals returned
              have done := enterLoop_returned returned
              rw [finished] at done
              cases done
        · rw [Sending.resume_past status accepted]
          intro totals returned
          cases returned

/-- Runs without an ERROR from the peer complete when their final bursts are acknowledged. -/
theorem complete_of_reach (openedFile : O) (window : Window) (verdicts : List Bool)
    (reached : Reach Sending.resume
      (fun state ack => NoPeerError ack ∧ FinalAcknowledge state ack)
      (Sending.start openedFile window verdicts) sending) : Complete openedFile sending := by
  induction reached with
  | start =>
      intro totals returned
      have done := enterLoop_returned returned
      cases done
  | next earlier permitted ih =>
      have tracked := tracked_of_reach openedFile window verdicts earlier
      exact tracked.complete_resume ih permitted.1 permitted.2

omit [OpenedFile O] in
/-- Acknowledges of bursts of one block are final. -/
theorem InBurst.finalAcknowledge {ack : AckResult} (inside : InBurst sending ack)
    (single : ∀ toSend attempts, sending.status = .awaiting toSend attempts →
      sending.transfer.done = true → toSend.toNat ≤ 1) : FinalAcknowledge sending ack := by
  intro index toSend attempts same waiting finished _
  obtain ⟨v, before, rfl⟩ := inside index toSend attempts same waiting
  have one := single toSend attempts waiting finished
  obtain rfl : v = 0 := by omega
  obtain rfl : toSend = 1 := UInt16.toNat.inj (by change toSend.toNat = 1; omega)
  rfl

/-- Acknowledges of bursts complete every run of a window of one block or a file of one block. -/
theorem complete_of_inBurst (openedFile : O) (window : Window) (verdicts : List Bool)
    (condition : window.buffers.length = 1 ∨
      ∀ count, 2 ≤ count → ¬ Ends openedFile window.blockSize.toNat count)
    (reached : Reach Sending.resume (fun state ack => InBurst state ack ∧ NoPeerError ack)
      (Sending.start openedFile window verdicts) sending) : Complete openedFile sending := by
  apply complete_of_reach openedFile window verdicts
  apply reached.narrow
  rintro state ack earlier ⟨inside, quiet⟩
  have sound := sound_of_reach openedFile window verdicts
    (earlier.mono fun _ _ permitted => permitted.1)
  have tracked := tracked_of_reach openedFile window verdicts earlier
  refine ⟨quiet, inside.finalAcknowledge ?_⟩
  intro toSend attempts waiting finished
  obtain ⟨acked, burst⟩ := sound.burst toSend attempts waiting
  have room := burst.room
  rw [tracked.length] at room
  rw [burst.count, burst.unacknowledgedCount]
  rcases condition with single | short
  · omega
  · have ends := sound.reading.ends finished
    rw [tracked.blockSize] at ends
    by_contra more
    exact short state.transfer.blocksRead (by omega) ends

/-- Acknowledges of the first block of each burst lead to the burst with the last block. -/
theorem waiting_last (openedFile : O) (window : Window) {count : Nat}
    (ends : Ends openedFile window.blockSize.toNat count) :
    ∃ sending, Reach Sending.resume (fun state ack => InBurst state ack ∧ NoPeerError ack)
        (Sending.start openedFile window []) sending ∧
      Waiting openedFile window (count - window.buffers.length) count sending ∧
      sending.transfer.done = true := by
  have arrived : ∃ sending, Reach Sending.resume
      (fun state ack => InBurst state ack ∧ NoPeerError ack)
      (Sending.start openedFile window []) sending ∧
      Waiting openedFile window (count - window.buffers.length) count sending := by
    by_cases fits : count ≤ window.buffers.length
    · have started := waiting_start openedFile window ends.readable (.inr ends)
      rw [Nat.min_eq_right fits] at started
      rw [Nat.sub_eq_zero_of_le fits]
      exact ⟨_, .start, started⟩
    · have total : count - window.buffers.length + window.buffers.length = count := by omega
      obtain ⟨sending, reached, waiting⟩ := waiting_reached openedFile window
        (count - window.buffers.length) (by rw [total]; exact ends.readable)
      rw [total] at waiting
      exact ⟨sending, reached, waiting⟩
  obtain ⟨sending, reached, waiting⟩ := arrived
  have finished : sending.transfer.done = true := by
    rw [waiting.flying.done, waiting.read, waiting.shaped.blockSize]
    exact ⟨ends.some, ends.short⟩
  exact ⟨sending, reached, waiting, finished⟩

/-- A window of several blocks ends a file of several blocks before its last acknowledge. -/
theorem complete_fails (openedFile : O) (window : Window) (several : window.buffers.length ≠ 1)
    {count : Nat} (more : 2 ≤ count) (ends : Ends openedFile window.blockSize.toNat count) :
    ∃ sending, Reach Sending.resume (fun state ack => InBurst state ack ∧ NoPeerError ack)
        (Sending.start openedFile window []) sending ∧ ¬ Complete openedFile sending := by
  have occupied := window.occupied
  obtain ⟨sending, reached, waiting, finished⟩ := waiting_last openedFile window ends
  obtain ⟨attempts, status⟩ := waiting.status
  have flying := waiting.flying
  have flight := flying.unacknowledgedCount
  have read := waiting.read
  have tracked := tracked_of_reach openedFile window [] reached
  have permitted : InBurst sending (.ok (sending.transfer.windowIndex + UInt16.ofNat 0)) :=
    inBurst_ok status ⟨0, by omega, rfl⟩
  refine ⟨_, reached.next ⟨permitted, fun _ _ same => by cases same⟩, ?_⟩
  rw [tracked.complete_iff status finished (by
    rw [show UInt16.ofNat 0 = 0 from rfl, UInt16.add_zero]
    exact UInt16.le_refl _)]
  intro last
  have offset : UInt16.ofNat 0 = sending.transfer.unacknowledgedCount - 1 :=
    (UInt16.add_right_inj _).mp last
  have one : sending.transfer.unacknowledgedCount = 1 := by
    rw [← UInt16.sub_add_cancel sending.transfer.unacknowledgedCount 1, ← offset]
    rfl
  rw [one] at flight
  change 1 = _ at flight
  omega

/-- A transfer without an ERROR from the peer ends complete exactly when the accepted acknowledge of
its final burst names the last block. With acknowledges of bursts only, every run is such a run
exactly for a window of one block or a file of one block. -/
theorem completedTransfer_acknowledged_iff (openedFile : O) (blockSize windowSize : UInt16)
    (positive : 0 < windowSize.toNat) :
    (∀ verdicts sending, Reach Sending.resume
      (fun state ack => NoPeerError ack ∧ FinalAcknowledge state ack)
      (Sending.start openedFile (Window.new blockSize windowSize positive) verdicts) sending →
        Complete openedFile sending) ∧
    (∀ verdicts sending toSend attempts index, Reach Sending.resume (fun _ _ => True)
      (Sending.start openedFile (Window.new blockSize windowSize positive) verdicts) sending →
      sending.status = .awaiting toSend attempts → sending.transfer.done = true →
      sending.transfer.windowIndex ≤ index →
        (Complete openedFile (sending.resume (.ok index)) ↔
          index = sending.transfer.windowIndex + (toSend - 1))) ∧
    ((∀ verdicts sending, Reach Sending.resume
      (fun state ack => InBurst state ack ∧ NoPeerError ack)
      (Sending.start openedFile (Window.new blockSize windowSize positive) verdicts) sending →
        Complete openedFile sending) ↔
      windowSize = 1 ∨ ∀ count, 2 ≤ count → ¬ Ends openedFile blockSize.toNat count) := by
  have length := Window.new_length blockSize windowSize positive
  refine ⟨?_, ?_, ?_, ?_⟩
  · intro verdicts sending reached
    exact complete_of_reach openedFile _ verdicts reached
  · intro verdicts sending toSend attempts index reached waiting finished accepted
    exact (tracked_of_reach openedFile _ verdicts reached).complete_iff waiting finished accepted
  · intro complete
    by_contra neither
    rw [not_or] at neither
    obtain ⟨several, long⟩ := neither
    simp only [not_forall, not_not] at long
    obtain ⟨count, more, ends⟩ := long
    obtain ⟨sending, reached, early⟩ := complete_fails openedFile
      (Window.new blockSize windowSize positive)
      (by rw [length]; exact fun one => several (UInt16.toNat.inj one)) more ends
    exact early (complete [] sending reached)
  · intro condition verdicts sending reached
    apply complete_of_inBurst openedFile _ verdicts _ reached
    rw [length]
    exact condition.imp_left fun single => congrArg UInt16.toNat single

/-- A lockstep transfer of two blocks is complete after both acknowledges. -/
theorem completedTransfer_acknowledged_lockstep :
    Complete (VirtualOpenedFile.new (List.replicate 12 7))
      (((Sending.start (VirtualOpenedFile.new (List.replicate 12 7))
        (Window.new 8 1 (by decide)) []).resume (.ok 1)).resume (.ok 2)) := by
  have first : InBurst (Sending.start (VirtualOpenedFile.new (List.replicate 12 7))
      (Window.new 8 1 (by decide)) []) (.ok 1) :=
    inBurst_ok (show _ = Status.awaiting 1 4 by decide) ⟨0, by decide, by decide⟩
  have second : InBurst ((Sending.start (VirtualOpenedFile.new (List.replicate 12 7))
      (Window.new 8 1 (by decide)) []).resume (.ok 1)) (.ok 2) :=
    inBurst_ok (show _ = Status.awaiting 1 4 by decide) ⟨0, by decide, by decide⟩
  have friendly (index : UInt16) : NoPeerError (.ok index) := fun _ _ same => by cases same
  exact (completedTransfer_acknowledged_iff (VirtualOpenedFile.new (List.replicate 12 7)) 8 1
    (by decide)).2.2.mpr (.inl rfl) [] _
      (.next (.next .start ⟨first, friendly 1⟩) ⟨second, friendly 2⟩)

/-- A file of three blocks in one burst ends with success after an acknowledge of its first
block. -/
theorem completedTransfer_early :
    ¬ ∀ sending, Reach Sending.resume (fun _ ack => NoPeerError ack)
      (Sending.start (VirtualOpenedFile.new (List.replicate 20 7)) (Window.new 8 4 (by decide)) [])
      sending → Complete (VirtualOpenedFile.new (List.replicate 20 7)) sending := by
  intro complete
  have partially : NoPeerError (.ok 1) := fun _ _ same => by cases same
  have last := (complete _ (.next .start partially) (20, 0) (by decide)).1
  exact absurd last (by decide)

end Rtftp.PeerHandler

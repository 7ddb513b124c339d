import Rtftp.Library.Machine
import Rtftp.Construction.SendFile

namespace Rtftp.PeerHandler
open Library

variable {O : Type} [OpenedFile O] {sending : Sending O} {toSend : UInt16} {attempts : Nat}

/-- One attempt hands these datagrams to the stream. -/
def emissions (window : Window) (indices : List UInt16) : List Emission :=
  indices.map fun index => .block index (window.send index)

@[simp] theorem emissions_cons (window : Window) (index : UInt16) (indices : List UInt16) :
    emissions window (index :: indices) =
      .block index (window.send index) :: emissions window indices := rfl

@[simp] theorem Line.send_sent (line : Line) (emission : Emission) :
    (line.send emission).2.sent = line.sent ++ [emission] := by
  unfold Line.send
  split <;> rfl

@[simp] theorem fireError_sent (error : TFTPError) (line : Line) :
    (fireError error line).sent = line.sent ++ [.error error] :=
  Line.send_sent line (.error error)

/-- The sends of one attempt are a prefix of its burst, and all of it without a network error. -/
theorem sendBlocks_sent (window : Window) (indices : List UInt16) (line : Line) :
    ∃ count, (sendBlocks window indices line).2.sent =
        line.sent ++ (emissions window indices).take count ∧
      ((sendBlocks window indices line).1 = true → indices.length ≤ count) := by
  induction indices generalizing line with
  | nil => exact ⟨0, by simp [sendBlocks], fun _ => Nat.le_refl 0⟩
  | cons index rest ih =>
      have first := Line.send_sent line (.block index (window.send index))
      unfold sendBlocks
      cases sent : line.send (.block index (window.send index)) with
      | mk verdict next =>
          rw [sent] at first
          dsimp only at first
          cases verdict with
          | true =>
              obtain ⟨count, appended, complete⟩ := ih next
              refine ⟨count + 1, ?_, ?_⟩
              · simp only [appended, first, emissions_cons, List.take_succ_cons,
                  List.append_assoc, List.singleton_append]
              · intro all
                exact Nat.succ_le_succ (complete all)
          | false => exact ⟨1, by simp [first], fun all => absurd all Bool.false_ne_true⟩

/-- A line without verdicts accepts every send. -/
theorem sendBlocks_clear (window : Window) (indices : List UInt16) (sent : List Emission) :
    sendBlocks window indices ⟨[], sent⟩ = (true, ⟨[], sent ++ emissions window indices⟩) := by
  induction indices generalizing sent with
  | nil => simp [sendBlocks, emissions]
  | cons index rest ih =>
      unfold sendBlocks
      simp only [Line.send, ih, emissions_cons, List.append_assoc, List.singleton_append]

theorem Sending.resume_returned {result : Except TFTPError (Nat × Nat)}
    (finished : sending.status = .returned result) (ack : AckResult) :
    sending.resume ack = sending := by
  unfold resume
  rw [finished]

/-- A timeout starts the next attempt with the same burst. -/
theorem Sending.resume_timeout (waiting : sending.status = .awaiting toSend attempts) :
    sending.resume (.error .timeout) =
      attempt sending.transfer toSend sending.line attempts := by
  unfold resume
  rw [waiting]
  rfl

/-- An index from the window on is taken as the new acknowledged index. -/
theorem Sending.resume_accepted (waiting : sending.status = .awaiting toSend attempts)
    {index : UInt16} (accepted : sending.transfer.windowIndex ≤ index) :
    sending.resume (.ok index) =
      enterLoop { sending.transfer with lastAcknowledgedIndex := index } sending.line := by
  unfold resume
  rw [waiting]
  simp only [answer, if_pos accepted]

/-- An index below the window ends the transfer with an error. -/
theorem Sending.resume_past (waiting : sending.status = .awaiting toSend attempts)
    {index : UInt16} (past : ¬ sending.transfer.windowIndex ≤ index) :
    sending.resume (.ok index) =
      ⟨sending.transfer, fireError (.undefined "Received ACK from the past") sending.line,
        .returned (.error (.undefined "Unknown error occurred"))⟩ := by
  unfold resume
  rw [waiting]
  simp only [answer, if_neg past]
  rfl

/-- Every other outcome ends the transfer without a datagram from this function. -/
theorem Sending.resume_failed (waiting : sending.status = .awaiting toSend attempts)
    {error : RecvError} (final : error ≠ .timeout) :
    ∃ failure, sending.resume (.error error) =
        ⟨sending.transfer, sending.line, .returned (sending.transfer.failed toSend failure)⟩ ∧
      ∀ code message, failure = .clientError code message → error = .clientError code message := by
  unfold resume
  rw [waiting]
  cases error with
  | timeout => exact absurd rfl final
  | network => exact ⟨.network, rfl, fun _ _ same => by cases same⟩
  | clientError code message =>
      refine ⟨.clientError code message, rfl, ?_⟩
      intro other text same
      obtain ⟨rfl, rfl⟩ := SendError.clientError.inj same
      rfl
  | ackError => exact ⟨.network, rfl, fun _ _ same => by cases same⟩

theorem Sending.run_cons (ack : AckResult) (rest : List AckResult) :
    sending.run (ack :: rest) = (sending.resume ack).run rest := rfl

theorem Sending.run_append (first second : List AckResult) :
    sending.run (first ++ second) = (sending.run first).run second := List.foldl_append

theorem Sending.run_returned (result : Except TFTPError (Nat × Nat))
    (finished : sending.status = .returned result) (acks : List AckResult) :
    sending.run acks = sending := by
  induction acks with
  | nil => rfl
  | cons ack rest ih => rw [run_cons, resume_returned finished, ih]

/-- A successful call has read at least one acknowledge. -/
theorem sendReliably_consumes (window : Window) (windowIndex count : UInt16) (attempts : Nat)
    (line next : Line) (acks rest : List AckResult) (received : UInt16)
    (returned : sendReliably window windowIndex count attempts line acks =
      .returned (.ok received) next rest) : rest.length < acks.length := by
  induction attempts generalizing line acks with
  | zero => simp [sendReliably] at returned
  | succ attempts ih =>
      unfold sendReliably at returned
      split at returned
      · cases returned
      · split at returned
        · cases returned
        · split at returned
          · exact Nat.lt_succ_of_lt (ih _ _ returned)
          · simp only [Reply.returned.injEq] at returned
            obtain ⟨_, _, rfl⟩ := returned
            exact Nat.lt_succ_self _

/-- The coroutine in one call of `send_reliably` follows that call. -/
theorem attempt_run (transfer : Transfer O) (toSend : UInt16) (attempts : Nat) (line : Line)
    (acks : List AckResult) :
    ((attempt transfer toSend line attempts).run acks).reply =
      match sendReliably transfer.window transfer.windowIndex toSend attempts line acks with
      | .waiting line => .waiting line
      | .returned (.ok received) line rest =>
          ((enterLoop { transfer with lastAcknowledgedIndex := received } line).run rest).reply
      | .returned (.error error) line _ => .returned (transfer.failed toSend error) line := by
  induction attempts generalizing line acks with
  | zero =>
      rw [Sending.run_returned (transfer.failed toSend .timeout) rfl]
      rfl
  | succ attempts ih =>
      cases sent : sendBlocks transfer.window (burstIndices transfer.windowIndex toSend) line with
      | mk verdict next =>
          cases verdict with
          | false =>
              simp only [attempt, sendReliably, sent]
              rw [Sending.run_returned (transfer.failed toSend .network) rfl]
              rfl
          | true =>
              cases acks with
              | nil =>
                  simp only [attempt, sendReliably, sent]
                  rfl
              | cons ack rest =>
                  simp only [attempt, sendReliably, sent, Sending.run_cons, Sending.resume]
                  cases answered : answer transfer.windowIndex next ack with
                  | mk result after =>
                      rcases result with _ | error | received
                      · exact ih after rest
                      · dsimp only
                        rw [Sending.run_returned (transfer.failed toSend error) rfl]
                        rfl
                      · rfl

/-- The coroutine at the head of the loop follows the loop. -/
theorem sendFileLoop_run (passes : Nat) (transfer : Transfer O) (line : Line)
    (acks : List AckResult) (enough : acks.length < passes) :
    sendFileLoop passes transfer line acks = ((enterLoop transfer line).run acks).reply := by
  induction passes generalizing transfer line acks with
  | zero => omega
  | succ passes ih =>
      unfold sendFileLoop enterLoop
      split
      · rw [Sending.run_returned (.ok (transfer.bytesSent, transfer.blocksSent)) rfl]
        rfl
      · split
        · rename_i error next _
          rw [Sending.run_returned (.error error) rfl]
          rfl
        · rename_i toSend next _
          rw [attempt_run]
          cases returned : sendReliably next.window next.windowIndex toSend sendAttempts line acks with
          | waiting after => rfl
          | returned result after rest =>
              cases result with
              | error error => rfl
              | ok received =>
                  have consumed := sendReliably_consumes _ _ _ _ _ _ _ _ _ returned
                  exact ih _ after rest (by omega)

/-- The direct form of `send_file` and its coroutine give the same datagrams and result. -/
theorem sendFile_run (openedFile : O) (window : Window) (verdicts : List Bool)
    (acks : List AckResult) :
    sendFile openedFile window verdicts acks =
      ((Sending.start openedFile window verdicts).run acks).reply :=
  sendFileLoop_run _ _ _ _ (Nat.lt_succ_self _)

/-- What the coroutine shows in the states that it reaches is what the direct form shows for some
acknowledges. -/
theorem sendFile_reached (openedFile : O) (window : Window) (verdicts : List Bool)
    (reply : FileReply) :
    (∃ acks, sendFile openedFile window verdicts acks = reply) ↔
      ∃ sending, Reach Sending.resume (fun _ _ => True)
        (Sending.start openedFile window verdicts) sending ∧ sending.reply = reply := by
  simp only [sendFile_run, reach_iff_foldl]
  constructor
  · rintro ⟨acks, shown⟩
    exact ⟨_, ⟨acks, rfl⟩, shown⟩
  · rintro ⟨_, ⟨acks, rfl⟩, shown⟩
    exact ⟨acks, shown⟩

end Rtftp.PeerHandler

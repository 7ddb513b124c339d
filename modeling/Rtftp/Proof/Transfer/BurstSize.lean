import Rtftp.Construction.Session
import Rtftp.Proof.Transfer.Completion

namespace Rtftp

/-- The text of the error has at most sixty-four bytes. -/
def TFTPError.Short (error : TFTPError) : Prop := (utf8 error.parse.2).length ≤ 64

theorem TFTPError.undefined_short {message : String} (short : (utf8 message).length ≤ 64) :
    (TFTPError.undefined message).Short := short

namespace PeerHandler
open Library

/-- This is the largest payload of a UDP datagram over IPv4. -/
def largestPayload : Nat := 65507

/-- A block fits into a datagram, and the text of an error is short. -/
def Emission.Fits : Emission → Prop
  | .block _ datagram => datagram.length ≤ largestPayload
  | .error tftpError => tftpError.Short

/-- No slot holds more than a header and a block. -/
theorem send_length_le (window : Window) (index : UInt16) :
    (window.send index).length ≤ window.blockSize.toNat + 4 := by
  have capacity := window.sized _ (List.get_mem window.buffers (window.slot index))
  rw [← capacity, Window.send, ByteVec.asSlice]
  exact List.length_take_le' _ _

variable {O : Type}

/-- Every slot of the burst fits into a datagram. -/
def BurstFits (transfer : Transfer O) (toSend : UInt16) : Prop :=
  ∀ index ∈ burstIndices transfer.windowIndex toSend,
    (transfer.window.send index).length ≤ largestPayload

/-- A block size that leaves room for the header makes every burst fit. -/
theorem burstFits_of_blockSize {transfer : Transfer O}
    (small : transfer.window.blockSize.toNat + 4 ≤ largestPayload) (toSend : UInt16) :
    BurstFits transfer toSend := by
  intro index _
  exact Nat.le_trans (send_length_le _ index) small

/-- The next bursts fit as well, or there are none. -/
def FitsLater (transfer : Transfer O) : Prop :=
  transfer.window.blockSize.toNat + 4 ≤ largestPayload ∨ transfer.done = true

/-- Everything sent so far fits, and so does every burst that may follow. -/
structure Sending.Fits (sending : Sending O) : Prop where
  sent : ∀ emission ∈ sending.transmitted, emission.Fits
  burst : ∀ toSend attempts, sending.status = .awaiting toSend attempts →
    BurstFits sending.transfer toSend ∧ FitsLater sending.transfer

theorem Sending.Fits.line {sending : Sending O} (fits : sending.Fits) :
    ∀ emission ∈ sending.line.sent, emission.Fits := by
  intro emission inside
  exact fits.sent emission (List.mem_append_left _ inside)

/-- A transfer that has returned adds at most a short error. -/
theorem fits_returned {transfer : Transfer O} {line : Line}
    {result : Except TFTPError (Nat × Nat)} (sent : ∀ emission ∈ line.sent, emission.Fits)
    (short : ∀ error, result = .error error → error.Short) :
    Sending.Fits ⟨transfer, line, .returned result⟩ := by
  constructor
  · intro emission inside
    rcases List.mem_append.mp inside with earlier | last
    · exact sent emission earlier
    · cases result with
      | ok totals => cases last
      | error error =>
          rw [List.mem_singleton.mp last]
          exact short error rfl
  · intro toSend attempts waiting
    cases waiting

/-- The errors of `send_file` are short. -/
theorem failed_short (transfer : Transfer O) (toSend : UInt16) (failure : SendError)
    (error : TFTPError) (failed : transfer.failed toSend failure = .error error) : error.Short := by
  cases failure with
  | clientError code message => cases failed
  | timeout =>
      cases failed
      exact TFTPError.undefined_short (by decide)
  | network =>
      cases failed
      exact TFTPError.undefined_short (by decide)
  | ackError =>
      cases failed
      exact TFTPError.undefined_short (by decide)

/-- An attempt sends a burst that fits. -/
theorem attempt_fits {transfer : Transfer O} {line : Line} {toSend : UInt16} (attempts : Nat)
    (sent : ∀ emission ∈ line.sent, emission.Fits) (burst : BurstFits transfer toSend)
    (later : FitsLater transfer) : (attempt transfer toSend line attempts).Fits := by
  cases attempts with
  | zero => exact fits_returned sent (failed_short transfer toSend .timeout)
  | succ attempts =>
      obtain ⟨count, appended, _⟩ :=
        sendBlocks_sent transfer.window (burstIndices transfer.windowIndex toSend) line
      have fits : ∀ emission ∈ (sendBlocks transfer.window
          (burstIndices transfer.windowIndex toSend) line).2.sent, emission.Fits := by
        intro emission inside
        rw [appended] at inside
        rcases List.mem_append.mp inside with earlier | new
        · exact sent emission earlier
        · obtain ⟨index, member, rfl⟩ := List.mem_map.mp (List.mem_of_mem_take new)
          exact burst index member
      rw [attempt]
      split
      · next line blocks =>
          rw [blocks] at fits
          exact fits_returned fits (failed_short transfer toSend .network)
      · next line blocks =>
          rw [blocks] at fits
          constructor
          · intro emission inside
            exact fits emission (by simpa [Sending.transmitted] using inside)
          · intro count left waiting
            cases waiting
            exact ⟨burst, later⟩

variable [OpenedFile O]

/-- A failed fill has a short error. -/
theorem fillWindow_short (room : Nat) (transfer next : Transfer O) (toSend : UInt16)
    {error : TFTPError} (filled : fillWindow room transfer toSend = (.error error, next)) :
    error.Short := by
  induction room generalizing transfer toSend with
  | zero => cases filled
  | succ room ih =>
      unfold fillWindow at filled
      split at filled
      · split at filled
        · cases filled
        · exact ih _ _ filled
      · cases filled
        exact TFTPError.undefined_short (by decide)

/-- The reads of a window succeed, up to a short one. -/
def WindowReads (file : O) (size : Nat) : (blocks : Nat) → Prop
  | 0 => True
  | blocks + 1 => ∃ bytes next, OpenedFile.readTo file size = .ok (bytes, next) ∧
      (bytes.length = size → WindowReads next size blocks)

/-- A fill returns a burst exactly when its reads succeed. -/
theorem fillWindow_returns_iff (room : Nat) (transfer : Transfer O) (toSend : UInt16) :
    (∃ count next, fillWindow room transfer toSend = (.ok count, next)) ↔
      WindowReads transfer.openedFile transfer.window.blockSize.toNat room := by
  induction room generalizing transfer toSend with
  | zero => exact ⟨fun _ => trivial, fun _ => ⟨toSend, transfer, rfl⟩⟩
  | succ room ih =>
      unfold fillWindow WindowReads Transfer.readBlock
      dsimp only
      rw [Window.pushBlock_eq]
      cases read : OpenedFile.readTo transfer.openedFile transfer.window.blockSize.toNat with
      | error error => simp
      | ok result =>
          obtain ⟨bytes, rest⟩ := result
          have fits := OpenedFile.readTo_fits _ _ bytes rest read
          by_cases short : bytes.length < transfer.window.blockSize.toNat
          · simp [short, Nat.ne_of_lt short]
          · have full : bytes.length = transfer.window.blockSize.toNat := by omega
            have next := ih ⟨rest, transfer.window.filled (transfer.lastReadIndex + 1) bytes,
              transfer.bytesSent + bytes.length, transfer.blocksSent,
              transfer.lastAcknowledgedIndex, transfer.lastReadIndex + 1,
              transfer.done || false, transfer.blocksRead + 1⟩ (toSend + 1)
            change _ ↔ WindowReads rest transfer.window.blockSize.toNat room at next
            simpa [short, full] using next

/-- The first fill takes a whole window. -/
theorem firstFill_returns_iff (file : O) (window : Window) :
    (∃ toSend next, (Transfer.new file window).fill = (.ok toSend, next)) ↔
      WindowReads file window.blockSize.toNat window.buffers.length := by
  have none : (Transfer.new file window).unacknowledgedCount = 0 := UInt16.sub_self 0
  have whole : (Transfer.new file window).window.size.toNat = window.buffers.length :=
    Window.size_toNat window
  rw [Transfer.fill, none, whole, UInt16.toNat_zero, Nat.sub_zero]
  exact fillWindow_returns_iff _ (Transfer.new file window) 0

/-- The head of the loop keeps to datagrams that fit. -/
theorem enterLoop_fits {transfer : Transfer O} {line : Line}
    (sent : ∀ emission ∈ line.sent, emission.Fits) (later : FitsLater transfer) :
    (enterLoop transfer line).Fits := by
  unfold enterLoop
  cases finished : transfer.done with
  | true => exact fits_returned sent fun error failed => by cases failed
  | false =>
      have small : transfer.window.blockSize.toNat + 4 ≤ largestPayload := by
        rcases later with small | done
        · exact small
        · rw [finished] at done
          cases done
      simp only [Bool.false_eq_true, if_false]
      cases filled : transfer.fill with
      | mk result next =>
          obtain ⟨rounds, _, shape, _⟩ := fillWindow_filled _ _ _ _ _ filled
          rw [← shape.blockSize] at small
          cases result with
          | error error =>
              apply fits_returned sent
              intro other same
              cases same
              exact fillWindow_short _ transfer next _ filled
          | ok toSend =>
              exact attempt_fits sendAttempts sent (burstFits_of_blockSize small toSend) (.inl small)

/-- Every outcome keeps to datagrams that fit. -/
theorem Sending.Fits.resume {sending : Sending O} (fits : sending.Fits) (ack : AckResult) :
    (sending.resume ack).Fits := by
  cases status : sending.status with
  | returned result => rwa [Sending.resume_returned status]
  | awaiting toSend attempts =>
      obtain ⟨burst, later⟩ := fits.burst toSend attempts status
      rcases ack with error | index
      · by_cases timeout : error = .timeout
        · subst error
          rw [Sending.resume_timeout status]
          exact attempt_fits attempts fits.line burst later
        · obtain ⟨failure, failed, _⟩ := Sending.resume_failed status timeout
          rw [failed]
          exact fits_returned fits.line (failed_short _ _ failure)
      · by_cases accepted : sending.transfer.windowIndex ≤ index
        · rw [Sending.resume_accepted status accepted]
          exact enterLoop_fits fits.line later
        · rw [Sending.resume_past status accepted]
          apply fits_returned
          · intro emission inside
            rw [fireError_sent] at inside
            rcases List.mem_append.mp inside with earlier | last
            · exact fits.line emission earlier
            · rw [List.mem_singleton.mp last]
              exact TFTPError.undefined_short (by decide)
          · intro error failed
            cases failed
            exact TFTPError.undefined_short (by decide)

/-- A file of one short block is sent as one datagram. -/
theorem start_fits_short {file rest : O} {window : Window} {bytes : List UInt8}
    (read : OpenedFile.readTo file window.blockSize.toNat = .ok (bytes, rest))
    (short : bytes.length < window.blockSize.toNat) (small : bytes.length + 4 ≤ largestPayload)
    (verdicts : List Bool) : (Sending.start file window verdicts).Fits := by
  have pushed := Window.filled_pushed window 1 bytes (Nat.le_of_lt short)
  let next : Transfer O := ⟨rest, window.filled 1 bytes, bytes.length, 0, 0, 1, true, 1⟩
  have block : (Transfer.new file window).readBlock = .ok (next, true) := by
    simp only [Transfer.readBlock, Transfer.new, Window.pushBlock_eq, zero_add, read, short,
      decide_true, Bool.or_true]
    rfl
  have filled : (Transfer.new file window).fill = (.ok 1, next) := by
    obtain ⟨room, size⟩ := Nat.exists_eq_succ_of_ne_zero (Nat.ne_of_gt window.occupied)
    have empty : (Transfer.new file window).unacknowledgedCount = 0 := UInt16.sub_self 0
    have rounds : (Transfer.new file window).window.size.toNat = room + 1 :=
      (Window.size_toNat window).trans size
    rw [Transfer.fill, empty, rounds, UInt16.toNat_zero, Nat.sub_zero, fillWindow, block]
    rfl
  rw [Sending.start, enterLoop, if_neg (by exact Bool.false_ne_true), filled]
  apply attempt_fits
  · intro emission inside
    cases inside
  · intro index inside
    have only : index = 1 := by simpa [burstIndices, next, Transfer.windowIndex] using inside
    subst index
    change ((window.filled 1 bytes).send 1).length ≤ _
    rw [pushed.written 1 rfl, List.length_append, Window.header_length]
    omega
  · exact .inr rfl

/-- The first burst of a transfer over a clear line has the first block of the file. -/
theorem firstBlock_sent (file : O) (window : Window)
    (reads : WindowReads file window.blockSize.toNat window.buffers.length) :
    .block 1 (blockDatagram file window.blockSize.toNat 1) ∈
      (Sending.start file window []).line.sent := by
  obtain ⟨toSend, next, filled⟩ := (firstFill_returns_iff file window).mpr reads
  have occupied := window.occupied
  have narrow := window.narrow
  have flying := (Flying.new file window).fill rfl filled
  have shaped := (Shaped.new file window).fill rfl filled
  have advanced := (Flying.new file window).fill_reads (by
    change 0 < 0 + window.buffers.length
    omega) filled
  have room := flying.room
  rw [shaped.length] at room
  have held := flying.held (.inr (by omega)) 1 Nat.zero_lt_one advanced
  rw [shaped.blockSize] at held
  have first : (1 : UInt16) ∈ burstIndices next.windowIndex toSend := by
    rw [Transfer.fill_count filled, flying.burstIndices]
    exact List.mem_map.mpr ⟨0, List.mem_range.mpr (by omega), rfl⟩
  have started : Sending.start file window [] =
      ⟨next, ⟨[], [] ++ emissions next.window (burstIndices next.windowIndex toSend)⟩,
        .awaiting toSend 4⟩ := by
    rw [Sending.start, enterLoop, if_neg (by exact Bool.false_ne_true), filled]
    exact attempt_clear next toSend ⟨[], []⟩ 4 rfl
  rw [started, List.nil_append, ← held]
  exact List.mem_map.mpr ⟨1, first, rfl⟩

/-- Full reads never fail. -/
theorem windowReads_full [FullReads O] (file : O) (size blocks : Nat) :
    WindowReads file size blocks := by
  induction blocks generalizing file with
  | zero => trivial
  | succ blocks ih =>
      obtain ⟨next, read, _⟩ := FullReads.readTo_full file size
      exact ⟨_, next, read, fun _ => ih next⟩

end PeerHandler

end Rtftp

import Rtftp.Proof.Session.SingleError
import Rtftp.Proof.Session.Terms
import Rtftp.Proof.Transfer.BurstSize

namespace Rtftp

/-- The encoder counts the header, the text and the terminator. -/
theorem TFTPError.serialize_size {error : TFTPError} {buffer rest : List UInt8} {toSend : Nat}
    (serialized : error.serialize buffer = (.ok toSend, rest)) :
    toSend = 5 + (utf8 error.parse.2).length := by
  simp only [TFTPError.serialize, Outcome.andThen, WriteCursor.putUshort, WriteCursor.putString,
    WriteCursor.new] at serialized
  grind

namespace PeerHandler
open Library

def Transmission.datagram : Transmission → List UInt8
  | .oack datagram => datagram
  | .data _ datagram => datagram
  | .error _ datagram => datagram

def Transmission.Fits (transmission : Transmission) : Prop :=
  transmission.datagram.length ≤ largestPayload

theorem fireErrorFrom_fits_payload {error : TFTPError} (short : error.Short) (buffer : List UInt8) :
    ∀ transmission ∈ (fireErrorFrom error buffer).1, transmission.Fits := by
  intro transmission sent
  unfold fireErrorFrom at sent
  split at sent
  · next toSend rest serialized =>
      rw [List.mem_singleton] at sent
      subst transmission
      have size := TFTPError.serialize_size serialized
      unfold TFTPError.Short at short
      have taken := List.length_take_le toSend rest
      change (rest.take toSend).length ≤ 65507
      omega
  · cases sent

theorem render_fits (emissions : List Emission) (buffer : List UInt8)
    (fits : ∀ emission ∈ emissions, emission.Fits) :
    ∀ transmission ∈ (render emissions buffer).1, transmission.Fits := by
  induction emissions generalizing buffer with
  | nil => exact fun _ sent => absurd sent List.not_mem_nil
  | cons emission rest ih =>
      have later := fun buffer => ih buffer fun emission inside => fits emission (List.mem_cons_of_mem _ inside)
      have first := fits emission List.mem_cons_self
      intro transmission sent
      cases emission with
      | block index datagram =>
          rcases List.mem_cons.mp sent with rfl | behind
          · exact first
          · exact later buffer transmission behind
      | error error =>
          rcases List.mem_append.mp sent with fired | behind
          · exact fireErrorFrom_fits_payload first buffer transmission fired
          · exact later _ transmission behind

/-- The OACK is short, and every datagram of the negotiation fits. -/
structure Offering.Fits (offering : Offering) : Prop where
  size : offering.oackSize ≤ largestPayload
  sent : ∀ transmission ∈ offering.sent, transmission.Fits

namespace Offering

theorem Fits.fail {offering : Offering} (fits : offering.Fits) {tftpError : TFTPError}
    (short : tftpError.Short) (error : IoError) : (offering.fail tftpError error).Fits := by
  constructor
  · exact fits.size
  · intro transmission sent
    rcases List.mem_append.mp sent with earlier | fired
    · exact fits.sent transmission earlier
    · exact fireErrorFrom_fits_payload short _ transmission fired

theorem Fits.attempt {offering : Offering} (fits : offering.Fits) (attempts : Nat) :
    (offering.attempt attempts).Fits := by
  cases attempts with
  | zero =>
      apply fits.fail
      exact TFTPError.undefined_short (by decide)
  | succ attempts =>
      constructor
      · exact fits.size
      · intro transmission sent
        rcases List.mem_append.mp sent with earlier | new
        · exact fits.sent transmission earlier
        · rw [List.mem_singleton.mp new]
          exact Nat.le_trans (List.length_take_le _ _) fits.size

theorem Fits.resume {offering : Offering} (fits : offering.Fits) (arrivals : List Arrival) :
    (offering.resume arrivals).Fits := by
  cases status : offering.status with
  | returned result => rwa [offering.resume_returned arrivals status]
  | awaiting attempts =>
      cases read : readAcknowledge arrivals offering.buffer with
      | mk ack received =>
          have kept : Fits { offering with buffer := received } := ⟨fits.size, fits.sent⟩
          rcases offering.resume_cases arrivals status read with
            ⟨_, resumed⟩ | ⟨_, resumed⟩ | ⟨ackNum, _, _, rfl, nonzero, _⟩ | ⟨_, _, _, _, resumed⟩ |
            ⟨_, _, resumed⟩
          · rw [resumed]
            exact kept.attempt attempts
          · rw [resumed]
            exact ⟨fits.size, fits.sent⟩
          · simp only [Offering.resume, status, read, if_neg nonzero]
            apply kept.fail
            exact TFTPError.undefined_short (by decide)
          · rw [resumed]
            exact ⟨fits.size, fits.sent⟩
          · rw [resumed]
            exact ⟨fits.size, fits.sent⟩

end Offering

variable {O : Type} [OpenedFile O]

/-- The OACK of the accepted options fits. -/
theorem negotiateOptions_fits (openedFile : O) (options : Table String String)
    (verdicts : List Bool) :
    (negotiateOptions openedFile options (List.replicate 65535 0) verdicts).offering.Fits := by
  have pairs := acceptOptions_pairs openedFile options
  have short := (accepted_of openedFile options).pairs_clean.2
  have oack : (acceptOptions openedFile options).oack = ⟨(accepted openedFile options).pairs⟩ := by
    rw [← pairs]
  unfold negotiateOptions
  dsimp only
  split
  · next offered =>
      have some : (accepted openedFile options).pairs ≠ [] := by
        intro none
        rw [oack, none] at offered
        cases offered
      have started := Offering.start_zeroed ⟨(accepted openedFile options).pairs⟩ 65535 verdicts
        some (by omega)
      rw [oack, started]
      dsimp only
      apply Offering.Fits.attempt
      constructor
      · dsimp only [largestPayload]
        omega
      · intro transmission sent
        cases sent
  · constructor
    · exact Nat.zero_le _
    · intro transmission sent
      cases sent

omit [OpenedFile O] in
theorem Terms.window_length (terms : Terms O) :
    terms.window.buffers.length = terms.windowSize.number := by
  rw [terms.window_eq.2, List.length_replicate]

/-- The sizes that are not accepted have their defaults. -/
theorem acceptOptions_sizes (openedFile : O) (options : Table String String) :
    (acceptOptions openedFile options).blockSize = (Blksize.findIn options).getD .default ∧
      (acceptOptions openedFile options).windowSize = (WindowSize.findIn options).getD .default := by
  simp only [acceptOptions]
  constructor
  · cases Blksize.findIn options with
    | none => rfl
    | some blockSize => rfl
  · cases WindowSize.findIn options with
    | none => rfl
    | some windowSize => rfl

namespace Serving

/-- Every datagram of the log fits, and so does all that the stage may send. -/
structure Fits (terms : Terms O) (serving : Serving O) : Prop where
  sent : ∀ transmission ∈ transmissions serving.log, transmission.Fits
  negotiating : ∀ negotiation, serving.stage = .negotiating negotiation →
    negotiation.terms = terms ∧ negotiation.offering.Fits
  transferring : ∀ ackTimeout buffer sending,
    serving.stage = .transferring ackTimeout buffer sending → sending.Fits

omit [OpenedFile O] in
theorem settle_fits {terms : Terms O} {log : List Entry}
    (sent : ∀ transmission ∈ transmissions log, transmission.Fits) (ackTimeout : AckTimeout)
    (buffer : List UInt8) (alreadySent : Nat) {sending : Sending O} (fits : sending.Fits) :
    (settle log ackTimeout buffer alreadySent sending).Fits terms := by
  constructor
  · intro transmission inside
    rw [settle, transmissions_append, transmissions_sent] at inside
    rcases List.mem_append.mp inside with earlier | new
    · exact sent transmission earlier
    · apply render_fits _ buffer _ transmission new
      intro emission member
      exact fits.sent emission (List.mem_of_mem_drop member)
  · intro negotiation stage
    cases status : sending.status with
    | awaiting toSend left => simp [settle, status] at stage
    | returned result => simp [settle, status] at stage
  · intro timeout rest other stage
    cases status : sending.status with
    | awaiting toSend left =>
        simp only [settle, status, Stage.transferring.injEq] at stage
        obtain ⟨_, _, rfl⟩ := stage
        exact fits
    | returned result => simp [settle, status] at stage

/-- A transfer that fits follows a negotiation that fits. -/
theorem proceed_fits {terms : Terms O} {log : List Entry}
    (sent : ∀ transmission ∈ transmissions log, transmission.Fits) {negotiation : Negotiation O}
    (same : negotiation.terms = terms) (fits : negotiation.offering.Fits)
    (transfer : ∀ verdicts, (Sending.start terms.openedFile terms.window verdicts).Fits) :
    (proceed log negotiation).Fits terms := by
  unfold proceed
  split
  · constructor
    · exact sent
    · intro other stage
      cases stage
      exact ⟨same, fits⟩
    · intro ackTimeout buffer sending stage
      cases stage
  · constructor
    · exact sent
    · intro other stage
      cases stage
    · intro ackTimeout buffer sending stage
      cases stage
  · next window ackTimeout result =>
      obtain ⟨rfl, _⟩ := Negotiation.result_window result
      apply settle_fits sent
      rw [same]
      exact transfer _

theorem Fits.resume {terms : Terms O} {serving : Serving O} (fits : serving.Fits terms)
    (transfer : ∀ verdicts, (Sending.start terms.openedFile terms.window verdicts).Fits)
    (arrivals : List Arrival) : (serving.resume arrivals).Fits terms := by
  unfold Serving.resume
  split
  · exact fits
  · next negotiation stage =>
      obtain ⟨same, offering⟩ := fits.negotiating negotiation stage
      have kept : (negotiation.resume arrivals).terms = terms := same
      have next : (negotiation.resume arrivals).offering.Fits := offering.resume arrivals
      apply proceed_fits _ kept next transfer
      intro transmission inside
      rw [transmissions_received] at inside
      rcases List.mem_append.mp inside with earlier | new
      · exact fits.sent transmission earlier
      · exact next.sent transmission (List.mem_of_mem_drop new)
  · next ackTimeout buffer sending stage =>
      apply settle_fits
      · have quiet := transmissions_received serving.log arrivals (readAcknowledge arrivals buffer).1 []
        rw [List.map_nil, List.append_nil] at quiet
        rw [quiet]
        exact fits.sent
      · exact (fits.transferring ackTimeout buffer sending stage).resume _

/-- Every datagram of every run fits when the transfer does. -/
theorem fits_of_reach (openedFile : O) (options : Table String String) (verdicts : List Bool)
    (transfer : ∀ verdicts, (Sending.start (acceptOptions openedFile options).openedFile
      (acceptOptions openedFile options).window verdicts).Fits) {serving : Serving O}
    (reached : Reach Serving.resume (fun _ _ => True)
      (start openedFile options (List.replicate 65535 0) verdicts) serving) :
    serving.Fits (acceptOptions openedFile options) := by
  apply reached.invariant (Fits (acceptOptions openedFile options))
  · have fits := negotiateOptions_fits openedFile options verdicts
    have same : (negotiateOptions openedFile options (List.replicate 65535 0) verdicts).terms =
        acceptOptions openedFile options := by
      unfold negotiateOptions
      dsimp only
      split <;> rfl
    apply proceed_fits _ same fits transfer
    rw [transmissions_sent]
    exact fits.sent
  · intro serving arrivals fits _
    exact fits.resume transfer arrivals

/-- The transfer fits when its block size leaves room for the header, when its first block is small
or when a read of its first window fails. -/
theorem transfer_fits (terms : Terms O)
    (small : terms.blockSize.number ≤ 65503 ∨
      ¬ WindowReads terms.openedFile terms.blockSize.number terms.windowSize.number ∨
      (payload terms.openedFile terms.blockSize.number 1).length ≤ 65503) (verdicts : List Bool) :
    (Sending.start terms.openedFile terms.window verdicts).Fits := by
  have nothing : ∀ emission ∈ (⟨verdicts, []⟩ : Line).sent, emission.Fits := by
    intro emission inside
    cases inside
  have returns := firstFill_returns_iff terms.openedFile terms.window
  rw [terms.window_length, terms.window_eq.1] at returns
  by_cases narrow : terms.blockSize.number ≤ 65503
  · apply enterLoop_fits nothing
    left
    rw [Transfer.new, terms.window_eq.1]
    change _ ≤ 65507
    omega
  · by_cases reads : WindowReads terms.openedFile terms.blockSize.number terms.windowSize.number
    · have few := (small.resolve_left narrow).resolve_left (not_not_intro reads)
      obtain ⟨blocks, more⟩ := Nat.exists_eq_succ_of_ne_zero (Nat.ne_of_gt terms.windowSize.lower)
      rw [more] at reads
      obtain ⟨bytes, rest, read, _⟩ := reads
      have first : payload terms.openedFile terms.blockSize.number (0 + 1) = bytes :=
        payload_succ read
      rw [Nat.zero_add] at first
      rw [first] at few
      rw [← terms.window_eq.1] at read narrow
      apply start_fits_short read
      · omega
      · change _ ≤ 65507
        omega
    · rw [Sending.start, enterLoop, if_neg (by exact Bool.false_ne_true)]
      cases filled : (Transfer.new terms.openedFile terms.window).fill with
      | mk result next =>
          cases result with
          | ok toSend => exact absurd (returns.mp ⟨toSend, next, filled⟩) reads
          | error error =>
              apply fits_returned nothing
              intro other same
              cases same
              exact fillWindow_short _ _ next _ filled

omit [OpenedFile O] in
/-- A block of the transfer is rendered as it is. -/
theorem render_block {emissions : List Emission} {index : UInt16} {datagram : List UInt8}
    (inside : .block index datagram ∈ emissions) (buffer : List UInt8) :
    .data index datagram ∈ (render emissions buffer).1 := by
  induction emissions generalizing buffer with
  | nil => cases inside
  | cons emission rest ih =>
      rcases List.mem_cons.mp inside with rfl | behind
      · exact List.mem_cons_self
      · cases emission with
        | block other bytes => exact List.mem_cons_of_mem _ (ih behind buffer)
        | error error => exact List.mem_append_right _ (ih behind _)

/-- The acknowledge of an OACK is followed by the transfer. -/
theorem start_acknowledged (openedFile : O) (options : Table String String)
    (offered : (accepted openedFile options).pairs ≠ []) :
    ∃ log ackTimeout buffer,
      (start openedFile options (List.replicate 65535 0) []).resume
          [.datagram true [0x00, 0x04, 0x00, 0x00]] =
        settle log ackTimeout buffer 0
          (Sending.start (acceptOptions openedFile options).openedFile
            (acceptOptions openedFile options).window []) := by
  let oack : OptionsAcknowledge := ⟨(accepted openedFile options).pairs⟩
  have short : oack.body.length ≤ 130 := (accepted_of openedFile options).pairs_clean.2
  have same : (acceptOptions openedFile options).oack = oack := by
    rw [show oack = ⟨(accepted openedFile options).pairs⟩ from rfl, ← acceptOptions_pairs]
  have some : (acceptOptions openedFile options).oack.hasOptions = true := by
    rw [same, OptionsAcknowledge.hasOptions]
    simpa [oack] using offered
  let offering : Offering := ⟨oack.body.length,
    oack.body ++ List.replicate (65535 - oack.body.length) 0, [],
    [.oack ((oack.body ++ List.replicate (65535 - oack.body.length) 0).take oack.body.length)],
    .awaiting 4⟩
  have negotiated : negotiateOptions openedFile options (List.replicate 65535 0) [] =
      ⟨acceptOptions openedFile options, offering⟩ := by
    simp only [negotiateOptions, if_pos some]
    rw [same, Offering.start_zeroed oack 65535 [] offered (by omega)]
    rfl
  have read : (readAcknowledge [.datagram true [0x00, 0x04, 0x00, 0x00]] offering.buffer).1 =
      .ok 0 := by
    rw [readAcknowledge_datagram _ _ (by decide) (by
      change 4 ≤ (oack.body ++ _).length
      rw [List.length_append, List.length_replicate]
      omega)]
    exact parseAcknowledge_header 0x00 0x04 0x00 0x00 _
  have started : start openedFile options (List.replicate 65535 0) [] =
      ⟨.negotiating ⟨acceptOptions openedFile options, offering⟩, offering.sent.map .sent⟩ := by
    rw [start, negotiated]
    rfl
  have taken : offering.resume [.datagram true [0x00, 0x04, 0x00, 0x00]] =
      { offering with
        buffer := (readAcknowledge [.datagram true [0x00, 0x04, 0x00, 0x00]] offering.buffer).2
        status := .returned (.ok ()) } := by
    have waiting : offering.status = .awaiting 4 := rfl
    simp only [Offering.resume, waiting, read, if_true]
  rw [started, Serving.resume]
  dsimp only [Negotiation.resume]
  rw [taken]
  exact ⟨_, _, _, rfl⟩

/-- A large first block is sent after the OACK is acknowledged. -/
theorem oversized_reached (openedFile : O) (options : Table String String)
    (large : 65503 < (acceptOptions openedFile options).blockSize.number)
    (reads : WindowReads (acceptOptions openedFile options).openedFile
      (acceptOptions openedFile options).blockSize.number
      (acceptOptions openedFile options).windowSize.number)
    (long : 65503 < (payload (acceptOptions openedFile options).openedFile
      (acceptOptions openedFile options).blockSize.number 1).length) :
    ∃ serving, Reach Serving.resume (fun _ _ => True)
        (start openedFile options (List.replicate 65535 0) []) serving ∧
      ∃ transmission ∈ transmissions serving.log, ¬ transmission.Fits := by
  have offered : (accepted openedFile options).pairs ≠ [] := by
    intro empty
    have number := (acceptOptions_numbers openedFile options).2.1
    cases found : (accepted openedFile options).blksize with
    | none =>
        rw [found] at number
        change _ = 512 at number
        omega
    | some blksize => simp [Accepted.pairs, found] at empty
  obtain ⟨log, ackTimeout, buffer, resumed⟩ := start_acknowledged openedFile options offered
  generalize acceptOptions openedFile options = terms at large reads long resumed
  rw [← terms.window_eq.1] at reads long
  rw [← terms.window_length] at reads
  refine ⟨(start openedFile options (List.replicate 65535 0) []).resume
    [.datagram true [0x00, 0x04, 0x00, 0x00]], .next .start trivial,
    .data 1 (blockDatagram terms.openedFile terms.window.blockSize.toNat 1), ?_, ?_⟩
  · rw [resumed, settle, transmissions_append, transmissions_sent]
    apply List.mem_append_right
    apply render_block
    exact List.mem_append_left _ (firstBlock_sent terms.openedFile terms.window reads)
  · change ¬ (blockDatagram terms.openedFile terms.window.blockSize.toNat 1).length ≤ 65507
    rw [blockDatagram, List.length_append, Window.header_length]
    omega

/-- Every datagram of every session fits into UDP exactly when the accepted block size leaves room
for the header, when the first block of the file does or when a read of the first window fails, so
that no DATA is sent. -/
theorem datagrams_fit_iff (openedFile : O) (options : Table String String) :
    (∀ verdicts serving, Reach Serving.resume (fun _ _ => True)
        (start openedFile options (List.replicate 65535 0) verdicts) serving →
      ∀ transmission ∈ transmissions serving.log, transmission.datagram.length ≤ 65507) ↔
    ((Blksize.findIn options).getD .default).number ≤ 65503 ∨
      ¬ WindowReads (acceptOptions openedFile options).openedFile
        ((Blksize.findIn options).getD .default).number
        ((WindowSize.findIn options).getD .default).number ∨
      (payload (acceptOptions openedFile options).openedFile
        ((Blksize.findIn options).getD .default).number 1).length ≤ 65503 := by
  obtain ⟨blockSize, windowSize⟩ := acceptOptions_sizes openedFile options
  rw [← blockSize, ← windowSize]
  constructor
  · intro fit
    by_contra large
    rw [not_or, not_or, not_not] at large
    obtain ⟨serving, reached, transmission, sent, oversized⟩ :=
      oversized_reached openedFile options (by omega) large.2.1 (by omega)
    exact oversized (fit [] serving reached transmission sent)
  · intro small verdicts serving reached
    have transfer := transfer_fits (acceptOptions openedFile options) small
    exact (fits_of_reach openedFile options verdicts transfer reached).sent

/-- A block size of 65504 bytes that the server acknowledges gives a datagram of 65508 bytes. -/
theorem datagrams_fit_oversized :
    ∃ serving, Reach Serving.resume (fun _ _ => True)
        (start (VirtualOpenedFile.new (List.replicate 65504 0)) ⟨[("blksize", "65504")], by decide⟩
          (List.replicate 65535 0) []) serving ∧
      ∃ transmission ∈ transmissions serving.log, ¬ transmission.datagram.length ≤ 65507 := by
  apply oversized_reached
  · decide
  · exact windowReads_full _ _ _
  · change 65503 < (payload (VirtualOpenedFile.new (List.replicate 65504 0)) 65504 1).length
    rw [payload_eq_block _ _ _ Nat.zero_lt_one, block_length, VirtualOpenedFile.remaining_new,
      List.length_replicate]
    decide

end Serving

end PeerHandler

end Rtftp

import Rtftp.Proof.Client.Delivery
import Rtftp.Proof.Client.Opening

namespace Rtftp.Client
open Library PeerHandler

/-- A block goes behind the blocks before it. -/
theorem take_block (content : List UInt8) (size position : Nat) :
    content.take (position * size) ++ block content size (position + 1) =
      content.take ((position + 1) * size) := by
  rw [block_succ, ← List.take_add, Nat.add_mul, Nat.one_mul]

/-- All blocks of a content are the content. -/
theorem take_blockCount {content : List UInt8} {position : Nat}
    (last : position + 1 = blockCount content defaultBlockSize) :
    content.take ((position + 1) * defaultBlockSize) = content := by
  apply List.take_of_length_le
  rw [last]
  exact Nat.le_of_lt (blockCount_covers content defaultBlockSize (by decide))

/-- Only the last block of a content is short. -/
theorem block_full {content : List UInt8} {position : Nat}
    (before : position + 1 < blockCount content defaultBlockSize) :
    (block content defaultBlockSize (position + 1)).length = defaultBlockSize := by
  have short := block_short content defaultBlockSize position (by decide) (by omega)
  have most : (block content defaultBlockSize (position + 1)).length ≤ defaultBlockSize := by
    rw [block_length]
    exact Nat.min_le_left _ _
  omega

/-- A block has its header. -/
theorem dataDatagram_long (content : List UInt8) (size position : Nat) :
    ¬ (dataDatagram content size position).length < 4 := by
  rw [dataDatagram, List.length_append]
  exact Nat.not_lt.mpr (Nat.le_add_right 4 _)

namespace Download

/-- The coroutine has the blocks up to this position. -/
def At (content : List UInt8) (position : Nat) (download : Download) : Prop :=
  download = ⟨content.take (position * defaultBlockSize),
    if position = 0 then .requesting else .reading⟩

theorem At.receive {content : List UInt8} {position : Nat} {download : Download}
    (at_ : At content position download) :
    Peer.receive download (dataDatagram content defaultBlockSize (position + 1)) =
      ([ackDatagram (UInt16.ofNat (position + 1))],
        ⟨content.take ((position + 1) * defaultBlockSize),
          if (block content defaultBlockSize (position + 1)).length = defaultBlockSize then .reading
          else .returned (.ok (content.take ((position + 1) * defaultBlockSize)))⟩) := by
  obtain ⟨read, payload, answer⟩ := readNext_block (UInt16.ofNat (position + 1))
    (block content defaultBlockSize (position + 1)) (by
      rw [block_length]
      exact Nat.min_le_left _ _)
  have long := dataDatagram_long content defaultBlockSize (position + 1)
  have taken : download.take (dataDatagram content defaultBlockSize (position + 1)) =
      ([ackDatagram (UInt16.ofNat (position + 1))],
        ⟨content.take ((position + 1) * defaultBlockSize),
          if (block content defaultBlockSize (position + 1)).length = defaultBlockSize then .reading
          else .returned (.ok (content.take ((position + 1) * defaultBlockSize)))⟩) := by
    rw [Download.take, dataDatagram, read, at_]
    dsimp only
    rw [payload]
    dsimp only
    rw [answer, take_block]
  change download.receive _ = _
  cases position with
  | zero =>
      rw [Download.receive, show download.status = .requesting by rw [at_]; rfl]
      exact taken
  | succ position =>
      rw [Download.receive, show download.status = .reading by rw [at_]; rfl]
      exact (if_neg long).trans taken

/-- The coroutine has returned the whole content. -/
def Has (content : List UInt8) (download : Download) : Prop :=
  download.status = .returned (.ok content)

/-- The coroutine takes a file block by block and answers every block. -/
theorem follows (content : List UInt8) : Follows content 1 (At content) (Has content) where
  next position download at_ before := by
    refine ⟨_, at_.receive.trans (Prod.ext (if_pos (Nat.one_dvd _)).symm rfl), ?_⟩
    rw [if_pos (block_full before)]
    rfl
  last position download at_ last := by
    refine ⟨_, at_.receive, ?_⟩
    have short := (block_short content defaultBlockSize position (by decide) (by omega)).mpr last
    rw [Has, if_neg (Nat.ne_of_lt short), take_blockCount last]

end Download

namespace DownloadWindow

/-- The coroutine has the blocks up to this position, and it waits for the rest of their window. -/
def At (windowSize : UInt16) (content : List UInt8) (position : Nat)
    (download : DownloadWindow) : Prop :=
  download = ⟨windowSize, content.take (position * defaultBlockSize),
    .reading (windowSize.toNat - position % windowSize.toNat)⟩

theorem At.receive {windowSize : UInt16} {content : List UInt8} {position : Nat}
    {download : DownloadWindow} (at_ : At windowSize content position download) :
    Peer.receive download (dataDatagram content defaultBlockSize (position + 1)) =
      let readData := content.take ((position + 1) * defaultBlockSize)
      let answer := ackDatagram (UInt16.ofNat (position + 1))
      if (block content defaultBlockSize (position + 1)).length < defaultBlockSize then
        ([answer], ⟨windowSize, readData, .returned (.ok readData)⟩)
      else if windowSize.toNat - position % windowSize.toNat ≤ 1 then
        ([answer], enterWindow ⟨windowSize, readData, download.status⟩)
      else ([], ⟨windowSize, readData,
        .reading (windowSize.toNat - position % windowSize.toNat - 1)⟩) := by
  obtain ⟨read, payload, answer⟩ := readNext_block (UInt16.ofNat (position + 1))
    (block content defaultBlockSize (position + 1)) (by
      rw [block_length]
      exact Nat.min_le_left _ _)
  have long := dataDatagram_long content defaultBlockSize (position + 1)
  change download.receive _ = _
  rw [DownloadWindow.receive, at_]
  dsimp only
  rw [if_neg long, DownloadWindow.take, dataDatagram, read]
  dsimp only
  rw [payload]
  dsimp only
  rw [answer, take_block]

/-- The coroutine has returned the whole content. -/
def Has (content : List UInt8) (download : DownloadWindow) : Prop :=
  download.status = .returned (.ok content)

/-- The coroutine takes a file window by window and answers the last block of every window. -/
theorem follows (windowSize : UInt16) (positive : 0 < windowSize.toNat) (content : List UInt8) :
    Follows content windowSize.toNat (At windowSize content) (Has content) where
  next position download at_ before := by
    have full := block_full before
    have below := Nat.mod_lt position positive
    have parts := Nat.div_add_mod position windowSize.toNat
    rw [at_.receive]
    dsimp only
    rw [if_neg (by omega)]
    by_cases whole : position % windowSize.toNat + 1 = windowSize.toNat
    · have next : position + 1 = windowSize.toNat * (position / windowSize.toNat + 1) := by
        rw [Nat.mul_add, Nat.mul_one]
        omega
      rw [if_pos (by omega), if_pos (Dvd.intro _ next.symm)]
      refine ⟨_, rfl, ?_⟩
      have nonzero : windowSize ≠ 0 := by
        rintro rfl
        exact absurd positive (by decide)
      rw [At, enterWindow, if_neg nonzero]
      dsimp only
      rw [next, Nat.mul_mod_right, Nat.sub_zero]
    · have later : (position + 1) % windowSize.toNat = position % windowSize.toNat + 1 := by
        rw [← Nat.mod_eq_of_lt (show position % windowSize.toNat + 1 < windowSize.toNat by omega),
          Nat.mod_add_mod]
      rw [if_neg (by omega), if_neg (by
        rw [Nat.dvd_iff_mod_eq_zero, later]
        exact Nat.succ_ne_zero _)]
      refine ⟨_, rfl, ?_⟩
      rw [At, later]
      rfl
  last position download at_ last := by
    have short := (block_short content defaultBlockSize position (by decide) (by omega)).mpr last
    refine ⟨_, at_.receive.trans (if_pos short), ?_⟩
    rw [Has, take_blockCount last]

end DownloadWindow

section
variable {F : Type} [OpenedFile F]

/-- The length of a request without options. -/
theorem encode_length (fileName : String) :
    (ReadRequest.encode fileName []).length = (utf8 fileName).length + 9 := by
  have octets : (utf8 octet).length = 5 := by decide
  rw [ReadRequest.encode_eq]
  simp only [List.length_append, beBytes, List.length_cons, List.length_nil, octets, encodeOptions,
    List.flatMap_nil]
  omega

omit [OpenedFile F] in
/-- The request is the only datagram in flight. -/
theorem pending_start {C : Type} {server : TFTPServer} {client : C} {request : List UInt8}
    {delivery : Delivery}
    (pending : Exchange.Pending (Exchange.start server client request : Exchange C F) delivery) :
    delivery = .toServer := by
  cases delivery with
  | toServer => rfl
  | toClient => exact absurd rfl pending

/-- A refused client takes the error, and nothing else is sent. -/
theorem refused_run {C : Type} [Peer C] {schedule : ReadRequest → Scheduled F}
    {server : TFTPServer} {request error : List UInt8} {first last : C}
    (refused : Host.receive schedule (.listening server) request = ([error], .refused))
    (taken : Peer.receive first error = ([], last)) {deliveries : List Delivery}
    (permitted : Permits (Exchange.step schedule) Exchange.Pending
      (Exchange.start server first request) deliveries) :
    let exchange := deliveries.foldl (Exchange.step schedule) (Exchange.start server first request)
    deliveries.length ≤ 2 ∧ ((∀ delivery, ¬ exchange.Pending delivery) →
      exchange.client = last) := by
  intro exchange
  let answered : Exchange C F := ⟨.refused, first, [], [error]⟩
  let ended : Exchange C F := ⟨.refused, last, [], []⟩
  have countdown : Countdown (Exchange.step schedule) Exchange.Pending
      (Before (Exchange.start server first request) 1
        (Before answered 0 fun left state => left = 0 ∧ state = ended)) := by
    apply Countdown.before
    · apply Countdown.before
      · rintro left state delivery ⟨-, rfl⟩ pending
        cases delivery with
        | toServer => exact absurd rfl pending
        | toClient => exact absurd rfl pending
      · intro delivery pending
        cases delivery with
        | toServer => exact absurd rfl pending
        | toClient =>
            exact ⟨rfl, Exchange.step_toClient taken⟩
    · intro delivery pending
      obtain rfl := pending_start pending
      exact .inl ⟨rfl, Exchange.step_toServer refused⟩
  obtain ⟨fewer, total, reached⟩ := countdown.permits permitted (.inl ⟨rfl, rfl⟩)
  refine ⟨by omega, fun quiet => ?_⟩
  have behind := reached.quiet ⟨.toServer, List.cons_ne_nil _ _⟩ quiet
  have last := behind.quiet ⟨.toClient, List.cons_ne_nil _ _⟩ quiet
  exact congrArg Exchange.client last.2

variable [FullReads F]

/-- The errors of a refused request are short and have no NUL. -/
theorem refusal_clean {tftpError : TFTPError}
    (known : tftpError = TFTPError.fileNotFound ∨ tftpError = TFTPError.accessViolation ∨
      tftpError = TFTPError.undefined "Server Error") :
    0 ∉ utf8 tftpError.parse.2 ∧ (utf8 tftpError.parse.2).length ≤ 16 := by
  rcases known with rfl | rfl | rfl
  all_goals decide

/-- An error in place of the first block ends the download. -/
theorem Download.new_error {tftpError : TFTPError} (clean : 0 ∉ utf8 tftpError.parse.2)
    (short : (utf8 tftpError.parse.2).length ≤ 16) :
    Peer.receive Download.new (tftpError.body ++ [0]) = ([], ⟨[], .returned (.err
      ("ACK: [" ++ toString tftpError.parse.1 ++ "] " ++ tftpError.parse.2))⟩) := by
  have fits : (tftpError.body ++ [0]).length ≤ bufferSize := by
    rw [List.length_append, tftpError.body_length]
    change _ ≤ 1536
    simp only [List.length_singleton]
    omega
  have read := readExpected_error (show dataOpcode ≠ errorOpcode by decide) tftpError clean fits
  change Download.receive Download.new _ = _
  simp only [Download.receive, Download.new, Download.take, readNext, read, TFTPClientError.fmt]

/-- A served request is followed by the blocks of its file. -/
theorem Download.countdown {server : TFTPServer} {request : List UInt8} {parsed : ReadRequest}
    {schedule : ReadRequest → Scheduled F} {openedFile : OpenedAt F}
    (fed : (server.serve request).1 = .fed parsed)
    (found : schedule parsed = .send openedFile .empty) :
    Countdown (Exchange.step schedule) Exchange.Pending
      (Before (Exchange.start server Download.new request) (2 * blocksOf openedFile.file)
        (Delivers openedFile.file plainWindow (At (FullReads.remaining openedFile.file))
          (Has (FullReads.remaining openedFile.file)))) := by
  obtain ⟨aligned, sends, sent⟩ := start_plain openedFile.file
  have follows : Follows (FullReads.remaining openedFile.file) plainWindow.buffers.length _ _ :=
    Download.follows (FullReads.remaining openedFile.file)
  apply (Delivers.countdown follows rfl aligned schedule).before
  intro delivery pending
  obtain rfl := pending_start pending
  have twice : deliveriesLeft (blocksOf openedFile.file) plainWindow.buffers.length 0
      (0 * plainWindow.buffers.length) = 2 * blocksOf openedFile.file := by
    change _ - 0 * 1 + (_ - 0 * 1 + 1 - 1) / 1 = _
    omega
  have received := receive_send fed found
  rw [sent] at received
  rw [← twice, Exchange.start, Exchange.step_toServer received]
  exact Delivers.start sends rfl

/-- What a download gets is decided when its request is scheduled. -/
theorem Download.run (server : TFTPServer) (system disk : Path → Except IoError F)
    (roots : List RootKind) {fileName : String} (clean : 0 ∉ utf8 fileName)
    (short : (utf8 fileName).length + 9 < bufferSize) {deliveries : List Delivery} :
    let schedule := fun request => scheduleTask system disk request roots
    let start : Exchange Download F :=
      Exchange.start server Download.new (ReadRequest.encode fileName [])
    let exchange := deliveries.foldl (Exchange.step schedule) start
    Permits (Exchange.step schedule) Exchange.Pending start deliveries →
      match schedule ⟨fileName, .empty⟩ with
      | .send openedFile _ =>
          deliveries.length ≤ 2 * blocksOf openedFile.file + 1 ∧
            ((∀ delivery, ¬ exchange.Pending delivery) →
              exchange.client.status = .returned (.ok (FullReads.remaining openedFile.file)) ∧
              ∃ session, exchange.host = .serving session ∧ session.stage = .closed)
      | .fireError tftpError =>
          deliveries.length ≤ 2 ∧ ((∀ delivery, ¬ exchange.Pending delivery) →
            exchange.client.status = .returned (.err
              ("ACK: [" ++ toString tftpError.parse.1 ++ "] " ++ tftpError.parse.2))) := by
  intro schedule start exchange permitted
  have length := encode_length fileName
  have fed := serve_encode server clean (show Clean [] by nofun) (by omega)
  change (server.serve (ReadRequest.encode fileName [])).1 = .fed ⟨fileName, .empty⟩ at fed
  rcases scheduleTask_cases system disk ⟨fileName, .empty⟩ roots with
    ⟨openedFile, scheduled⟩ | ⟨tftpError, scheduled, known⟩
  · have found : schedule ⟨fileName, .empty⟩ = .send openedFile .empty := scheduled
    obtain ⟨fewer, total, reached⟩ :=
      (Download.countdown fed found).permits permitted (.inl ⟨rfl, rfl⟩)
    rw [found]
    refine ⟨by omega, fun quiet => ?_⟩
    have delivers := reached.quiet ⟨.toServer, List.cons_ne_nil _ _⟩ quiet
    exact (delivers.quiet quiet).2
  · have refused : schedule ⟨fileName, .empty⟩ = .fireError tftpError := scheduled
    obtain ⟨cleanError, shortError⟩ := refusal_clean known
    have answered := receive_fireError fed refused (by omega)
    rw [refused]
    obtain ⟨few, ended⟩ :=
      refused_run answered (Download.new_error cleanError shortError) permitted
    exact ⟨few, fun quiet => congrArg Download.status (ended quiet)⟩

namespace DownloadWindow
variable {windowSize : UInt16} {positive : 0 < windowSize.toNat}

/-- An error in place of the OACK ends the download. -/
theorem new_error (windowSize : UInt16) {tftpError : TFTPError}
    (clean : 0 ∉ utf8 tftpError.parse.2) (short : (utf8 tftpError.parse.2).length ≤ 16) :
    Peer.receive (DownloadWindow.new windowSize) (tftpError.body ++ [0]) =
      ([], ⟨windowSize, [], .returned (.err
        ("ACK: [" ++ toString tftpError.parse.1 ++ "] " ++ tftpError.parse.2))⟩) := by
  have fits : (tftpError.body ++ [0]).length ≤ bufferSize := by
    rw [List.length_append, tftpError.body_length]
    change _ ≤ 1536
    simp only [List.length_singleton]
    omega
  have read := readExpected_error (show oackOpcode ≠ errorOpcode by decide) tftpError clean fits
  change DownloadWindow.receive (DownloadWindow.new windowSize) _ = _
  simp only [DownloadWindow.receive, DownloadWindow.new, readOack, read, TFTPClientError.fmt]

end DownloadWindow

end

end Rtftp.Client

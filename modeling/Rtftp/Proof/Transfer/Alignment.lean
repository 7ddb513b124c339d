import Rtftp.Proof.Transfer.Fill
import Rtftp.Proof.Transfer.Reads

namespace Rtftp.PeerHandler
open Library

variable {O : Type} [OpenedFile O] {file : O} {transfer next : Transfer O} {acked : Nat}

/-- This is the DATA datagram of the read at a position. -/
def blockDatagram (file : O) (size position : Nat) : List UInt8 :=
  Window.header (UInt16.ofNat position) ++ payload file size position

/-- The transfer has read the first blocks of its file, and it is done after a short one. -/
structure Reading (file : O) (transfer : Transfer O) : Prop where
  opened : transfer.openedFile =
    fileAfter file transfer.window.blockSize.toNat transfer.blocksRead
  lastReadIndex : transfer.lastReadIndex = UInt16.ofNat transfer.blocksRead
  readable : Readable file transfer.window.blockSize.toNat transfer.blocksRead
  done : transfer.done = true ↔ 0 < transfer.blocksRead ∧
    (payload file transfer.window.blockSize.toNat transfer.blocksRead).length <
      transfer.window.blockSize.toNat
  bytesSent : transfer.bytesSent = ((List.range transfer.blocksRead).map fun index =>
    (payload file transfer.window.blockSize.toNat (index + 1)).length).sum

/-- The window divides the cycle of the indices, or the indices have not wrapped. -/
def Exact (transfer : Transfer O) : Prop :=
  transfer.window.buffers.length ∣ 65536 ∨ transfer.blocksRead ≤ 65535

/-- The blocks after `acked` are in flight, and they fit in the window. While the slots are
exact, each of these blocks is in its buffer. -/
structure Flying (file : O) (acked : Nat) (transfer : Transfer O) : Prop
    extends Reading file transfer where
  acknowledged : transfer.lastAcknowledgedIndex = UInt16.ofNat acked
  ordered : acked ≤ transfer.blocksRead
  room : transfer.blocksRead ≤ acked + transfer.window.buffers.length
  held : Exact transfer → ∀ position, acked < position → position ≤ transfer.blocksRead →
    transfer.window.send (UInt16.ofNat position) =
      blockDatagram file transfer.window.blockSize.toNat position

/-- A read never returns more than one block. -/
theorem payload_length_le (file : O) (size position : Nat) :
    (payload file size position).length ≤ size := by
  unfold payload
  split
  · rename_i bytes next read
    exact OpenedFile.readTo_fits _ _ _ _ read
  · exact Nat.zero_le size

/-- A transfer starts with nothing read. -/
theorem Reading.new (file : O) (window : Window) : Reading file (Transfer.new file window) where
  opened := rfl
  lastReadIndex := rfl
  readable position impossible := absurd impossible (Nat.not_lt_zero position)
  done := by simp [Transfer.new]
  bytesSent := rfl

/-- The blocks of an unfinished transfer are full. -/
theorem Reading.full (reading : Reading file transfer) (unfinished : transfer.done = false)
    (some : 0 < transfer.blocksRead) :
    (payload file transfer.window.blockSize.toNat transfer.blocksRead).length =
      transfer.window.blockSize.toNat := by
  have open_ : ¬ transfer.done = true := by rw [unfinished]; decide
  have long := mt reading.done.mpr open_
  have bounded := payload_length_le file transfer.window.blockSize.toNat transfer.blocksRead
  omega

/-- A read of an unfinished transfer takes the next block of the file. -/
theorem Reading.readBlock (reading : Reading file transfer) (unfinished : transfer.done = false)
    {isLast : Bool} (read : transfer.readBlock = .ok (next, isLast)) : Reading file next := by
  obtain ⟨bytes, rest, window, taken, changed, rfl, rfl⟩ := transfer.readBlock_cases read
  have size := changed.blockSize
  rw [reading.opened] at taken
  have new := payload_succ taken
  constructor
  case opened =>
    dsimp only
    rw [size, fileAfter_succ taken]
  case lastReadIndex =>
    dsimp only
    rw [reading.lastReadIndex, serial_succ]
  case readable =>
    dsimp only
    rw [size]
    exact reading.readable.succ (reading.full unfinished) taken
  case done =>
    dsimp only
    rw [size, new, unfinished, Bool.false_or, decide_eq_true_eq]
    exact ⟨fun short => ⟨Nat.succ_pos _, short⟩, And.right⟩
  case bytesSent =>
    dsimp only
    rw [size, List.range_succ, List.map_append, List.sum_append, ← reading.bytesSent,
      List.map_singleton, List.sum_singleton, new]

/-- Positions that fit in one window have different slots while the slots are exact. -/
theorem slot_ne_of_exact (width first second : Nat) (exact_ : width ∣ 65536 ∨ second ≤ 65535)
    (before : first < second) (close : second < first + width) :
    (UInt16.ofNat first).toNat % width ≠ (UInt16.ofNat second).toNat % width := by
  rw [UInt16.toNat_ofNat', UInt16.toNat_ofNat']
  rcases exact_ with divides | unwrapped
  · exact ringSlot_ne_of_dvd 65536 width first second divides before close
  · exact ringSlot_ne_of_lt 65536 width first second (by omega) before close

/-- A read into a free slot keeps every block in flight. -/
theorem Flying.readBlock (flying : Flying file acked transfer)
    (unfinished : transfer.done = false)
    (free : transfer.blocksRead < acked + transfer.window.buffers.length)
    {isLast : Bool} (read : transfer.readBlock = .ok (next, isLast)) :
    Flying file acked next := by
  have reading := flying.toReading.readBlock unfinished read
  obtain ⟨bytes, rest, window, taken, changed, _, rfl⟩ := transfer.readBlock_cases read
  rw [flying.opened] at taken
  have ordered := flying.ordered
  refine ⟨reading, flying.acknowledged, Nat.le_succ_of_le ordered, ?_, ?_⟩
  · dsimp only
    rw [changed.length]
    exact free
  · intro exact_ position after inside
    unfold Exact at exact_
    dsimp only at exact_ inside ⊢
    rw [changed.length] at exact_
    rw [changed.blockSize]
    rw [flying.lastReadIndex, serial_succ] at changed
    by_cases newest : position = transfer.blocksRead + 1
    · subst position
      rw [blockDatagram, payload_succ taken]
      exact changed.written _ rfl
    · rw [changed.kept]
      · apply flying.held _ position after (by omega)
        exact exact_.imp_right fun bounded => by omega
      · exact slot_ne_of_exact _ _ _ exact_ (by omega) (by omega)

/-- The index of a block in flight is the serial number of its position. -/
theorem Flying.index (flying : Flying file acked transfer) (v : Nat) :
    transfer.windowIndex + UInt16.ofNat v = UInt16.ofNat (acked + 1 + v) := by
  rw [Transfer.windowIndex, flying.acknowledged, serial_succ, serial_add]

/-- The unacknowledged count of a flying transfer is the number of blocks in flight. -/
theorem Flying.unacknowledgedCount (flying : Flying file acked transfer) :
    transfer.unacknowledgedCount.toNat = transfer.blocksRead - acked := by
  have narrow := transfer.window.narrow
  have ordered := flying.ordered
  have room := flying.room
  rw [Transfer.unacknowledgedCount, flying.lastReadIndex, flying.acknowledged]
  exact serial_distance acked transfer.blocksRead ordered (by omega)

/-- A fill keeps the transfer in flight. -/
theorem Flying.fill (flying : Flying file acked transfer) (unfinished : transfer.done = false)
    {result : Except TFTPError UInt16} (filled : transfer.fill = (result, next)) :
    Flying file acked next := by
  have count := flying.unacknowledgedCount
  have ordered := flying.ordered
  have room := flying.room
  have kept := fillWindow_invariant
    (fun left current => Flying file acked current ∧
      current.blocksRead + left ≤ acked + current.window.buffers.length)
    (by
      rintro left current following isLast ⟨inFlight, spare⟩ going read
      have shape := current.readBlock_filled read
      refine ⟨inFlight.readBlock going (by omega) read, ?_⟩
      rw [shape.blocksRead, shape.length]
      omega)
    _ _ _ _ _ filled
    ⟨flying, by rw [Window.size_toNat, count]; omega⟩ unfinished
  obtain ⟨_, inFlight, _⟩ := kept
  exact inFlight

/-- A fill of an unfinished transfer takes the next blocks of the file. -/
theorem Reading.fill (reading : Reading file transfer) (unfinished : transfer.done = false)
    {result : Except TFTPError UInt16} (filled : transfer.fill = (result, next)) :
    Reading file next := by
  obtain ⟨_, kept⟩ := fillWindow_invariant (fun _ current => Reading file current)
    (fun _ _ _ _ current going read => current.readBlock going read)
    _ _ _ _ _ filled reading unfinished
  exact kept

/-- A fill with room in the window and a burst to send has read at least one block. -/
theorem Flying.fill_reads (flying : Flying file acked transfer)
    (spare : transfer.blocksRead < acked + transfer.window.buffers.length) {toSend : UInt16}
    (filled : transfer.fill = (.ok toSend, next)) : transfer.blocksRead < next.blocksRead := by
  have count := flying.unacknowledgedCount
  have ordered := flying.ordered
  obtain ⟨rounds, bounded, shape, counted⟩ := fillWindow_filled _ _ _ _ _ filled
  have advanced := (counted toSend rfl).2.1
  rw [Window.size_toNat, count] at advanced
  have total := shape.blocksRead
  omega

/-- A read succeeds while the file is readable. -/
theorem Reading.readBlock_returns (reading : Reading file transfer) {count : Nat}
    (readable : Readable file transfer.window.blockSize.toNat count)
    (more : transfer.blocksRead < count) :
    ∃ next isLast, transfer.readBlock = .ok (next, isLast) ∧
      (transfer.blocksRead + 1 < count → isLast = false) := by
  obtain ⟨bytes, rest, read, full⟩ := readable transfer.blocksRead more
  rw [← reading.opened] at read
  unfold Transfer.readBlock
  dsimp only
  rw [Window.pushBlock_eq, read]
  refine ⟨_, _, rfl, ?_⟩
  intro before
  rw [full before]
  exact decide_eq_false (Nat.lt_irrefl _)

/-- A fill succeeds while the file is readable, and it stops at the room or at a short block. -/
theorem fillWindow_readable (room : Nat) (transfer : Transfer O) (toSend : UInt16) {count : Nat}
    (reading : Reading file transfer)
    (readable : Readable file transfer.window.blockSize.toNat count)
    (unfinished : transfer.done = false) (within : transfer.blocksRead ≤ count)
    (enough : transfer.blocksRead + room ≤ count ∨
      (payload file transfer.window.blockSize.toNat count).length <
        transfer.window.blockSize.toNat ∧ 0 < count) :
    ∃ total next, fillWindow room transfer toSend = (.ok total, next) ∧
      next.blocksRead = min (transfer.blocksRead + room) count := by
  induction room generalizing transfer toSend with
  | zero => exact ⟨toSend, transfer, rfl, by omega⟩
  | succ room ih =>
      have more : transfer.blocksRead < count := by
        by_contra all
        have equal : transfer.blocksRead = count := by omega
        rcases enough with inside | ⟨short, some⟩
        · omega
        · rw [← equal] at short some
          have full := reading.full unfinished some
          omega
      obtain ⟨next, isLast, read, long⟩ := reading.readBlock_returns readable more
      have shape := transfer.readBlock_filled read
      have advanced := shape.blocksRead
      unfold fillWindow
      simp only [read]
      cases isLast with
      | true =>
          have last : ¬ transfer.blocksRead + 1 < count := fun before => by
            cases long before
          exact ⟨toSend + 1, next, rfl, by omega⟩
      | false =>
          have open_ : next.done = false := by
            obtain ⟨_, _, _, _, _, _, rfl⟩ := transfer.readBlock_cases read
            simp only [unfinished, Bool.or_false]
          obtain ⟨total, last, filled, sum⟩ := ih next (toSend + 1)
            (reading.readBlock unfinished read) (by rw [shape.blockSize]; exact readable)
            open_ (by omega) (by rw [shape.blockSize]; exact enough.imp_left fun _ => by omega)
          exact ⟨total, last, filled, by omega⟩

section FullReads
variable [FullReads O]

/-- A file with full reads never fails a read. -/
theorem Transfer.readBlock_full (transfer : Transfer O) :
    ∃ next isLast, transfer.readBlock = .ok (next, isLast) := by
  obtain ⟨rest, read, _⟩ :=
    FullReads.readTo_full transfer.openedFile transfer.window.blockSize.toNat
  unfold readBlock
  dsimp only
  rw [Window.pushBlock_eq, read]
  exact ⟨_, _, rfl⟩

/-- An unfinished transfer with full reads has a next block. -/
theorem Reading.readable_next (reading : Reading file transfer)
    (unfinished : transfer.done = false) :
    Readable file transfer.window.blockSize.toNat (transfer.blocksRead + 1) := by
  obtain ⟨rest, read, _⟩ := FullReads.readTo_full
    (fileAfter file transfer.window.blockSize.toNat transfer.blocksRead)
    transfer.window.blockSize.toNat
  exact reading.readable.succ (reading.full unfinished) read

/-- A fill of a file with full reads always returns a burst. -/
theorem Transfer.fill_returns (transfer : Transfer O) :
    ∃ toSend next, transfer.fill = (.ok toSend, next) := by
  unfold fill
  generalize transfer.unacknowledgedCount = toSend
  generalize transfer.window.size.toNat - toSend.toNat = room
  induction room generalizing transfer toSend with
  | zero => exact ⟨toSend, transfer, rfl⟩
  | succ room ih =>
      obtain ⟨next, isLast, read⟩ := transfer.readBlock_full
      unfold fillWindow
      rw [read]
      cases isLast with
      | true => exact ⟨toSend + 1, next, rfl⟩
      | false => exact ih next (toSend + 1)

/-- This is the DATA datagram of the block at a position of the content. -/
def dataDatagram (content : List UInt8) (size position : Nat) : List UInt8 :=
  Window.header (UInt16.ofNat position) ++ block content size position

/-- Full reads send the blocks of the file. -/
theorem blockDatagram_eq (file : O) (size position : Nat) (positive : 0 < position) :
    blockDatagram file size position =
      dataDatagram (FullReads.remaining file) size position := by
  rw [blockDatagram, payload_eq_block file size position positive, dataDatagram]

/-- Full reads send the slices of the file. -/
theorem blockDatagram_slice (file : O) (size position : Nat) (positive : 0 < position) :
    blockDatagram file size position =
      [0x00, 0x03] ++ beBytes (UInt16.ofNat position) ++
        ((FullReads.remaining file).take
          (min (position * size) (FullReads.remaining file).length)).drop ((position - 1) * size) := by
  rw [blockDatagram, payload_eq_block file size position positive, block_slice _ _ _ positive]
  rfl

/-- A transfer with full reads is done exactly after the last block of its file. -/
theorem Reading.done_iff (reading : Reading file transfer)
    (positive : 0 < transfer.window.blockSize.toNat) :
    transfer.done = true ↔ transfer.blocksRead =
      blockCount (FullReads.remaining file) transfer.window.blockSize.toNat := by
  have within := (readable_iff file positive).mp reading.readable
  rw [reading.done]
  cases read : transfer.blocksRead with
  | zero => simp [blockCount]
  | succ count =>
      rw [read] at within
      rw [payload_eq_block file _ (count + 1) (Nat.succ_pos _),
        block_short _ _ _ positive (by omega)]
      exact ⟨And.right, fun last => ⟨Nat.succ_pos _, last⟩⟩

/-- A transfer with full reads counts the bytes of its file. -/
theorem Reading.bytes (reading : Reading file transfer) :
    transfer.bytesSent = min (transfer.blocksRead * transfer.window.blockSize.toNat)
      (FullReads.remaining file).length := by
  rw [reading.bytesSent, ← blocks_length]
  congr 1
  apply List.map_congr_left
  intro index _
  rw [payload_eq_block file _ (index + 1) (Nat.succ_pos _)]

end FullReads

end Rtftp.PeerHandler

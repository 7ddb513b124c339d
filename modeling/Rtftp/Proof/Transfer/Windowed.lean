import Rtftp.Proof.Transfer.Receiver
import Rtftp.Proof.Transfer.Soundness
import Rtftp.Proof.Transfer.Tracking

namespace Rtftp.PeerHandler
open Library

variable {O : Type} [OpenedFile O] [FullReads O]

omit [FullReads O] in
/-- Before the indices wrap, the last datagrams sent are the blocks between the acknowledged and the
read index. -/
theorem Burst.sent_blocks {openedFile : O} {sending : Sending O} {toSend : UInt16} {acked : Nat}
    (burst : Burst openedFile sending toSend acked)
    (unwrapped : sending.transfer.blocksRead ≤ 65535) :
    sending.transfer.lastReadIndex.toNat - sending.transfer.lastAcknowledgedIndex.toNat ≤
        sending.transfer.window.buffers.length ∧
      ∃ earlier, sending.line.sent = earlier ++
        (List.range' (sending.transfer.lastAcknowledgedIndex.toNat + 1)
          (sending.transfer.lastReadIndex.toNat -
            sending.transfer.lastAcknowledgedIndex.toNat)).map fun k =>
          .block (UInt16.ofNat k)
            (blockDatagram openedFile sending.transfer.window.blockSize.toNat k) := by
  have ordered := burst.ordered
  have room := burst.room
  have acknowledged : sending.transfer.lastAcknowledgedIndex.toNat = acked := by
    rw [burst.acknowledged]
    exact serial_toNat acked (by omega)
  have read : sending.transfer.lastReadIndex.toNat = sending.transfer.blocksRead := by
    rw [burst.lastReadIndex]
    exact serial_toNat _ (by omega)
  obtain ⟨earlier, sent⟩ := burst.sent_positions
  rw [acknowledged, read]
  refine ⟨by omega, earlier, ?_⟩
  rw [sent]
  congr 1
  apply List.map_congr_left
  intro position inside
  rw [List.mem_range'_1] at inside
  simp only [Emission.block.injEq, true_and]
  exact burst.held (.inr unwrapped) position (by omega) (by omega)

/-- Every datagram of a windowed transfer is the block that its index names, every burst is the
blocks in flight in order, and the datagrams in any order give a receiver a prefix of the file. -/
theorem windowedTransfer_exact (openedFile : O) (blockSize windowSize : UInt16)
    (positive : 0 < windowSize.toNat) (verdicts : List Bool) (sending : Sending O)
    (reached : Reach Sending.resume InBurst
      (Sending.start openedFile (Window.new blockSize windowSize positive) verdicts) sending)
    (unwrapped : sending.transfer.blocksRead ≤ 65535) :
    let content := FullReads.remaining openedFile
    let slice (k : Nat) := (content.take (min (k * blockSize.toNat) content.length)).drop
      ((k - 1) * blockSize.toNat)
    (∀ index datagram, .block index datagram ∈ sending.line.sent →
      datagram = [0x00, 0x03] ++ beBytes index ++ slice index.toNat) ∧
    (∀ toSend attempts, sending.status = .awaiting toSend attempts →
      let first := sending.transfer.lastAcknowledgedIndex.toNat + 1
      let count := sending.transfer.lastReadIndex.toNat -
        sending.transfer.lastAcknowledgedIndex.toNat
      count ≤ windowSize.toNat ∧ ∃ earlier, sending.line.sent = earlier ++
        (List.range' first count).map fun k => .block (UInt16.ofNat k)
          ([0x00, 0x03] ++ beBytes (UInt16.ofNat k) ++ slice k)) ∧
    (∀ deliveries : List (List UInt8),
      (∀ datagram ∈ deliveries, ∃ index, .block index datagram ∈ sending.line.sent) →
        (Receiver.receive deliveries).data <+: content) := by
  intro content slice
  have sound := sound_of_reach openedFile _ verdicts reached
  have tracked := tracked_of_reach openedFile _ verdicts reached
  have size : sending.transfer.window.blockSize = blockSize := tracked.blockSize
  have exact_ : Exact sending.transfer := .inr unwrapped
  have bytes (k : Nat) (counted : 1 ≤ k) :
      blockDatagram openedFile blockSize.toNat k =
        [0x00, 0x03] ++ beBytes (UInt16.ofNat k) ++ slice k :=
    blockDatagram_slice openedFile blockSize.toNat k counted
  refine ⟨?_, ?_, ?_⟩
  · intro index datagram member
    obtain ⟨position, counted, within, rfl, exactly⟩ := sound.traced index datagram member
    rw [exactly exact_, size, serial_toNat position (by omega), bytes position counted]
  · intro toSend attempts waiting first count
    obtain ⟨acked, burst⟩ := sound.burst toSend attempts waiting
    obtain ⟨room, earlier, sent⟩ := burst.sent_blocks unwrapped
    rw [tracked.length, Window.new_length] at room
    refine ⟨room, earlier, ?_⟩
    rw [sent, size]
    congr 1
    apply List.map_congr_left
    intro k inside
    rw [bytes k (by simp only [List.mem_range'_1] at inside; omega)]
  · intro deliveries sent
    have received := Receiver.receive_blocks content blockSize.toNat deliveries (by
      intro datagram member
      obtain ⟨index, handed⟩ := sent datagram member
      obtain ⟨position, counted, within, _, exactly⟩ := sound.traced index datagram handed
      exact ⟨position, counted, by omega,
        by rw [exactly exact_, size, blockDatagram_eq _ _ _ counted]⟩)
    rw [received.2]
    exact List.take_prefix _ _

/-- A partial acknowledge of the first burst makes the second burst start with block two. -/
theorem windowedTransfer_exact_partial :
    let content := List.replicate 20 7
    let sending := (Sending.start (VirtualOpenedFile.new content)
      (Window.new 8 2 (by decide)) []).resume (.ok 1)
    sending.line.sent.map (fun emission => match emission with
      | .block index _ => some index
      | .error _ => none) = [some 1, some 2, some 2, some 3] ∧
    ∀ deliveries : List (List UInt8),
      (∀ datagram ∈ deliveries, ∃ index, .block index datagram ∈ sending.line.sent) →
        (Receiver.receive deliveries).data <+: content := by
  intro content sending
  refine ⟨by decide, ?_⟩
  have waiting : (Sending.start (VirtualOpenedFile.new content)
      (Window.new 8 2 (by decide)) []).status = .awaiting 2 4 := by decide
  have reached : Reach Sending.resume InBurst
      (Sending.start (VirtualOpenedFile.new content) (Window.new 8 2 (by decide)) []) sending :=
    .next .start (inBurst_ok waiting ⟨0, by decide, by decide⟩)
  exact (windowedTransfer_exact _ 8 2 (by decide) [] sending reached (by decide)).2.2

end Rtftp.PeerHandler

import Rtftp.Construction.Session
import Rtftp.Proof.Transfer.Alignment

namespace Rtftp.PeerHandler
open Library

/-- The receiver takes a block exactly when it is the expected one. -/
theorem Receiver.accept_dataDatagram (receiver : Receiver) (content : List UInt8)
    (size position : Nat) :
    receiver.accept (dataDatagram content size position) =
      if UInt16.ofNat position = UInt16.ofNat (receiver.blocks + 1) then
        ⟨receiver.blocks + 1, receiver.data ++ block content size position⟩
      else receiver := by
  change (if fromBeBytes _ _ = _ then _ else _) = _
  rw [fromBeBytes_beBytes]
  rfl

/-- Exact datagrams of unwrapped positions give the receiver the first blocks of the content. -/
theorem Receiver.receive_blocks (content : List UInt8) (size : Nat)
    (datagrams : List (List UInt8))
    (exactly : ∀ datagram ∈ datagrams, ∃ position, 1 ≤ position ∧ position ≤ 65535 ∧
      datagram = dataDatagram content size position) :
    (Receiver.receive datagrams).blocks ≤ 65535 ∧
      (Receiver.receive datagrams).data =
        content.take ((Receiver.receive datagrams).blocks * size) := by
  induction datagrams using List.reverseRecOn with
  | nil => exact ⟨Nat.zero_le _, by simp [receive]⟩
  | append_singleton earlier datagram ih =>
      obtain ⟨bounded, held⟩ := ih fun old member =>
        exactly old (List.mem_append_left _ member)
      obtain ⟨position, positive, unwrapped, rfl⟩ := exactly datagram (by simp)
      have last : receive (earlier ++ [dataDatagram content size position]) =
          (receive earlier).accept (dataDatagram content size position) := by
        rw [receive, receive, List.foldl_append, List.foldl_cons, List.foldl_nil]
      rw [last, accept_dataDatagram]
      split
      · rename_i expected
        have numbers := congrArg UInt16.toNat expected
        rw [UInt16.toNat_ofNat', UInt16.toNat_ofNat'] at numbers
        have next : position = (receive earlier).blocks + 1 := by omega
        subst next
        refine ⟨unwrapped, ?_⟩
        have span : ((receive earlier).blocks + 1) * size =
            (receive earlier).blocks * size + size := by ring
        dsimp only
        rw [held, block_succ, span, List.take_add]
      · exact ⟨bounded, held⟩

theorem ackDatagram_inj {first second : UInt16} (equal : ackDatagram first = ackDatagram second) :
    first = second :=
  beBytes_inj (List.append_cancel_left equal)

/-- Every answer is an acknowledge. -/
theorem Receiver.reply_formed (receiver : Receiver) (datagram ack : List UInt8)
    (member : ack ∈ receiver.reply datagram) : ∃ index, ack = ackDatagram index := by
  unfold Receiver.reply at member
  split at member
  · split at member
    · exact ⟨_, List.mem_singleton.mp member⟩
    · cases member
  · cases member

/-- A block is answered with its own number or not at all. -/
theorem Receiver.reply_blockDatagram {O : Type} [OpenedFile O] (receiver : Receiver) (file : O)
    (size position : Nat) :
    receiver.reply (blockDatagram file size position) =
      if (List.range (receiver.blocks + 1)).any
          fun before => UInt16.ofNat (before + 1) == UInt16.ofNat position then
        [ackDatagram (UInt16.ofNat position)]
      else [] := by
  change (if (List.range (receiver.blocks + 1)).any
    fun before => UInt16.ofNat (before + 1) == fromBeBytes _ _ then _ else _) = _
  rw [fromBeBytes_beBytes]

/-- The server reads the number of an acknowledge, whatever its buffer held. -/
theorem readAcknowledge_ackDatagram (index : UInt16) (buffer : List UInt8)
    (room : 4 ≤ buffer.length) :
    readAcknowledge [.datagram true (ackDatagram index)] buffer =
      (.ok index, overwrite buffer 0 (ackDatagram index)) := by
  have size : (ackDatagram index).length = 4 := rfl
  have received : overwrite buffer 0 (ackDatagram index) =
      ackDatagram index ++ buffer.drop 4 := by
    rw [overwrite_eq buffer 0 (ackDatagram index) (by omega), size]
    rfl
  have parsed : parseAcknowledge (ackDatagram index ++ buffer.drop 4) = .ok index := by
    have opcode : fromBeBytes 0 4 = ackOpcode := by decide
    simp [parseAcknowledge, ReadCursor.new, ReadCursor.extractUshort, ackDatagram, beBytes, opcode]
  have enough : ¬ min (ackDatagram index).length buffer.length < 4 := by omega
  simp only [readAcknowledge, recv, Bool.not_true, Bool.false_eq_true, if_false, enough]
  rw [received, parsed]

end Rtftp.PeerHandler

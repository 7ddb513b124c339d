import Rtftp.Proof.Client.Bursts

namespace Rtftp.Client
open Library PeerHandler

variable {C F : Type} [Peer C]

section
variable {schedule : ReadRequest → Scheduled F} {host next : Host F} {client later : C}
  {datagram : List UInt8} {rest others sent : List (List UInt8)}

/-- The server answers the oldest datagram for it. -/
theorem Exchange.step_toServer [OpenedFile F]
    (received : Host.receive schedule host datagram = (sent, next)) :
    Exchange.step schedule ⟨host, client, datagram :: rest, others⟩ .toServer =
      ⟨next, client, rest, others ++ sent⟩ := by
  simp only [Exchange.step, received]

/-- The client answers the oldest datagram for it. -/
theorem Exchange.step_toClient [OpenedFile F]
    (received : Peer.receive client datagram = (sent, later)) :
    Exchange.step schedule ⟨host, client, others, datagram :: rest⟩ .toClient =
      ⟨host, later, others ++ sent, rest⟩ := by
  simp only [Exchange.step, received]

end

/-- A client takes the blocks of a content in their order. It answers the last block of every group
and the last block of the content. -/
structure Follows (content : List UInt8) (width : Nat) (At : Nat → C → Prop)
    (Done : C → Prop) : Prop where
  next : ∀ position client, At position client →
    position + 1 < blockCount content defaultBlockSize →
      ∃ later, Peer.receive client (dataDatagram content defaultBlockSize (position + 1)) =
        (if width ∣ position + 1 then [ackDatagram (UInt16.ofNat (position + 1))] else [], later) ∧
          At (position + 1) later
  last : ∀ position client, At position client →
    position + 1 = blockCount content defaultBlockSize →
      ∃ later, Peer.receive client (dataDatagram content defaultBlockSize (position + 1)) =
        ([ackDatagram (UInt16.ofNat (position + 1))], later) ∧ Done later

variable [OpenedFile F] [FullReads F]

/-- These are the deliveries of the blocks and of the acknowledges that are left. -/
def deliveriesLeft (count width group position : Nat) : Nat :=
  count - position + (count - group * width + width - 1) / width

/-- The acknowledge of a group is one delivery. -/
theorem deliveriesLeft_group {count width group : Nat} (positive : 0 < width)
    (some : group * width < count) :
    deliveriesLeft count width group (min ((group + 1) * width) count) =
      deliveriesLeft count width (group + 1) ((group + 1) * width) + 1 := by
  have span : (group + 1) * width = group * width + width := by ring
  have groups := groupsLeft_succ positive (show 0 < count - group * width by omega)
  have later : count - group * width - min width (count - group * width) =
      count - (group + 1) * width := by omega
  rw [deliveriesLeft, deliveriesLeft, ← groups, later]
  omega

/-- The exchange delivers the blocks of a group, or the acknowledge of a group, or it has ended. -/
inductive Delivers (file : F) (window : Window) (At : Nat → C → Prop) (Done : C → Prop) :
    Nat → Exchange C F → Prop where
  | blocks {group position : Nat} {session : Serving F} {client : C}
      (sends : Sends file window group session) (taken : At position client)
      (begun : group * window.buffers.length ≤ position)
      (some : position < min ((group + 1) * window.buffers.length) (blocksOf file)) :
      Delivers file window At Done
        (deliveriesLeft (blocksOf file) window.buffers.length group position)
        ⟨.serving session, client, [], (List.range' (position + 1)
          (min ((group + 1) * window.buffers.length) (blocksOf file) - position)).map
            (dataDatagram (FullReads.remaining file) defaultBlockSize)⟩
  | acknowledge {group : Nat} {session : Serving F} {client : C}
      (sends : Sends file window group session)
      (more : min ((group + 1) * window.buffers.length) (blocksOf file) ≠ blocksOf file →
        At (min ((group + 1) * window.buffers.length) (blocksOf file)) client)
      (last : min ((group + 1) * window.buffers.length) (blocksOf file) = blocksOf file →
        Done client) :
      Delivers file window At Done
        (deliveriesLeft (blocksOf file) window.buffers.length group
          (min ((group + 1) * window.buffers.length) (blocksOf file)))
        ⟨.serving session, client, [ackDatagram (UInt16.ofNat
          (min ((group + 1) * window.buffers.length) (blocksOf file)))], []⟩
  | ended {session : Serving F} {client : C} (done : Done client)
      (closed : session.stage = .closed) :
      Delivers file window At Done 0 ⟨.serving session, client, [], []⟩

section
variable {file : F} {window : Window} {At : Nat → C → Prop} {Done : C → Prop} {group position : Nat}
  {session : Serving F} {client : C}
  (follows : Follows (FullReads.remaining file) window.buffers.length At Done)
include follows

/-- The client takes a block. It answers the last block of the group, and it waits for the next block
otherwise. -/
theorem Delivers.takeBlock (schedule : ReadRequest → Scheduled F)
    (sends : Sends file window group session) (taken : At position client)
    (begun : group * window.buffers.length ≤ position)
    (some : position < min ((group + 1) * window.buffers.length) (blocksOf file)) :
    Delivers file window At Done
      (deliveriesLeft (blocksOf file) window.buffers.length group (position + 1))
      (Exchange.step schedule ⟨.serving session, client, [], (List.range' (position + 1)
        (min ((group + 1) * window.buffers.length) (blocksOf file) - position)).map
          (dataDatagram (FullReads.remaining file) defaultBlockSize)⟩ .toClient) := by
  have span : (group + 1) * window.buffers.length =
      group * window.buffers.length + window.buffers.length := by ring
  have burst : min ((group + 1) * window.buffers.length) (blocksOf file) - position =
      min ((group + 1) * window.buffers.length) (blocksOf file) - (position + 1) + 1 := by omega
  rw [burst, List.range'_succ, List.map_cons]
  -- The answer of the client is the acknowledge of its group.
  have answered {later : C} (whole : min ((group + 1) * window.buffers.length) (blocksOf file) =
        position + 1)
      (more : position + 1 ≠ blocksOf file → At (position + 1) later)
      (last : position + 1 = blocksOf file → Done later) :
      Delivers file window At Done
        (deliveriesLeft (blocksOf file) window.buffers.length group (position + 1))
        ⟨.serving session, later, [ackDatagram (UInt16.ofNat (position + 1))], []⟩ := by
    rw [← whole] at more last ⊢
    exact .acknowledge sends more last
  by_cases last : position + 1 = blocksOf file
  · obtain ⟨later, received, done⟩ := follows.last position client taken last
    have whole : min ((group + 1) * window.buffers.length) (blocksOf file) = position + 1 := by
      omega
    rw [Exchange.step_toClient received, whole, Nat.sub_self]
    exact answered whole (fun more => absurd last more) fun _ => done
  · obtain ⟨later, received, next⟩ := follows.next position client taken (by
      change position + 1 < blocksOf file
      omega)
    by_cases whole : min ((group + 1) * window.buffers.length) (blocksOf file) = position + 1
    · have divides : window.buffers.length ∣ position + 1 := Dvd.intro_left (group + 1) (by omega)
      rw [if_pos divides] at received
      rw [Exchange.step_toClient received, whole, Nat.sub_self]
      exact answered whole (fun _ => next) fun finished => absurd finished last
    · have between : ¬ window.buffers.length ∣ position + 1 := by
        rintro ⟨groups, equal⟩
        rw [Nat.mul_comm] at equal
        have above : group < groups := Nat.lt_of_mul_lt_mul_right (a := window.buffers.length)
          (by omega)
        have below : groups < group + 1 := Nat.lt_of_mul_lt_mul_right (a := window.buffers.length)
          (by omega)
        omega
      rw [if_neg between] at received
      rw [Exchange.step_toClient received]
      exact .blocks sends next (by omega) (by omega)

omit follows in
theorem Sends.some (sends : Sends file window group session) :
    group * window.buffers.length < blocksOf file := by
  obtain ⟨_, _, _, _, _, cooperating⟩ := sends
  exact cooperating.some

omit [Peer C] follows in
/-- A group with all its blocks is in flight when its session has just sent it. -/
theorem Delivers.start (sends : Sends file window group session)
    (taken : At (group * window.buffers.length) client) :
    Delivers file window At Done (deliveriesLeft (blocksOf file) window.buffers.length group
        (group * window.buffers.length))
      ⟨.serving session, client, [], groupDatagrams (FullReads.remaining file)
        window.buffers.length (blocksOf file) group⟩ := by
  have some := sends.some
  have occupied := window.occupied
  have span : (group + 1) * window.buffers.length =
      group * window.buffers.length + window.buffers.length := by ring
  exact .blocks sends taken (Nat.le_refl _) (by omega)

/-- Every delivery brings the exchange closer to its end. -/
theorem Delivers.countdown (sized : window.blockSize.toNat = defaultBlockSize)
    (aligned : Aligned file window) (schedule : ReadRequest → Scheduled F) :
    Countdown (Exchange.step schedule) Exchange.Pending (Delivers file window At Done) := by
  intro left exchange delivery delivers pending
  cases delivers with
  | @blocks group position session client sends taken begun some =>
      cases delivery with
      | toServer => exact absurd rfl pending
      | toClient =>
          refine ⟨_, ?_, Delivers.takeBlock follows schedule sends taken begun some⟩
          rw [deliveriesLeft, deliveriesLeft]
          omega
  | @acknowledge group session client sends more last =>
      cases delivery with
      | toClient => exact absurd rfl pending
      | toServer =>
          have counted := deliveriesLeft_group window.occupied sends.some
          obtain ⟨ends, goes⟩ := sends.receive sized aligned schedule
          by_cases finished :
              min ((group + 1) * window.buffers.length) (blocksOf file) = blocksOf file
          · obtain ⟨next, received, closed⟩ := ends finished
            have none : deliveriesLeft (blocksOf file) window.buffers.length (group + 1)
                ((group + 1) * window.buffers.length) = 0 := by
              rw [deliveriesLeft, Nat.sub_eq_zero_of_le (min_eq_right_iff.mp finished),
                Nat.zero_add, Nat.zero_add]
              exact Nat.div_eq_of_lt (Nat.sub_lt window.occupied Nat.one_pos)
            refine ⟨0, by rw [counted, none], ?_⟩
            rw [Exchange.step_toServer received]
            exact .ended (last finished) closed
          · obtain ⟨next, received, later⟩ := goes finished
            refine ⟨_, counted, ?_⟩
            rw [Exchange.step_toServer received]
            apply Delivers.start later
            have taken := more finished
            rwa [Nat.min_eq_left (by omega)] at taken
  | ended done closed =>
      cases delivery with
      | toServer => exact absurd rfl pending
      | toClient => exact absurd rfl pending

omit [Peer C] follows in
/-- An exchange with nothing in flight has ended. -/
theorem Delivers.quiet {left : Nat} {exchange : Exchange C F}
    (delivers : Delivers file window At Done left exchange)
    (quiet : ∀ delivery, ¬ exchange.Pending delivery) :
    left = 0 ∧ Done exchange.client ∧
      ∃ session, exchange.host = .serving session ∧ session.stage = .closed := by
  cases delivers with
  | blocks sends taken begun some =>
      refine absurd (fun empty => ?_) (quiet .toClient)
      rw [List.map_eq_nil_iff, List.range'_eq_nil_iff] at empty
      omega
  | acknowledge sends more last => exact absurd nofun (quiet .toServer)
  | ended done closed => exact ⟨rfl, done, _, rfl, closed⟩

end

end Rtftp.Client

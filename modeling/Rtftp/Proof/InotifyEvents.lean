import Rtftp.Construction.FsWatch

namespace Rtftp
open Library

/-- The kernel pads a name with at least one NUL, to a length that its field can hold. -/
structure RawName where
  bytes : List UInt8
  padding : Nat
  padded : 0 < padding
  fits : bytes.length + padding < 4294967296

/-- An event of the kernel has the fields of the header and a name, if it has one. -/
structure RawEvent where
  wd : Int32
  mask : UInt32
  cookie : UInt32
  name : Option RawName

namespace RawEvent

/-- These are the `len` bytes behind the header. -/
def nameField (event : RawEvent) : List UInt8 :=
  match event.name with
  | none => []
  | some name => name.bytes ++ List.replicate name.padding 0

def encode (order : ByteOrder) (event : RawEvent) : List UInt8 :=
  order.wordBytes event.wd.toUInt32 ++ order.wordBytes event.mask ++ order.wordBytes event.cookie ++
    order.wordBytes (UInt32.ofNat event.nameField.length) ++ event.nameField

/-- The program keeps the mask and the name up to its first NUL. -/
def decoded (event : RawEvent) : InotifyEvent :=
  ⟨event.mask, event.name.map fun name => toStringLossy (name.bytes.takeWhile (· != 0))⟩

theorem encode_length (order : ByteOrder) (event : RawEvent) :
    (event.encode order).length = eventHeaderSize + event.nameField.length := by
  simp only [encode, List.length_append, ByteOrder.wordBytes_length, eventHeaderSize]

theorem nameField_length_lt (event : RawEvent) : event.nameField.length < 4294967296 := by
  rw [nameField]
  split
  · exact Nat.zero_lt_succ _
  · next name _ =>
    rw [List.length_append, List.length_replicate]
    exact name.fits

/-- The header of an encoded event is read back, whatever follows it. -/
theorem cast_encode (order : ByteOrder) (event : RawEvent) (rest : List UInt8) :
    InotifyEventHeader.cast order (event.encode order ++ rest) =
      ⟨event.wd, event.mask, event.cookie, UInt32.ofNat event.nameField.length⟩ := by
  have wd := order.wordAt_wordBytes [] (order.wordBytes event.mask ++
    (order.wordBytes event.cookie ++ (order.wordBytes (UInt32.ofNat event.nameField.length) ++
      (event.nameField ++ rest)))) event.wd.toUInt32
  have mask := order.wordAt_wordBytes (order.wordBytes event.wd.toUInt32)
    (order.wordBytes event.cookie ++ (order.wordBytes (UInt32.ofNat event.nameField.length) ++
      (event.nameField ++ rest))) event.mask
  have cookie := order.wordAt_wordBytes
    (order.wordBytes event.wd.toUInt32 ++ order.wordBytes event.mask)
    (order.wordBytes (UInt32.ofNat event.nameField.length) ++ (event.nameField ++ rest)) event.cookie
  have len := order.wordAt_wordBytes
    (order.wordBytes event.wd.toUInt32 ++ order.wordBytes event.mask ++
      order.wordBytes event.cookie) (event.nameField ++ rest)
    (UInt32.ofNat event.nameField.length)
  simp only [List.append_assoc, List.nil_append, List.length_nil, List.length_append,
    ByteOrder.wordBytes_length, Nat.reduceAdd] at wd mask cookie len
  simp only [InotifyEventHeader.cast, encode, List.append_assoc, wd, mask, cookie, len,
    Int32.toInt32_toUInt32]

end RawEvent

/-- The header lies in the first sixteen bytes. -/
theorem InotifyEventHeader.cast_take (order : ByteOrder) {bytes : List UInt8}
    (header : eventHeaderSize ≤ bytes.length) :
    cast order (bytes.take eventHeaderSize) = cast order bytes := by
  have front : (bytes.take eventHeaderSize).length = 16 := List.length_take_of_le header
  have word (index : Nat) (inside : index + 4 ≤ 16) :
      order.wordAt (bytes.take eventHeaderSize) index = order.wordAt bytes index := by
    rw [← order.wordAt_append (bytes.drop eventHeaderSize) (by omega), List.take_append_drop]
  rw [cast, cast, word 0 (by omega), word 4 (by omega), word 8 (by omega), word 12 (by omega)]

/-- Bytes are too short for an event when the header or the name it announces is not there. -/
def Incomplete (order : ByteOrder) (bytes : List UInt8) : Prop :=
  bytes.length < eventHeaderSize ∨
    bytes.length < eventHeaderSize + (InotifyEventHeader.cast order bytes).len.toNat

instance (order : ByteOrder) (bytes : List UInt8) : Decidable (Incomplete order bytes) :=
  inferInstanceAs (Decidable (_ ∨ _))

/-- Padding behind a name does not change what stands before its first NUL. -/
theorem takeWhile_append_zeros (bytes : List UInt8) (padding : Nat) :
    (bytes ++ List.replicate padding 0).takeWhile (· != 0) = bytes.takeWhile (· != 0) := by
  rw [List.takeWhile_append]
  split
  · next whole =>
    have same := (List.takeWhile_prefix (l := bytes) (· != 0)).eq_of_length whole
    rw [same, List.takeWhile_replicate]
    exact List.append_nil _
  · rfl

namespace InotifyEvent

/-- This is `InotifyEvent::from` on bytes that hold a header. -/
theorem ofBuffer_header (order : ByteOrder) {buffer : List UInt8}
    (header : eventHeaderSize ≤ buffer.length) :
    ofBuffer order buffer =
      let eventHeader := InotifyEventHeader.cast order buffer
      let name := (buffer.drop eventHeaderSize).take eventHeader.len.toNat
      if eventHeader.len = 0 then .ok (⟨eventHeader.mask, none⟩, eventHeaderSize)
      else if buffer.length < eventHeaderSize + eventHeader.len.toNat then .err .notEnoughBytes
      else if 0 ∈ name then
        .ok (⟨eventHeader.mask, some (toStringLossy (name.takeWhile (· != 0)))⟩,
          eventHeaderSize + eventHeader.len.toNat)
      else .panic := by
  have front : slice buffer 0 eventHeaderSize = some (buffer.take eventHeaderSize) :=
    slice_inside (Nat.zero_le _) header
  unfold ofBuffer
  rw [if_neg (by omega), front]
  dsimp only
  rw [InotifyEventHeader.cast_take order header]
  by_cases unnamed : (InotifyEventHeader.cast order buffer).len = 0
  · rw [if_pos unnamed, if_neg (by rw [unnamed]; decide)]
  · rw [if_neg unnamed, if_pos (UInt32.pos_iff_ne_zero.mpr unnamed)]
    by_cases short : buffer.length <
        eventHeaderSize + (InotifyEventHeader.cast order buffer).len.toNat
    · rw [if_pos short, if_pos short]
    · rw [if_neg short, if_neg short, slice_inside (by omega) (by omega), Nat.add_sub_cancel_left,
        Option.bind_some, fromBytesUntilNul]
      by_cases terminated : 0 ∈ (buffer.drop eventHeaderSize).take
          (InotifyEventHeader.cast order buffer).len.toNat
      · rw [if_pos terminated, if_pos terminated]
      · rw [if_neg terminated, if_neg terminated]

theorem ofBuffer_incomplete {order : ByteOrder} {buffer : List UInt8}
    (incomplete : Incomplete order buffer) : ofBuffer order buffer = .err .notEnoughBytes := by
  by_cases header : eventHeaderSize ≤ buffer.length
  · have short := incomplete.resolve_left (by omega)
    have named : (InotifyEventHeader.cast order buffer).len ≠ 0 := by
      intro unnamed
      rw [unnamed, UInt32.toNat_zero] at short
      omega
    rw [ofBuffer_header order header]
    dsimp only
    rw [if_neg named, if_pos short]
  · rw [ofBuffer, if_pos (by omega)]

/-- An event takes at least its header and at most the bytes there are. -/
theorem ofBuffer_size {order : ByteOrder} {buffer : List UInt8} {event : InotifyEvent} {size : Nat}
    (parsed : ofBuffer order buffer = .ok (event, size)) :
    eventHeaderSize ≤ size ∧ size ≤ buffer.length := by
  by_cases header : eventHeaderSize ≤ buffer.length
  · rw [ofBuffer_header order header] at parsed
    dsimp only at parsed
    split at parsed
    · cases parsed
      exact ⟨Nat.le_refl _, header⟩
    · split at parsed
      · cases parsed
      · split at parsed
        · cases parsed
          exact ⟨Nat.le_add_right _ _, by omega⟩
        · cases parsed
  · rw [ofBuffer, if_pos (by omega)] at parsed
    cases parsed

/-- An encoded event is read back, whatever follows it. -/
theorem ofBuffer_encode (order : ByteOrder) (event : RawEvent) (rest : List UInt8) :
    ofBuffer order (event.encode order ++ rest) =
      .ok (event.decoded, (event.encode order).length) := by
  have size := event.encode_length order
  have header : eventHeaderSize ≤ (event.encode order ++ rest).length := by
    rw [List.length_append]
    omega
  have behind : (event.encode order ++ rest).drop eventHeaderSize = event.nameField ++ rest := by
    rw [RawEvent.encode, List.append_assoc]
    exact List.drop_left' (by simp [eventHeaderSize])
  have len : (UInt32.ofNat event.nameField.length).toNat = event.nameField.length :=
    UInt32.toNat_ofNat_of_lt' event.nameField_length_lt
  rw [ofBuffer_header order header, event.cast_encode order rest]
  dsimp only
  rw [len, behind, List.take_left, size]
  cases named : event.name with
  | none =>
      have field : event.nameField = [] := by rw [RawEvent.nameField, named]
      have zero : UInt32.ofNat ([] : List UInt8).length = 0 := rfl
      rw [field, if_pos zero, RawEvent.decoded, named]
      rfl
  | some name =>
      have field : event.nameField = name.bytes ++ List.replicate name.padding 0 := by
        rw [RawEvent.nameField, named]
      have positive : event.nameField.length ≠ 0 := by
        have padded := name.padded
        rw [field, List.length_append, List.length_replicate]
        omega
      have nonzero : UInt32.ofNat event.nameField.length ≠ 0 := by
        intro zero
        rw [zero] at len
        exact positive len.symm
      have terminated : 0 ∈ event.nameField := by
        rw [field]
        exact List.mem_append_right _ (List.mem_replicate.mpr ⟨name.padded.ne', rfl⟩)
      have stripped : event.nameField.takeWhile (· != 0) = name.bytes.takeWhile (· != 0) := by
        rw [field, takeWhile_append_zeros]
      rw [if_neg nonzero, if_neg (by rw [List.length_append, size]; omega), if_pos terminated,
        stripped, RawEvent.decoded, named, Option.map_some]

end InotifyEvent

/-- A pass sees the bytes from its offset to the last byte read. -/
theorem slice_read (read tail : List UInt8) {offset : Nat} (inside : offset ≤ read.length) :
    slice (read ++ tail) offset read.length = some (read.drop offset) := by
  rw [slice_inside inside (by rw [List.length_append]; omega), List.drop_append_of_le_length inside,
    List.take_left' (by rw [List.length_drop])]

theorem slice_behind {read before after : List UInt8} (tail : List UInt8)
    (bytes : read = before ++ after) :
    slice (read ++ tail) before.length read.length = some after := by
  have inside : before.length ≤ read.length := by
    rw [bytes, List.length_append]
    omega
  rw [slice_read read tail inside, congrArg (List.drop before.length) bytes, List.drop_left]

/-- What the loop does next depends on the bytes that were read only. -/
theorem parseEventsLoop_read (order : ByteOrder) (read tail : List UInt8) (passes offset : Nat)
    (result : List InotifyEvent) :
    parseEventsLoop order (read ++ tail) read.length passes offset result =
      parseEventsLoop order read read.length passes offset result := by
  induction passes generalizing offset result with
  | zero => rfl
  | succ passes ih =>
      have seen : slice (read ++ tail) offset read.length = slice read offset read.length := by
        by_cases inside : offset ≤ read.length
        · have alone := slice_read read [] inside
          rw [List.append_nil] at alone
          rw [slice_read read tail inside, alone]
        · rw [slice, slice, if_neg (by omega), if_neg (by omega)]
      simp only [parseEventsLoop, seen, ih]

/-- Each pass takes at least a header, so that the bytes bound the number of passes. -/
theorem parseEventsLoop_ends (order : ByteOrder) (buffer : List UInt8) (bytesRead offset : Nat)
    (result : List InotifyEvent) :
    ∃ outcome, ∀ passes, 0 < passes → bytesRead < offset + eventHeaderSize * passes →
      parseEventsLoop order buffer bytesRead passes offset result = some outcome := by
  induction remaining : bytesRead - offset using Nat.strongRecOn generalizing offset result with
  | ind remaining ih =>
      cases seen : slice buffer offset bytesRead with
      | none =>
          refine ⟨.panic, fun passes some _ => ?_⟩
          obtain ⟨passes, rfl⟩ := Nat.exists_eq_add_one.mpr some
          simp only [parseEventsLoop, seen]
      | some bytes =>
          cases parsed : InotifyEvent.ofBuffer order bytes with
          | ok pair =>
              obtain ⟨event, eventSize⟩ := pair
              have size := InotifyEvent.ofBuffer_size parsed
              have within := slice_length seen
              obtain ⟨outcome, later⟩ := ih (bytesRead - (offset + eventSize))
                (by simp only [eventHeaderSize] at size; omega) (offset + eventSize)
                (result ++ [event]) rfl
              refine ⟨outcome, fun passes some enough => ?_⟩
              obtain ⟨passes, rfl⟩ := Nat.exists_eq_add_one.mpr some
              rw [Nat.mul_succ] at enough
              have left : 0 < passes := by
                rw [Nat.pos_iff_ne_zero]
                rintro rfl
                omega
              simp only [parseEventsLoop, seen, parsed]
              exact later passes left (by omega)
          | err failure =>
              refine ⟨.ok result, fun passes some _ => ?_⟩
              obtain ⟨passes, rfl⟩ := Nat.exists_eq_add_one.mpr some
              simp only [parseEventsLoop, seen, parsed]
          | panic =>
              refine ⟨.panic, fun passes some _ => ?_⟩
              obtain ⟨passes, rfl⟩ := Nat.exists_eq_add_one.mpr some
              simp only [parseEventsLoop, seen, parsed]

/-- The loop takes the events one after the other and stops at the incomplete remainder. -/
theorem parseEventsLoop_encoded (order : ByteOrder) {read remainder : List UInt8}
    (tail : List UInt8) (incomplete : Incomplete order remainder) (events : List RawEvent)
    (before : List UInt8) (result : List InotifyEvent) {passes : Nat}
    (enough : events.length < passes)
    (bytes : read = before ++ (events.flatMap (RawEvent.encode order) ++ remainder)) :
    parseEventsLoop order (read ++ tail) read.length passes before.length result =
      some (.ok (result ++ events.map RawEvent.decoded)) := by
  induction events generalizing before result passes with
  | nil =>
      obtain ⟨passes, rfl⟩ := Nat.exists_eq_add_one.mpr enough
      have seen := slice_behind tail bytes
      rw [List.flatMap_nil, List.nil_append] at seen
      simp only [parseEventsLoop, seen, InotifyEvent.ofBuffer_incomplete incomplete, List.map_nil,
        List.append_nil]
  | cons event rest ih =>
      obtain ⟨passes, rfl⟩ := Nat.exists_eq_add_one.mpr (Nat.zero_lt_of_lt enough)
      have seen := slice_behind tail bytes
      rw [List.flatMap_cons, List.append_assoc] at seen
      have later := ih (before ++ event.encode order) (result ++ [event.decoded])
        (Nat.lt_of_succ_lt_succ enough) (by simp only [bytes, List.flatMap_cons, List.append_assoc])
      simp only [parseEventsLoop, seen, InotifyEvent.ofBuffer_encode]
      rw [← List.length_append, later, List.map_cons, List.append_assoc, List.singleton_append]

/-- Each event has at least the bytes of a header. -/
theorem encoded_length_le (order : ByteOrder) (events : List RawEvent) :
    eventHeaderSize * events.length ≤ (events.flatMap (RawEvent.encode order)).length := by
  induction events with
  | nil => exact Nat.le_refl _
  | cons event rest ih =>
      rw [List.flatMap_cons, List.length_append, event.encode_length, List.length_cons, Nat.mul_succ]
      omega

/-- Decoding gives the events of the kernel in order, up to an incomplete remainder. It depends on
the bytes that were read only, and it ends on every buffer. -/
theorem parseEvents_exact (order : ByteOrder) :
    (∀ (events : List RawEvent) (remainder tail : List UInt8) (passes : Nat),
      let read := events.flatMap (RawEvent.encode order) ++ remainder
      Incomplete order remainder → read.length < eventHeaderSize * passes →
        parseEvents order passes (read ++ tail) read.length =
          some (.ok (events.map RawEvent.decoded))) ∧
    (∀ (read tail : List UInt8) (passes : Nat),
      parseEvents order passes (read ++ tail) read.length =
        parseEvents order passes read read.length) ∧
    ∀ (buffer : List UInt8) (bytesRead : Nat), ∃ outcome, ∀ passes,
      bytesRead < eventHeaderSize * passes →
        parseEvents order passes buffer bytesRead = some outcome := by
  refine ⟨?_, fun read tail passes => parseEventsLoop_read order read tail passes 0 [], ?_⟩
  · intro events remainder tail passes read incomplete enough
    have bounded := encoded_length_le order events
    have fewer : events.length < passes := by
      refine Nat.lt_of_mul_lt_mul_left (a := eventHeaderSize) ?_
      refine Nat.lt_of_le_of_lt (Nat.le_trans bounded ?_) enough
      simp only [read, List.length_append]
      omega
    exact parseEventsLoop_encoded order tail incomplete events [] [] fewer rfl
  · intro buffer bytesRead
    obtain ⟨outcome, ends⟩ := parseEventsLoop_ends order buffer bytesRead 0 []
    refine ⟨outcome, fun passes enough => ends passes ?_ (by omega)⟩
    exact Nat.pos_of_mul_pos_left (Nat.zero_lt_of_lt enough)

/-- Two files change in one read, and the header of a third event has been cut. -/
theorem parseEvents_exact_two_files :
    let written : RawEvent := ⟨1, 8, 0, some ⟨utf8 "a", 15, by decide, by decide⟩⟩
    let moved : RawEvent := ⟨1, 0x80, 5, some ⟨utf8 "bc", 14, by decide, by decide⟩⟩
    let bytes := [written, moved].flatMap (RawEvent.encode .little) ++ [1, 0, 0, 0, 8]
    Incomplete .little [1, 0, 0, 0, 8] ∧
      parseEvents .little 5 (bytes ++ [255, 255]) bytes.length =
        some (.ok [⟨8, some (toStringLossy (utf8 "a"))⟩, ⟨0x80, some (toStringLossy (utf8 "bc"))⟩]) := by
  intro written moved bytes
  have incomplete : Incomplete .little [1, 0, 0, 0, 8] := by decide
  refine ⟨incomplete, ?_⟩
  exact (parseEvents_exact .little).1 [written, moved] [1, 0, 0, 0, 8] [255, 255] 5 incomplete
    (by decide)

end Rtftp

import Mathlib.Data.UInt
import Mathlib.Tactic.Ring

namespace Rtftp.Library

/-- The network order of a 16-bit word puts the high byte first. -/
def beBytes (value : UInt16) : List UInt8 := [(value >>> 8).toUInt8, value.toUInt8]

/-- This function reads a 16-bit word in network order. -/
def fromBeBytes (high low : UInt8) : UInt16 := UInt16.ofNat (high.toNat * 256 + low.toNat)

theorem highByte_toNat (value : UInt16) : (value >>> 8).toUInt8.toNat = value.toNat / 256 := by
  have bounded := value.toNat_lt
  rw [UInt16.toNat_toUInt8, UInt16.toNat_shiftRight]
  change value.toNat >>> 8 % 256 = _
  rw [Nat.shiftRight_eq_div_pow]
  omega

theorem lowByte_toNat (value : UInt16) : value.toUInt8.toNat = value.toNat % 256 := by
  rw [UInt16.toNat_toUInt8]

/-- Reading the two bytes of a word gives the word back. -/
@[simp] theorem fromBeBytes_beBytes (value : UInt16) :
    fromBeBytes (value >>> 8).toUInt8 value.toUInt8 = value := by
  apply UInt16.toNat.inj
  have bounded := value.toNat_lt
  rw [fromBeBytes, UInt16.toNat_ofNat', highByte_toNat, lowByte_toNat]
  omega

/-- Masking the high byte before the shift changes nothing. -/
theorem maskedHighByte (value : UInt16) :
    ((value &&& 0xFF00) >>> 8).toUInt8 = (value >>> 8).toUInt8 := by
  apply UInt8.toNat.inj
  have bounded := value.toNat_lt
  have shifted : (value.toNat &&& 0xFF00) >>> 8 = value.toNat / 256 % 256 := by
    rw [Nat.shiftRight_and_distrib]
    exact (Nat.and_two_pow_sub_one_eq_mod _ 8).trans (by rw [Nat.shiftRight_eq_div_pow])
  rw [highByte_toNat value, UInt16.toNat_toUInt8, UInt16.toNat_shiftRight, UInt16.toNat_and]
  change (value.toNat &&& 0xFF00) >>> 8 % 256 = _
  omega

/-- Masking the low byte before the cast changes nothing. -/
theorem maskedLowByte (value : UInt16) : (value &&& 0xFF).toUInt8 = value.toUInt8 := by
  apply UInt8.toNat.inj
  have masked : value.toNat &&& 0xFF = value.toNat % 256 := Nat.and_two_pow_sub_one_eq_mod _ 8
  rw [lowByte_toNat, UInt16.toNat_toUInt8, UInt16.toNat_and]
  change (value.toNat &&& 0xFF) % 256 = _
  omega

/-- Equal words have equal bytes only. -/
theorem beBytes_inj {first second : UInt16} (equal : beBytes first = beBytes second) :
    first = second := by
  simp only [beBytes, List.cons.injEq, and_true] at equal
  rw [← fromBeBytes_beBytes first, ← fromBeBytes_beBytes second, equal.1, equal.2]

/-- Two bytes read as a word are the bytes of that word. -/
theorem fromBeBytes_eq_iff (high low : UInt8) (value : UInt16) :
    fromBeBytes high low = value ↔ beBytes value = [high, low] := by
  have bounds := And.intro high.toNat_lt low.toNat_lt
  constructor
  · rintro rfl
    have word : (fromBeBytes high low).toNat = high.toNat * 256 + low.toNat := by
      rw [fromBeBytes, UInt16.toNat_ofNat']
      omega
    have top : ((fromBeBytes high low) >>> 8).toUInt8 = high := by
      apply UInt8.toNat.inj
      rw [highByte_toNat, word]
      omega
    have bottom : (fromBeBytes high low).toUInt8 = low := by
      apply UInt8.toNat.inj
      rw [lowByte_toNat, word]
      omega
    rw [beBytes, top, bottom]
  · intro bytes
    obtain ⟨rfl, rfl⟩ : (value >>> 8).toUInt8 = high ∧ value.toUInt8 = low := by
      simpa [beBytes] using bytes
    exact fromBeBytes_beBytes value

/-- A serial number that has not wrapped is its own position. -/
theorem serial_toNat (position : Nat) (unwrapped : position < 65536) :
    (UInt16.ofNat position).toNat = position := by
  rw [UInt16.toNat_ofNat']
  exact Nat.mod_eq_of_lt unwrapped

/-- Advancing a serial number advances its position. -/
theorem serial_add (position distance : Nat) :
    UInt16.ofNat position + UInt16.ofNat distance = UInt16.ofNat (position + distance) :=
  (UInt16.ofNat_add position distance).symm

theorem serial_succ (position : Nat) : UInt16.ofNat position + 1 = UInt16.ofNat (position + 1) :=
  serial_add position 1

/-- Two serial numbers within one cycle are as far apart as their positions. -/
theorem serial_distance (first second : Nat) (ordered : first ≤ second)
    (near : second < first + 65536) :
    (UInt16.ofNat second - UInt16.ofNat first).toNat = second - first := by
  rw [← UInt16.ofNat_sub ordered, serial_toNat _ (by omega)]

/-- Two positions within one cycle have different serial numbers. -/
theorem serial_inj (first second : Nat) (ordered : first ≤ second) (near : second < first + 65536)
    (equal : UInt16.ofNat first = UInt16.ofNat second) : first = second := by
  have distance := serial_distance first second ordered near
  rw [equal, UInt16.sub_self] at distance
  change 0 = second - first at distance
  omega

end Rtftp.Library

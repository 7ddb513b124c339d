import Mathlib.Algebra.Group.Nat.Defs
import Mathlib.Data.UInt

namespace Rtftp.Library

/-- These are the bytes of a number, the lowest byte first. -/
def littleBytes : (width : Nat) → (value : Nat) → List UInt8
  | 0, _ => []
  | width + 1, value => UInt8.ofNat value :: littleBytes width (value / 256)

def littleValue : List UInt8 → Nat
  | [] => 0
  | byte :: rest => byte.toNat + 256 * littleValue rest

@[simp] theorem littleBytes_length (width value : Nat) :
    (littleBytes width value).length = width := by
  induction width generalizing value with
  | zero => rfl
  | succ width ih => rw [littleBytes, List.length_cons, ih]

/-- The bytes of a number keep what fits in them. -/
theorem littleValue_littleBytes (width value : Nat) :
    littleValue (littleBytes width value) = value % 256 ^ width := by
  induction width generalizing value with
  | zero => rw [littleBytes, littleValue, Nat.pow_zero, Nat.mod_one]
  | succ width ih =>
      have low : (UInt8.ofNat value).toNat = value % 256 := UInt8.toNat_ofNat'
      rw [littleBytes, littleValue, ih, low, Nat.pow_succ', Nat.mod_mul]

/-- A machine stores the bytes of a word from its low end or from its high end. -/
inductive ByteOrder where
  | little
  | big
  deriving DecidableEq, Repr

namespace ByteOrder

def arrange : ByteOrder → List UInt8 → List UInt8
  | .little, bytes => bytes
  | .big, bytes => bytes.reverse

/-- These are the four bytes of a word in memory. -/
def wordBytes (order : ByteOrder) (word : UInt32) : List UInt8 :=
  order.arrange (littleBytes 4 word.toNat)

/-- This is the word that lies at an index. -/
def wordAt (order : ByteOrder) (bytes : List UInt8) (index : Nat) : UInt32 :=
  UInt32.ofNat (littleValue (order.arrange ((bytes.drop index).take 4)))

theorem arrange_arrange (order : ByteOrder) (bytes : List UInt8) :
    order.arrange (order.arrange bytes) = bytes := by
  cases order with
  | little => rfl
  | big => exact List.reverse_reverse bytes

@[simp] theorem wordBytes_length (order : ByteOrder) (word : UInt32) :
    (order.wordBytes word).length = 4 := by
  cases order with
  | little => exact littleBytes_length 4 _
  | big => rw [wordBytes, arrange, List.length_reverse, littleBytes_length]

/-- A word is read back from behind the bytes before it, whatever follows. -/
theorem wordAt_wordBytes (order : ByteOrder) (before after : List UInt8) (word : UInt32) :
    order.wordAt (before ++ order.wordBytes word ++ after) before.length = word := by
  have fits : word.toNat < 256 ^ 4 := word.toNat_lt
  rw [wordAt, List.append_assoc, List.drop_left, List.take_left' (order.wordBytes_length word),
    wordBytes, arrange_arrange, littleValue_littleBytes, Nat.mod_eq_of_lt fits,
    UInt32.ofNat_toNat]

/-- A word is read from its own four bytes only. -/
theorem wordAt_append (order : ByteOrder) {bytes : List UInt8} (after : List UInt8) {index : Nat}
    (inside : index + 4 ≤ bytes.length) :
    order.wordAt (bytes ++ after) index = order.wordAt bytes index := by
  have kept : ((bytes ++ after).drop index).take 4 = (bytes.drop index).take 4 := by
    rw [List.drop_append_of_le_length (by omega),
      List.take_append_of_le_length (by rw [List.length_drop]; omega)]
  rw [wordAt, kept, wordAt]

end ByteOrder

end Rtftp.Library

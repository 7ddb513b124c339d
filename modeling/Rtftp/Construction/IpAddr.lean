import Mathlib.Data.List.Basic

namespace Rtftp

/-- An IPv4 address has four octets, and an IPv6 address has eight segments. -/
inductive IpAddr where
  | v4 (a b c d : UInt8)
  | v6 (segments : Vector UInt16 8)
  deriving DecidableEq, Repr

namespace IpAddr

/-- The octets are written in decimal. -/
def v4Text (a b c d : UInt8) : List Char :=
  Nat.toDigits 10 a.toNat ++ '.' :: Nat.toDigits 10 b.toNat ++ '.' :: Nat.toDigits 10 c.toNat ++
    '.' :: Nat.toDigits 10 d.toNat

structure Span where
  start : Nat
  len : Nat
  deriving DecidableEq, Repr

/-- The loop keeps the longest and the current run of zeros. -/
def spans : List UInt16 → (index : Nat) → (longest current : Span) → Span
  | [], _, longest, _ => longest
  | segment :: rest, index, longest, current =>
      if segment = 0 then
        let start := if current.len = 0 then index else current.start
        let current : Span := ⟨start, current.len + 1⟩
        spans rest (index + 1) (if longest.len < current.len then current else longest) current
      else spans rest (index + 1) longest ⟨0, 0⟩

/-- The segments are written in lower hexadecimal with colons between them. -/
def fmtSubslice : List UInt16 → List Char
  | [] => []
  | first :: tail =>
      Nat.toDigits 16 first.toNat ++
        tail.flatMap fun segment => ':' :: Nat.toDigits 16 segment.toNat

/-- The longest run of at least two zeros is left out. -/
def segmentsText (segments : List UInt16) : List Char :=
  let zeroes := spans segments 0 ⟨0, 0⟩ ⟨0, 0⟩
  if 1 < zeroes.len then
    fmtSubslice (segments.take zeroes.start) ++ [':', ':'] ++
      fmtSubslice (segments.drop (zeroes.start + zeroes.len))
  else fmtSubslice segments

/-- A mapped address ends with the text of its IPv4 address. -/
def v6Text (segments : List UInt16) : List Char :=
  match segments with
  | [0, 0, 0, 0, 0, 0xFFFF, high, low] =>
      "::ffff:".toList ++
        v4Text (high >>> 8).toUInt8 high.toUInt8 (low >>> 8).toUInt8 low.toUInt8
  | _ => segmentsText segments

def text : IpAddr → List Char
  | .v4 a b c d => v4Text a b c d
  | .v6 segments => v6Text segments.toList

/-- This is `IpAddr::to_string`. -/
def toString (address : IpAddr) : String := String.ofList address.text

end IpAddr

end Rtftp

import Rtftp.Library.Serial
import Rtftp.Library.Text
import Rtftp.Construction.IpAddr

namespace Rtftp.IpAddr.Parser
open Library

/-- The loop of `read_number` fails at the first digit past the limit. -/
def readDigits (radix maxDigits : Nat) : List Char → (digitCount result : Nat) →
    Option (Nat × Nat × List Char)
  | [], digitCount, result => some (digitCount, result, [])
  | char :: rest, digitCount, result =>
      match toDigit radix char with
      | none => some (digitCount, result, char :: rest)
      | some digit =>
          if maxDigits < digitCount + 1 then none
          else readDigits radix maxDigits rest (digitCount + 1) (result * radix + digit)

/-- The result must be below the bound of its type. A reader that fails leaves the text as it
was. -/
def readNumber (radix maxDigits bound : Nat) (allowZeroPrefix : Bool) (state : List Char) :
    Option (Nat × List Char) :=
  match readDigits radix maxDigits state 0 0 with
  | none => none
  | some (digitCount, result, rest) =>
      if digitCount = 0 then none
      else if !allowZeroPrefix && state.head? == some '0' && decide (1 < digitCount) then none
      else if result < bound then some (result, rest)
      else none

def readGivenChar (target : Char) : List Char → Option (List Char)
  | [] => none
  | char :: rest => if char = target then some rest else none

/-- Every item but the first one has a separator before it. -/
def readSeparator {A : Type} (separator : Char) (index : Nat)
    (inner : List Char → Option (A × List Char)) (state : List Char) : Option (A × List Char) :=
  if 0 < index then (readGivenChar separator state).bind inner else inner state

/-- A number with a zero in front of it is no octet. -/
def readOctet (state : List Char) : Option (UInt8 × List Char) :=
  (readNumber 10 3 256 false state).map fun number => (UInt8.ofNat number.1, number.2)

def readIpv4Addr (state : List Char) : Option ((UInt8 × UInt8 × UInt8 × UInt8) × List Char) :=
  (readSeparator '.' 0 readOctet state).bind fun (a, state) =>
    (readSeparator '.' 1 readOctet state).bind fun (b, state) =>
      (readSeparator '.' 2 readOctet state).bind fun (c, state) =>
        (readSeparator '.' 3 readOctet state).bind fun (d, state) =>
          some ((a, b, c, d), state)

def readGroup (state : List Char) : Option (UInt16 × List Char) :=
  (readNumber 16 4 65536 true state).map fun number => (UInt16.ofNat number.1, number.2)

/-- Two free slots can take an embedded IPv4 address, which ends the groups. -/
def readGroups : (slots index : Nat) → (state : List Char) → List UInt16 × Bool × List Char
  | 0, _, state => ([], false, state)
  | slots + 1, index, state =>
      match if 0 < slots then readSeparator ':' index readIpv4Addr state else none with
      | some ((one, two, three, four), state) =>
          ([fromBeBytes one two, fromBeBytes three four], true, state)
      | none =>
          match readSeparator ':' index readGroup state with
          | some (group, state) =>
              let (groups, ipv4, state) := readGroups slots (index + 1) state
              (group :: groups, ipv4, state)
          | none => ([], false, state)

/-- The groups are written to the front of eight zeros. -/
def toSegments (groups : List UInt16) : Vector UInt16 8 :=
  Vector.ofFn fun index => groups.getD index 0

/-- The two colons stand for at least one group. -/
def readIpv6Addr (state : List Char) : Option (Vector UInt16 8 × List Char) :=
  let (head, headIpv4, state) := readGroups 8 0 state
  if head.length = 8 then some (toSegments head, state)
  else if headIpv4 then none
  else
    (readGivenChar ':' state).bind fun state =>
      (readGivenChar ':' state).bind fun state =>
        let (tail, _, state) := readGroups (8 - (head.length + 1)) 0 state
        some (toSegments (head ++ List.replicate (8 - tail.length - head.length) 0 ++ tail), state)

def readIpAddr (state : List Char) : Option (IpAddr × List Char) :=
  match readIpv4Addr state with
  | some ((a, b, c, d), state) => some (.v4 a b c d, state)
  | none => (readIpv6Addr state).map fun (segments, state) => (.v6 segments, state)

end Parser

/-- This is `IpAddr::from_str`, which accepts no text behind the address. -/
def fromStr (text : List Char) : Option IpAddr :=
  match Parser.readIpAddr text with
  | some (address, []) => some address
  | _ => none

end Rtftp.IpAddr

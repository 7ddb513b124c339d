import Rtftp.Library.Table
import Rtftp.Construction.OpenedFile

namespace Rtftp
open Library

/-- This is the loop of `usize::from_str` on a 64-bit target, which fails when the number does not
fit. -/
def parseDigits : (value : Nat) → List Char → Option Nat
  | value, [] => some value
  | value, digit :: rest =>
      if digit.isDigit then
        let next := value * 10 + (digit.toNat - '0'.toNat)
        if next < 2 ^ 64 then parseDigits next rest else none
      else none

/-- A number may start with a plus sign. -/
def parseUsize (text : String) : Option Nat :=
  match text.toList with
  | [] => none
  | ['+'] => none
  | '+' :: digits => parseDigits 0 digits
  | digits => parseDigits 0 digits

/-- The number of an option lies between its two caps. -/
structure Capped (bottom upper : Nat) where
  number : Nat
  lower : bottom ≤ number
  within : number ≤ upper
  deriving DecidableEq, Repr

/-- A number outside the caps is ignored like a missing one. -/
def Capped.findIn (name : String) {bottom upper : Nat} (options : Table String String) :
    Option (Capped bottom upper) :=
  match options.get name with
  | none => none
  | some text =>
      match parseUsize text with
      | none => none
      | some number =>
          if lower : bottom ≤ number then
            if within : number ≤ upper then some ⟨number, lower, within⟩ else none
          else none

def Capped.asKeyPair (name : String) {bottom upper : Nat} (option : Capped bottom upper) :
    String × String :=
  (name, toString option.number)

abbrev Blksize := Capped 8 65535

namespace Blksize

def findIn (options : Table String String) : Option Blksize := Capped.findIn "blksize" options

def asKeyPair (blockSize : Blksize) : String × String := Capped.asKeyPair "blksize" blockSize

def default : Blksize := ⟨512, by decide, by decide⟩

end Blksize

abbrev AckTimeout := Capped 1 255

namespace AckTimeout

def findIn (options : Table String String) : Option AckTimeout := Capped.findIn "timeout" options

def asKeyPair (timeout : AckTimeout) : String × String := Capped.asKeyPair "timeout" timeout

def default : AckTimeout := ⟨5, by decide, by decide⟩

end AckTimeout

abbrev WindowSize := Capped 1 65535

namespace WindowSize

def findIn (options : Table String String) : Option WindowSize :=
  Capped.findIn "windowsize" options

def asKeyPair (windowSize : WindowSize) : String × String :=
  Capped.asKeyPair "windowsize" windowSize

def default : WindowSize := ⟨1, by decide, by decide⟩

end WindowSize

structure TSize where
  fileSize : UInt64
  deriving DecidableEq, Repr

namespace TSize

def isRequested (options : Table String String) : Bool := options.containsKey "tsize"

variable {O : Type} [OpenedFile O]

def obtain (openedFile : O) : Except IoError TSize × O :=
  match OpenedFile.getSize openedFile with
  | (.ok fileSize, openedFile) => (.ok ⟨fileSize⟩, openedFile)
  | (.error error, openedFile) => (.error error, openedFile)

def asKeyPair (tsize : TSize) : String × String := ("tsize", toString tsize.fileSize.toNat)

end TSize

end Rtftp

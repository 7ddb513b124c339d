import Rtftp.Construction.Error
import Rtftp.Construction.Root

namespace Rtftp
open Library

def rrqOpcode : UInt16 := 0x01

def oackOpcode : UInt16 := 0x06

def octet : String := "octet"

/-- A string that was read lies between the old and the new index of the cursor. -/
theorem ReadCursor.extractString_progress {cursor next : ReadCursor} {string : String}
    (read : cursor.extractString = (.ok string, next)) :
    next.datagram = cursor.datagram ∧ cursor.index < next.index ∧
      cursor.index < cursor.datagram.length := by
  unfold extractString at read
  split at read
  · cases read
  · rename_i unfinished
    dsimp only at read
    split at read
    · split at read
      · obtain ⟨_, rfl⟩ := Prod.mk.inj read
        exact ⟨rfl, by dsimp only; omega, by omega⟩
      · cases read
    · cases read

namespace ReadRequest

/-- The loop ends at the end of the datagram, and only before the name of an option. -/
def parseOptions (cursor : ReadCursor) (options : Table String String) :
    Except TFTPError (Table String String) :=
  match _named : cursor.extractString with
  | (.error error, _) =>
      if error.kind = .unexpectedEof then .ok options else .error (.undefined "Bad format")
  | (.ok optionName, middle) =>
      match _valued : middle.extractString with
      | (.error _, _) => .error (.undefined "Bad format")
      | (.ok optionValue, next) => parseOptions next (options.insert optionName optionValue)
termination_by cursor.datagram.length - cursor.index
decreasing_by
  obtain ⟨same, first, inside⟩ := ReadCursor.extractString_progress _named
  obtain ⟨same', second, _⟩ := ReadCursor.extractString_progress _valued
  rw [same', same]
  omega

def parse (raw : List UInt8) : Except TFTPError ReadRequest :=
  match (ReadCursor.new raw).extractUshort with
  | (.error _, _) => .error (.undefined "Bad format")
  | (.ok opcode, cursor) =>
      if opcode ≠ rrqOpcode then .error (.illegalOperation "Only RRQ is supported")
      else
        match cursor.extractString with
        | (.error _, _) => .error (.undefined "Can't obtain filename")
        | (.ok filename, cursor) =>
            match cursor.extractString with
            | (.error _, _) => .error (.undefined "Bad format")
            | (.ok mode, cursor) =>
                if mode ≠ octet then
                  if mode = "" then .error (.undefined "Bad format")
                  else .error (.undefined "Only octet mode is supported")
                else
                  match parseOptions cursor .empty with
                  | .ok options => .ok ⟨filename, options⟩
                  | .error error => .error error

end ReadRequest

structure OptionsAcknowledge where
  options : List (String × String)
  deriving DecidableEq, Repr

namespace OptionsAcknowledge

def push (oack : OptionsAcknowledge) (option : String × String) : OptionsAcknowledge :=
  ⟨oack.options ++ [option]⟩

def hasOptions (oack : OptionsAcknowledge) : Bool := !oack.options.isEmpty

/-- The offset of the last value is the result, and it is zero without any option. -/
def putOptions : (offset : Nat) → List (String × String) → WriteCursor →
    Outcome BufferError Nat × WriteCursor
  | offset, [], datagram => (.ok offset, datagram)
  | _, (key, value) :: rest, datagram =>
      Outcome.andThen (datagram.putString key) fun _ datagram =>
        Outcome.andThen (datagram.putString value) fun offset datagram =>
          putOptions offset rest datagram

def serialize (oack : OptionsAcknowledge) (buffer : List UInt8) :
    Outcome BufferError Nat × List UInt8 :=
  if buffer.isEmpty then (.ok 0, buffer)
  else
    let written :=
      Outcome.andThen ((WriteCursor.new buffer).putUshort oackOpcode) fun _ datagram =>
        putOptions 0 oack.options datagram
    (written.1, written.2.buffer)

theorem putOptions_length (options : List (String × String)) (offset : Nat)
    (datagram : WriteCursor) :
    (putOptions offset options datagram).2.buffer.length = datagram.buffer.length := by
  induction options generalizing offset datagram with
  | nil => rfl
  | cons option rest ih =>
      apply Outcome.andThen_keeps fun cursor : WriteCursor =>
        cursor.buffer.length = datagram.buffer.length
      · exact WriteCursor.putString_length _ _
      · intro _ named kept
        apply Outcome.andThen_keeps fun cursor : WriteCursor =>
          cursor.buffer.length = datagram.buffer.length
        · exact (WriteCursor.putString_length _ _).trans kept
        · intro offset valued kept
          exact (ih offset valued).trans kept

theorem serialize_length (oack : OptionsAcknowledge) (buffer : List UInt8) :
    (oack.serialize buffer).2.length = buffer.length := by
  unfold serialize
  split
  · rfl
  · apply Outcome.andThen_keeps fun cursor : WriteCursor => cursor.buffer.length = buffer.length
    · exact WriteCursor.putUshort_length _ _
    · intro _ opcode kept
      exact (putOptions_length _ _ _).trans kept

end OptionsAcknowledge

end Rtftp

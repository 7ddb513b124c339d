import Rtftp.Construction.Cursor

namespace Rtftp

def errorOpcode : UInt16 := 0x05

def undefinedErrorCode : UInt16 := 0x00

def fileNotFoundCode : UInt16 := 0x01

def accessViolationCode : UInt16 := 0x02

def illegalOperationCode : UInt16 := 0x04

inductive TFTPError where
  | UndefinedError (message : String)
  | FileNotFound (message : String)
  | AccessViolation (message : String)
  | IllegalOperation (message : String)
  deriving DecidableEq, Repr

namespace TFTPError

def undefined (message : String) : TFTPError := .UndefinedError message

def fileNotFound : TFTPError := .FileNotFound "File not found"

def accessViolation : TFTPError := .AccessViolation "Access violation"

def illegalOperation (message : String) : TFTPError := .IllegalOperation message

def parse : TFTPError → UInt16 × String
  | .UndefinedError message => (undefinedErrorCode, message)
  | .FileNotFound message => (fileNotFoundCode, message)
  | .AccessViolation message => (accessViolationCode, message)
  | .IllegalOperation message => (illegalOperationCode, message)

/-- The result comes with the whole buffer, since the sender transmits a prefix of it. -/
def serialize (error : TFTPError) (buffer : List UInt8) : Outcome BufferError Nat × List UInt8 :=
  let written :=
    Outcome.andThen ((WriteCursor.new buffer).putUshort errorOpcode) fun _ cursor =>
      Outcome.andThen (cursor.putUshort error.parse.1) fun _ cursor =>
        cursor.putString error.parse.2
  (written.1, written.2.buffer)

theorem serialize_length (error : TFTPError) (buffer : List UInt8) :
    (error.serialize buffer).2.length = buffer.length := by
  apply Outcome.andThen_keeps fun cursor : WriteCursor => cursor.buffer.length = buffer.length
  · exact WriteCursor.putUshort_length _ _
  · intro _ opcode kept
    apply Outcome.andThen_keeps fun cursor : WriteCursor => cursor.buffer.length = buffer.length
    · exact (WriteCursor.putUshort_length _ _).trans kept
    · intro _ code kept
      exact (WriteCursor.putString_length _ _).trans kept

end TFTPError

end Rtftp

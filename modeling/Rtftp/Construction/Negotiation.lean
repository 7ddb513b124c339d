import Rtftp.Construction.Messages
import Rtftp.Construction.Options
import Rtftp.Construction.SendFile

namespace Rtftp.PeerHandler
open Library

/-- A datagram of a session has its bytes as they were handed to the stream. -/
inductive Transmission where
  | oack (datagram : List UInt8)
  | data (index : UInt16) (datagram : List UInt8)
  | error (error : TFTPError) (datagram : List UInt8)
  deriving DecidableEq, Repr

/-- The error is serialized into the buffer of the session. Nothing is sent when it does not fit. -/
def fireErrorFrom (error : TFTPError) (buffer : List UInt8) :
    List Transmission × List UInt8 :=
  match error.serialize buffer with
  | (.ok toSend, buffer) => ([.error error (buffer.take toSend)], buffer)
  | (_, buffer) => ([], buffer)

/-- A suspended `send_oack_reliably` waits inside `read_acknowledge` with its attempts left. -/
inductive OfferStatus where
  | awaiting (attempts : Nat)
  | returned (result : Except IoError Unit)
  deriving DecidableEq

/-- This is the coroutine of `send_oack_reliably`. The OACK has no other place than the buffer. -/
structure Offering where
  oackSize : Nat
  buffer : List UInt8
  verdicts : List Bool
  sent : List Transmission
  status : OfferStatus

namespace Offering

/-- The error is sent before the call returns its own. -/
def fail (offering : Offering) (tftpError : TFTPError) (error : IoError) : Offering :=
  let fired := fireErrorFrom tftpError offering.buffer
  { offering with
    buffer := fired.2
    sent := offering.sent ++ fired.1
    status := .returned (.error error) }

/-- This is the head of the loop over the attempts. -/
def attempt (offering : Offering) : (attempts : Nat) → Offering
  | 0 => offering.fail (.undefined "Send timeout occurred")
      ⟨.timedOut, "Timeout waiting for ACK 0"⟩
  | attempts + 1 =>
      { offering with
        verdicts := offering.verdicts.tail
        sent := offering.sent ++ [.oack (offering.buffer.take offering.oackSize)]
        status := match offering.verdicts with
          | false :: _ => .returned (.error ⟨.other, ""⟩)
          | _ => .awaiting attempts }

/-- The coroutine serializes the OACK and sends it for the first time. -/
def start (oack : OptionsAcknowledge) (buffer : List UInt8) (verdicts : List Bool) : Offering :=
  match oack.serialize buffer with
  | (.ok size, buffer) =>
      attempt ⟨size, buffer, verdicts, [], .awaiting sendAttempts⟩ sendAttempts
  | (.err error, buffer) =>
      fail ⟨0, buffer, verdicts, [], .awaiting sendAttempts⟩ (.undefined "OACK build error")
        ⟨.other, "Error building options: <" ++ error.message ++ ">"⟩
  | (.panic, buffer) => ⟨0, buffer, verdicts, [], .returned (.error ⟨.other, ""⟩)⟩

/-- The coroutine takes the arrivals of one call of `read_acknowledge`. -/
def resume (offering : Offering) (arrivals : List Arrival) : Offering :=
  match offering.status with
  | .returned _ => offering
  | .awaiting attempts =>
      let read := readAcknowledge arrivals offering.buffer
      let offering := { offering with buffer := read.2 }
      match read.1 with
      | .ok ackNum =>
          if ackNum = 0 then { offering with status := .returned (.ok ()) }
          else offering.fail (.undefined "Unexpected non-zero ACK")
            ⟨.other, "Received unexpected ACK " ++ toString ackNum ++ " while expecting 0"⟩
      | .error .timeout => offering.attempt attempts
      | .error (.clientError code string) =>
          { offering with status := .returned (.error ⟨.other,
            "Early termination while options negotiation [" ++ toString code ++ "] " ++ string⟩) }
      | .error .network =>
          { offering with status := .returned (.error ⟨.other, "ACK read error: Network"⟩) }
      | .error .ackError =>
          { offering with status := .returned (.error ⟨.other, "ACK read error: ACKError"⟩) }

end Offering

/-- These are the options that the server takes from a request, and the OACK that names them. -/
structure Terms (O : Type) where
  oack : OptionsAcknowledge
  ackTimeout : AckTimeout
  blockSize : Blksize
  windowSize : WindowSize
  openedFile : O

variable {O : Type} [OpenedFile O]

/-- Every accepted option is pushed to the OACK, and every other one has its default. -/
def acceptOptions (openedFile : O) (options : Table String String) : Terms O :=
  let oack : OptionsAcknowledge := ⟨[]⟩
  let (ackTimeout, oack) := match AckTimeout.findIn options with
    | some timeout => (timeout, oack.push timeout.asKeyPair)
    | none => (AckTimeout.default, oack)
  let (blockSize, oack) := match Blksize.findIn options with
    | some blockSize => (blockSize, oack.push blockSize.asKeyPair)
    | none => (Blksize.default, oack)
  let (oack, openedFile) :=
    if TSize.isRequested options then
      match TSize.obtain openedFile with
      | (.ok tsize, openedFile) => (oack.push tsize.asKeyPair, openedFile)
      | (.error _, openedFile) => (oack, openedFile)
    else (oack, openedFile)
  let (windowSize, oack) := match WindowSize.findIn options with
    | some windowSize => (windowSize, oack.push windowSize.asKeyPair)
    | none => (WindowSize.default, oack)
  ⟨oack, ackTimeout, blockSize, windowSize, openedFile⟩

omit [OpenedFile O] in
/-- No window size within the caps is cut to zero by its cast. -/
theorem Terms.windowSize_positive (terms : Terms O) :
    0 < (UInt16.ofNat terms.windowSize.number).toNat := by
  have lower := terms.windowSize.lower
  have within := terms.windowSize.within
  rw [UInt16.toNat_ofNat']
  omega

/-- The window is built from the two sizes as 16-bit numbers. -/
def Terms.window (terms : Terms O) : Window :=
  Window.new (UInt16.ofNat terms.blockSize.number) (UInt16.ofNat terms.windowSize.number)
    terms.windowSize_positive

/-- This is the coroutine of `negotiate_options`. Without options there is nothing to offer. -/
structure Negotiation (O : Type) where
  terms : Terms O
  offering : Offering

def negotiateOptions (openedFile : O) (options : Table String String) (buffer : List UInt8)
    (verdicts : List Bool) : Negotiation O :=
  let terms := acceptOptions openedFile options
  if terms.oack.hasOptions then ⟨terms, Offering.start terms.oack buffer verdicts⟩
  else ⟨terms, ⟨0, buffer, verdicts, [], .returned (.ok ())⟩⟩

namespace Negotiation

def resume (negotiation : Negotiation O) (arrivals : List Arrival) : Negotiation O :=
  { negotiation with offering := negotiation.offering.resume arrivals }

/-- A finished negotiation returns the window and the timeout, or nothing. -/
def result (negotiation : Negotiation O) : Option (Option (Window × AckTimeout)) :=
  match negotiation.offering.status with
  | .awaiting _ => none
  | .returned (.error _) => some none
  | .returned (.ok _) => some (some (negotiation.terms.window, negotiation.terms.ackTimeout))

end Negotiation

end Rtftp.PeerHandler

import Rtftp.Construction.AsyncChannel
import Rtftp.Construction.FsWatch
import Rtftp.Library.Overwrite

namespace Rtftp
open Library AsyncChannel

/-- The buffer has room for a header, for a path of the greatest length and for its NUL. -/
def eventBufferSize : Nat := eventHeaderSize + 4096 + 1

/-- A call of `try_io` reads bytes, fails, or finds that nothing can be read now. -/
inductive TryIo where
  | read (bytes : List UInt8)
  | failed
  | wouldBlock
  deriving DecidableEq, Repr

inductive ReaderStatus where
  | looping
  | returned
  | panicked
  deriving DecidableEq, Repr

/-- This is the observer together with the task of `read_loop`. -/
structure INotifyObserver (W : Type) where
  buffer : List UInt8
  channel : Channel InotifyEvent W
  status : ReaderStatus

namespace INotifyObserver

variable {W : Type}

def observe : INotifyObserver W := ⟨List.replicate eventBufferSize 0, .new, .looping⟩

/-- The events of one read are sent one by one. -/
def push (channel : Channel InotifyEvent W) (events : List InotifyEvent) :
    Channel InotifyEvent W :=
  events.foldl (fun channel event => channel.step (.push event)) channel

/-- This is one pass of `read_loop`. A read without bytes ends the task, and the bytes of earlier
reads stay behind the new ones. -/
def readLoop (order : ByteOrder) (observer : INotifyObserver W) (tried : TryIo) :
    INotifyObserver W :=
  match observer.status, tried with
  | .looping, .read [] => { observer with status := .returned }
  | .looping, .read (byte :: rest) =>
      let buffer := overwrite observer.buffer 0 (byte :: rest)
      match parseEvents order (rest.length + 2) buffer (rest.length + 1) with
      | some (.ok events) =>
          { observer with buffer := buffer, channel := push observer.channel events }
      | _ => { observer with buffer := buffer, status := .panicked }
  | .looping, .failed => { observer with status := .panicked }
  | _, _ => observer

end INotifyObserver

end Rtftp

import Rtftp.Construction.FsWatch
import Rtftp.Construction.NbdConfig
import Rtftp.Library.Lines

namespace Rtftp
open Library

/-- This is `str::lines`. A return at the end of a text without a feed is kept. -/
def textLines (text : String) : List String :=
  (lines '\n' '\r' text.toList).map String.ofList

/-- These are the lines of the buffers that wait in the channel, in their order. Each buffer is
decoded and divided on its own. -/
def retrieveApplianceStderr (buffers : List (List UInt8)) : List String :=
  ((buffers.map toStringLossy).flatMap textLines).filter fun line => !line.isEmpty

/-- The event callback has sent these buffers when the launch returns. -/
def Handle.received (handle : Handle) (buffers : List (List UInt8)) : Handle :=
  { handle with applianceStderr := retrieveApplianceStderr buffers }

end Rtftp

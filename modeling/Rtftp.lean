import Rtftp.Library.Machine
import Rtftp.Library.History
import Rtftp.Library.Table
import Rtftp.Library.Overwrite
import Rtftp.Library.Slots
import Rtftp.Library.Blocks
import Rtftp.Library.Serial
import Rtftp.Library.Cycles
import Rtftp.Library.Progress
import Rtftp.Library.Words
import Rtftp.Library.LexicalPath
import Rtftp.Library.SortedSearch
import Rtftp.Library.FileTree
import Rtftp.Library.Text
import Rtftp.Library.Lines
import Rtftp.Construction.Cursor
import Rtftp.Construction.Error
import Rtftp.Construction.Messages
import Rtftp.Construction.Options
import Rtftp.Construction.Acknowledge
import Rtftp.Construction.OpenedFile
import Rtftp.Construction.LocalFs
import Rtftp.Construction.RemoteFs
import Rtftp.Construction.ServedFile
import Rtftp.Construction.Window
import Rtftp.Construction.SendFile
import Rtftp.Construction.Session
import Rtftp.Construction.Negotiation
import Rtftp.Construction.Serving
import Rtftp.Construction.RequestsHandler
import Rtftp.Construction.Root
import Rtftp.Construction.FileSystem
import Rtftp.Construction.IpAddr
import Rtftp.Construction.IpParser
import Rtftp.Construction.NbdDisk
import Rtftp.Construction.GuestFs
import Rtftp.Construction.NbdConfig
import Rtftp.Construction.Schedule
import Rtftp.Construction.FsWatch
import Rtftp.Construction.AsyncChannel
import Rtftp.Construction.Observer
import Rtftp.Construction.Console
import Rtftp.Construction.Server
import Rtftp.Construction.ServeAugmented
import Rtftp.Construction.Shutdown
import Rtftp.Construction.Client
import Rtftp.Construction.Exchange
import Rtftp.Proof.Cursors
import Rtftp.Proof.WriteCursors
import Rtftp.Proof.ErrorDatagram
import Rtftp.Proof.OptionsDatagram
import Rtftp.Proof.Grammar
import Rtftp.Proof.Reflection
import Rtftp.Proof.Transfer.WindowBuffers
import Rtftp.Proof.Transfer.Reads
import Rtftp.Proof.Transfer.Fill
import Rtftp.Proof.Transfer.Alignment
import Rtftp.Proof.Transfer.Receiver
import Rtftp.Proof.Transfer.Coroutine
import Rtftp.Proof.Transfer.Tracking
import Rtftp.Proof.Transfer.Soundness
import Rtftp.Proof.Transfer.Advance
import Rtftp.Proof.Transfer.Windowed
import Rtftp.Proof.Transfer.Reuse
import Rtftp.Proof.Transfer.Acceptance
import Rtftp.Proof.Transfer.Completion
import Rtftp.Proof.Transfer.Totals
import Rtftp.Proof.Transfer.Lockstep
import Rtftp.Proof.Transfer.Network
import Rtftp.Proof.Transfer.Delay
import Rtftp.Proof.Transfer.BurstSize
import Rtftp.Proof.Transfer.Cooperation
import Rtftp.Proof.Transfer.Termination
import Rtftp.Proof.Session.StaleBytes
import Rtftp.Proof.Session.Offer
import Rtftp.Proof.Session.Terms
import Rtftp.Proof.Session.Protocol
import Rtftp.Proof.Session.Simulation
import Rtftp.Proof.Session.Discipline
import Rtftp.Proof.Session.Silence
import Rtftp.Proof.Session.SingleError
import Rtftp.Proof.Session.DatagramSize
import Rtftp.Proof.Handler.Steps
import Rtftp.Proof.Handler.Sessions
import Rtftp.Proof.Handler.Limit
import Rtftp.Proof.Handler.Repeated
import Rtftp.Proof.Handler.Idle
import Rtftp.Proof.Handler.Channel
import Rtftp.Proof.Handler.Handover
import Rtftp.Proof.Handler.Accepted
import Rtftp.Proof.Server.Threads
import Rtftp.Proof.Server.Ownership
import Rtftp.Proof.Server.Endpoints
import Rtftp.Proof.Server.Work
import Rtftp.Proof.Server.Steps
import Rtftp.Proof.Server.Liveness
import Rtftp.Proof.Server.Reclaim
import Rtftp.Proof.Server.Shutdown
import Rtftp.Proof.Files.Chunks
import Rtftp.Proof.Files.Announced
import Rtftp.Proof.Files.Interchange
import Rtftp.Proof.Files.ShortReads
import Rtftp.Proof.Files.Readers
import Rtftp.Proof.Containment
import Rtftp.Proof.Isolation
import Rtftp.Proof.DefaultDirectory
import Rtftp.Proof.Addresses.Spelling
import Rtftp.Proof.Addresses.Canonical
import Rtftp.Proof.Addresses.Monitor
import Rtftp.Proof.LossyText
import Rtftp.Proof.InotifyEvents
import Rtftp.Proof.EventChannel
import Rtftp.Proof.Server.Freshness
import Rtftp.Proof.Configs.Connection
import Rtftp.Proof.Configs.Console
import Rtftp.Proof.Configs.Lookup
import Rtftp.Proof.Configs.Selection
import Rtftp.Proof.Files.Holdings
import Rtftp.Proof.Client.Datagrams
import Rtftp.Proof.Client.Bursts
import Rtftp.Proof.Client.Opening
import Rtftp.Proof.Client.Delivery
import Rtftp.Proof.Client.Downloads
import Rtftp.Proof.Client.Contents

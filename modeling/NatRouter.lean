import NatRouter.Lib.ByteMemory
import NatRouter.Lib.PackedBits
import NatRouter.Lib.Interleaving
import NatRouter.Lib.KeyedList
import NatRouter.Lib.SecureHash
import NatRouter.Nat.RoundTrip
import NatRouter.Nat.Peers
import NatRouter.Nat.Survival
import NatRouter.Nat.Separation
import NatRouter.Arp.Accounting
import NatRouter.Arp.Map
import NatRouter.Arp.Requests
import NatRouter.Router.IpPacket
import NatRouter.Nat.Expiry
import NatRouter.Router.Passage
import NatRouter.Router.Hops
import NatRouter.Router.Addressees
import NatRouter.Router.Boundary
import NatRouter.Router.Leaks
import NatRouter.Arp.MissPath
import NatRouter.Nat.Frame
import NatRouter.Nat.Lifecycle
import NatRouter.Nat.SimultaneousOpen
import NatRouter.Nat.Refinement
import NatRouter.Router.System
import NatRouter.Router.Buffered
import NatRouter.Router.Origins
import NatRouter.Router.Errors
import NatRouter.Router.Senders
import NatRouter.Router.NextHops
import NatRouter.Router.Causes
import NatRouter.Router.Sources
import NatRouter.Routes
import NatRouter.Router.FrameOverruns
import NatRouter.Router.Unroutable
import NatRouter.Nat.Memory
import NatRouter.Vns.Agreement
import NatRouter.Router.QueuedSegments
import NatRouter.Router.SweepMemory
import NatRouter.Router.SweepOutcome
import NatRouter.Router.TranslatedSums
import NatRouter.Router.ChecksumTests
import NatRouter.Router.Fragments
import NatRouter.Router.EchoReplies
import NatRouter.Router.Quotes
import NatRouter.Router.PlainForwarding
import NatRouter.Router.Stations
import NatRouter.Vns.ArpAnswers
import NatRouter.Vns.VerifiedRoutes
import NatRouter.Options
import NatRouter.Sha1.Digest
import NatRouter.Vns.Reading
import NatRouter.Vns.MessageLengths
import NatRouter.Vns.Readiness
import NatRouter.Vns.CutStreams
import NatRouter.Arp.Pending
import NatRouter.Nat.Reclaiming
import NatRouter.RouteFile
import NatRouter.Vns.Dumper
import NatRouter.Vns.HandlerReads
import NatRouter.Router.Locks
import NatRouter.Vns.Settings

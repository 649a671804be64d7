import LibPpuc.Framework.Transition
import LibPpuc.Framework.BoundedQueue
import LibPpuc.Protocol
import LibPpuc.Serial
import LibPpuc.Comm.Output
import LibPpuc.Session.CorruptReply
import LibPpuc.Runtime.System
import LibPpuc.Runtime.Blocks
import LibPpuc.Runtime.Holdover
import LibPpuc.Runtime.CoilRelease
import LibPpuc.Runtime.Ordering
import LibPpuc.Runtime.VirtualReply
import LibPpuc.Session.StaleReply
import LibPpuc.Comm.Ownership
import LibPpuc.Session.Chain
import LibPpuc.Session.CleanChain
import LibPpuc.Session.ChainCount
import LibPpuc.Session.Isolation
import LibPpuc.Session.Lifetime
import LibPpuc.Runtime.FirmwareUpdate
import LibPpuc.Comm.Mapping
import LibPpuc.Framework.Alternation
import LibPpuc.Session.SwitchStream
import LibPpuc.Comm.Config
import LibPpuc.Config.Header
import LibPpuc.Framework.Emitter
import LibPpuc.Config.Load
import LibPpuc.Startup.Attempt
import LibPpuc.Startup.Sequence
import LibPpuc.Startup.Calls
import LibPpuc.Startup.Completeness
import LibPpuc.Startup.Reference
import LibPpuc.Framework.OrderedBus
import LibPpuc.Framework.StagedTransfer
import LibPpuc.Firmware.Traffic
import LibPpuc.Firmware.Delivery
import LibPpuc.Firmware.Undisturbed
import LibPpuc.Startup.Handshake
import LibPpuc.Framework.Successor
import LibPpuc.Startup.SwitchStore
import LibPpuc.Startup.TokenRing
import LibPpuc.Startup.Sections
import LibPpuc.Config.Schema
import LibPpuc.Startup.Soundness
import LibPpuc.Host.Lifecycle
import LibPpuc.Host.Outputs
import LibPpuc.Host.OutputMeaning
import LibPpuc.Host.Shutdown
import LibPpuc.Host.Presence
import LibPpuc.Session.Reconnect
import LibPpuc.Framework.OverwriteRing
import LibPpuc.Comm.AnomalyHistory
import LibPpuc.Comm.IntegerApi
import LibPpuc.Config.AllOrNothing
import LibPpuc.Host.EarlyAbort
import LibPpuc.Session.MissStreak
import LibPpuc.Comm.AckRound
import LibPpuc.Session.BusHealth
import LibPpuc.Comm.AckStream
import LibPpuc.Hunt
import LibPpuc.Session.ReplyAlignment
import LibPpuc.Firmware.AdminAlignment
import LibPpuc.Framework.Smallest
import LibPpuc.Comm.Announcement
import LibPpuc.Startup.Numbering
import LibPpuc.Framework.Listener
import LibPpuc.Runtime.BusLog
import LibPpuc.Runtime.BusDiscipline
import LibPpuc.Runtime.BusEpochs
import LibPpuc.Framework.Progress
import LibPpuc.Runtime.NoStarvation
import LibPpuc.Framework.Ledger
import LibPpuc.Runtime.QueueLedger
import LibPpuc.Framework.Simulation
import LibPpuc.Host.BusMaster
import LibPpuc.Config.Acceptance
import LibPpuc.Config.SwitchGroups
import LibPpuc.Startup.Records
import LibPpuc.Startup.RecordStream
import LibPpuc.Startup.Diagnosis
import LibPpuc.Firmware.VersionCensus
import LibPpuc.Framework.Deadline
import LibPpuc.Runtime.Timers
import LibPpuc.Runtime.PollTimes
import LibPpuc.Framework.Selection
import LibPpuc.Startup.Lists
import LibPpuc.Startup.ListsMatch
import LibPpuc.Framework.Numeral
import LibPpuc.Startup.SkippedBoards
import LibPpuc.Runtime.CatchUp
import LibPpuc.Framework.Handles
import LibPpuc.Host.PortHandles

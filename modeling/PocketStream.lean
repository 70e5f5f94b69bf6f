import PocketStream.Foundation.Program
import PocketStream.Foundation.Arrivals
import PocketStream.Foundation.FiniteMap
import PocketStream.Address.Ipv4
import PocketStream.Address.Radix
import PocketStream.Address.Mac
import PocketStream.Config.Settings
import PocketStream.Config.Bindings
import PocketStream.Adoption.Operations
import PocketStream.Adoption.Temporary
import PocketStream.Adoption.TemporaryOwnership
import PocketStream.Adoption.Subnet
import PocketStream.Adoption.SubnetAccounting
import PocketStream.Registry.DeviceRegistry
import PocketStream.Registry.Hydration
import PocketStream.Registry.RegistryInvariant
import PocketStream.Registry.RoleAmbiguity
import PocketStream.Registry.DeviceListEmitter
import PocketStream.Config.Store
import PocketStream.Config.Ownership
import PocketStream.Binding.Reconcile
import PocketStream.Binding.ReconcileTruth
import PocketStream.Config.Validation
import PocketStream.Config.Writers
import PocketStream.Foundation.Interleaving
import PocketStream.Foundation.Latch
import PocketStream.Config.Interleaving
import PocketStream.Config.NoLostUpdate
import PocketStream.Config.Persistence
import PocketStream.Streaming.Output
import PocketStream.Config.Session
import PocketStream.Config.RoundTrip
import PocketStream.Config.RestreamWriters
import PocketStream.Config.SecretSafety
import PocketStream.Foundation.Machine
import PocketStream.Native.LocalExecutor
import PocketStream.Native.Serial
import PocketStream.Native.Admission
import PocketStream.Foundation.Routine
import PocketStream.Native.Adapter
import PocketStream.Native.Operations
import PocketStream.Native.PowerShell
import PocketStream.Native.OperationScript
import PocketStream.Native.OperationEvidence
import PocketStream.Native.OperationReport
import PocketStream.Native.Shutdown
import PocketStream.Native.Transaction
import PocketStream.Binding.Snapshot
import PocketStream.Binding.ManualAddress
import PocketStream.Binding.Observation
import PocketStream.Binding.RemovalIntent
import PocketStream.Binding.PrimaryChange
import PocketStream.Adoption.CacheProbe
import PocketStream.Adoption.ProbeLinearity
import PocketStream.Foundation.Deadline
import PocketStream.Adoption.Attempt
import PocketStream.Adoption.AttemptOutcome
import PocketStream.Binding.BindingStore
import PocketStream.Binding.ExportTruth
import PocketStream.Foundation.Generation
import PocketStream.Network.Presence
import PocketStream.Network.Fence
import PocketStream.Network.FencePermanence
import PocketStream.Network.EvidenceWatch
import PocketStream.Network.EvidenceLifetime
import PocketStream.Address.Spelling
import PocketStream.Network.Readiness
import PocketStream.Network.VerifiedPath
import PocketStream.Network.CaptureSession
import PocketStream.Network.CaptureOwnership
import PocketStream.Streaming.RelayHealth
import PocketStream.Streaming.RelayBackoff
import PocketStream.Streaming.RelayFaults
import PocketStream.Streaming.RelayRetirement
import PocketStream.Streaming.CallerRegistry
import PocketStream.Streaming.CallerAdmission
import PocketStream.Streaming.RelaySpec
import PocketStream.Foundation.Threads
import PocketStream.Streaming.FirewallLease
import PocketStream.Streaming.FirewallHost
import PocketStream.Streaming.FirewallPolicy
import PocketStream.Streaming.FirewallStore
import PocketStream.Streaming.FirewallTruth
import PocketStream.Streaming.FirewallRun
import PocketStream.Streaming.FirewallRefinement
import PocketStream.Streaming.LeaseAccounting
import PocketStream.Streaming.RelayState
import PocketStream.Streaming.RelayService
import PocketStream.Streaming.RelaySupervisor
import PocketStream.Streaming.RelayTrack
import PocketStream.Streaming.RelayOwnership
import PocketStream.Streaming.RelayMoves
import PocketStream.Streaming.RelayProtocol
import PocketStream.Streaming.RelayTriples
import PocketStream.Streaming.RelaySteps
import PocketStream.Streaming.RelayIntents
import PocketStream.Streaming.RelayCalls
import PocketStream.Streaming.OneListener
import PocketStream.Frontend.DeviceList
import PocketStream.Frontend.MirrorConvergence
import PocketStream.Frontend.PadRelease
import PocketStream.Frontend.InterfaceWatcher
import PocketStream.Frontend.LinkBounce
import PocketStream.Network.CaptureRetention
import PocketStream.Streaming.PlaybackRecovery
import PocketStream.Streaming.PlaybackService
import PocketStream.Streaming.PlaybackLifecycle
import PocketStream.Streaming.PlaybackOwnership
import PocketStream.Streaming.PlaybackStop
import PocketStream.Foundation.ByteAccess
import PocketStream.Address.Octets
import PocketStream.Network.ArpFrame
import PocketStream.Network.DataSources
import PocketStream.Binding.MacIdentity
import PocketStream.Native.Evidence
import PocketStream.Foundation.History
import PocketStream.Foundation.Expiry
import PocketStream.Adoption.DwellTracker
import PocketStream.Network.Candidates
import PocketStream.Network.PresenceClock
import PocketStream.Network.PresenceSchedule
import PocketStream.Foundation.Requests
import PocketStream.Adoption.ScratchChoice
import PocketStream.Network.BoundTcp
import PocketStream.Network.BoundTransport
import PocketStream.Foundation.Ranked
import PocketStream.Network.WatchdogLadder
import PocketStream.Network.Watcher
import PocketStream.Network.WatcherWakes
import PocketStream.Network.LadderBudget
import PocketStream.Foundation.Block
import PocketStream.Binding.NetworkLaws
import PocketStream.Binding.HostAddresses
import PocketStream.Network.Ghost
import PocketStream.Camera.FlirPtu
import PocketStream.Foundation.Search
import PocketStream.Streaming.Redaction
import PocketStream.Foundation.Tickets
import PocketStream.Frontend.PtuFifo
import PocketStream.Frontend.PtuFairness
import PocketStream.Frontend.ZoomSender
import PocketStream.Frontend.ZoomDelivery
import PocketStream.Frontend.ScanAccounting
import PocketStream.Foundation.Coalescer
import PocketStream.Frontend.RefreshLedger
import PocketStream.Frontend.RefreshesKept
import PocketStream.Foundation.Window
import PocketStream.Network.Scanner
import PocketStream.Network.ScanCoverage
import PocketStream.Foundation.Pattern
import PocketStream.Foundation.Nesting
import PocketStream.Frontend.MarkdownLite
import PocketStream.Frontend.MarkdownInline
import PocketStream.Frontend.MarkdownBlocks
import PocketStream.Network.AdapterSnapshot
import PocketStream.Network.AdapterCache
import PocketStream.Network.AdapterAnswers
import PocketStream.Foundation.Flagged
import PocketStream.Registry.ChangeFlags
import PocketStream.Registry.ChangesExact
import PocketStream.Registry.NodeNames
import PocketStream.Registry.ChangesUndone
import PocketStream.Network.CaptureRuns
import PocketStream.Config.DiskSaves
import PocketStream.Config.CrashSafety

import StreamGateway.MpegtsFilter
import StreamGateway.Selector
import StreamGateway.FilterCore
import StreamGateway.FilterLaws
import StreamGateway.ProgramIsolation
import StreamGateway.FilterSafety
import StreamGateway.Models
import StreamGateway.Serde
import StreamGateway.Async
import StreamGateway.State
import StreamGateway.Analysis
import StreamGateway.Spawn
import StreamGateway.StreamControl
import StreamGateway.Api
import StreamGateway.Loader
import StreamGateway.StateProcessor
import StreamGateway.StreamSpecs
import StreamGateway.Gateway
import StreamGateway.Sections
import StreamGateway.Calls
import StreamGateway.Invariants
import StreamGateway.LockSafety
import StreamGateway.Subscriptions
import StreamGateway.TaskOwnership
import StreamGateway.StaleMessages
import StreamGateway.OutputCycles
import StreamGateway.Loading
import StreamGateway.Reload
import StreamGateway.Acts
import StreamGateway.Endpoints
import StreamGateway.OutputRows
import StreamGateway.OutputConflicts
import StreamGateway.OutputOwnership
import StreamGateway.OutputSenders
import StreamGateway.Deletions
import StreamGateway.LoadableRows
import StreamGateway.InputIds
import StreamGateway.FirstReports
import StreamGateway.FairLock
import StreamGateway.CreationRuns
import StreamGateway.Notes
import StreamGateway.AutomaticPorts
import StreamGateway.Standing
import StreamGateway.KeptStanding
import StreamGateway.RestoredStanding
import StreamGateway.Psi
import StreamGateway.PsiParsing
import StreamGateway.LongTables
import StreamGateway.PatChanges
import StreamGateway.AdaptationFields
import StreamGateway.Stuffing
import StreamGateway.Reconnection
import StreamGateway.SrtTasks
import StreamGateway.OutputRecords
import StreamGateway.ReadEndpoints
import StreamGateway.Deeds
import StreamGateway.OperationDeeds
import StreamGateway.Totals
import StreamGateway.Gauges
import StreamGateway.LoadedGauges
import StreamGateway.GaugeRuns
import StreamGateway.ActivityGauges
import StreamGateway.ConnectionGauges
import StreamGateway.PatchMerging
import StreamGateway.OutputLosses
import StreamGateway.LegacyAddresses
import StreamGateway.OutputCreation
import StreamGateway.OutputRoundTrips
import StreamGateway.InputUpdates
import StreamGateway.UpdateFailures
import StreamGateway.Destinations
import StreamGateway.StoredRequests
import StreamGateway.SocketAddresses
import StreamGateway.SocketBinding
import StreamGateway.StreamTasks
import StreamGateway.IdleTimeouts
import StreamGateway.Statistics
import StreamGateway.Sessions
import StreamGateway.SourceChains
import StreamGateway.Tracking
import StreamGateway.Updates
import StreamGateway.ConnectionTimes
import StreamGateway.AnalysisTasks
import StreamGateway.RunningAnalyses
import StreamGateway.HeldAnalyses
import StreamGateway.TimedAnalyses
import StreamGateway.BufferSizes
import StreamGateway.UnicodeTables
import StreamGateway.StreamNames
import StreamGateway.Broadcast
import StreamGateway.Discipline
import StreamGateway.Growth
import StreamGateway.CallEnds
import StreamGateway.Traffic
import StreamGateway.Delivery
import StreamGateway.ProgramStreams
import StreamGateway.PacketCounters
import StreamGateway.Wiring
import StreamGateway.Isolation
import StreamGateway.Bystanders
import StreamGateway.Routing
import StreamGateway.Resumption
import StreamGateway.StatusViews
import StreamGateway.AnalysisFeeds
import StreamGateway.InputRows
import StreamGateway.StoredOutputs
import StreamGateway.OutputRestarts

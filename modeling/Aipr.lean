import Aipr.BoundedMap
import Aipr.Transition
import Aipr.ByteOrder
import Aipr.NodeportMaps
import Aipr.NodeportPacket
import Aipr.NodeportProgram
import Aipr.NodeportOutcome
import Aipr.ConntrackGC
import Aipr.FlowIsolation
import Aipr.ReplyPath
import Aipr.CollectorRace
import Aipr.CollectorAge
import Aipr.LastWriter
import Aipr.NetIP
import Aipr.SyncerEntry
import Aipr.EntryScript
import Aipr.Reconcile
import Aipr.Installed
import Aipr.DesiredEntries
import Aipr.SyncSystem
import Aipr.Convergence
import Aipr.Refinement
import Aipr.BackendUpdate
import Aipr.NewConnections
import Aipr.Affinity
import Aipr.TwoSyncers
import Aipr.WatchMode
import Aipr.Interaction
import Aipr.NodeportCalls
import Aipr.Counters
import Aipr.RewriteFailure
import Aipr.SnatRange
import Aipr.OwnOutput
import Aipr.Rollback
import Aipr.TelemetryLabeler
import Aipr.TelemetryWindow
import Aipr.TelemetryLoop
import Aipr.TelemetryExact
import Aipr.FirstPerKey
import Aipr.Candidates
import Aipr.ObjectContent
import Aipr.ListerOrder
import Aipr.SnatRace
import Aipr.ReapReport
import Aipr.Rotation
import Aipr.RoundRobin
import Aipr.ParserReach
import Aipr.EgressCache
import Aipr.PortNames
import Aipr.ScriptRun
import Aipr.UpsertFailure
import Aipr.SharedPort
import Aipr.OnesComplement
import Aipr.Checksums
import Aipr.ClearTarget
import Aipr.DeltaBound
import Aipr.BackendDelta
import Aipr.Grouping
import Aipr.SplitDataset
import Aipr.SplitCoverage
import Aipr.SplitStable
import Aipr.FeatureEncoding
import Aipr.LabelReport
import Aipr.EnvDetect
import Aipr.NodeIdentity
import Aipr.InnerList
import Aipr.AgentRun
import Aipr.AgentExit
import Aipr.PortCycle
import Aipr.RouteProbe
import Aipr.FlagPackage
import Aipr.SyncerFlags
import Aipr.DryRun
import Aipr.Knowledge
import Aipr.Provenance
import Aipr.CsvText
import Aipr.TelemetryLog
import Aipr.SplitFile
import Aipr.DatasetBuild
import Aipr.DatasetPipeline
import Aipr.QualityReport
import Aipr.Handoff
import Aipr.NodeSystem
import Aipr.NodeProgress
import Aipr.SteadyState

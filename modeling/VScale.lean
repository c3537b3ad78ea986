import VScale.Effects.Program
import VScale.Collections.RangeOrder
import VScale.Logic.ThreeValued
import VScale.Parser
import VScale.Text.Decimal
import VScale.Router.Defs
import VScale.Aggregate.Plan
import VScale.Proto
import VScale.Aggregate.QuickSort
import VScale.Aggregate.Value
import VScale.Aggregate.Merge
import VScale.Aggregate.Fidelity
import VScale.Tablet.Handler
import VScale.Gate.Coordinator
import VScale.Gate.Gateway
import VScale.Collections.MapInvariant
import VScale.Router.Sync
import VScale.Router.Routing
import VScale.Sql.Condition
import VScale.Router.PointRouting
import VScale.Tablet.Behaviour
import VScale.Tablet.Confinement
import VScale.Gate.CalmRun
import VScale.Router.Scatter
import VScale.Gate.ScatterCoverage
import VScale.Gate.InsertPlacement
import VScale.Gate.UpdatePlacement
import VScale.Effects.Trace
import VScale.Aggregate.Window
import VScale.Gate.ScatterWindow
import VScale.Gate.Transactions
import VScale.Gate.CommitAtomicity
import VScale.Effects.Pool
import VScale.Gate.Evolution
import VScale.Gate.Separation
import VScale.Gate.Acknowledgement
import VScale.Gate.Rules
import VScale.Gate.Accounts
import VScale.Gate.AccountedRequests
import VScale.Gate.CompleteCommit
import VScale.Gate.OverlappingCommit
import VScale.Pgwire.Messages
import VScale.Pgwire.Nulls
import VScale.Collections.Extremes
import VScale.Aggregate.ShardExtremes
import VScale.Aggregate.Groups
import VScale.Aggregate.GroupMerge
import VScale.Gate.TransactionIds
import VScale.Effects.ForkJoin
import VScale.Gate.Goroutines
import VScale.Gate.PhaseOrder
import VScale.Gate.Poisoning
import VScale.Gate.LiveParticipants
import VScale.Pgwire.Conn
import VScale.Pgwire.Framing
import VScale.Pgwire.Conversation
import VScale.Pgwire.Status
import VScale.Effects.Interpret
import VScale.Pgwire.Front
import VScale.Pgwire.Rollback
import VScale.Gate.Responses
import VScale.Pgwire.Completion
import VScale.Collections.MapLoops
import VScale.Router.Groups
import VScale.Router.Splitting
import VScale.Router.History
import VScale.Router.OrderFreedom
import VScale.Router.Keyspaces
import VScale.Topology.Etcd
import VScale.Topology.Watching
import VScale.Topology.Delivery
import VScale.Gate.Custody
import VScale.Gate.Entrusted
import VScale.Effects.Succession
import VScale.Gate.Recording
import VScale.Pgwire.Clients
import VScale.Pgwire.Orphans
import VScale.Aggregate.Slices
import VScale.Collections.StrictWeak
import VScale.Aggregate.Comparison
import VScale.Aggregate.Duplicates
import VScale.Pgwire.Rectangles
import VScale.Gate.AllOrNothing
import VScale.Tablet.Leftovers
import VScale.Effects.Threads
import VScale.Tablet.TxCalls
import VScale.Tablet.Connections
import VScale.Tablet.Outcomes
import VScale.Tablet.Reaper
import VScale.Gate.SessionCalls
import VScale.Aggregate.Sorting
import VScale.Aggregate.SortedMerge
import VScale.Text.ByteOrder
import VScale.Aggregate.SortRange
import VScale.Aggregate.Recognition
import VScale.Aggregate.Partials
import VScale.Aggregate.ShardOrder
import VScale.Aggregate.Counting
import VScale.Collections.Turns
import VScale.Router.ReadSpread
import VScale.Gate.OneShard

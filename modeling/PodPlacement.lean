import PodPlacement.Cluster.HostPort
import PodPlacement.Cluster.NodeInfo
import PodPlacement.Cluster.Snapshot
import PodPlacement.Cluster.View
import PodPlacement.Config.Basic
import PodPlacement.Config.Flags
import PodPlacement.Config.Value
import PodPlacement.Decimal.Basic
import PodPlacement.Decimal.Layout
import PodPlacement.Decimal.Numeral
import PodPlacement.Decimal.Shortest
import PodPlacement.Document
import PodPlacement.Error
import PodPlacement.Framework.Basic
import PodPlacement.Framework.CycleState
import PodPlacement.Framework.Plugin
import PodPlacement.Framework.PluginSet
import PodPlacement.Framework.Registry
import PodPlacement.Framework.Run
import PodPlacement.Framework.Scoring
import PodPlacement.Framework.Status
import PodPlacement.Framework.Usage
import PodPlacement.Json.Basic
import PodPlacement.Json.Distinct
import PodPlacement.Json.Parser
import PodPlacement.Json.Printer
import PodPlacement.Main
import PodPlacement.Matching.PodAffinity
import PodPlacement.Matching.Selector
import PodPlacement.Matching.Toleration
import PodPlacement.Object.Event
import PodPlacement.Object.Fields
import PodPlacement.Object.Metadata
import PodPlacement.Object.Node
import PodPlacement.Object.Pod
import PodPlacement.Object.Schema
import PodPlacement.Object.Schema.Container
import PodPlacement.Object.Schema.Meta
import PodPlacement.Object.Schema.Node
import PodPlacement.Object.Schema.Pod
import PodPlacement.Object.Schema.Volume
import PodPlacement.Orchestrator.Action
import PodPlacement.Orchestrator.Call
import PodPlacement.Orchestrator.Client
import PodPlacement.Orchestrator.Http
import PodPlacement.Orchestrator.Memory
import PodPlacement.Plugins.Affinity
import PodPlacement.Plugins.InTree
import PodPlacement.Plugins.Preference
import PodPlacement.Plugins.Room
import PodPlacement.Plugins.Taints
import PodPlacement.Plugins.Verdicts
import PodPlacement.Random.Generator
import PodPlacement.Random.Shuffle
import PodPlacement.Resource.Amounts
import PodPlacement.Resource.Quantity
import PodPlacement.Resource.Request
import PodPlacement.Scheduling.Basic
import PodPlacement.Scheduling.Eviction
import PodPlacement.Scheduling.HostChoice
import PodPlacement.Scheduling.Retry
import PodPlacement.Scheduling.Sampling
import PodPlacement.Scheduling.Settings
import PodPlacement.Scheduling.Settings.Codec
import PodPlacement.Scheduling.Victim
import PodPlacement.Service.Cache
import PodPlacement.Service.Feeder
import PodPlacement.Service.Message
import PodPlacement.Service.Notice
import PodPlacement.Service.Queues
import PodPlacement.Service.Relay
import PodPlacement.Service.Settings
import PodPlacement.Service.Worker
import PodPlacement.Simulation.Run
import PodPlacement.Simulation.Turns
import PodPlacement.Simulation.World
import PodPlacement.Table
import PodPlacement.Text.Blank
import PodPlacement.Text.Integer
import PodPlacement.Text.Printable
import PodPlacement.Text.Quoted
import PodPlacement.Time.Delay
import PodPlacement.Time.Duration
import PodPlacement.Time.Timestamp
import PodPlacement.Word
import PodPlacement.WorkloadKey
import PodPlacement.Yaml.Basic
import PodPlacement.Yaml.Character
import PodPlacement.Yaml.Cursor
import PodPlacement.Yaml.Lexer
import PodPlacement.Yaml.Printer
import PodPlacement.Yaml.Reader
import PodPlacement.Yaml.Scalar
import PodPlacement.Yaml.Token
import PodPlacement.Proofs.Framework.Scoring
import PodPlacement.Proofs.Random.Shuffle
import PodPlacement.Proofs.Scheduling.HostChoice
import PodPlacement.Proofs.Scheduling.Sampling
import PodPlacement.Proofs.Scheduling.Verdicts
import PodPlacement.Proofs.Table
import PodPlacement.Proofs.Framework.Assembly
import PodPlacement.Proofs.Scheduling.Ranking
import PodPlacement.Proofs.Scheduling.Decision
import PodPlacement.Proofs.Scheduling.Coverage
import PodPlacement.Proofs.Orchestrator.Run
import PodPlacement.Proofs.Scheduling.Eviction.Course
import PodPlacement.Proofs.Resource.Native
import PodPlacement.Proofs.Scheduling.Eviction.Order
import PodPlacement.Proofs.Cluster.NodeInfo
import PodPlacement.Proofs.Scheduling.Occupancy
import PodPlacement.Proofs.Orchestrator.Memory
import PodPlacement.Proofs.Scheduling.Eviction.Atomicity
import PodPlacement.Proofs.Scheduling.Eviction.Draft
import PodPlacement.Proofs.Scheduling.Eviction.Rivalry
import PodPlacement.Proofs.Json.RoundTrip
import PodPlacement.Proofs.Service.Message
import PodPlacement.Proofs.Service.Course
import PodPlacement.Proofs.Service.Backoff
import PodPlacement.Proofs.Service.Queues
import PodPlacement.Proofs.Service.Circuit
import PodPlacement.Proofs.Service.Conservation
import PodPlacement.Proofs.Resource.Extended
import PodPlacement.Proofs.Scheduling.Victim
import PodPlacement.Proofs.Scheduling.Eviction.Incarnation
import PodPlacement.Proofs.Framework.FanOut
import PodPlacement.Proofs.Double.Rounding
import PodPlacement.Proofs.Double.Ratio
import PodPlacement.Proofs.Framework.Usage
import PodPlacement.Proofs.Plugins.Scores
import PodPlacement.Proofs.Scheduling.InTree
import PodPlacement.Proofs.Framework.Installation
import PodPlacement.Proofs.Plugins.Preparation
import PodPlacement.Proofs.Scheduling.Totals
import PodPlacement.Proofs.Plugins.Separation
import PodPlacement.Proofs.WorkloadKey
import PodPlacement.Proofs.Scheduling.Eviction.Reservation
import PodPlacement.Proofs.Scheduling.Eviction.Reserving
import PodPlacement.Proofs.Service.Cache
import PodPlacement.Proofs.Service.Feeding
import PodPlacement.Proofs.Service.Deliveries
import PodPlacement.Proofs.Cluster.Snapshot
import PodPlacement.Proofs.Service.CacheHistory
import PodPlacement.Proofs.Framework.Startup
import PodPlacement.Proofs.Simulation.Activities
import PodPlacement.Proofs.Simulation.Relay
import PodPlacement.Proofs.Simulation.Turned
import PodPlacement.Proofs.Simulation.Dues
import PodPlacement.Proofs.Simulation.RelayCourse
import PodPlacement.Proofs.Simulation.Settling
import PodPlacement.Proofs.Simulation.Punctuality
import PodPlacement.Proofs.Scheduling.Overdraft
import PodPlacement.Proofs.Plugins.Pairwise
import PodPlacement.Proofs.Scheduling.Filtering
import PodPlacement.Proofs.Service.Exits
import PodPlacement.Proofs.Service.Execution
import PodPlacement.Proofs.Simulation.Handling
import PodPlacement.Proofs.Resource.Named
import PodPlacement.Proofs.Resource.Request
import PodPlacement.Proofs.Cluster.Room
import PodPlacement.Proofs.Cluster.HeldBack
import PodPlacement.Proofs.Scheduling.LeastVictim
import PodPlacement.Proofs.Double.Nearest
import PodPlacement.Proofs.Scheduling.Retry
import PodPlacement.Proofs.Plugins.Repetition
import PodPlacement.Proofs.Resource.Defaulted
import PodPlacement.Proofs.Plugins.Load
import PodPlacement.Proofs.Plugins.Preferred
import PodPlacement.Proofs.Matching.Toleration
import PodPlacement.Proofs.Plugins.Taints
import PodPlacement.Proofs.Plugins.Ports
import PodPlacement.Proofs.Cluster.Images
import PodPlacement.Proofs.Plugins.Locality
import PodPlacement.Proofs.Scheduling.TieBreak
import PodPlacement.Proofs.Framework.Registry
import PodPlacement.Proofs.Service.Identity
import PodPlacement.Proofs.Resource.Reservation
import PodPlacement.Proofs.Service.Encoding
import PodPlacement.Proofs.Framework.Status
import PodPlacement.Proofs.Matching.Selector
import PodPlacement.Proofs.Scheduling.Eviction.Removal

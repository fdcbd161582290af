import Xbench.Lib.Text
import Xbench.Lib.Dict
import Xbench.Lib.Effect
import Xbench.Lib.Shell
import Xbench.Lib.Transition
import Xbench.Lib.Numbering
import Xbench.Lib.Session
import Xbench.Lib.Regex
import Xbench.Lib.Tables
import Xbench.Lib.Grouping
import Xbench.Lib.Nested
import Xbench.Common
import Xbench.Common.Retry
import Xbench.Config.Value
import Xbench.Cloud.Types
import Xbench.Cloud.AbstractCloud
import Xbench.Cloud.Clouds
import Xbench.Cloud.Launching
import Xbench.Cloud.Termination
import Xbench.Cloud.FailedLaunch
import Xbench.Cloud.VolumeLaunch
import Xbench.Cloud.Aws.Rds
import Xbench.Cloud.Colo.LockFile
import Xbench.Cloud.Colo.Sproutsys
import Xbench.Cloud.Colo.Selection
import Xbench.Cloud.Colo.Exclusion
import Xbench.Compute.Cluster
import Xbench.Compute.RunParallel
import Xbench.Compute.Transfers
import Xbench.Compute.RunClient
import Xbench.Compute.SendFile
import Xbench.Backend.Zones
import Xbench.Benchmark.SysbenchOutput
import Xbench.Benchmark.SysbenchRunner
import Xbench.Benchmark.HammerdbRunner
import Xbench.Benchmark.BenchbaseRunner
import Xbench.Events
import Xbench.Compute.ClusterFile
import Xbench.Commands.Provisioning
import Xbench.Commands.Allocation
import Xbench.Commands.Topology
import Xbench.Commands.Membership
import Xbench.Commands.RetriedAllocation
import Xbench.Commands.CloudCommands
import Xbench.Cloud.Power
import Xbench.Cloud.SkySql
import Xbench.Commands.StartStop
import Xbench.Commands.FailedStop
import Xbench.Cloud.Aws.Account
import Xbench.Commands.Deprovisioning
import Xbench.Commands.Confinement
import Xbench.Config.YamlConfig
import Xbench.Commands.Environments
import Xbench.Commands.Overrides
import Xbench.Commands.Precedence
import Xbench.Commands.Isolation
import Xbench.Compute.BackendTarget
import Xbench.Compute.Persistence
import Xbench.Compute.Groups
import Xbench.Commands.Install
import Xbench.Commands.Exporters
import Xbench.Commands.Lifecycle
import Xbench.Commands.Proxies
import Xbench.Commands.SharedStorage
import Xbench.Commands.Extending
import Xbench.Commands.ParseUnknown
import Xbench.Commands.WorkloadRunning
import Xbench.Config.YamlLoader
import Xbench.Config.LoadHistory
import Xbench.Config.References
import Xbench.Commands.Renaming
import Xbench.Compute.TopologyPaths
import Xbench.Commands.Backends
import Xbench.Commands.DryRun
import Xbench.Commands.Steps
import Xbench.Commands.WorkloadConf
import Xbench.Cloud.Aws.Ec2
import Xbench.Backend.LocalDisks
import Xbench.Cloud.Gcp.Firewall
import Xbench.Commands.Deregistration
import Xbench.Lib.Polling
import Xbench.Backend.Checkpoint
import Xbench.Backend.DirtyPages
import Xbench.Cloud.SkySql.AllowList
import Xbench.Cloud.SkySql.Services
import Xbench.Lib.Matching
import Xbench.Common.Rfc1035
import Xbench.Lib.Swapping
import Xbench.Common.Shuffle
import Xbench.Cloud.Colo.Population
import Xbench.Commands.InstanceNames
import Xbench.Lib.Escaping
import Xbench.Benchmark.BenchbaseEscape
import Xbench.Lib.Splicing
import Xbench.Config.Includes
import Xbench.Config.Documents
import Xbench.Backend.Memory
import Xbench.Backend.ColumnstorePackages
import Xbench.Lib.Mounts
import Xbench.Driver.BaseDriver
import Xbench.Lib.Merging
import Xbench.Config.KeyOrder
import Xbench.Commands.InPlace
import Xbench.Lib.Repeating
import Xbench.Compute.RunRetried
import Xbench.Compute.RunOnNodes
import Xbench.Backend.XpandConf
import Xbench.Commands.Main
import Xbench.Commands.Accounting
import Xbench.Commands.EndToEnd

import VolumeMigration.Attempt
import VolumeMigration.Claim.Basic
import VolumeMigration.Claim.Pair
import VolumeMigration.Claim.PairList
import VolumeMigration.Cluster.Kind
import VolumeMigration.Cluster.Metadata
import VolumeMigration.Cluster.Network
import VolumeMigration.Cluster.Object
import VolumeMigration.Cluster.Pod
import VolumeMigration.Cluster.Schema
import VolumeMigration.Cluster.Shape
import VolumeMigration.Cluster.Store
import VolumeMigration.Cluster.Workload
import VolumeMigration.Command.Basic
import VolumeMigration.Command.Quiesce
import VolumeMigration.Command.Transfer
import VolumeMigration.CommandLine.Basic
import VolumeMigration.CommandLine.LogFormat
import VolumeMigration.CommandLine.Usage
import VolumeMigration.CommandLine.Words
import VolumeMigration.Config.Document
import VolumeMigration.Config.Migration
import VolumeMigration.Config.Options
import VolumeMigration.Config.Plan
import VolumeMigration.ConfigFile
import VolumeMigration.Endpoint.Basic
import VolumeMigration.Endpoint.Lifecycle
import VolumeMigration.Endpoint.Manifest
import VolumeMigration.Failure
import VolumeMigration.Json.Basic
import VolumeMigration.Json.Form
import VolumeMigration.Json.MergePatch
import VolumeMigration.Json.Reader
import VolumeMigration.Json.Writer
import VolumeMigration.Label
import VolumeMigration.Main
import VolumeMigration.Manifest
import VolumeMigration.ObjectName
import VolumeMigration.Proofs.Attempts
import VolumeMigration.Proofs.Clusters
import VolumeMigration.Proofs.Creation
import VolumeMigration.Proofs.Maps
import VolumeMigration.Proofs.QuiesceChanges
import VolumeMigration.Proofs.QuiesceObjects
import VolumeMigration.Proofs.QuiesceRuns
import VolumeMigration.Proofs.QuiesceVisits
import VolumeMigration.Proofs.Records
import VolumeMigration.Proofs.Sides
import VolumeMigration.Proofs.Texts
import VolumeMigration.Quiesce.Controller
import VolumeMigration.Quiesce.Record
import VolumeMigration.Quiesce.Setting
import VolumeMigration.Quiesce.Writer
import VolumeMigration.Side
import VolumeMigration.SortedMap
import VolumeMigration.Text.Base64
import VolumeMigration.Text.Blank
import VolumeMigration.Text.Cut
import VolumeMigration.Text.DecimalDigit
import VolumeMigration.Text.Digest
import VolumeMigration.Text.FilePath
import VolumeMigration.Text.Lowercase
import VolumeMigration.Text.Number
import VolumeMigration.Text.ShellWord
import VolumeMigration.Text.Timestamp
import VolumeMigration.Transfer.Basic
import VolumeMigration.Transfer.Blockrsync
import VolumeMigration.Transfer.Lifecycle
import VolumeMigration.Transfer.Rclone
import VolumeMigration.Transfer.Rsync
import VolumeMigration.Transfer.RsyncOptions
import VolumeMigration.Transport.Basic
import VolumeMigration.Transport.Control
import VolumeMigration.Transport.Stunnel
import VolumeMigration.Transport.Tls
import VolumeMigration.Waiting
import VolumeMigration.Yaml.Cursor
import VolumeMigration.Yaml.Node
import VolumeMigration.Yaml.Scalar
import VolumeMigration.Yaml.Token
import VolumeMigration.Proofs.PairLists
import VolumeMigration.Proofs.Shell
import VolumeMigration.Proofs.Mounts
import VolumeMigration.Proofs.Names
import VolumeMigration.Proofs.ConfigFiles
import VolumeMigration.Proofs.PairedVolumes
import VolumeMigration.Proofs.PairedTrees
import VolumeMigration.Proofs.PairedDevices
import VolumeMigration.Proofs.Discovery
import VolumeMigration.Proofs.Ports
import VolumeMigration.Proofs.Connections
import VolumeMigration.Proofs.PairRules
import VolumeMigration.Proofs.Writes
import VolumeMigration.Proofs.Parts
import VolumeMigration.Proofs.Rejections
import VolumeMigration.Proofs.SharedClusters
import VolumeMigration.Proofs.FailureFree
import VolumeMigration.Proofs.QuiesceReports
import VolumeMigration.Proofs.Plans
import VolumeMigration.Proofs.ServerStarts
import VolumeMigration.Proofs.RoutedTraffic
import VolumeMigration.Proofs.InvalidInput
import VolumeMigration.Proofs.Waits
import VolumeMigration.Proofs.TransferRuns
import VolumeMigration.Proofs.Polling
import VolumeMigration.Proofs.Termination
import VolumeMigration.Proofs.RsyncFlags
import VolumeMigration.Proofs.RsyncLimits
import VolumeMigration.Proofs.CreationOrder
import VolumeMigration.Proofs.Selectors
import VolumeMigration.Proofs.CreatedObjects
import VolumeMigration.Proofs.SelectedPods
import VolumeMigration.Proofs.ServerPorts
import VolumeMigration.Proofs.EndpointParts
import VolumeMigration.Proofs.Rediscovery
import VolumeMigration.Proofs.HealthyEndpoints
import VolumeMigration.Proofs.PodSpecs
import VolumeMigration.Proofs.RouteHosts
import VolumeMigration.Proofs.IngressHosts
import VolumeMigration.Proofs.StoredSecrets
import VolumeMigration.Proofs.TunnelMaterial
import VolumeMigration.Proofs.TunnelUpserts
import VolumeMigration.Proofs.ProxyUrls
import VolumeMigration.Proofs.TunnelConfigs
import VolumeMigration.Proofs.ClientScripts
import VolumeMigration.Proofs.ResolvedClaims
import VolumeMigration.Proofs.BoundedWaits
import VolumeMigration.Proofs.JsonSpellings
import VolumeMigration.Proofs.RecordTexts
import VolumeMigration.Proofs.ClusterRuns
import VolumeMigration.Proofs.ShapeFields
import VolumeMigration.Proofs.KeptFields
import VolumeMigration.Proofs.LegalNames

import ClusterSurvey.Api.Address
import ClusterSurvey.Api.Connection
import ClusterSurvey.Api.ExecStream
import ClusterSurvey.Api.Form
import ClusterSurvey.Api.Http
import ClusterSurvey.Api.Request
import ClusterSurvey.Api.Response
import ClusterSurvey.Api.Serve
import ClusterSurvey.Api.Wording
import ClusterSurvey.Assignment
import ClusterSurvey.Base64
import ClusterSurvey.Cluster.Basic
import ClusterSurvey.Cluster.Error
import ClusterSurvey.Cluster.Memory
import ClusterSurvey.Cluster.Selector
import ClusterSurvey.Config.Basic
import ClusterSurvey.Config.File
import ClusterSurvey.Config.Json
import ClusterSurvey.Config.Validation
import ClusterSurvey.Dict
import ClusterSurvey.Explorer.Bare
import ClusterSurvey.Explorer.Basic
import ClusterSurvey.Explorer.Dispatch
import ClusterSurvey.Explorer.Label
import ClusterSurvey.Explorer.Registry
import ClusterSurvey.Explorer.StaticPod
import ClusterSurvey.Files
import ClusterSurvey.Inventory
import ClusterSurvey.Json.Basic
import ClusterSurvey.Json.Fields
import ClusterSurvey.Json.Parser
import ClusterSurvey.Json.Printer
import ClusterSurvey.Kubeconfig.Basic
import ClusterSurvey.Kubeconfig.Credentials
import ClusterSurvey.Kubeconfig.Target
import ClusterSurvey.Kubeconfig.Yaml
import ClusterSurvey.Main
import ClusterSurvey.Object.Basic
import ClusterSurvey.Object.FieldTable
import ClusterSurvey.Object.Json
import ClusterSurvey.Object.Kind
import ClusterSurvey.Object.Passed
import ClusterSurvey.Program.Options
import ClusterSurvey.Program.Run
import ClusterSurvey.Program.Usage
import ClusterSurvey.Proofs.Absorption
import ClusterSurvey.Proofs.Admission
import ClusterSurvey.Proofs.AgentPods
import ClusterSurvey.Proofs.Agreement
import ClusterSurvey.Proofs.Applicability
import ClusterSurvey.Proofs.Base64
import ClusterSurvey.Proofs.BrokenRules
import ClusterSurvey.Proofs.Capacity
import ClusterSurvey.Proofs.Causes
import ClusterSurvey.Proofs.Chain
import ClusterSurvey.Proofs.CommandLines
import ClusterSurvey.Proofs.Commands
import ClusterSurvey.Proofs.ComponentStage
import ClusterSurvey.Proofs.Composition
import ClusterSurvey.Proofs.ConfigFields
import ClusterSurvey.Proofs.ConfigJson
import ClusterSurvey.Proofs.Consultation
import ClusterSurvey.Proofs.Crowds
import ClusterSurvey.Proofs.Disclosure
import ClusterSurvey.Proofs.Dispatching
import ClusterSurvey.Proofs.Downgrade
import ClusterSurvey.Proofs.ExitCodes
import ClusterSurvey.Proofs.Footprint
import ClusterSurvey.Proofs.Gathering
import ClusterSurvey.Proofs.HistoryFree
import ClusterSurvey.Proofs.Instances
import ClusterSurvey.Proofs.JsonText
import ClusterSurvey.Proofs.JsonTokens
import ClusterSurvey.Proofs.LabelledPods
import ClusterSurvey.Proofs.Lifecycle
import ClusterSurvey.Proofs.Lines
import ClusterSurvey.Proofs.Listings
import ClusterSurvey.Proofs.Lookup
import ClusterSurvey.Proofs.LowerCase
import ClusterSurvey.Proofs.MachineStage
import ClusterSurvey.Proofs.NodeVisits
import ClusterSurvey.Proofs.Numerals
import ClusterSurvey.Proofs.ObjectJson
import ClusterSurvey.Proofs.Occurrences
import ClusterSurvey.Proofs.Payloads
import ClusterSurvey.Proofs.Permits
import ClusterSurvey.Proofs.Places
import ClusterSurvey.Proofs.Policies
import ClusterSurvey.Proofs.Printing
import ClusterSurvey.Proofs.ProcessArguments
import ClusterSurvey.Proofs.Progress
import ClusterSurvey.Proofs.Redaction
import ClusterSurvey.Proofs.Registrations
import ClusterSurvey.Proofs.Selectors
import ClusterSurvey.Proofs.StageOrder
import ClusterSurvey.Proofs.Stages
import ClusterSurvey.Proofs.Summary
import ClusterSurvey.Proofs.Sweep
import ClusterSurvey.Proofs.Targets
import ClusterSurvey.Proofs.TextBytes
import ClusterSurvey.Proofs.Tunables
import ClusterSurvey.Proofs.TunablesText
import ClusterSurvey.Proofs.Validation
import ClusterSurvey.Proofs.WellFormed
import ClusterSurvey.Snapshot.Basic
import ClusterSurvey.Snapshot.Summary
import ClusterSurvey.Survey.Bridge
import ClusterSurvey.Survey.Collector
import ClusterSurvey.Survey.Error
import ClusterSurvey.Survey.Gate
import ClusterSurvey.Survey.Trace
import ClusterSurvey.Surveyor
import ClusterSurvey.Text.Blank
import ClusterSurvey.Text.Cased
import ClusterSurvey.Text.Decimal
import ClusterSurvey.Text.Graphic
import ClusterSurvey.Text.LowerCase
import ClusterSurvey.Text.Magnitude
import ClusterSurvey.Text.Quoted
import ClusterSurvey.Text.Reader
import ClusterSurvey.Text.Split
import ClusterSurvey.Text.Utf8
import ClusterSurvey.Timestamp
import ClusterSurvey.Toml.Number
import ClusterSurvey.Toml.Parser
import ClusterSurvey.Toml.Quoted
import ClusterSurvey.Toml.Table
import ClusterSurvey.Yaml.Basic
import ClusterSurvey.Yaml.Cursor
import ClusterSurvey.Yaml.Layout
import ClusterSurvey.Yaml.Node
import ClusterSurvey.Yaml.Plain
import ClusterSurvey.Yaml.Record
import ClusterSurvey.Yaml.Scalar
import ClusterSurvey.Yaml.Token
import ClusterSurvey.Yaml.Value

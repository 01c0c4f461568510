import WorkloadTraits.Builtin.Access
import WorkloadTraits.Builtin.Containers
import WorkloadTraits.Builtin.Environment
import WorkloadTraits.Builtin.Field
import WorkloadTraits.Builtin.Ingress
import WorkloadTraits.Builtin.PathChange
import WorkloadTraits.Builtin.Probes
import WorkloadTraits.Builtin.Registry
import WorkloadTraits.Builtin.Resources
import WorkloadTraits.Builtin.Secret
import WorkloadTraits.Builtin.Storage
import WorkloadTraits.CommandLine.Command
import WorkloadTraits.CommandLine.Files
import WorkloadTraits.CommandLine.Reply
import WorkloadTraits.Component
import WorkloadTraits.Contribution.Basic
import WorkloadTraits.Contribution.Json
import WorkloadTraits.Contribution.Routing
import WorkloadTraits.Decimal.Double
import WorkloadTraits.Decimal.Shortest
import WorkloadTraits.Dispatch.Level
import WorkloadTraits.Dispatch.Plan
import WorkloadTraits.Dispatch.Registry
import WorkloadTraits.Engine
import WorkloadTraits.Failure
import WorkloadTraits.Json.Basic
import WorkloadTraits.Json.Fault
import WorkloadTraits.Json.Literal
import WorkloadTraits.Json.Number
import WorkloadTraits.Json.Object
import WorkloadTraits.Json.Printer
import WorkloadTraits.Json.Reading
import WorkloadTraits.Json.Scalar
import WorkloadTraits.Json.Token
import WorkloadTraits.Label
import WorkloadTraits.Main
import WorkloadTraits.Manifest.Access
import WorkloadTraits.Manifest.Claim
import WorkloadTraits.Manifest.Companion
import WorkloadTraits.Manifest.Container
import WorkloadTraits.Manifest.Ingress
import WorkloadTraits.Manifest.Metadata
import WorkloadTraits.Manifest.Pod
import WorkloadTraits.Manifest.Workload
import WorkloadTraits.Metrics
import WorkloadTraits.Placement.Basic
import WorkloadTraits.Placement.Pod
import WorkloadTraits.Proofs.Acceptance.Entries
import WorkloadTraits.Proofs.Acceptance.Levels
import WorkloadTraits.Proofs.Access.Effect
import WorkloadTraits.Proofs.Access.Grants
import WorkloadTraits.Proofs.Access.PodAccount
import WorkloadTraits.Proofs.Access.References
import WorkloadTraits.Proofs.Builtin.Besides
import WorkloadTraits.Proofs.Builtin.Decoration
import WorkloadTraits.Proofs.Builtin.Ingress
import WorkloadTraits.Proofs.Builtin.Kinds
import WorkloadTraits.Proofs.Builtin.Level
import WorkloadTraits.Proofs.Builtin.Payload
import WorkloadTraits.Proofs.Builtin.Storage
import WorkloadTraits.Proofs.Claims.Creations
import WorkloadTraits.Proofs.Claims.InStep
import WorkloadTraits.Proofs.Claims.Shadowing
import WorkloadTraits.Proofs.Claims.Templates
import WorkloadTraits.Proofs.Containers
import WorkloadTraits.Proofs.Contribution.FirstOfKey
import WorkloadTraits.Proofs.Contribution.Merge
import WorkloadTraits.Proofs.Contribution.Policy
import WorkloadTraits.Proofs.Contribution.Regrouping
import WorkloadTraits.Proofs.Counting.Balance
import WorkloadTraits.Proofs.Counting.Ends
import WorkloadTraits.Proofs.Dispatch.Comparison
import WorkloadTraits.Proofs.Dispatch.Faults
import WorkloadTraits.Proofs.Dispatch.FirstFailure
import WorkloadTraits.Proofs.Dispatch.Journal
import WorkloadTraits.Proofs.Dispatch.Outcome
import WorkloadTraits.Proofs.Dispatch.Selection
import WorkloadTraits.Proofs.Dispatch.Visits
import WorkloadTraits.Proofs.Flattening
import WorkloadTraits.Proofs.Ingress.Changes
import WorkloadTraits.Proofs.Ingress.Derivation
import WorkloadTraits.Proofs.Ingress.Grouping
import WorkloadTraits.Proofs.Json.Numerals
import WorkloadTraits.Proofs.Json.Scanning
import WorkloadTraits.Proofs.Json.Spelling
import WorkloadTraits.Proofs.Labels
import WorkloadTraits.Proofs.Levels
import WorkloadTraits.Proofs.Mounts
import WorkloadTraits.Proofs.Names
import WorkloadTraits.Proofs.Nesting
import WorkloadTraits.Proofs.Payload.Encodings
import WorkloadTraits.Proofs.Payload.RoundTrip
import WorkloadTraits.Proofs.Placement.Again
import WorkloadTraits.Proofs.Placement.Atomicity
import WorkloadTraits.Proofs.Placement.Effect
import WorkloadTraits.Proofs.Placement.Pod
import WorkloadTraits.Proofs.Placement.Requirements
import WorkloadTraits.Proofs.Placement.Walk
import WorkloadTraits.Proofs.Placement.Workload
import WorkloadTraits.Proofs.Pruning.Agreement
import WorkloadTraits.Proofs.Pruning.Effect
import WorkloadTraits.Proofs.Pruning.Ignored
import WorkloadTraits.Proofs.Quantity
import WorkloadTraits.Proofs.Reapplying
import WorkloadTraits.Proofs.Schema.Agreement
import WorkloadTraits.Proofs.Schema.Restoring
import WorkloadTraits.Proofs.Secrets.Confinement
import WorkloadTraits.Proofs.Secrets.Decoding
import WorkloadTraits.Proofs.Secrets.Delivery
import WorkloadTraits.Proofs.Secrets.Redaction
import WorkloadTraits.Proofs.SortedMap
import WorkloadTraits.Proofs.Text.Trimming
import WorkloadTraits.Proofs.Uniqueness
import WorkloadTraits.Proofs.Volumes
import WorkloadTraits.Quantity
import WorkloadTraits.Schema.Cause
import WorkloadTraits.Schema.Record
import WorkloadTraits.Settings
import WorkloadTraits.SortedMap
import WorkloadTraits.Text.Blank
import WorkloadTraits.Text.CaseTable
import WorkloadTraits.Text.Lowercase
import WorkloadTraits.Text.PrintTable
import WorkloadTraits.Text.Quoted
import WorkloadTraits.Trait.Entry
import WorkloadTraits.Trait.Kind
import WorkloadTraits.Trait.Schema
import WorkloadTraits.Trait.Written
import WorkloadTraits.Warning
import WorkloadTraits.Yaml.Character
import WorkloadTraits.Yaml.Flow
import WorkloadTraits.Yaml.Printer
import WorkloadTraits.Yaml.Scalar

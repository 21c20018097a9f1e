import ComposeCluster.App.Basic
import ComposeCluster.App.Cluster
import ComposeCluster.App.Conversion
import ComposeCluster.App.Ingresses
import ComposeCluster.App.Manifest
import ComposeCluster.App.Pod
import ComposeCluster.App.Policies
import ComposeCluster.App.Provider
import ComposeCluster.App.Route
import ComposeCluster.App.Scope
import ComposeCluster.App.Settings
import ComposeCluster.App.Workload
import ComposeCluster.Compose.Command
import ComposeCluster.Compose.Document
import ComposeCluster.Compose.Mount
import ComposeCluster.Compose.Normal
import ComposeCluster.Compose.Port
import ComposeCluster.Compose.Project
import ComposeCluster.Compose.Quantity
import ComposeCluster.Compose.Target
import ComposeCluster.Content.Digest
import ComposeCluster.Content.Objects
import ComposeCluster.Content.Reference
import ComposeCluster.Content.Rollout
import ComposeCluster.Decimal.Binary64
import ComposeCluster.Decimal.Notation
import ComposeCluster.Decimal.Shortest
import ComposeCluster.Digest.Base64
import ComposeCluster.Digest.Sha256
import ComposeCluster.Digest.ShortHash
import ComposeCluster.Env.File
import ComposeCluster.Env.Text
import ComposeCluster.Fault
import ComposeCluster.Json.Basic
import ComposeCluster.Json.Number
import ComposeCluster.Json.Parser
import ComposeCluster.Json.Patch
import ComposeCluster.Json.Pointer
import ComposeCluster.Json.Printer
import ComposeCluster.Json.Record
import ComposeCluster.Kube.Access
import ComposeCluster.Kube.Data
import ComposeCluster.Kube.Ingress
import ComposeCluster.Kube.Live
import ComposeCluster.Kube.Meta
import ComposeCluster.Kube.Pod
import ComposeCluster.Kube.Resource
import ComposeCluster.Kube.Storage
import ComposeCluster.Kube.Workload
import ComposeCluster.Naming.Component
import ComposeCluster.Naming.Identity
import ComposeCluster.Naming.Label
import ComposeCluster.Proofs.Json.Member
import ComposeCluster.Proofs.Json.Patch
import ComposeCluster.Proofs.Json.Place
import ComposeCluster.Refusal
import ComposeCluster.SortedMap
import ComposeCluster.SortedMap.Lemmas
import ComposeCluster.Source.Definition
import ComposeCluster.Source.Tree
import ComposeCluster.Storage.Binding
import ComposeCluster.Storage.Class
import ComposeCluster.Storage.Preparation
import ComposeCluster.Text.Blank
import ComposeCluster.Text.Lowercase
import ComposeCluster.Text.Numeral
import ComposeCluster.Text.Quoted
import ComposeCluster.Text.Split
import ComposeCluster.Text.Unprintable
import ComposeCluster.Text.Utf8
import ComposeCluster.Yaml.Cursor
import ComposeCluster.Yaml.Document
import ComposeCluster.Yaml.Node
import ComposeCluster.Yaml.Printer
import ComposeCluster.Yaml.Scalar.Block
import ComposeCluster.Yaml.Scalar.Plain
import ComposeCluster.Yaml.Scalar.Quoted
import ComposeCluster.Yaml.Tag
import ComposeCluster.Yaml.Token
import ComposeCluster.Yaml.Value
import ComposeCluster.Proofs.Kube.Live
import ComposeCluster.Proofs.Content.Rollout
import ComposeCluster.Proofs.Json.Parsed
import ComposeCluster.Proofs.Content.Reference
import ComposeCluster.Proofs.Kube.Generated
import ComposeCluster.Proofs.App.FreshRollout
import ComposeCluster.Proofs.App.Turns
import ComposeCluster.Proofs.Compose.Normal
import ComposeCluster.Proofs.App.Assembly
import ComposeCluster.Proofs.Content.MountedKey
import ComposeCluster.Proofs.App.ObjectRef
import ComposeCluster.Proofs.App.CreationOrder
import ComposeCluster.Proofs.App.DistinctObjects
import ComposeCluster.Proofs.Compose.Port
import ComposeCluster.Proofs.App.Route
import ComposeCluster.Proofs.App.Ingresses
import ComposeCluster.Proofs.App.ServicePort
import ComposeCluster.Proofs.App.PodVolumes
import ComposeCluster.Proofs.App.Traffic
import ComposeCluster.Proofs.App.BuildSucceeds
import ComposeCluster.Proofs.Compose.PortOrder
import ComposeCluster.Proofs.Source.Confined
import ComposeCluster.Proofs.Compose.TwoTrees
import ComposeCluster.Proofs.App.TwoTrees
import ComposeCluster.Proofs.App.Confidential
import ComposeCluster.Proofs.Content.Carried
import ComposeCluster.Proofs.App.ContentHash
import ComposeCluster.Proofs.App.Warnings
import ComposeCluster.Proofs.Naming.Identity
import ComposeCluster.Proofs.App.Instance
import ComposeCluster.Proofs.App.Moving
import ComposeCluster.Proofs.Json.Texts
import ComposeCluster.Proofs.Text.Numeral
import ComposeCluster.Proofs.Yaml.Plain
import ComposeCluster.Proofs.Yaml.Quoted
import ComposeCluster.Proofs.Yaml.Spot
import ComposeCluster.Proofs.Yaml.Leaf
import ComposeCluster.Proofs.Yaml.Entry
import ComposeCluster.Proofs.Yaml.Scan
import ComposeCluster.Proofs.Yaml.Documents
import ComposeCluster.Proofs.Yaml.Compose
import ComposeCluster.Proofs.Yaml.ReadBack
import ComposeCluster.Proofs.Text.Case
import ComposeCluster.Proofs.App.RuleSet
import ComposeCluster.Proofs.App.HostCase
import ComposeCluster.Proofs.App.Labels
import ComposeCluster.Proofs.Json.Record
import ComposeCluster.Proofs.Kube.ReadBack
import ComposeCluster.Proofs.Source.Parts
import ComposeCluster.Proofs.Compose.SubPath
import ComposeCluster.Proofs.Source.Lead
import ComposeCluster.Proofs.Text.Cut
import ComposeCluster.Proofs.Compose.VolumeRef
import ComposeCluster.Proofs.Compose.Target
import ComposeCluster.Proofs.Compose.MountConflict
import ComposeCluster.Proofs.Storage.MakeDirectories
import ComposeCluster.Proofs.Storage.Preparation
import ComposeCluster.Proofs.App.Binding
import ComposeCluster.Proofs.Text.Utf8
import ComposeCluster.Proofs.Env.Data
import ComposeCluster.Proofs.Content.Digest
import ComposeCluster.Proofs.Digest.Base64
import ComposeCluster.Proofs.App.StoredData
import ComposeCluster.Proofs.Env.Merge
import ComposeCluster.Proofs.App.EnvSecrets
import ComposeCluster.Proofs.Text.Lines
import ComposeCluster.Proofs.Env.Lines
import ComposeCluster.Proofs.Env.ReadBack
import ComposeCluster.Proofs.Compose.QuotedWord
import ComposeCluster.Proofs.Digest.ShortHash
import ComposeCluster.Proofs.Content.PodHash
import ComposeCluster.Proofs.Naming.Label
import ComposeCluster.Proofs.App.NamesInUse
import ComposeCluster.Proofs.Compose.Forms
import ComposeCluster.Proofs.Compose.Quantity
import ComposeCluster.Proofs.Compose.CanonicalSubPath
import ComposeCluster.Proofs.Json.Pointer
import ComposeCluster.Proofs.Content.AnnotationPath

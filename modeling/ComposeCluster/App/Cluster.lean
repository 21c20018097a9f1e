import ComposeCluster.Json.Record
import ComposeCluster.Text.Blank

/-!
# Clusters

What is known of a cluster: its name, and how its ingress controller is reached. Blank settings
count as unset.
-/

set_option autoImplicit false

namespace ComposeCluster

/-- A text without the blanks around it, if anything is left. -/
def nonBlank? (text : Option String) : Option String :=
  (text.map Text.trim).filter fun trimmed => !trimmed.isEmpty

/-- How the ingress controller of a cluster is reached. -/
structure ClusterIngress where
  nameSpace? : Option String
  domain? : Option String
  certResolver? : Option String
  deriving DecidableEq

namespace ClusterIngress

/-- Nothing is set. -/
def unset : ClusterIngress := ⟨none, none, none⟩

def toJson (ingress : ClusterIngress) : Json :=
  .record
    [("namespace", some (Json.orNull .str ingress.nameSpace?)),
     ("domain", some (Json.orNull .str ingress.domain?)),
     ("certResolver", some (Json.orNull .str ingress.certResolver?))]

def ofJson? : Json → Option ClusterIngress :=
  Json.readRecord? do
    let nameSpace? ← Fields.optional "namespace" Json.asText?
    let domain? ← Fields.optional "domain" Json.asText?
    let certResolver? ← Fields.optional "certResolver" Json.asText?
    return { nameSpace?, domain?, certResolver? }

end ClusterIngress

/-- A cluster. -/
structure Cluster where
  name : String
  ingress : ClusterIngress
  deriving DecidableEq

namespace Cluster

/-- A cluster of which nothing is known. -/
def unknown : Cluster := ⟨"", .unset⟩

/-- The namespace of the ingress controller. -/
def ingressNameSpace (cluster : Cluster) : String :=
  (nonBlank? cluster.ingress.nameSpace?).getD "default"

/-- The domain below which hosts are generated. -/
def ingressDomain? (cluster : Cluster) : Option String :=
  nonBlank? cluster.ingress.domain?

def toJson (cluster : Cluster) : Json :=
  .record [("name", some (.str cluster.name)), ("ingress", some cluster.ingress.toJson)]

def ofJson? : Json → Option Cluster :=
  Json.readRecord? do
    let name ← Fields.orElse "name" "" Json.asText?
    let ingress ← Fields.orElse "ingress" .unset ClusterIngress.ofJson?
    return { name, ingress }

end Cluster

end ComposeCluster

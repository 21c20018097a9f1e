import ComposeCluster.Kube.Meta
import ComposeCluster.Text.Split
import ComposeCluster.Text.Lowercase

/-!
# Kinds of cluster objects

How an object is addressed: the group and the version that its `apiVersion` combines, its kind,
and the plural under which the cluster serves the kind. Every object starts with the same header;
`Header.fields` and `Header.read` are its part of writing and reading.
-/

set_option autoImplicit false

namespace ComposeCluster

/-- A kind of object with the version it is written in. -/
structure ObjectKind where
  apiVersion : String
  kind : String
  deriving DecidableEq

namespace ObjectKind

/-- Namespaces. -/
def nameSpace : ObjectKind := ⟨"v1", "Namespace"⟩

/-- Network policies. -/
def networkPolicy : ObjectKind := ⟨"networking.k8s.io/v1", "NetworkPolicy"⟩

/-- Service accounts. -/
def serviceAccount : ObjectKind := ⟨"v1", "ServiceAccount"⟩

/-- Roles. -/
def role : ObjectKind := ⟨"rbac.authorization.k8s.io/v1", "Role"⟩

/-- Bindings of roles. -/
def roleBinding : ObjectKind := ⟨"rbac.authorization.k8s.io/v1", "RoleBinding"⟩

/-- Persistent volumes. -/
def persistentVolume : ObjectKind := ⟨"v1", "PersistentVolume"⟩

/-- Claims of persistent volumes. -/
def persistentVolumeClaim : ObjectKind := ⟨"v1", "PersistentVolumeClaim"⟩

/-- Secrets. -/
def secret : ObjectKind := ⟨"v1", "Secret"⟩

/-- Config maps. -/
def configMap : ObjectKind := ⟨"v1", "ConfigMap"⟩

/-- Deployments. -/
def deployment : ObjectKind := ⟨"apps/v1", "Deployment"⟩

/-- Services. -/
def service : ObjectKind := ⟨"v1", "Service"⟩

/-- Ingresses. -/
def ingress : ObjectKind := ⟨"networking.k8s.io/v1", "Ingress"⟩

/-- The group and the version; the oldest group has no name. -/
def groupAndVersion (kind : ObjectKind) : String × String :=
  (Text.splitOnce '/' kind.apiVersion).getD ("", kind.apiVersion)

/-- The plurals that do not follow the rules for endings. -/
def irregularPlurals : List (String × String) :=
  [("ingress", "ingresses"),
   ("networkpolicy", "networkpolicies"),
   ("persistentvolume", "persistentvolumes"),
   ("persistentvolumeclaim", "persistentvolumeclaims"),
   ("endpoints", "endpoints")]

/-- The plural of a word in small letters. -/
def plural (word : String) : String :=
  match irregularPlurals.lookup word with
  | some plural => plural
  | none =>
    if ["s", "ch", "sh"].any fun ending => Text.endsWith ending word then word ++ "es"
    else if Text.endsWith "y" word ∧ !Text.endsWith "ay" word ∧ !Text.endsWith "ey" word then
      String.ofList word.toList.dropLast ++ "ies"
    else word ++ "s"

/-- The plural under which the cluster serves a kind. -/
def resource (kind : ObjectKind) : String :=
  plural (Text.lowercase kind.kind)

end ObjectKind

/-- What every object starts with. -/
structure Header where
  apiVersion : String
  kind : String
  metadata : Meta
  deriving DecidableEq

namespace Header

/-- The header of an object of a kind. -/
def of (kind : ObjectKind) (metadata : Meta) : Header :=
  ⟨kind.apiVersion, kind.kind, metadata⟩

/-- The fields of a header as members. -/
def fields (header : Header) : List (String × Option Json) :=
  [("apiVersion", some (.str header.apiVersion)),
   ("kind", some (.str header.kind)),
   ("metadata", some header.metadata.toJson)]

/-- Reads the fields of a header; version and kind may be missing. -/
def read (kind : ObjectKind) : Fields.Reader Header := do
  let apiVersion ← Fields.orElse "apiVersion" kind.apiVersion Json.asText?
  let kind ← Fields.orElse "kind" kind.kind Json.asText?
  let metadata ← Fields.required "metadata" Meta.ofJson?
  return { apiVersion, kind, metadata }

end Header

end ComposeCluster

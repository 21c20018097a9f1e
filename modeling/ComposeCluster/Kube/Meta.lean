import ComposeCluster.Json.Record

/-!
# Metadata of cluster objects

The keys under which objects are labelled and annotated, the metadata that every object has, and
the header of an object: its version, its kind and its metadata. Metadata that is built here always
names the object and its manager in the labels (`Meta.clusterScoped`, `Meta.namespaced`).
-/

set_option autoImplicit false

namespace ComposeCluster

/-- Labels or annotations. -/
abbrev TextMap := SortedMap String String

-- The keys of labels and annotations. They are read back from live objects, so they never change.
namespace Key

/-- The name label. -/
def name : String := "app.kubernetes.io/name"

/-- The instance label. -/
def instanceName : String := "app.kubernetes.io/instance"

/-- The label for the manager of an object. -/
def managedBy : String := "app.kubernetes.io/managed-by"

/-- The manager of every object that is built here. -/
def manager : String := "kompox"

/-- The component label. -/
def component : String := "app.kubernetes.io/component"

/-- The label that selects pods. -/
def selector : String := "app"

/-- The label for the hash of an app on a cluster. -/
def appInstanceHash : String := "kompox.dev/app-instance-hash"

/-- The label for the hash of an app on any cluster. -/
def appIdHash : String := "kompox.dev/app-id-hash"

/-- The label that marks the headless service of a compose service. -/
def headless : String := "kompox.dev/compose-service-headless"

/-- The node label for the pool. -/
def nodePool : String := "kompox.dev/node-pool"

/-- The node label for the zone. -/
def nodeZone : String := "kompox.dev/node-zone"

/-- The annotation for the origin of a namespace. -/
def app : String := "kompox.dev/app"

/-- The annotation for the driver of the provider. -/
def providerDriver : String := "kompox.dev/provider-driver"

/-- The annotation for the digest of an object's content, and of all content that a pod uses. -/
def contentHash : String := "kompox.dev/compose-content-hash"

/-- The annotation for the digest of a service's environment files. -/
def secretHash : String := "kompox.dev/compose-secret-hash"

end Key

/-- The metadata of an object; one without a namespace belongs to the cluster. -/
structure Meta where
  name : String
  nameSpace? : Option String
  labels : TextMap
  annotations : TextMap
  deriving DecidableEq

namespace Meta

/-- The metadata of an object that belongs to the cluster. -/
def clusterScoped (name : String) : Meta where
  name
  nameSpace? := none
  labels := (SortedMap.singleton Key.name name).insert Key.managedBy Key.manager
  annotations := .empty

/-- The metadata of an object in a namespace. -/
def namespaced (name nameSpace : String) : Meta :=
  { clusterScoped name with nameSpace? := some nameSpace }

/-- Sets a label. -/
def withLabel (data : Meta) (key value : String) : Meta :=
  { data with labels := data.labels.insert key value }

/-- Sets labels, in place of those with the same keys. -/
def withLabels (data : Meta) (labels : TextMap) : Meta :=
  { data with labels := data.labels.union labels }

/-- Sets an annotation. -/
def annotate (data : Meta) (key value : String) : Meta :=
  { data with annotations := data.annotations.insert key value }

/-- The value of an annotation. -/
def annotation? (data : Meta) (key : String) : Option String :=
  data.annotations.get? key

def toJson (data : Meta) : Json :=
  .record
    [("name", some (.str data.name)),
     ("namespace", data.nameSpace?.map .str),
     ("labels", Json.mapUnlessEmpty data.labels),
     ("annotations", Json.mapUnlessEmpty data.annotations)]

def ofJson? : Json → Option Meta :=
  Json.readRecord? do
    let name ← Fields.text "name"
    let nameSpace? ← Fields.optional "namespace" Json.asText?
    let labels ← Fields.textMap "labels"
    let annotations ← Fields.textMap "annotations"
    return { name, nameSpace?, labels, annotations }

end Meta

/-- A requirement on the values of a label. -/
structure LabelRequirement where
  key : String
  operator : String
  values : List String
  deriving DecidableEq

namespace LabelRequirement

def toJson (requirement : LabelRequirement) : Json :=
  .record
    [("key", some (.str requirement.key)),
     ("operator", some (.str requirement.operator)),
     ("values", Json.listUnlessEmpty .str requirement.values)]

def ofJson? : Json → Option LabelRequirement :=
  Json.readRecord? do
    let key ← Fields.text "key"
    let operator ← Fields.text "operator"
    let values ← Fields.list "values" Json.asText?
    return { key, operator, values }

end LabelRequirement

/-- A selector of objects by their labels; the empty one selects all. -/
structure LabelSelector where
  matchLabels : TextMap
  matchExpressions : List LabelRequirement
  deriving DecidableEq

namespace LabelSelector

/-- Selects every object. -/
def everything : LabelSelector := ⟨.empty, []⟩

/-- Selects the objects that have all the labels. -/
def ofLabels (labels : TextMap) : LabelSelector := ⟨labels, []⟩

def toJson (selector : LabelSelector) : Json :=
  .record
    [("matchLabels", Json.mapUnlessEmpty selector.matchLabels),
     ("matchExpressions",
      Json.listUnlessEmpty LabelRequirement.toJson selector.matchExpressions)]

def ofJson? : Json → Option LabelSelector :=
  Json.readRecord? do
    let matchLabels ← Fields.textMap "matchLabels"
    let matchExpressions ← Fields.list "matchExpressions" LabelRequirement.ofJson?
    return { matchLabels, matchExpressions }

end LabelSelector

end ComposeCluster

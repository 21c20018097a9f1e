import ComposeCluster.Kube.Meta

/-!
# Objects read back from a cluster

Of a live object only a few fields matter here: its name, its annotations, and where a pod takes
its content from. The cluster leaves fields out or sets them to null as it likes; either way there
is nothing, which for names and lists means an empty one.
-/

set_option autoImplicit false

namespace ComposeCluster

namespace Json

/-- Reads an object of the cluster. -/
def readLive? {α : Type} (fields : Fields.Reader α) : Json → Option α
  | .obj members => (fields.run (.named members)).map (·.1)
  | _ => none

end Json

namespace Fields

/-- A text that is empty when it is missing or null. -/
def liveText (name : String) : Reader String :=
  return (← optional name Json.asText?).getD ""

/-- A list that is empty when it is missing or null. -/
def liveList {α : Type} (name : String) (read : Json → Option α) : Reader (List α) :=
  return (← optional name (Json.asList? read)).getD []

end Fields

/-- The metadata of a live object. -/
structure LiveMeta where
  name? : Option String
  annotations? : Option TextMap
  deriving DecidableEq

namespace LiveMeta

/-- Nothing is known. -/
def unknown : LiveMeta := ⟨none, none⟩

def ofJson? : Json → Option LiveMeta :=
  Json.readLive? do
    let name? ← Fields.optional "name" Json.asText?
    let annotations? ← Fields.optional "annotations" Json.asTextMap?
    return { name?, annotations? }

/-- Reads the metadata of an object. -/
def ofObject? : Json → Option LiveMeta :=
  Json.readLive? (return (← Fields.optional "metadata" LiveMeta.ofJson?).getD unknown)

end LiveMeta

/-- The names of the objects that an environment source refers to. -/
structure LiveEnvSource where
  secret? : Option String
  configMap? : Option String
  deriving DecidableEq

namespace LiveEnvSource

/-- Reads the name of an object. -/
def nameOfJson? : Json → Option String :=
  Json.readLive? (Fields.liveText "name")

def ofJson? : Json → Option LiveEnvSource :=
  Json.readLive? do
    let secret? ← Fields.optional "secretRef" nameOfJson?
    let configMap? ← Fields.optional "configMapRef" nameOfJson?
    return { secret?, configMap? }

end LiveEnvSource

/-- A live container. -/
structure LiveContainer where
  name : String
  envFrom : List LiveEnvSource
  deriving DecidableEq

namespace LiveContainer

def ofJson? : Json → Option LiveContainer :=
  Json.readLive? do
    let name ← Fields.liveText "name"
    let envFrom ← Fields.liveList "envFrom" LiveEnvSource.ofJson?
    return { name, envFrom }

end LiveContainer

/-- The names of the objects that a live volume refers to. -/
structure LiveVolume where
  secret? : Option String
  configMap? : Option String
  deriving DecidableEq

namespace LiveVolume

/-- Reads the name of a secret, which may be missing. -/
def secretOfJson? : Json → Option (Option String) :=
  Json.readLive? (Fields.optional "secretName" Json.asText?)

def ofJson? : Json → Option LiveVolume :=
  Json.readLive? do
    let secret? ← Fields.optional "secret" secretOfJson?
    let configMap? ← Fields.optional "configMap" LiveEnvSource.nameOfJson?
    return { secret? := secret?.join, configMap? }

end LiveVolume

/-- A live pod. -/
structure LivePod where
  pullSecrets : List String
  containers : List LiveContainer
  volumes : List LiveVolume
  deriving DecidableEq

namespace LivePod

/-- A pod without anything. -/
def empty : LivePod := ⟨[], [], []⟩

def ofJson? : Json → Option LivePod :=
  Json.readLive? do
    let pullSecrets ← Fields.liveList "imagePullSecrets" LiveEnvSource.nameOfJson?
    let containers ← Fields.liveList "containers" LiveContainer.ofJson?
    let volumes ← Fields.liveList "volumes" LiveVolume.ofJson?
    return { pullSecrets, containers, volumes }

end LivePod

/-- The pods that a live deployment creates. -/
structure LiveTemplate where
  metadata? : Option LiveMeta
  pod? : Option LivePod
  deriving DecidableEq

namespace LiveTemplate

def ofJson? : Json → Option LiveTemplate :=
  Json.readLive? do
    let metadata? ← Fields.optional "metadata" LiveMeta.ofJson?
    let pod? ← Fields.optional "spec" LivePod.ofJson?
    return { metadata?, pod? }

end LiveTemplate

/-- A live deployment. -/
structure LiveDeployment where
  name? : Option String
  template? : Option LiveTemplate
  deriving DecidableEq

namespace LiveDeployment

/-- Reads the description of a deployment. -/
def templateOfJson? : Json → Option (Option LiveTemplate) :=
  Json.readLive? (Fields.optional "template" LiveTemplate.ofJson?)

def ofJson? : Json → Option LiveDeployment :=
  Json.readLive? do
    let metadata ← Fields.optional "metadata" LiveMeta.ofJson?
    let template? ← Fields.optional "spec" templateOfJson?
    return { name? := metadata.bind (·.name?), template? := template?.join }

/-- The annotations of the template. -/
def annotations? (deployment : LiveDeployment) : Option TextMap :=
  (deployment.template?.bind (·.metadata?)).bind (·.annotations?)

/-- The pod of the template. -/
def pod (deployment : LiveDeployment) : LivePod :=
  (deployment.template?.bind (·.pod?)).getD .empty

end LiveDeployment

end ComposeCluster

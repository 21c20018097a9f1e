import ComposeCluster.Kube.Pod
import ComposeCluster.Kube.Resource

/-!
# Namespaces, deployments and services

The objects that run an app: the namespace that holds it, the deployment that keeps its pod
running, and the services that give the pod an address.
-/

set_option autoImplicit false

namespace ComposeCluster

/-- A namespace. -/
structure NameSpace extends Header where
  deriving DecidableEq

namespace NameSpace

def toJson (object : NameSpace) : Json :=
  .record object.fields

def ofJson? : Json → Option NameSpace :=
  Json.readRecord? (return { toHeader := ← Header.read .nameSpace })

end NameSpace

/-- The labels and annotations that a deployment gives its pods. -/
structure PodMeta where
  labels : TextMap
  annotations : TextMap
  deriving DecidableEq

namespace PodMeta

def toJson (data : PodMeta) : Json :=
  .record
    [("labels", some (.ofMap .str data.labels)),
     ("annotations", Json.mapUnlessEmpty data.annotations)]

def ofJson? : Json → Option PodMeta :=
  Json.readRecord? do
    let labels ← Fields.required "labels" Json.asTextMap?
    let annotations ← Fields.textMap "annotations"
    return { labels, annotations }

end PodMeta

/-- The pods that a deployment creates. -/
structure PodTemplate where
  metadata : PodMeta
  spec : PodSpec
  deriving DecidableEq

namespace PodTemplate

def toJson (template : PodTemplate) : Json :=
  .record [("metadata", some template.metadata.toJson), ("spec", some template.spec.toJson)]

def ofJson? : Json → Option PodTemplate :=
  Json.readRecord? do
    let metadata ← Fields.required "metadata" PodMeta.ofJson?
    let spec ← Fields.required "spec" PodSpec.ofJson?
    return { metadata, spec }

end PodTemplate

/-- What a deployment does: how many pods it keeps, and by which strategy it replaces them. -/
structure DeploymentSpec where
  replicas : UInt32
  strategy : String
  selector : LabelSelector
  template : PodTemplate
  deriving DecidableEq

namespace DeploymentSpec

/-- A strategy as JSON. -/
def strategyToJson (strategy : String) : Json :=
  .record [("type", some (.str strategy))]

/-- Reads a strategy. -/
def strategyOfJson? : Json → Option String :=
  Json.readRecord? (Fields.text "type")

def toJson (spec : DeploymentSpec) : Json :=
  .record
    [("replicas", some (.nat spec.replicas.toNat)),
     ("strategy", some (strategyToJson spec.strategy)),
     ("selector", some spec.selector.toJson),
     ("template", some spec.template.toJson)]

def ofJson? : Json → Option DeploymentSpec :=
  Json.readRecord? do
    let replicas ← Fields.required "replicas" Json.asUInt32?
    let strategy ← Fields.required "strategy" strategyOfJson?
    let selector ← Fields.required "selector" LabelSelector.ofJson?
    let template ← Fields.required "template" PodTemplate.ofJson?
    return { replicas, strategy, selector, template }

end DeploymentSpec

/-- A deployment. -/
structure Deployment extends Header where
  spec : DeploymentSpec
  deriving DecidableEq

namespace Deployment

/-- The digest of all content that the pods use, if it is recorded. -/
def contentHash? (object : Deployment) : Option String :=
  object.spec.template.metadata.annotations.get? Key.contentHash

def toJson (object : Deployment) : Json :=
  .record (object.fields ++ [("spec", some object.spec.toJson)])

def ofJson? : Json → Option Deployment :=
  Json.readRecord? do
    let toHeader ← Header.read .deployment
    let spec ← Fields.required "spec" DeploymentSpec.ofJson?
    return { toHeader, spec }

end Deployment

/-- A port of a service and the port of the pod behind it. -/
structure ServicePort where
  name : String
  port : Port
  targetPort : Port
  deriving DecidableEq

namespace ServicePort

def toJson (port : ServicePort) : Json :=
  .record
    [("name", some (.str port.name)),
     ("port", some (.port port.port)),
     ("targetPort", some (.port port.targetPort))]

def ofJson? : Json → Option ServicePort :=
  Json.readRecord? do
    let name ← Fields.text "name"
    let port ← Fields.required "port" Json.asPort?
    let targetPort ← Fields.required "targetPort" Json.asPort?
    return { name, port, targetPort }

end ServicePort

/-- Which pods a service reaches, and how; `clusterIp?` is set for services without an address of
their own. -/
structure ServiceSpec where
  clusterIp? : Option String
  selector : TextMap
  ports : List ServicePort
  deriving DecidableEq

namespace ServiceSpec

def toJson (spec : ServiceSpec) : Json :=
  .record
    [("clusterIP", spec.clusterIp?.map .str),
     ("selector", some (.ofMap .str spec.selector)),
     ("ports", Json.listUnlessEmpty ServicePort.toJson spec.ports)]

def ofJson? : Json → Option ServiceSpec :=
  Json.readRecord? do
    let clusterIp? ← Fields.optional "clusterIP" Json.asText?
    let selector ← Fields.required "selector" Json.asTextMap?
    let ports ← Fields.list "ports" ServicePort.ofJson?
    return { clusterIp?, selector, ports }

end ServiceSpec

/-- A service. -/
structure Service extends Header where
  spec : ServiceSpec
  deriving DecidableEq

namespace Service

def toJson (object : Service) : Json :=
  .record (object.fields ++ [("spec", some object.spec.toJson)])

def ofJson? : Json → Option Service :=
  Json.readRecord? do
    let toHeader ← Header.read .service
    let spec ← Fields.required "spec" ServiceSpec.ofJson?
    return { toHeader, spec }

end Service

end ComposeCluster

import ComposeCluster.Kube.Meta

/-!
# Pods

The containers of a pod, the volumes they mount, and the objects from which both take their
content: environment sources, projected files and claims. Only what this library sets is modelled.
-/

set_option autoImplicit false

namespace ComposeCluster

/-- A reference to an object that holds environment variables. -/
structure EnvSourceRef where
  name : String
  optional? : Option Bool
  deriving DecidableEq

namespace EnvSourceRef

def toJson (ref : EnvSourceRef) : Json :=
  .record [("name", some (.str ref.name)), ("optional", ref.optional?.map .bool)]

def ofJson? : Json → Option EnvSourceRef :=
  Json.readRecord? do
    let name ← Fields.text "name"
    let optional? ← Fields.optional "optional" Json.asBool?
    return { name, optional? }

end EnvSourceRef

/-- A source of environment variables. -/
structure EnvSource where
  configMap? : Option EnvSourceRef
  secret? : Option EnvSourceRef
  deriving DecidableEq

namespace EnvSource

/-- A secret that need not exist. -/
def optionalSecret (name : String) : EnvSource := ⟨none, some ⟨name, some true⟩⟩

def toJson (source : EnvSource) : Json :=
  .record
    [("configMapRef", source.configMap?.map EnvSourceRef.toJson),
     ("secretRef", source.secret?.map EnvSourceRef.toJson)]

def ofJson? : Json → Option EnvSource :=
  Json.readRecord? do
    let configMap? ← Fields.optional "configMapRef" EnvSourceRef.ofJson?
    let secret? ← Fields.optional "secretRef" EnvSourceRef.ofJson?
    return { configMap?, secret? }

end EnvSource

/-- An environment variable. -/
structure EnvVar where
  name : String
  value : String
  deriving DecidableEq

namespace EnvVar

def toJson (entry : EnvVar) : Json :=
  .record [("name", some (.str entry.name)), ("value", some (.str entry.value))]

def ofJson? : Json → Option EnvVar :=
  Json.readRecord? do
    let name ← Fields.text "name"
    let value ← Fields.text "value"
    return { name, value }

end EnvVar

/-- Amounts of processor time and memory. -/
structure Quantities where
  cpu? : Option String
  memory? : Option String
  deriving DecidableEq

namespace Quantities

/-- Whether no amount is given. -/
def isEmpty (quantities : Quantities) : Bool :=
  quantities.cpu?.isNone && quantities.memory?.isNone

def toJson (quantities : Quantities) : Json :=
  .record [("cpu", quantities.cpu?.map .str), ("memory", quantities.memory?.map .str)]

def ofJson? : Json → Option Quantities :=
  Json.readRecord? do
    let cpu? ← Fields.optional "cpu" Json.asText?
    let memory? ← Fields.optional "memory" Json.asText?
    return { cpu?, memory? }

end Quantities

/-- What a container asks for and what it may use. -/
structure Resources where
  requests? : Option Quantities
  limits? : Option Quantities
  deriving DecidableEq

namespace Resources

def toJson (resources : Resources) : Json :=
  .record
    [("requests", resources.requests?.map Quantities.toJson),
     ("limits", resources.limits?.map Quantities.toJson)]

def ofJson? : Json → Option Resources :=
  Json.readRecord? do
    let requests? ← Fields.optional "requests" Quantities.ofJson?
    let limits? ← Fields.optional "limits" Quantities.ofJson?
    return { requests?, limits? }

end Resources

/-- Where a container sees a volume. -/
structure VolumeMount where
  volume : String
  path : String
  subPath? : Option String
  readOnly? : Option Bool
  deriving DecidableEq

namespace VolumeMount

/-- Mounts a volume, or a directory of it. -/
def directory (volume path : String) (subPath? : Option String) : VolumeMount where
  volume
  path
  subPath?
  readOnly? := none

/-- Mounts a file of a volume for reading. -/
def file (volume path key : String) : VolumeMount where
  volume
  path
  subPath? := some key
  readOnly? := some true

def toJson (mount : VolumeMount) : Json :=
  .record
    [("name", some (.str mount.volume)),
     ("mountPath", some (.str mount.path)),
     ("subPath", mount.subPath?.map .str),
     ("readOnly", mount.readOnly?.map .bool)]

def ofJson? : Json → Option VolumeMount :=
  Json.readRecord? do
    let volume ← Fields.text "name"
    let path ← Fields.text "mountPath"
    let subPath? ← Fields.optional "subPath" Json.asText?
    let readOnly? ← Fields.optional "readOnly" Json.asBool?
    return { volume, path, subPath?, readOnly? }

end VolumeMount

/-- A container. `ports` are the ports it listens on. -/
structure Container where
  name : String
  image : String
  command? : Option (List String)
  args? : Option (List String)
  env : List EnvVar
  envFrom : List EnvSource
  ports : List Port
  resources? : Option Resources
  mounts : List VolumeMount
  deriving DecidableEq

namespace Container

/-- A container of which only the image is known. -/
def ofImage (name image : String) : Container where
  name
  image
  command? := none
  args? := none
  env := []
  envFrom := []
  ports := []
  resources? := none
  mounts := []

/-- A port as JSON. -/
def portToJson (port : Port) : Json :=
  .record [("containerPort", some (.port port))]

/-- Reads a port. -/
def portOfJson? : Json → Option Port :=
  Json.readRecord? (Fields.required "containerPort" Json.asPort?)

def toJson (container : Container) : Json :=
  .record
    [("name", some (.str container.name)),
     ("image", some (.str container.image)),
     ("command", container.command?.map Json.texts),
     ("args", container.args?.map Json.texts),
     ("env", Json.listUnlessEmpty EnvVar.toJson container.env),
     ("envFrom", Json.listUnlessEmpty EnvSource.toJson container.envFrom),
     ("ports", Json.listUnlessEmpty portToJson container.ports),
     ("resources", container.resources?.map Resources.toJson),
     ("volumeMounts", Json.listUnlessEmpty VolumeMount.toJson container.mounts)]

def ofJson? : Json → Option Container :=
  Json.readRecord? do
    let name ← Fields.text "name"
    let image ← Fields.text "image"
    let command? ← Fields.optional "command" (Json.asList? Json.asText?)
    let args? ← Fields.optional "args" (Json.asList? Json.asText?)
    let env ← Fields.list "env" EnvVar.ofJson?
    let envFrom ← Fields.list "envFrom" EnvSource.ofJson?
    let ports ← Fields.list "ports" portOfJson?
    let resources? ← Fields.optional "resources" Resources.ofJson?
    let mounts ← Fields.list "volumeMounts" VolumeMount.ofJson?
    return { name, image, command?, args?, env, envFrom, ports, resources?, mounts }

end Container

/-- An entry of a data object as a file of a volume. -/
structure ProjectedFile where
  key : String
  path : String
  mode? : Option Int32
  deriving DecidableEq

namespace ProjectedFile

def toJson (file : ProjectedFile) : Json :=
  .record
    [("key", some (.str file.key)),
     ("path", some (.str file.path)),
     ("mode", file.mode?.map fun mode => .int mode.toInt)]

def ofJson? : Json → Option ProjectedFile :=
  Json.readRecord? do
    let key ← Fields.text "key"
    let path ← Fields.text "path"
    let mode? ← Fields.optional "mode" Json.asInt32?
    return { key, path, mode? }

end ProjectedFile

/-- A data object whose entries become files of a volume. -/
structure DataSource where
  object : String
  files : List ProjectedFile
  deriving DecidableEq

namespace DataSource

/-- A source as JSON; `label` is the member that names the object. -/
def toJson (label : String) (source : DataSource) : Json :=
  .record
    [(label, some (.str source.object)),
     ("items", Json.listUnlessEmpty ProjectedFile.toJson source.files)]

def ofJson? (label : String) : Json → Option DataSource :=
  Json.readRecord? do
    let object ← Fields.text label
    let files ← Fields.list "items" ProjectedFile.ofJson?
    return { object, files }

end DataSource

/-- A volume of a pod: the files of a config map or a secret, or what a claim holds. -/
structure Volume where
  name : String
  configMap? : Option DataSource
  secret? : Option DataSource
  claim? : Option String
  deriving DecidableEq

namespace Volume

/-- One entry of a config map as a file. -/
def ofConfigMap (name object : String) (file : ProjectedFile) : Volume :=
  ⟨name, some ⟨object, [file]⟩, none, none⟩

/-- One entry of a secret as a file. -/
def ofSecret (name object : String) (file : ProjectedFile) : Volume :=
  ⟨name, none, some ⟨object, [file]⟩, none⟩

/-- What a claim holds. -/
def ofClaim (name claim : String) : Volume :=
  ⟨name, none, none, some claim⟩

/-- The use of a claim as JSON. -/
def claimToJson (claim : String) : Json :=
  .record [("claimName", some (.str claim))]

/-- Reads the use of a claim. -/
def claimOfJson? : Json → Option String :=
  Json.readRecord? (Fields.text "claimName")

def toJson (volume : Volume) : Json :=
  .record
    [("name", some (.str volume.name)),
     ("configMap", volume.configMap?.map (DataSource.toJson "name")),
     ("secret", volume.secret?.map (DataSource.toJson "secretName")),
     ("persistentVolumeClaim", volume.claim?.map claimToJson)]

def ofJson? : Json → Option Volume :=
  Json.readRecord? do
    let name ← Fields.text "name"
    let configMap? ← Fields.optional "configMap" (DataSource.ofJson? "name")
    let secret? ← Fields.optional "secret" (DataSource.ofJson? "secretName")
    let claim? ← Fields.optional "persistentVolumeClaim" claimOfJson?
    return { name, configMap?, secret?, claim? }

end Volume

/-- A pod. `pullSecrets` names the secrets with the credentials of its registries. -/
structure PodSpec where
  pullSecrets : List String
  initContainers : List Container
  containers : List Container
  volumes : List Volume
  nodeSelector : TextMap
  deriving DecidableEq

namespace PodSpec

/-- A reference to an object by its name as JSON. -/
def referenceToJson (name : String) : Json :=
  .record [("name", some (.str name))]

/-- Reads a reference to an object by its name. -/
def referenceOfJson? : Json → Option String :=
  Json.readRecord? (Fields.text "name")

def toJson (spec : PodSpec) : Json :=
  .record
    [("imagePullSecrets", Json.listUnlessEmpty referenceToJson spec.pullSecrets),
     ("initContainers", Json.listUnlessEmpty Container.toJson spec.initContainers),
     ("containers", some (.arr (spec.containers.map Container.toJson))),
     ("volumes", Json.listUnlessEmpty Volume.toJson spec.volumes),
     ("nodeSelector", Json.mapUnlessEmpty spec.nodeSelector)]

def ofJson? : Json → Option PodSpec :=
  Json.readRecord? do
    let pullSecrets ← Fields.list "imagePullSecrets" referenceOfJson?
    let initContainers ← Fields.list "initContainers" Container.ofJson?
    let containers ← Fields.required "containers" (Json.asList? Container.ofJson?)
    let volumes ← Fields.list "volumes" Volume.ofJson?
    let nodeSelector ← Fields.textMap "nodeSelector"
    return { pullSecrets, initContainers, containers, volumes, nodeSelector }

end PodSpec

end ComposeCluster

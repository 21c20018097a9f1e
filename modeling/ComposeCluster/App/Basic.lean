import ComposeCluster.Kube.Meta

/-!
# Apps

What an operator records about an app: its compose document and where the files of the document
are, the volumes it needs, how it is reached, where its pod may run, and who else may talk to it.
An app is only ever read.
-/

set_option autoImplicit false

namespace ComposeCluster

/-- A volume that an app needs, with its size in bytes. -/
structure AppVolume where
  name : String
  size : Int64
  deriving DecidableEq

namespace AppVolume

def toJson (volume : AppVolume) : Json :=
  .record [("name", some (.str volume.name)), ("size", some (.int volume.size.toInt))]

def ofJson? : Json → Option AppVolume :=
  Json.readRecord? do
    let name ← Fields.text "name"
    let size ← Fields.required "size" Json.asInt64?
    return { name, size }

end AppVolume

/-- A published port that is to be reached from outside, under hosts of its own. -/
structure AppRule where
  name : String
  port : Port
  hosts : List String
  deriving DecidableEq

namespace AppRule

def toJson (rule : AppRule) : Json :=
  .record
    [("name", some (.str rule.name)),
     ("port", some (.port rule.port)),
     ("hosts", some (.texts rule.hosts))]

def ofJson? : Json → Option AppRule :=
  Json.readRecord? do
    let name ← Fields.orElse "name" "" Json.asText?
    let port ← Fields.orElse "port" 0 Json.asPort?
    let hosts ← Fields.list "hosts" Json.asText?
    return { name, port, hosts }

end AppRule

/-- How an app is reached from outside. -/
structure AppIngress where
  certResolver? : Option String
  rules : List AppRule
  deriving DecidableEq

namespace AppIngress

/-- It is not reached. -/
def none : AppIngress := ⟨Option.none, []⟩

def toJson (ingress : AppIngress) : Json :=
  .record
    [("certResolver", some (Json.orNull .str ingress.certResolver?)),
     ("rules", some (.arr (ingress.rules.map AppRule.toJson)))]

def ofJson? : Json → Option AppIngress :=
  Json.readRecord? do
    let certResolver? ← Fields.optional "certResolver" Json.asText?
    let rules ← Fields.list "rules" AppRule.ofJson?
    return { certResolver?, rules }

end AppIngress

/-- Where the pod of an app may run. -/
structure AppNodes where
  pool? : Option String
  zone? : Option String
  deriving DecidableEq

namespace AppNodes

/-- It may run anywhere. -/
def any : AppNodes := ⟨none, none⟩

def toJson (nodes : AppNodes) : Json :=
  .record
    [("pool", some (Json.orNull .str nodes.pool?)),
     ("zone", some (Json.orNull .str nodes.zone?))]

def ofJson? : Json → Option AppNodes :=
  Json.readRecord? do
    let pool? ← Fields.optional "pool" Json.asText?
    let zone? ← Fields.optional "zone" Json.asText?
    return { pool?, zone? }

end AppNodes

/-- Namespaces that may reach an app. -/
structure AppPeer where
  nameSpaces? : Option LabelSelector
  deriving DecidableEq

namespace AppPeer

def toJson (peer : AppPeer) : Json :=
  .record [("namespaceSelector", some (Json.orNull LabelSelector.toJson peer.nameSpaces?))]

def ofJson? : Json → Option AppPeer :=
  Json.readRecord? (return ⟨← Fields.optional "namespaceSelector" LabelSelector.ofJson?⟩)

end AppPeer

/-- A port of an app that its peers may reach. -/
structure AppPeerPort where
  protocol : String
  port : Port
  deriving DecidableEq

namespace AppPeerPort

def toJson (port : AppPeerPort) : Json :=
  .record [("protocol", some (.str port.protocol)), ("port", some (.port port.port))]

def ofJson? : Json → Option AppPeerPort :=
  Json.readRecord? do
    let protocol ← Fields.orElse "protocol" "" Json.asText?
    let port ← Fields.orElse "port" 0 Json.asPort?
    return { protocol, port }

end AppPeerPort

/-- Peers that may reach ports of an app. -/
structure AppAdmission where
  peers : List AppPeer
  ports : List AppPeerPort
  deriving DecidableEq

namespace AppAdmission

def toJson (admission : AppAdmission) : Json :=
  .record
    [("from", some (.arr (admission.peers.map AppPeer.toJson))),
     ("ports", some (.arr (admission.ports.map AppPeerPort.toJson)))]

def ofJson? : Json → Option AppAdmission :=
  Json.readRecord? do
    let peers ← Fields.list "from" AppPeer.ofJson?
    let ports ← Fields.list "ports" AppPeerPort.ofJson?
    return { peers, ports }

end AppAdmission

/-- An app; `compose` is the text of its document. -/
structure App where
  name : String
  compose : String
  baseDir? : Option String
  volumes : List AppVolume
  ingress : AppIngress
  nodes : AppNodes
  admissions : List AppAdmission
  deriving DecidableEq

namespace App

/-- An app of which nothing is known. -/
def unknown : App where
  name := ""
  compose := ""
  baseDir? := none
  volumes := []
  ingress := .none
  nodes := .any
  admissions := []

/-- The directory below which the files of the compose document are. -/
def baseDir (app : App) : String := app.baseDir?.getD "."

/-- The first volume with a name. -/
def volume? (app : App) (name : String) : Option AppVolume :=
  app.volumes.find? (·.name == name)

/-- Admissions as JSON. -/
def admissionsToJson (admissions : List AppAdmission) : Json :=
  .record [("ingressRules", some (.arr (admissions.map AppAdmission.toJson)))]

/-- Reads admissions. -/
def admissionsOfJson? : Json → Option (List AppAdmission) :=
  Json.readRecord? (Fields.list "ingressRules" AppAdmission.ofJson?)

def toJson (app : App) : Json :=
  .record
    [("name", some (.str app.name)),
     ("compose", some (.str app.compose)),
     ("baseDir", some (Json.orNull .str app.baseDir?)),
     ("volumes", some (.arr (app.volumes.map AppVolume.toJson))),
     ("ingress", some app.ingress.toJson),
     ("deployment", some app.nodes.toJson),
     ("networkPolicy", some (admissionsToJson app.admissions))]

def ofJson? : Json → Option App :=
  Json.readRecord? do
    let name ← Fields.orElse "name" "" Json.asText?
    let compose ← Fields.orElse "compose" "" Json.asText?
    let baseDir? ← Fields.optional "baseDir" Json.asText?
    let volumes ← Fields.list "volumes" AppVolume.ofJson?
    let ingress ← Fields.orElse "ingress" .none AppIngress.ofJson?
    let nodes ← Fields.orElse "deployment" .any AppNodes.ofJson?
    let admissions ← Fields.orElse "networkPolicy" [] admissionsOfJson?
    return { name, compose, baseDir?, volumes, ingress, nodes, admissions }

end App

end ComposeCluster

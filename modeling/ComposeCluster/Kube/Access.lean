import ComposeCluster.Kube.Resource

/-!
# Network policies and access rights

A network policy says who may reach the pods of a namespace. A service account, a role and the
binding between them say what an operator may do there.
-/

set_option autoImplicit false

namespace ComposeCluster

/-- A port that a policy allows. -/
structure PolicyPort where
  protocol : String
  port : Port
  deriving DecidableEq

namespace PolicyPort

def toJson (port : PolicyPort) : Json :=
  .record [("protocol", some (.str port.protocol)), ("port", some (.port port.port))]

def ofJson? : Json → Option PolicyPort :=
  Json.readRecord? do
    let protocol ← Fields.text "protocol"
    let port ← Fields.required "port" Json.asPort?
    return { protocol, port }

end PolicyPort

/-- Pods that a policy admits, by their labels or by the labels of their namespace. -/
structure PolicyPeer where
  pods? : Option LabelSelector
  nameSpaces? : Option LabelSelector
  deriving DecidableEq

namespace PolicyPeer

def toJson (peer : PolicyPeer) : Json :=
  .record
    [("podSelector", peer.pods?.map LabelSelector.toJson),
     ("namespaceSelector", peer.nameSpaces?.map LabelSelector.toJson)]

def ofJson? : Json → Option PolicyPeer :=
  Json.readRecord? do
    let pods? ← Fields.optional "podSelector" LabelSelector.ofJson?
    let nameSpaces? ← Fields.optional "namespaceSelector" LabelSelector.ofJson?
    return { pods?, nameSpaces? }

end PolicyPeer

/-- Peers that are admitted to ports; without ports, to all of them. -/
structure PolicyIngress where
  peers : List PolicyPeer
  ports : List PolicyPort
  deriving DecidableEq

namespace PolicyIngress

def toJson (ingress : PolicyIngress) : Json :=
  .record
    [("from", Json.listUnlessEmpty PolicyPeer.toJson ingress.peers),
     ("ports", Json.listUnlessEmpty PolicyPort.toJson ingress.ports)]

def ofJson? : Json → Option PolicyIngress :=
  Json.readRecord? do
    let peers ← Fields.list "from" PolicyPeer.ofJson?
    let ports ← Fields.list "ports" PolicyPort.ofJson?
    return { peers, ports }

end PolicyIngress

/-- The pods that a policy protects, and whom it admits. -/
structure NetworkPolicySpec where
  pods : LabelSelector
  policyTypes : List String
  ingress : List PolicyIngress
  deriving DecidableEq

namespace NetworkPolicySpec

def toJson (spec : NetworkPolicySpec) : Json :=
  .record
    [("podSelector", some spec.pods.toJson),
     ("policyTypes", some (.texts spec.policyTypes)),
     ("ingress", some (.arr (spec.ingress.map PolicyIngress.toJson)))]

def ofJson? : Json → Option NetworkPolicySpec :=
  Json.readRecord? do
    let pods ← Fields.required "podSelector" LabelSelector.ofJson?
    let policyTypes ← Fields.required "policyTypes" (Json.asList? Json.asText?)
    let ingress ← Fields.required "ingress" (Json.asList? PolicyIngress.ofJson?)
    return { pods, policyTypes, ingress }

end NetworkPolicySpec

/-- A network policy. -/
structure NetworkPolicy extends Header where
  spec : NetworkPolicySpec
  deriving DecidableEq

namespace NetworkPolicy

def toJson (object : NetworkPolicy) : Json :=
  .record (object.fields ++ [("spec", some object.spec.toJson)])

def ofJson? : Json → Option NetworkPolicy :=
  Json.readRecord? do
    let toHeader ← Header.read .networkPolicy
    let spec ← Fields.required "spec" NetworkPolicySpec.ofJson?
    return { toHeader, spec }

end NetworkPolicy

/-- A service account. -/
structure ServiceAccount extends Header where
  deriving DecidableEq

namespace ServiceAccount

def toJson (object : ServiceAccount) : Json :=
  .record object.fields

def ofJson? : Json → Option ServiceAccount :=
  Json.readRecord? (return { toHeader := ← Header.read .serviceAccount })

end ServiceAccount

/-- What a role permits: verbs on resources of groups. -/
structure AccessRule where
  groups : List String
  resources : List String
  verbs : List String
  deriving DecidableEq

namespace AccessRule

def toJson (rule : AccessRule) : Json :=
  .record
    [("apiGroups", some (.texts rule.groups)),
     ("resources", some (.texts rule.resources)),
     ("verbs", some (.texts rule.verbs))]

def ofJson? : Json → Option AccessRule :=
  Json.readRecord? do
    let groups ← Fields.required "apiGroups" (Json.asList? Json.asText?)
    let resources ← Fields.required "resources" (Json.asList? Json.asText?)
    let verbs ← Fields.required "verbs" (Json.asList? Json.asText?)
    return { groups, resources, verbs }

end AccessRule

/-- A role. -/
structure Role extends Header where
  rules : List AccessRule
  deriving DecidableEq

namespace Role

def toJson (object : Role) : Json :=
  .record (object.fields ++ [("rules", some (.arr (object.rules.map AccessRule.toJson)))])

def ofJson? : Json → Option Role :=
  Json.readRecord? do
    let toHeader ← Header.read .role
    let rules ← Fields.required "rules" (Json.asList? AccessRule.ofJson?)
    return { toHeader, rules }

end Role

/-- Who is given a role. -/
structure Subject where
  kind : String
  name : String
  nameSpace : String
  deriving DecidableEq

namespace Subject

def toJson (subject : Subject) : Json :=
  .record
    [("kind", some (.str subject.kind)),
     ("name", some (.str subject.name)),
     ("namespace", some (.str subject.nameSpace))]

def ofJson? : Json → Option Subject :=
  Json.readRecord? do
    let kind ← Fields.text "kind"
    let name ← Fields.text "name"
    let nameSpace ← Fields.text "namespace"
    return { kind, name, nameSpace }

end Subject

/-- The role that is given. -/
structure RoleRef where
  group : String
  kind : String
  name : String
  deriving DecidableEq

namespace RoleRef

def toJson (ref : RoleRef) : Json :=
  .record
    [("apiGroup", some (.str ref.group)),
     ("kind", some (.str ref.kind)),
     ("name", some (.str ref.name))]

def ofJson? : Json → Option RoleRef :=
  Json.readRecord? do
    let group ← Fields.text "apiGroup"
    let kind ← Fields.text "kind"
    let name ← Fields.text "name"
    return { group, kind, name }

end RoleRef

/-- A binding of a role to subjects. -/
structure RoleBinding extends Header where
  subjects : List Subject
  role : RoleRef
  deriving DecidableEq

namespace RoleBinding

def toJson (object : RoleBinding) : Json :=
  .record <| object.fields ++
    [("subjects", some (.arr (object.subjects.map Subject.toJson))),
     ("roleRef", some object.role.toJson)]

def ofJson? : Json → Option RoleBinding :=
  Json.readRecord? do
    let toHeader ← Header.read .roleBinding
    let subjects ← Fields.required "subjects" (Json.asList? Subject.ofJson?)
    let role ← Fields.required "roleRef" RoleRef.ofJson?
    return { toHeader, subjects, role }

end RoleBinding

end ComposeCluster

import ComposeCluster.App.Basic
import ComposeCluster.App.Cluster
import ComposeCluster.Kube.Access
import ComposeCluster.Text.Blank

/-!
# Who may reach an app, and what operators may do

The network policy of an app admits its own namespace, the namespaces of the cluster and of the
ingress controller, and whomever the app admits besides. A role lets operators look at the pods of
the app, run commands in them and forward ports to them, and is bound to the account of the app.
-/

set_option autoImplicit false

namespace ComposeCluster

/-- The namespace of the cluster itself. -/
def systemNameSpace : String := "kube-system"

/-- The label under which every namespace has its own name. -/
def Key.nameSpaceName : String := "kubernetes.io/metadata.name"

/-- What the policies of an app have in common. The labels are those of the whole app. -/
structure PolicySetting where
  app : String
  nameSpace : String
  ingressNameSpace : String
  labels : TextMap
  deriving DecidableEq

/-- The policy of an app, and the account, the role and the binding for its operators. -/
structure AppPolicies where
  network : NetworkPolicy
  account : ServiceAccount
  role : Role
  binding : RoleBinding
  deriving DecidableEq

namespace AppPolicies

/-- The metadata of an object. -/
def metadata (scope : PolicySetting) (name : String) : Meta :=
  (Meta.namespaced name scope.nameSpace).withLabels scope.labels

/-- The namespaces that every app admits, each once. -/
def admittedNameSpaces (scope : PolicySetting) : List String :=
  let ingress := Text.trim scope.ingressNameSpace
  if ingress.isEmpty ∨ ingress = systemNameSpace then [systemNameSpace]
  else [systemNameSpace, ingress]

/-- Selects namespaces by their names. -/
def nameSpacesNamed (names : List String) : LabelSelector :=
  ⟨.empty, [⟨Key.nameSpaceName, "In", names⟩]⟩

/-- What every app admits: the pods of its own namespace, and all pods of some others. -/
def commonAdmission (scope : PolicySetting) : PolicyIngress where
  peers :=
    [⟨some .everything, none⟩, ⟨none, some (nameSpacesNamed (admittedNameSpaces scope))⟩]
  ports := []

/-- The protocol of a port of which only the number is known. -/
def defaultProtocol : String := "TCP"

/-- A port that an app admits peers to. -/
def portOf (port : AppPeerPort) : PolicyPort :=
  ⟨(nonBlank? (some port.protocol)).getD defaultProtocol, port.port⟩

/-- What an app admits besides. -/
def admissionOf (admission : AppAdmission) : PolicyIngress where
  peers := admission.peers.map fun peer => ⟨none, peer.nameSpaces?⟩
  ports := admission.ports.map portOf

/-- The network policy. -/
def networkPolicy (scope : PolicySetting) (admissions : List AppAdmission) : NetworkPolicy where
  toHeader := .of .networkPolicy (metadata scope scope.app)
  spec :=
    { pods := .everything
      policyTypes := ["Ingress"]
      ingress := commonAdmission scope :: admissions.map admissionOf }

/-- The account. -/
def serviceAccount (scope : PolicySetting) : ServiceAccount where
  toHeader := .of .serviceAccount (metadata scope scope.app)

/-- The name of the role and of its binding. -/
def roleName (scope : PolicySetting) : String := scope.app ++ "-access"

/-- What operators may do. -/
def operatorRules : List AccessRule :=
  [⟨[""], ["pods"], ["get", "list", "watch"]⟩,
   ⟨[""], ["pods/log"], ["get", "watch"]⟩,
   ⟨[""], ["pods/exec", "pods/portforward", "pods/attach"], ["create"]⟩,
   ⟨[""], ["events", "services", "endpoints"], ["get", "list", "watch"]⟩,
   ⟨["apps"], ["deployments", "replicasets"], ["get", "list", "watch"]⟩,
   ⟨[""], ["pods/ephemeralcontainers"], ["update"]⟩]

/-- The role. -/
def accessRole (scope : PolicySetting) : Role where
  toHeader := .of .role (metadata scope (roleName scope))
  rules := operatorRules

/-- The binding of the role to the account. -/
def roleBinding (scope : PolicySetting) : RoleBinding where
  toHeader := .of .roleBinding (metadata scope (roleName scope))
  subjects := [⟨ObjectKind.serviceAccount.kind, scope.app, scope.nameSpace⟩]
  role := ⟨ObjectKind.role.groupAndVersion.1, ObjectKind.role.kind, roleName scope⟩

/-- The policies of an app that admits others besides. -/
def of (scope : PolicySetting) (admissions : List AppAdmission) : AppPolicies where
  network := networkPolicy scope admissions
  account := serviceAccount scope
  role := accessRole scope
  binding := roleBinding scope

end AppPolicies

end ComposeCluster

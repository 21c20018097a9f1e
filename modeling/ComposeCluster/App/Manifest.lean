import ComposeCluster.App.Ingresses
import ComposeCluster.App.Policies
import ComposeCluster.App.Workload
import ComposeCluster.Yaml.Printer

/-!
# All objects of an app

`ManifestSet.objects` lists the objects of an app in the order in which they are to be created:
the namespace before what lives in it, volumes before their claims, claims and content before the
deployment that mounts them, and the service before the ingresses that lead to it.
-/

set_option autoImplicit false

namespace ComposeCluster

/-- An object of any of the twelve kinds. -/
inductive Manifest where
  | nameSpace (object : NameSpace)
  | serviceAccount (object : ServiceAccount)
  | role (object : Role)
  | roleBinding (object : RoleBinding)
  | networkPolicy (object : NetworkPolicy)
  | persistentVolume (object : PersistentVolume)
  | persistentVolumeClaim (object : PersistentVolumeClaim)
  | secret (object : Secret)
  | configMap (object : ConfigMap)
  | deployment (object : Deployment)
  | service (object : Service)
  | ingress (object : Ingress)
  deriving DecidableEq

namespace Manifest

/-- The header of an object. -/
def header : Manifest → Header
  | .nameSpace object => object.toHeader
  | .serviceAccount object => object.toHeader
  | .role object => object.toHeader
  | .roleBinding object => object.toHeader
  | .networkPolicy object => object.toHeader
  | .persistentVolume object => object.toHeader
  | .persistentVolumeClaim object => object.toHeader
  | .secret object => object.toHeader
  | .configMap object => object.toHeader
  | .deployment object => object.toHeader
  | .service object => object.toHeader
  | .ingress object => object.toHeader

/-- The kind through which the cluster addresses an object. -/
def objectKind : Manifest → ObjectKind
  | .nameSpace _ => .nameSpace
  | .serviceAccount _ => .serviceAccount
  | .role _ => .role
  | .roleBinding _ => .roleBinding
  | .networkPolicy _ => .networkPolicy
  | .persistentVolume _ => .persistentVolume
  | .persistentVolumeClaim _ => .persistentVolumeClaim
  | .secret _ => .secret
  | .configMap _ => .configMap
  | .deployment _ => .deployment
  | .service _ => .service
  | .ingress _ => .ingress

/-- The kind that an object names itself. -/
def kind (manifest : Manifest) : String := manifest.header.kind

/-- The name of an object. -/
def name (manifest : Manifest) : String := manifest.header.metadata.name

/-- The namespace of an object; none if it belongs to the cluster. -/
def nameSpace? (manifest : Manifest) : Option String := manifest.header.metadata.nameSpace?

def toJson : Manifest → Json
  | .nameSpace object => object.toJson
  | .serviceAccount object => object.toJson
  | .role object => object.toJson
  | .roleBinding object => object.toJson
  | .networkPolicy object => object.toJson
  | .persistentVolume object => object.toJson
  | .persistentVolumeClaim object => object.toJson
  | .secret object => object.toJson
  | .configMap object => object.toJson
  | .deployment object => object.toJson
  | .service object => object.toJson
  | .ingress object => object.toJson

end Manifest

/-- All objects of an app. -/
structure ManifestSet where
  nameSpace : NameSpace
  policies? : Option AppPolicies
  bound : List BoundVolume
  content : Content.Objects
  deployment : Deployment
  service? : Option Service
  headlessServices : List Service
  ingresses : AppIngresses
  deriving DecidableEq

namespace ManifestSet

/-- The policies in the order in which they are to be created. -/
def policyObjects (policies : AppPolicies) : List Manifest :=
  [.serviceAccount policies.account, .role policies.role, .roleBinding policies.binding,
   .networkPolicy policies.network]

/-- The content objects in the order in which they are to be created. -/
def contentObjects (content : Content.Objects) : List Manifest :=
  content.pullSecret?.toList.map .secret ++ content.configMaps.map .configMap ++
    content.configSecrets.map .secret ++ content.envSecrets.map .secret

/-- The objects in the order in which they are to be created. -/
def objects (manifests : ManifestSet) : List Manifest :=
  [.nameSpace manifests.nameSpace] ++
    manifests.policies?.toList.flatMap policyObjects ++
    manifests.bound.map (fun bound => .persistentVolume bound.volume) ++
    manifests.bound.map (fun bound => .persistentVolumeClaim bound.claim) ++
    contentObjects manifests.content ++
    [.deployment manifests.deployment] ++
    manifests.service?.toList.map .service ++
    manifests.headlessServices.map .service ++
    manifests.ingresses.toList.map .ingress

/-- The number of objects of a kind. -/
def count (manifests : ManifestSet) (kind : String) : Nat :=
  manifests.objects.countP (·.kind == kind)

/-- The objects as a YAML stream, one document for each. -/
def yaml (manifests : ManifestSet) : String :=
  Yaml.render (manifests.objects.map Manifest.toJson)

end ManifestSet

end ComposeCluster

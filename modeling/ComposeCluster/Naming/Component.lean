import ComposeCluster.Kube.Meta
import ComposeCluster.Naming.Identity

/-!
# A component of an app

Everything that is generated for an app belongs to one component, and its names start with the
names of the two. The labels tell which app an object is of (`Component.baseLabels`), which
component (`Component.labels`), and which pods belong to it (`Component.selector`).
-/

set_option autoImplicit false

namespace ComposeCluster

/-- A component of an app, by the names of both. -/
structure Component where
  app : String
  name : String
  deriving DecidableEq

namespace Component

/-- The name of the deployment and the service, and what other names start with. -/
def resource (c : Component) : String := c.app ++ "-" ++ c.name

/-- The secret with the merged environment files of a service. -/
def envSecret (c : Component) (service : String) : String :=
  c.resource ++ "-" ++ service ++ "-base"

/-- The secret in which an administrator may override the environment of a service. -/
def envOverrideSecret (c : Component) (service : String) : String :=
  c.resource ++ "-" ++ service ++ "-override"

/-- The secret with the credentials of registries. -/
def pullSecret (c : Component) : String := c.resource ++ "--pull"

/-- The config map for a config. -/
def configMap (c : Component) (config : String) : String :=
  c.resource ++ "--cfg-" ++ config

/-- The secret for a secret of the compose document. -/
def configSecret (c : Component) (secret : String) : String :=
  c.resource ++ "--sec-" ++ secret

/-- The volume of the pod for a config. -/
def configVolume (config : String) : String := "cfg-" ++ config

/-- The volume of the pod for a secret. -/
def secretVolume (secret : String) : String := "sec-" ++ secret

/-- The labels of every object of the app. -/
def baseLabels (c : Component) (id : Identity) : TextMap :=
  .ofList
    [(Key.name, c.app),
     (Key.instanceName, c.app ++ "-" ++ id.appInstance),
     (Key.managedBy, Key.manager),
     (Key.appInstanceHash, id.appInstance),
     (Key.appIdHash, id.appId)]

/-- The labels by which the pods of the component are found. -/
def selector (c : Component) : TextMap :=
  .singleton Key.selector c.resource

/-- The labels of the objects of the component. -/
def labels (c : Component) (id : Identity) : TextMap :=
  ((c.baseLabels id).union c.selector).insert Key.component c.name

/-- The labels of services that give a compose service a name. -/
def headlessLabels (c : Component) (id : Identity) : TextMap :=
  (c.labels id).insert Key.headless "true"

end Component

end ComposeCluster

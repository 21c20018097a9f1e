import ComposeCluster.Content.Objects
import ComposeCluster.Content.Reference
import ComposeCluster.Storage.Binding
import ComposeCluster.Storage.Preparation

/-!
# The pod of an app

All services of an app run in one pod. It mounts the claims of the bound volumes and the files of
the content objects, and goes with the hash of all content it refers to.
-/

set_option autoImplicit false

namespace ComposeCluster

/-- A pod and the hash of the content it refers to, if it refers to any. -/
structure HashedPod where
  spec : PodSpec
  hash? : Option String
  deriving DecidableEq

namespace HashedPod

/-- Where the pod of an app runs, and what prepares its volumes. -/
structure Setting where
  initImage : String
  nodeSelector : TextMap
  deriving DecidableEq

/-- The description of the pod. -/
def specOf (normal : Compose.Normal) (objects : Content.Objects) (bound : List BoundVolume)
    (setting : Setting) : PodSpec where
  pullSecrets := objects.pullSecret?.toList.map fun secret => secret.metadata.name
  initContainers := (normal.subPaths.initContainer? setting.initImage).toList
  containers := normal.containers
  volumes := bound.map BoundVolume.podVolume ++ objects.volumes
  nodeSelector := setting.nodeSelector

/-- The pod of a project with its content objects and its bound volumes. -/
def of (normal : Compose.Normal) (objects : Content.Objects) (bound : List BoundVolume)
    (setting : Setting) : HashedPod :=
  let spec := specOf normal objects bound setting
  ⟨spec, Content.podHash? spec objects.secrets objects.configMaps⟩

end HashedPod

end ComposeCluster

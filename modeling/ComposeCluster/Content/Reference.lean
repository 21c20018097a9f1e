import ComposeCluster.Content.Digest
import ComposeCluster.Kube.Data
import ComposeCluster.Kube.Live
import ComposeCluster.Kube.Pod

/-!
# What a pod takes its content from

A pod refers to secrets and config maps by name: for its images, for the environment of its
containers and for its volumes. The digests of all of them, in one order, make up the hash of the
pod (`Refs.hashInput`), so it changes when the content of any of them does. The order is that of
the names of containers and not of the containers themselves.
-/

set_option autoImplicit false

namespace ComposeCluster.Content

/-- The names that a pod refers to, by where it does: for its images, for each of its containers
by the container's name, and for its volumes. -/
structure Refs where
  pullSecrets : List String
  containers : List (String × List String)
  volumes : List String
  deriving DecidableEq

namespace Refs

/-- The names in an environment source. -/
def envNames (secret? configMap? : Option String) : List String :=
  secret?.toList ++ configMap?.toList

/-- The references of a pod. -/
def ofSpec (spec : PodSpec) : Refs where
  pullSecrets := spec.pullSecrets
  containers := spec.containers.map fun container =>
    (container.name, container.envFrom.flatMap fun source =>
      envNames (source.secret?.map (·.name)) (source.configMap?.map (·.name)))
  volumes := spec.volumes.flatMap fun volume =>
    envNames (volume.secret?.map (·.object)) (volume.configMap?.map (·.object))

/-- The references of a live pod. -/
def ofLive (pod : LivePod) : Refs where
  pullSecrets := pod.pullSecrets
  containers := pod.containers.map fun container =>
    (container.name, container.envFrom.flatMap fun source =>
      envNames source.secret? source.configMap?)
  volumes := pod.volumes.flatMap fun volume => envNames volume.secret? volume.configMap?

/-- The names of all references in the order of the hash: images, containers by ascending name,
volumes. Empty names refer to nothing. -/
def names (refs : Refs) : List String :=
  let containers := refs.containers.mergeSort fun a b => (compare a.1 b.1).isLE
  (refs.pullSecrets ++ containers.flatMap (·.2) ++ refs.volumes).filter fun name => !name.isEmpty

/-- What the hash is taken of: the digest of each named object, nothing for one without. -/
def hashInput (names : List String) (digests : TextMap) : String :=
  String.join (names.map fun name => (digests.get? name).getD "")

/-- The hash of all content behind names; none if there are no names. -/
def hash? (names : List String) (digests : TextMap) : Option String :=
  if names.isEmpty then none else some (shortHash (hashInput names digests) digestLength)

end Refs

/-- A name and the digest that is recorded with it. -/
abbrev DigestEntry := String × String

/-- The digest entry of a secret, if it has one. -/
def secretEntry? (object : Secret) : Option DigestEntry :=
  object.contentHash?.map (object.metadata.name, ·)

/-- The digest entry of a config map, if it has one. -/
def configMapEntry? (object : ConfigMap) : Option DigestEntry :=
  object.contentHash?.map (object.metadata.name, ·)

/-- The digest entry of a live object, if it has a name and one. -/
def liveEntry? (data : LiveMeta) : Option DigestEntry := do
  let name ← data.name?.filter fun name => !name.isEmpty
  let annotations ← data.annotations?
  return (name, ← annotations.get? Key.contentHash)

/-- The digests by name; of a secret and a config map with one name, that of the config map. -/
def index (secrets configMaps : List DigestEntry) : TextMap :=
  .ofList (secrets ++ configMaps)

/-- The digests of generated objects. -/
def indexObjects (secrets : List Secret) (configMaps : List ConfigMap) : TextMap :=
  index (secrets.filterMap secretEntry?) (configMaps.filterMap configMapEntry?)

/-- The digests of live objects. -/
def indexLive (secrets configMaps : List LiveMeta) : TextMap :=
  index (secrets.filterMap liveEntry?) (configMaps.filterMap liveEntry?)

/-- The hash of a pod. -/
def podHash? (spec : PodSpec) (secrets : List Secret) (configMaps : List ConfigMap) :
    Option String :=
  Refs.hash? (Refs.ofSpec spec).names (indexObjects secrets configMaps)

end ComposeCluster.Content

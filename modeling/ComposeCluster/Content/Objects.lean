import ComposeCluster.Compose.Normal
import ComposeCluster.Content.Digest
import ComposeCluster.Json.Parser
import ComposeCluster.Kube.Data

/-!
# The objects that a pod takes its content from

One secret for the environment files of each service, one config map for each config, one secret
for each secret of the compose document, and one for the credentials of registries. Each object
is annotated with the digest of its own data, so that the hash of a pod can be taken from the
names of objects and their annotations alone.
-/

set_option autoImplicit false

namespace ComposeCluster.Content

/-- What the objects of a component have in common. -/
structure Scope where
  component : Component
  nameSpace : String
  labels : TextMap
  deriving DecidableEq

namespace Scope

/-- The metadata of an object with the digest of its data. -/
def metadata (scope : Scope) (name digest : String) : Meta :=
  ((Meta.namespaced name scope.nameSpace).withLabels scope.labels).annotate
    Key.contentHash digest

/-- The config map for a config. -/
def configMap (scope : Scope) (config : Compose.ConfigText) : ConfigMap where
  toHeader :=
    .of .configMap
      (scope.metadata (scope.component.configMap config.name)
        (textDigest [(config.key, config.text)]))
  data := .singleton config.key config.text

/-- A secret of a type with entries. -/
def secret (scope : Scope) (name type : String) (entries : List (String × Bytes)) :
    Secret where
  toHeader := .of .secret (scope.metadata name (digest entries))
  data := .ofList (entries.map fun entry => (entry.1, Base64.encode entry.2))
  type? := some type

/-- The secret for a secret of the compose document. -/
def configSecret (scope : Scope) (content : Compose.SecretContent) : Secret :=
  scope.secret (scope.component.configSecret content.name) Secret.opaqueType
    [(content.key, content.bytes)]

/-- The entries of the environment of a service. -/
def envEntries (env : Compose.EnvData) : List (String × Bytes) :=
  env.data.entries.map fun entry => (entry.1, Text.utf8 entry.2)

/-- The secret for the environment files of a service. It carries its digest twice: the second
annotation is for operators. -/
def envSecret (scope : Scope) (env : Compose.EnvData) : Secret :=
  let plain := scope.secret (scope.component.envSecret env.service) Secret.opaqueType
    (envEntries env)
  { plain with
    metadata := plain.metadata.annotate Key.secretHash (digest (envEntries env)) }

/-- The key of the credentials in their secret. -/
def credentialsKey : String := ".dockerconfigjson"

/-- The secret for the credentials of registries. -/
def pullSecret (scope : Scope) (credentials : String) : Secret :=
  scope.secret scope.component.pullSecret Secret.dockerConfigType
    [(credentialsKey, Text.utf8 credentials)]

end Scope

/-- Checks that credentials are a JSON object with at least one member. -/
def checkCredentials (credentials : String) : Except Refusal Unit :=
  if Text.isBlankText credentials then .error (.credentials .blank)
  else
    match Json.parse? credentials with
    | none => .error (.credentials .malformed)
    | some (.obj []) => .error (.credentials .noRegistries)
    | some (.obj _) => .ok ()
    | some _ => .error (.credentials .notObject)

/-- A mounted entry as a file under its own key. -/
def projectedFile (mount : Compose.MountedFile) : ProjectedFile :=
  ⟨mount.key, mount.key, mount.mode?⟩

/-- The volumes of the pod for mounted configs and then for mounted secrets, each by ascending
name. -/
def volumesOfFiles (configs secrets : SortedMap String Compose.MountedFile) : List Volume :=
  (configs.entries.map fun entry =>
    .ofConfigMap (Component.configVolume entry.1) entry.2.object (projectedFile entry.2)) ++
  secrets.entries.map fun entry =>
    .ofSecret (Component.secretVolume entry.1) entry.2.object (projectedFile entry.2)

/-- The objects of a component, and the volumes of its pod that show them. -/
structure Objects where
  pullSecret? : Option Secret
  configMaps : List ConfigMap
  configSecrets : List Secret
  envSecrets : List Secret
  volumes : List Volume
  deriving DecidableEq

namespace Objects

/-- All secrets: the credentials, then those of the compose document, then the environments. -/
def secrets (objects : Objects) : List Secret :=
  objects.pullSecret?.toList ++ objects.configSecrets ++ objects.envSecrets

/-- The objects for a project, and for credentials if there are any. -/
def ofNormal (scope : Scope) (normal : Compose.Normal) (credentials? : Option String) :
    Except Refusal Objects := do
  credentials?.toList.forM checkCredentials
  return {
    pullSecret? := credentials?.map scope.pullSecret
    configMaps := normal.configs.map scope.configMap
    configSecrets := normal.secrets.map scope.configSecret
    envSecrets := normal.envData.map scope.envSecret
    volumes := volumesOfFiles normal.configMounts normal.secretMounts }

end Objects

end ComposeCluster.Content

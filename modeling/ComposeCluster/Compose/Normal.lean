import ComposeCluster.Compose.Mount
import ComposeCluster.Compose.Port
import ComposeCluster.Compose.Target
import ComposeCluster.Naming.Component
import ComposeCluster.Naming.Label

/-!
# Projects in the context of an app

`Normal.ofProject` turns the services of a project into containers and collects what they need
besides: published ports, directories in volumes, environment files, and the content of configs
and secrets. The services go through it in ascending order of their names, and what they share is
handed from one to the next (`Shared`).
-/

set_option autoImplicit false

namespace ComposeCluster.Compose

/-- What a project is looked at with: the component it becomes, the files it may read and the
volumes of the app. -/
structure Context where
  component : Component
  tree : SourceTree
  volumes : List AppVolume
  deriving DecidableEq

/-- The merged environment files of a service. -/
structure EnvData where
  service : String
  data : Variables
  deriving DecidableEq

/-- The content of a config. -/
structure ConfigText where
  name : String
  key : String
  text : String
  deriving DecidableEq

/-- The content of a secret. -/
structure SecretContent where
  name : String
  key : String
  bytes : Bytes
  deriving DecidableEq

/-- An object whose entry is mounted as a file, with the mode that its first reference asks for. -/
structure MountedFile where
  object : String
  key : String
  mode? : Option Int32
  deriving DecidableEq

/-- What the services share: ports, directories, the mounted configs and secrets, and warnings. -/
structure Shared where
  ports : PublishedPorts
  subPaths : DirectoryPlan
  configMounts : SortedMap String MountedFile
  secretMounts : SortedMap String MountedFile
  warnings : List String
  deriving DecidableEq

namespace Shared

/-- Before the first service. -/
def start (warnings : List String) : Shared := ⟨.empty, .empty, .empty, .empty, warnings⟩

/-- Notes that a file is mounted; the first note about it stays. -/
def addFile (shared : Shared) (kind : SourceKind) (name : String) (mount : MountedFile) : Shared :=
  let add (mounts : SortedMap String MountedFile) : SortedMap String MountedFile :=
    if mounts.contains name then mounts else mounts.insert name mount
  match kind with
  | .config => { shared with configMounts := add shared.configMounts }
  | .secret => { shared with secretMounts := add shared.secretMounts }

end Shared

/-- A project in the context of an app. -/
structure Normal where
  containers : List Container
  ports : PublishedPorts
  subPaths : DirectoryPlan
  envData : List EnvData
  configs : List ConfigText
  secrets : List SecretContent
  configMounts : SortedMap String MountedFile
  secretMounts : SortedMap String MountedFile
  warnings : List String
  deriving DecidableEq

/-- Reads, merges and checks the environment files of a service. -/
def mergeEnv (tree : SourceTree) (service : String) (files : List EnvFile) :
    Except Refusal EnvMerge :=
  match EnvMerge.empty.addFiles tree files with
  | .error (path, error) => .error (.envFile service path error)
  | .ok merged =>
    match Env.checkData merged.data with
    | .error error => .error (.envData service error)
    | .ok () => .ok merged

/-- The warnings about keys that a later file of a service changes. -/
def overrideWarnings (service : String) (merged : EnvMerge) : List String :=
  merged.overridden.keys.map fun key =>
    "service " ++ service ++ ": env key " ++ key ++ " overridden by a later env_file"

/-- The environment of each service that has environment files, and the warnings about it. -/
def readEnvironments (tree : SourceTree) :
    List Service → Except Refusal (List EnvData × List String)
  | [] => .ok ([], [])
  | service :: rest =>
    if service.envFiles.isEmpty then readEnvironments tree rest
    else do
      let merged ← mergeEnv tree service.name service.envFiles
      let (data, warnings) ← readEnvironments tree rest
      return (⟨service.name, merged.data⟩ :: data,
        overrideWarnings service.name merged ++ warnings)

/-- The content of a definition, if there is any that an object is to hold. -/
def readDefinition (tree : SourceTree) (kind : SourceKind) (name : String)
    (definition : Definition) : Except Refusal (Option Content) := do
  (Naming.checkSourceName name).mapError Refusal.fault
  (definition.resolve tree name kind).mapError (Refusal.content kind name)

/-- The contents of configs, by ascending name. -/
def readConfigs (tree : SourceTree) :
    List (String × Definition) → Except Refusal (List ConfigText)
  | [] => .ok []
  | (name, definition) :: rest => do
    match ← readDefinition tree .config name definition with
    | none => readConfigs tree rest
    | some content =>
      match Text.ofUtf8? content.bytes with
      | none => .error (.content .config name .notText)
      | some text => return ⟨name, content.key, text⟩ :: (← readConfigs tree rest)

/-- The contents of secrets, by ascending name. -/
def readSecrets (tree : SourceTree) :
    List (String × Definition) → Except Refusal (List SecretContent)
  | [] => .ok []
  | (name, definition) :: rest => do
    match ← readDefinition tree .secret name definition with
    | none => readSecrets tree rest
    | some content => return ⟨name, content.key, content.bytes⟩ :: (← readSecrets tree rest)

/-- A config or a secret in a container: what it is, the mount, and what is mounted. -/
structure FileUse where
  kind : SourceKind
  name : String
  mount : VolumeMount
  file : MountedFile
  deriving DecidableEq

namespace FileUse

/-- Where configs and secrets are mounted unless a reference says so. -/
def defaultTarget (kind : SourceKind) (name : String) : String :=
  match kind with
  | .config => "/" ++ name
  | .secret => "/run/secrets/" ++ name

/-- The object that is generated for a definition. -/
def objectName (component : Component) (kind : SourceKind) (name : String) : String :=
  match kind with
  | .config => component.configMap name
  | .secret => component.configSecret name

/-- The volume of the pod for a definition. -/
def volumeName (kind : SourceKind) (name : String) : String :=
  match kind with
  | .config => Component.configVolume name
  | .secret => Component.secretVolume name

/-- The use that a reference of a service makes of its definition; none if the object already
exists. -/
def ofRef (component : Component) (project : Project) (service : String) (kind : SourceKind)
    (ref : FileRef) : Except Refusal (Option FileUse) :=
  match (project.definitions kind).get? ref.source with
  | none => .error (.unknownSource kind service ref.source)
  | some definition =>
    if definition.isExisting then .ok none
    else
      let key := definition.key ref.source
      let target := ref.target?.getD (defaultTarget kind ref.source)
      .ok (some {
        kind
        name := ref.source
        mount := .file (volumeName kind ref.source) target key
        file := ⟨objectName component kind ref.source, key, ref.mode?⟩ })

/-- The uses that a service makes of definitions of a kind. -/
def ofRefs (component : Component) (project : Project) (service : Service) (kind : SourceKind) :
    Except Refusal (List FileUse) :=
  ((service.files kind).mapM (ofRef component project service.name kind)).map
    (·.filterMap id)

end FileUse

/-- A list of words for a container; an empty one leaves the choice to the image. -/
def wordsUnlessEmpty (words : List String) : Option (List String) :=
  if words.isEmpty then none else some words

/-- The container of a service without its ports and mounts. -/
def bareContainer (component : Component) (service : Service) : Container :=
  { Container.ofImage service.name service.image with
    command? := wordsUnlessEmpty service.entrypoint
    args? := wordsUnlessEmpty service.command
    env := service.environment.entries.map fun entry => ⟨entry.1, entry.2⟩
    envFrom :=
      [.optionalSecret (component.envSecret service.name),
       .optionalSecret (component.envOverrideSecret service.name)]
    resources? := service.resources? }

/-- What is mounted where in a service: its volumes, then configs, then secrets. -/
def mountedTargets (service : Service) (mounts : List Mount) (uses : List FileUse) :
    List (MountOrigin × String) :=
  (service.volumes.zip mounts).map (fun pair => (.volume pair.1.source, pair.2.target)) ++
    uses.map fun use => (.file use.kind use.name, use.mount.path)

/-- The container of a service, and what the services share after it. -/
def containerOf (context : Context) (project : Project) (service : Service)
    (shared : Shared) : Except Refusal (Container × Shared) := do
  let (ports, table) ← publishAll service.name shared.ports [] service.ports
  let mounts ← service.volumes.mapM fun spec =>
    Mount.resolve service.name spec context.volumes context.tree
  let configs ← FileUse.ofRefs context.component project service .config
  let secrets ← FileUse.ofRefs context.component project service .secret
  let uses := configs ++ secrets
  let check ← checkTargets service.name (mountedTargets service mounts uses)
  let kept := mounts.filter fun mount => !check.shadowed.contains mount.target
  let container :=
    { bareContainer context.component service with
      ports
      mounts := kept.map (fun mount => .directory mount.volume mount.target mount.subPath?) ++
        uses.map (·.mount) }
  let shared := uses.foldl (fun shared use => shared.addFile use.kind use.name use.file) shared
  return (container,
    { shared with
      ports := table
      subPaths := kept.foldl DirectoryPlan.add shared.subPaths
      warnings := shared.warnings ++ check.warnings })

/-- The containers of services, and what they share. -/
def containersOf (context : Context) (project : Project) :
    List Service → Shared → Except Refusal (List Container × Shared)
  | [], shared => .ok ([], shared)
  | service :: rest, shared => do
    let (container, shared) ← containerOf context project service shared
    let (containers, shared) ← containersOf context project rest shared
    return (container :: containers, shared)

namespace Normal

/-- The names of the services, in the order of their containers. -/
def serviceNames (normal : Normal) : List String :=
  normal.containers.map (·.name)

/-- Looks at a project in a context. -/
def ofProject (context : Context) (project : Project) : Except Refusal Normal := do
  context.volumes.forM fun volume =>
    (Naming.checkVolumeName volume.name).mapError Refusal.fault
  let (envData, warnings) ← readEnvironments context.tree project.services
  let configs ← readConfigs context.tree project.configs.entries
  let secrets ← readSecrets context.tree project.secrets.entries
  let (containers, shared) ←
    containersOf context project project.services (.start (project.warnings ++ warnings))
  return {
    containers
    ports := shared.ports
    subPaths := shared.subPaths
    envData
    configs
    secrets
    configMounts := shared.configMounts
    secretMounts := shared.secretMounts
    warnings := shared.warnings }

end Normal

end ComposeCluster.Compose

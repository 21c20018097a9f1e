import ComposeCluster.Kube.Pod
import ComposeCluster.Env.File
import ComposeCluster.Source.Definition

/-!
# Compose projects

What a compose document says, with every short form spelled out: services by ascending name, and
the configs and secrets they may refer to. Nothing is checked against an app yet.
-/

set_option autoImplicit false

namespace ComposeCluster.Compose

/-- A port mapping as it is written; what is not there or makes no sense is missing. -/
structure PortMapping where
  published? : Option String
  target? : Option Port
  deriving DecidableEq

/-- What the source of a volume names. -/
inductive VolumeKind where
  | bind
  | named
  | other (kind : String)
  deriving DecidableEq

namespace VolumeKind

/-- The word for a kind. -/
def word : VolumeKind → String
  | .bind => "bind"
  | .named => "volume"
  | .other kind => kind

end VolumeKind

/-- A volume of a service as it is written. -/
structure ServiceVolume where
  kind : VolumeKind
  source : String
  target : String
  deriving DecidableEq

/-- A reference to a config or a secret; `mode?` is the mode of the file. -/
structure FileRef where
  source : String
  target? : Option String
  mode? : Option Int32
  deriving DecidableEq

/-- A service. -/
structure Service where
  name : String
  image : String
  entrypoint : List String
  command : List String
  environment : Variables
  envFiles : List EnvFile
  ports : List PortMapping
  volumes : List ServiceVolume
  configs : List FileRef
  secrets : List FileRef
  resources? : Option Resources
  deriving DecidableEq

/-- A project. -/
structure Project where
  services : List Service
  configs : SortedMap String Definition
  secrets : SortedMap String Definition
  warnings : List String
  deriving DecidableEq

namespace Project

/-- The first service with a name. -/
def service? (project : Project) (name : String) : Option Service :=
  project.services.find? (·.name == name)

/-- The definitions of a kind. -/
def definitions (project : Project) : SourceKind → SortedMap String Definition
  | .config => project.configs
  | .secret => project.secrets

end Project

namespace Service

/-- The references to definitions of a kind. -/
def files (service : Service) : SourceKind → List FileRef
  | .config => service.configs
  | .secret => service.secrets

end Service

end ComposeCluster.Compose

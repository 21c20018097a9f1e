import ComposeCluster.Compose.Project
import ComposeCluster.Compose.Command

/-!
# Refusals

Why a compose document, a binding or a rule is not turned into objects. Each refusal names the
service, the volume, the rule or the file it concerns, so that `Refusal.message` stands on its own.
-/

set_option autoImplicit false

namespace ComposeCluster

/-- Why a mount cannot be a part of a volume. -/
inductive SubPathError where
  | upward
  | bindOfRoot
  | nothing
  deriving DecidableEq

namespace SubPathError

def message : SubPathError → String
  | .upward => "sub-path must not contain '..'"
  | .bindOfRoot => "bind source resolves to the volume root"
  | .nothing => "sub-path is empty after normalization"

end SubPathError

/-- Why a volume of a service cannot be mounted whatever it names. -/
inductive ServiceVolumeError where
  | incomplete
  | colon (source : String)
  | unknownKind (kind source target : String)
  deriving DecidableEq

namespace ServiceVolumeError

def message : ServiceVolumeError → String
  | .incomplete => "volume with empty source/target not supported"
  | .colon source => "unexpected ':' in volume source: " ++ source
  | .unknownKind kind source target =>
    "unsupported volume type: " ++ kind ++ " (source=" ++ source ++ " target=" ++ target ++ ")"

end ServiceVolumeError

/-- Why a compose document does not describe a project. -/
inductive DocumentError where
  | shape
  | noImage (service : String)
  | command (service field : String) (error : Compose.CommandError)
  | mode (service source : String)
  deriving DecidableEq

namespace DocumentError

def message : DocumentError → String
  | .shape => Fault.wrongShape
  | .noImage service => "service " ++ service ++ " has no image"
  | .command service field error => "service " ++ service ++ " " ++ field ++ ": " ++ error.message
  | .mode service source => "service " ++ service ++ ": invalid mode for " ++ source

end DocumentError

/-- Why a default host cannot be generated. -/
inductive DefaultHostError where
  | duplicate
  | custom
  deriving DecidableEq

namespace DefaultHostError

def message : DefaultHostError → String
  | .duplicate => "duplicated"
  | .custom => "collides with custom hosts"

end DefaultHostError

/-- Why credentials of registries cannot be used. -/
inductive CredentialsError where
  | blank
  | malformed
  | noRegistries
  | notObject
  deriving DecidableEq

namespace CredentialsError

def message : CredentialsError → String
  | .blank => "empty docker config content"
  | .malformed => "invalid json: " ++ Fault.jsonSyntax
  | .noRegistries => "docker config json object is empty"
  | .notObject => "docker config must be a json object"

end CredentialsError

/-- Why a conversion is refused. -/
inductive Refusal where
  | document (error : DocumentError)
  | portForm (service : String)
  | hostPort (published : String)
  | containerPortTaken (port : Port) (first second : String)
  | hostPortTaken (port first second : Port)
  | absoluteBind (source : String)
  | bindOfFile (source : String)
  | bindWithoutVolumes (source : String)
  | unknownVolume (name reference : String)
  | subPath (service source : String) (error : SubPathError)
  | serviceVolume (service : String) (error : ServiceVolumeError)
  | targets (service : String) (conflicts : List String)
  | unknownSource (kind : SourceKind) (service name : String)
  | content (kind : SourceKind) (name : String) (error : SourceError)
  | envFile (service path : String) (error : EnvFileError)
  | envData (service : String) (error : EnvDataError)
  | reservedService (service : String)
  | ruleName (name : String)
  | rulePortTwice (port : Port)
  | rulePortUnknown (port : Port)
  | rulePortNames (containerPort : Port) (first second : String)
  | hostTwice (host first second : String)
  | hostUnderDomain (host domain : String)
  | defaultHost (host : String) (error : DefaultHostError)
  | bindingCount (bindings volumes : Nat)
  | bindingOrder (index : Nat) (found expected : String)
  | unknownBinding (name : String)
  | noHandle (volume : String)
  | noDriver (volume : String)
  | credentials (error : CredentialsError)
  | fault (fault : Fault)
  deriving DecidableEq

namespace Refusal

def message : Refusal → String
  | .document error => "compose project failed: " ++ error.message
  | .portForm service => "ports must be 'host:container' style numeric; service " ++ service
  | .hostPort published => "invalid host port " ++ Text.quoted published
  | .containerPortTaken port first second =>
    "containerPort " ++ toString port ++ " used by multiple services (" ++ first ++ "," ++
      second ++ ")"
  | .hostPortTaken port first second =>
    "hostPort " ++ toString port ++ " mapped to multiple container ports (" ++ toString first ++
      "," ++ toString second ++ ")"
  | .absoluteBind source => "absolute bind volume not supported: " ++ source
  | .bindOfFile source =>
    "bind volume source must be a directory, not a single file: " ++ source ++
      " (use configs/secrets for single-file mounts)"
  | .bindWithoutVolumes source =>
    "relative bind volume '" ++ source ++ "' requires at least one app volume (default) defined"
  | .unknownVolume name reference =>
    "named volume '" ++ name ++ "' referenced by '" ++ reference ++
      "' is not defined in app volumes"
  | .subPath service source error =>
    "service " ++ service ++ ": invalid volume sub-path in '" ++ source ++ "': " ++ error.message
  | .serviceVolume service error => "service " ++ service ++ ": " ++ error.message
  | .targets service conflicts =>
    "target conflicts in service " ++ service ++ ": " ++ Text.join "; " conflicts
  | .unknownSource kind service name =>
    "service " ++ service ++ ": " ++ kind.word ++ " " ++ Text.quoted name ++
      " not defined in top-level " ++ kind.word ++ "s"
  | .content kind name error =>
    "resolve " ++ kind.word ++ " " ++ Text.quoted name ++ ": " ++ error.message
  | .envFile service path error =>
    "env_file for service " ++ service ++ ": " ++ path ++ ": " ++ error.message path
  | .envData service error => "env_file for service " ++ service ++ ": " ++ error.message
  | .reservedService service =>
    "compose service name '" ++ service ++ "' conflicts with reserved ingress service name prefixes"
  | .ruleName name => "invalid ingress name: " ++ name
  | .rulePortTwice port => "duplicate ingress port " ++ toString port
  | .rulePortUnknown port => "ingress port " ++ toString port ++ " not defined in compose ports"
  | .rulePortNames containerPort first second =>
    "containerPort " ++ toString containerPort ++
      " referenced by multiple ingress entries with different names (" ++ first ++ "," ++
      second ++ ")"
  | .hostTwice host first second =>
    "host " ++ host ++ " duplicated across ingress entries (" ++ first ++ "," ++ second ++ ")"
  | .hostUnderDomain host domain =>
    "ingress host " ++ host ++ " must not be under cluster ingress domain " ++ domain
  | .defaultHost host error => "generated default host " ++ host ++ " " ++ error.message
  | .bindingCount bindings volumes =>
    "volume bindings count " ++ toString bindings ++ " does not match app volumes " ++
      toString volumes
  | .bindingOrder index found expected =>
    "volume binding at index " ++ toString index ++ " is for " ++ found ++ "; expected " ++
      expected
  | .unknownBinding name => "volume " ++ name ++ " is not defined in app"
  | .noHandle volume => "volume " ++ volume ++ " has no handle in binding input"
  | .noDriver volume => "no CSIDriver for volume " ++ volume
  | .credentials error => "invalid docker config: " ++ error.message
  | .fault inner => inner.message

end Refusal

end ComposeCluster

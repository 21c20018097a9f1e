import ComposeCluster.App.Basic
import ComposeCluster.Refusal

/-!
# Volumes of services

Every volume of a service is a part of a volume of the app: `./a/b` is the directory `a/b` of the
first volume, `data` all of the volume `data`, and `data/a/b` a directory of it. The part is
named in a canonical form (`SubPath.normalize`) that stays below the root of the volume.
-/

set_option autoImplicit false

namespace ComposeCluster.Compose

namespace SubPath

/-- The parts of a path that lead somewhere. -/
def steps (path : String) : List String :=
  (pathParts path).filter fun part => part != "" && part != "."

/-- A path without idle parts; it must not lead upward. -/
def normalize (path : String) : Except SubPathError String :=
  if (steps path).contains ".." then .error .upward else .ok (Text.join "/" (steps path))

end SubPath

/-- A volume of a service as a part of a volume of the app; without a sub-path it is all of it. -/
structure Mount where
  volume : String
  subPath? : Option String
  target : String
  deriving DecidableEq

namespace Mount

/-- The directory that a relative path names, in the first volume of the app. -/
def ofBind (service : String) (spec : ServiceVolume) (volumes : List AppVolume)
    (tree : SourceTree) : Except Refusal Mount :=
  if Text.startsWith "/" spec.source ∨ Text.startsWith "~" spec.source then
    .error (.absoluteBind spec.source)
  else if tree.leadsToFile spec.source then .error (.bindOfFile spec.source)
  else
    match volumes with
    | [] => .error (.bindWithoutVolumes spec.source)
    | first :: _ =>
      match SubPath.normalize spec.source with
      | .error error => .error (.subPath service spec.source error)
      | .ok subPath =>
        if subPath.isEmpty then .error (.subPath service spec.source .bindOfRoot)
        else .ok ⟨first.name, some subPath, spec.target⟩

/-- A volume of the app by its name, or a directory of it. -/
def ofName (service : String) (spec : ServiceVolume) (volumes : List AppVolume) :
    Except Refusal Mount :=
  let (name, rest) := (Text.splitOnce '/' spec.source).getD (spec.source, "")
  if !volumes.any (·.name == name) then .error (.unknownVolume name spec.source)
  else if rest.isEmpty then .ok ⟨name, none, spec.target⟩
  else
    match SubPath.normalize rest with
    | .error error => .error (.subPath service spec.source error)
    | .ok subPath =>
      if subPath.isEmpty then .error (.subPath service spec.source .nothing)
      else .ok ⟨name, some subPath, spec.target⟩

/-- The mount for a volume of a service. -/
def resolve (service : String) (spec : ServiceVolume) (volumes : List AppVolume)
    (tree : SourceTree) : Except Refusal Mount :=
  if spec.source.isEmpty ∨ spec.target.isEmpty then .error (.serviceVolume service .incomplete)
  else if Text.containsChar ':' spec.source then
    .error (.serviceVolume service (.colon spec.source))
  else
    match spec.kind with
    | .bind => ofBind service spec volumes tree
    | .named => ofName service spec volumes
    | .other kind => .error (.serviceVolume service (.unknownKind kind spec.source spec.target))

end Mount

/-- The directories that have to exist in each volume. -/
abbrev DirectoryPlan := SortedMap String (SortedMap String Unit)

namespace DirectoryPlan

/-- The directories of a volume. -/
def directories (plan : DirectoryPlan) (volume : String) : SortedMap String Unit :=
  (plan.get? volume).getD .empty

/-- Adds the directory that a mount needs, if it needs one. -/
def add (plan : DirectoryPlan) (mount : Mount) : DirectoryPlan :=
  match mount.subPath? with
  | none => plan
  | some subPath => plan.insert mount.volume ((directories plan mount.volume).insert subPath ())

end DirectoryPlan

end ComposeCluster.Compose

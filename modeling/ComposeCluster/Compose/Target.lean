import ComposeCluster.Refusal

/-!
# Mount targets

Within a service, what is mounted where. A config or a secret on the target of a volume takes the
place of the volume, with a warning; two configs or secrets on one target are refused. Targets are
looked at in ascending order, so the messages come in one order.
-/

set_option autoImplicit false

namespace ComposeCluster.Compose

/-- What is mounted: a volume by its source, a config or a secret by its name. -/
inductive MountOrigin where
  | volume (source : String)
  | file (kind : SourceKind) (name : String)
  deriving DecidableEq

namespace MountOrigin

/-- Whether it is a volume. -/
def isVolume : MountOrigin → Bool
  | .volume _ => true
  | .file _ _ => false

/-- What is mounted, in messages. -/
def text : MountOrigin → String
  | .volume source => "volume:" ++ source
  | .file kind name => kind.word ++ ":" ++ name

end MountOrigin

/-- What is mounted on each target, in the order of declaration. -/
def byTarget (mounts : List (MountOrigin × String)) : SortedMap String (List MountOrigin) :=
  mounts.foldl (fun map mount =>
    map.insert mount.2 ((map.get? mount.2).getD [] ++ [mount.1])) .empty

/-- A target and what is mounted on it. -/
structure TargetUse where
  target : String
  volumes : List MountOrigin
  files : List MountOrigin
  deriving DecidableEq

namespace TargetUse

/-- The uses of targets, by ascending target. -/
def ofMounts (mounts : List (MountOrigin × String)) : List TargetUse :=
  (byTarget mounts).entries.map fun entry =>
    ⟨entry.1, entry.2.filter (·.isVolume), entry.2.filter fun source => !source.isVolume⟩

/-- The message about several files on one target, if there are several. -/
def conflict? (service : String) (use : TargetUse) : Option String :=
  if 1 < use.files.length then
    some ("service " ++ service ++ ": target path " ++ Text.quoted use.target ++
      " has duplicate configs/secrets: [" ++ Text.join " " (use.files.map (·.text)) ++ "]")
  else none

/-- The warnings about volumes that a file takes the place of. -/
def warnings (service : String) (use : TargetUse) : List String :=
  match use.files with
  | [] => []
  | winner :: _ => use.volumes.map fun volume =>
    "service " ++ service ++ ": target path " ++ Text.quoted use.target ++
      " conflicts between " ++ winner.text ++ " and " ++ volume.text ++
      "; ignoring volume (use configs/secrets for single files)"

/-- Whether a file takes the place of a volume. -/
def isShadowed (use : TargetUse) : Bool :=
  !use.files.isEmpty && !use.volumes.isEmpty

end TargetUse

/-- The warnings about the targets of a service, and the targets whose volumes are left out. -/
structure TargetFindings where
  warnings : List String
  shadowed : List String
  deriving DecidableEq

/-- Checks the targets of a service. -/
def checkTargets (service : String) (mounts : List (MountOrigin × String)) :
    Except Refusal TargetFindings :=
  let uses := TargetUse.ofMounts mounts
  let conflicts := uses.filterMap (·.conflict? service)
  if conflicts.isEmpty then
    .ok ⟨uses.flatMap (·.warnings service), (uses.filter (·.isShadowed)).map (·.target)⟩
  else .error (.targets service conflicts)

end ComposeCluster.Compose

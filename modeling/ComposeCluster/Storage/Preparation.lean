import ComposeCluster.Compose.Mount
import ComposeCluster.Kube.Pod

/-!
# Directories in volumes

A container can only mount a directory of a volume that exists. `initContainer?` describes the
container that creates them all before the others start: one command with an argument for each
directory, without a shell in between, by ascending volume and directory.
-/

set_option autoImplicit false

namespace ComposeCluster.Compose.DirectoryPlan

/-- The name of the container that creates the directories. -/
def containerName : String := "init-volume-subpaths"

/-- Where the container mounts the volumes. -/
def workDirectory : String := "/work"

/-- Where the container mounts a volume. -/
def mountPath (volume : String) : String := workDirectory ++ "/" ++ volume

/-- The command without the directories; everybody may write into them, as into a directory for
temporary files. -/
def makeDirectories : List String := ["mkdir", "-m", "1777", "-p"]

/-- The volumes with their directories, as far as they have any. -/
def occupied (plan : DirectoryPlan) : List (String × List String) :=
  (plan.entries.filter fun entry => !entry.2.isEmpty).map fun entry => (entry.1, entry.2.keys)

/-- The directories as the container sees them. -/
def paths (plan : DirectoryPlan) : List String :=
  plan.occupied.flatMap fun entry => entry.2.map fun sub => mountPath entry.1 ++ "/" ++ sub

/-- The container that creates the directories; none if there are none. -/
def initContainer? (plan : DirectoryPlan) (image : String) : Option Container :=
  if plan.occupied.isEmpty then none
  else
    some { Container.ofImage containerName image with
      command? := some (makeDirectories ++ plan.paths)
      mounts := plan.occupied.map fun entry => .directory entry.1 (mountPath entry.1) none }

end ComposeCluster.Compose.DirectoryPlan

import ComposeCluster.Kube.Meta

/-!
# Volume classes, disks and bindings

What a provider says about the volumes it creates (`VolumeClass`, where an empty field means that
it has no opinion), and which disk an operator assigned to a volume of an app (`VolumeBinding`).
-/

set_option autoImplicit false

namespace ComposeCluster

/-- How a provider creates volumes. -/
structure VolumeClass where
  storageClass : String
  driver : String
  fileSystem : String
  attributes : TextMap
  accessModes : List String
  reclaimPolicy : String
  volumeMode : String
  deriving DecidableEq

namespace VolumeClass

/-- No opinion on anything. -/
def blank : VolumeClass where
  storageClass := ""
  driver := ""
  fileSystem := ""
  attributes := .empty
  accessModes := []
  reclaimPolicy := ""
  volumeMode := ""

def toJson (c : VolumeClass) : Json :=
  .record
    [("storageClassName", some (.str c.storageClass)),
     ("csiDriver", some (.str c.driver)),
     ("fsType", some (.str c.fileSystem)),
     ("attributes", some (.ofMap .str c.attributes)),
     ("accessModes", some (.texts c.accessModes)),
     ("reclaimPolicy", some (.str c.reclaimPolicy)),
     ("volumeMode", some (.str c.volumeMode))]

def ofJson? : Json → Option VolumeClass :=
  Json.readRecord? do
    let storageClass ← Fields.orElse "storageClassName" "" Json.asText?
    let driver ← Fields.orElse "csiDriver" "" Json.asText?
    let fileSystem ← Fields.orElse "fsType" "" Json.asText?
    let attributes ← Fields.textMap "attributes"
    let accessModes ← Fields.list "accessModes" Json.asText?
    let reclaimPolicy ← Fields.orElse "reclaimPolicy" "" Json.asText?
    let volumeMode ← Fields.orElse "volumeMode" "" Json.asText?
    return { storageClass, driver, fileSystem, attributes, accessModes, reclaimPolicy, volumeMode }

end VolumeClass

/-- A disk, with its size in bytes. -/
structure Disk where
  handle : String
  size : Int64
  deriving DecidableEq

namespace Disk

/-- A disk of which nothing is known. -/
def unknown : Disk := ⟨"", 0⟩

def toJson (disk : Disk) : Json :=
  .record [("handle", some (.str disk.handle)), ("size", some (.int disk.size.toInt))]

def ofJson? : Json → Option Disk :=
  Json.readRecord? do
    let handle ← Fields.orElse "handle" "" Json.asText?
    let size ← Fields.orElse "size" 0 Json.asInt64?
    return { handle, size }

end Disk

/-- The disk for a volume of an app; `resource?` is the name of its objects, if it is fixed. -/
structure VolumeBinding where
  volume : String
  disk : Disk
  resource? : Option String
  deriving DecidableEq

namespace VolumeBinding

def toJson (binding : VolumeBinding) : Json :=
  .record
    [("name", some (.str binding.volume)),
     ("disk", some binding.disk.toJson),
     ("resourceName", some (Json.orNull .str binding.resource?))]

def ofJson? : Json → Option VolumeBinding :=
  Json.readRecord? do
    let volume ← Fields.orElse "name" "" Json.asText?
    let disk ← Fields.orElse "disk" .unknown Disk.ofJson?
    let resource? ← Fields.optional "resourceName" Json.asText?
    return { volume, disk, resource? }

end VolumeBinding

end ComposeCluster

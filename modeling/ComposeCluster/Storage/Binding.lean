import ComposeCluster.App.Basic
import ComposeCluster.App.Cluster
import ComposeCluster.Kube.Pod
import ComposeCluster.Kube.Storage
import ComposeCluster.Naming.Identity
import ComposeCluster.Refusal
import ComposeCluster.Storage.Class

/-!
# Binding volumes to disks

Each volume of an app is bound to one disk (`checkOneEach`). A binding becomes a persistent volume
for the disk and a claim that asks for this volume by its name, so that neither of the two can ever
be matched with anything else. What the provider says about its volumes is taken only where the
cluster knows the word; otherwise a default stands in for it.
-/

set_option autoImplicit false

namespace ComposeCluster

/-- The unit of capacities in bytes. -/
def mebibyte : Int64 := 1048576

/-- Bytes as a capacity: whole mebibytes, rounded up. No bytes, or fewer, are a plain zero. -/
def capacityText (bytes : Int64) : String :=
  if bytes ≤ 0 then "0"
  else
    let started : Int64 := if bytes % mebibyte = 0 then 0 else 1
    toString (bytes / mebibyte + started).toInt ++ "Mi"

/-- Checks that the bindings from an index on are for the volumes, in their order. -/
def checkOrderFrom (index : Nat) : List AppVolume → List VolumeBinding → Except Refusal Unit
  | volume :: volumes, binding :: bindings =>
    if binding.volume = volume.name then checkOrderFrom (index + 1) volumes bindings
    else .error (.bindingOrder index binding.volume volume.name)
  | _, _ => .ok ()

/-- Checks that there is one binding for each volume, in the order of the volumes. -/
def checkOneEach (volumes : List AppVolume) (bindings : List VolumeBinding) :
    Except Refusal Unit :=
  if bindings.length = volumes.length then checkOrderFrom 0 volumes bindings
  else .error (.bindingCount bindings.length volumes.length)

namespace VolumeClass

/-- The access modes that the cluster knows. -/
def knownAccessModes : List String :=
  ["ReadWriteOnce", "ReadOnlyMany", "ReadWriteMany", "ReadWriteOncePod"]

/-- The access mode of volumes whose class has none that is known. -/
def defaultAccessMode : String := "ReadWriteOnce"

/-- The access modes of volumes of the class. -/
def volumeAccessModes (c : VolumeClass) : List String :=
  let known := c.accessModes.filter knownAccessModes.contains
  if known.isEmpty then [defaultAccessMode] else known

/-- What becomes of a disk when its claim is gone; it is kept unless the class says otherwise. -/
def volumeReclaimPolicy (c : VolumeClass) : String :=
  if c.reclaimPolicy = "Delete" then "Delete" else "Retain"

/-- Whether volumes of the class hold a file system or are seen as devices. -/
def volumeKind (c : VolumeClass) : String :=
  if c.volumeMode = "Block" then "Block" else "Filesystem"

/-- The storage class of volumes of the class. -/
def storageClass? (c : VolumeClass) : Option String :=
  if c.storageClass.isEmpty then none else some c.storageClass

/-- The attribute for the file system. -/
def fileSystemAttribute : String := "fsType"

/-- What the driver is told about disks of the class; empty attributes are left out. -/
def volumeAttributes (c : VolumeClass) : TextMap :=
  let attributes := c.attributes.filterValues fun value => !value.isEmpty
  if c.fileSystem.isEmpty then attributes
  else attributes.insert fileSystemAttribute c.fileSystem

end VolumeClass

namespace VolumeBinding

/-- The volume that a binding is for; the disk of the binding must have a handle. -/
def volumeIn (binding : VolumeBinding) (volumes : List AppVolume) : Except Refusal AppVolume :=
  match volumes.find? (·.name == binding.volume) with
  | none => .error (.unknownBinding binding.volume)
  | some volume =>
    if Text.isBlankText binding.disk.handle then .error (.noHandle volume.name) else .ok volume

/-- The size of the disk, or that of the volume if the disk has none. -/
def capacity (binding : VolumeBinding) (volume : AppVolume) : Int64 :=
  if 0 < binding.disk.size then binding.disk.size else volume.size

/-- The name of the objects of a binding: the fixed one, or else one that is derived from the
volume and the disk. -/
def objectName (binding : VolumeBinding) (id : Identity) : String :=
  (nonBlank? binding.resource?).getD
    (id.volumeResource binding.volume (Text.trim binding.disk.handle))

end VolumeBinding

/-- What the objects of all bindings of an app have in common. -/
structure BindingScope where
  identity : Identity
  nameSpace : String
  labels : TextMap
  deriving DecidableEq

/-- A volume that is bound to a disk: the binding with the name of its objects, and the objects. -/
structure BoundVolume where
  binding : VolumeBinding
  volume : PersistentVolume
  claim : PersistentVolumeClaim
  deriving DecidableEq

namespace BoundVolume

/-- The name of the objects. -/
def objectName (bound : BoundVolume) : String := bound.claim.metadata.name

/-- The key of the amount of storage. -/
def storageKey : String := "storage"

/-- The persistent volume of a name for a disk. -/
def volumeOf (scope : BindingScope) (c : VolumeClass) (name handle : String) (size : Int64) :
    PersistentVolume where
  toHeader := .of .persistentVolume ((Meta.clusterScoped name).withLabels scope.labels)
  spec :=
    { capacity := .singleton storageKey (capacityText size)
      accessModes := c.volumeAccessModes
      reclaimPolicy := c.volumeReclaimPolicy
      volumeMode := c.volumeKind
      storageClass? := c.storageClass?
      source := ⟨Text.trim c.driver, handle, c.volumeAttributes⟩ }

/-- The claim of the persistent volume of the same name. -/
def claimOf (scope : BindingScope) (c : VolumeClass) (name : String) (size : Int64) :
    PersistentVolumeClaim where
  toHeader :=
    .of .persistentVolumeClaim ((Meta.namespaced name scope.nameSpace).withLabels scope.labels)
  spec :=
    { accessModes := c.volumeAccessModes
      requests := .singleton storageKey (capacityText size)
      volume := name
      volumeMode := c.volumeKind
      storageClass? := c.storageClass? }

/-- Binds a volume of an app to a disk of a class. -/
def ofBinding (scope : BindingScope) (volumes : List AppVolume) (binding : VolumeBinding)
    (c : VolumeClass) : Except Refusal BoundVolume := do
  let volume ← binding.volumeIn volumes
  if Text.isBlankText c.driver then .error (.noDriver volume.name)
  let name := binding.objectName scope.identity
  let size := binding.capacity volume
  return {
    binding := { binding with resource? := some name }
    volume := volumeOf scope c name (Text.trim binding.disk.handle) size
    claim := claimOf scope c name size }

/-- The volume of the pod for a bound volume. -/
def podVolume (bound : BoundVolume) : Volume :=
  .ofClaim bound.binding.volume bound.objectName

end BoundVolume

end ComposeCluster

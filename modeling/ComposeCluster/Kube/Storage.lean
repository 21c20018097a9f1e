import ComposeCluster.Kube.Resource

/-!
# Persistent volumes and their claims

A persistent volume is a disk that the cluster knows of; a claim in a namespace names the one
volume it takes. Both state their capacity, access modes and storage class.
-/

set_option autoImplicit false

namespace ComposeCluster

/-- The disk behind a persistent volume: its driver, its handle, and what else the driver wants to
know. -/
structure DiskSource where
  driver : String
  handle : String
  attributes : TextMap
  deriving DecidableEq

namespace DiskSource

def toJson (source : DiskSource) : Json :=
  .record
    [("driver", some (.str source.driver)),
     ("volumeHandle", some (.str source.handle)),
     ("volumeAttributes", Json.mapUnlessEmpty source.attributes)]

def ofJson? : Json → Option DiskSource :=
  Json.readRecord? do
    let driver ← Fields.text "driver"
    let handle ← Fields.text "volumeHandle"
    let attributes ← Fields.textMap "volumeAttributes"
    return { driver, handle, attributes }

end DiskSource

/-- What a persistent volume is. -/
structure PersistentVolumeSpec where
  capacity : TextMap
  accessModes : List String
  reclaimPolicy : String
  volumeMode : String
  storageClass? : Option String
  source : DiskSource
  deriving DecidableEq

namespace PersistentVolumeSpec

def toJson (spec : PersistentVolumeSpec) : Json :=
  .record
    [("capacity", some (.ofMap .str spec.capacity)),
     ("accessModes", some (.texts spec.accessModes)),
     ("persistentVolumeReclaimPolicy", some (.str spec.reclaimPolicy)),
     ("volumeMode", some (.str spec.volumeMode)),
     ("storageClassName", spec.storageClass?.map .str),
     ("csi", some spec.source.toJson)]

def ofJson? : Json → Option PersistentVolumeSpec :=
  Json.readRecord? do
    let capacity ← Fields.required "capacity" Json.asTextMap?
    let accessModes ← Fields.required "accessModes" (Json.asList? Json.asText?)
    let reclaimPolicy ← Fields.text "persistentVolumeReclaimPolicy"
    let volumeMode ← Fields.text "volumeMode"
    let storageClass? ← Fields.optional "storageClassName" Json.asText?
    let source ← Fields.required "csi" DiskSource.ofJson?
    return { capacity, accessModes, reclaimPolicy, volumeMode, storageClass?, source }

end PersistentVolumeSpec

/-- A persistent volume. -/
structure PersistentVolume extends Header where
  spec : PersistentVolumeSpec
  deriving DecidableEq

namespace PersistentVolume

def toJson (object : PersistentVolume) : Json :=
  .record (object.fields ++ [("spec", some object.spec.toJson)])

def ofJson? : Json → Option PersistentVolume :=
  Json.readRecord? do
    let toHeader ← Header.read .persistentVolume
    let spec ← Fields.required "spec" PersistentVolumeSpec.ofJson?
    return { toHeader, spec }

end PersistentVolume

/-- What a claim asks for; `requests` are the requests among its resources. -/
structure ClaimSpec where
  accessModes : List String
  requests : TextMap
  volume : String
  volumeMode : String
  storageClass? : Option String
  deriving DecidableEq

namespace ClaimSpec

/-- Requested resources as JSON. -/
def requestsToJson (requests : TextMap) : Json :=
  .record [("requests", some (.ofMap .str requests))]

/-- Reads requested resources. -/
def requestsOfJson? : Json → Option TextMap :=
  Json.readRecord? (Fields.required "requests" Json.asTextMap?)

def toJson (spec : ClaimSpec) : Json :=
  .record
    [("accessModes", some (.texts spec.accessModes)),
     ("resources", some (requestsToJson spec.requests)),
     ("volumeName", some (.str spec.volume)),
     ("volumeMode", some (.str spec.volumeMode)),
     ("storageClassName", spec.storageClass?.map .str)]

def ofJson? : Json → Option ClaimSpec :=
  Json.readRecord? do
    let accessModes ← Fields.required "accessModes" (Json.asList? Json.asText?)
    let requests ← Fields.required "resources" requestsOfJson?
    let volume ← Fields.text "volumeName"
    let volumeMode ← Fields.text "volumeMode"
    let storageClass? ← Fields.optional "storageClassName" Json.asText?
    return { accessModes, requests, volume, volumeMode, storageClass? }

end ClaimSpec

/-- A claim of a persistent volume. -/
structure PersistentVolumeClaim extends Header where
  spec : ClaimSpec
  deriving DecidableEq

namespace PersistentVolumeClaim

def toJson (object : PersistentVolumeClaim) : Json :=
  .record (object.fields ++ [("spec", some object.spec.toJson)])

def ofJson? : Json → Option PersistentVolumeClaim :=
  Json.readRecord? do
    let toHeader ← Header.read .persistentVolumeClaim
    let spec ← Fields.required "spec" ClaimSpec.ofJson?
    return { toHeader, spec }

end PersistentVolumeClaim

end ComposeCluster

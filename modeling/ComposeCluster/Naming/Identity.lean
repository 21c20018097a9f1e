import ComposeCluster.Digest.ShortHash

/-!
# The identity of an app

An app is known by four names: its workspace, its provider, its cluster and its own. What must be
unique across them carries a short hash of the names joined by colons. Two of the hashes identify
the app: `appId` leaves the cluster out, so an app keeps it when it moves; `appInstance` does not.
-/

set_option autoImplicit false

namespace ComposeCluster

/-- Where an app belongs. -/
structure Placement where
  workspace : String
  provider : String
  cluster : String
  app : String
  deriving DecidableEq

namespace Placement

/-- What the hash of the provider is taken of. -/
def providerKey (p : Placement) : String := p.workspace ++ ":" ++ p.provider

/-- What the hash of the cluster is taken of. -/
def clusterKey (p : Placement) : String := p.providerKey ++ ":" ++ p.cluster

/-- What the hash of the app on any cluster is taken of. -/
def appKey (p : Placement) : String := p.providerKey ++ ":" ++ p.app

/-- What the hash of the app on its cluster is taken of. -/
def instanceKey (p : Placement) : String := p.clusterKey ++ ":" ++ p.app

/-- The four names from the widest to the narrowest. -/
def names (p : Placement) : List String := [p.workspace, p.provider, p.cluster, p.app]

end Placement

/-- The hashes that identify an app, and the namespace named after them. -/
structure Identity where
  workspace : String
  provider : String
  cluster : String
  appId : String
  appInstance : String
  nameSpace : String
  hashLength : Nat
  deriving DecidableEq

namespace Identity

/-- What names of namespaces and of volumes start with. -/
def resourceStart : String := "k4x"

/-- The length of hashes unless the settings say otherwise. -/
def defaultHashLength : Nat := 6

/-- The identity of an app at a placement. -/
def of (p : Placement) (hashLength : Nat) : Identity :=
  let hash (text : String) : String := shortHash text hashLength
  { workspace := hash p.workspace
    provider := hash p.providerKey
    cluster := hash p.clusterKey
    appId := hash p.appKey
    appInstance := hash p.instanceKey
    nameSpace :=
      resourceStart ++ "-" ++ hash p.providerKey ++ "-" ++ p.app ++ "-" ++ hash p.appKey
    hashLength }

/-- The hash of a text at the length that this identity uses. -/
def hash (id : Identity) (text : String) : String :=
  shortHash text id.hashLength

/-- The name of the persistent volume, and of its claim, that binds a volume to a disk. -/
def volumeResource (id : Identity) (volume handle : String) : String :=
  resourceStart ++ "-" ++ id.provider ++ "-" ++ volume ++ "-" ++ id.appId ++ "-" ++ id.hash handle

end Identity

end ComposeCluster

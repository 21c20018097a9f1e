import ComposeCluster.App.Basic
import ComposeCluster.App.Cluster
import ComposeCluster.Storage.Class

/-!
# Providers

A provider owns disks; it is asked for the class of each volume and nothing else. Providers are
found by the names of their drivers.
-/

set_option autoImplicit false

namespace ComposeCluster

/-- Why a provider has no answer. -/
inductive ProviderError where
  | unknownDriver (driver : String)
  | volumeClass (reason : String)
  deriving DecidableEq

namespace ProviderError

def message : ProviderError → String
  | .unknownDriver driver => "unknown provider driver: " ++ driver
  | .volumeClass reason => reason

end ProviderError

/-- What a provider says about the class of a volume of an app on a cluster. -/
abbrev ClassResolver := Cluster → App → AppVolume → Except ProviderError VolumeClass

namespace ClassResolver

/-- Says the same of all volumes, except for those with a class of their own. -/
def fixed (common : VolumeClass) (own : SortedMap String VolumeClass) : ClassResolver :=
  fun _ _ volume => .ok ((own.get? volume.name).getD common)

end ClassResolver

/-- Providers by the names of their drivers. -/
abbrev DriverTable := SortedMap String ClassResolver

namespace DriverTable

/-- The provider with a driver. -/
def find (table : DriverTable) (driver : String) : Except ProviderError ClassResolver :=
  match table.get? driver with
  | some resolver => .ok resolver
  | none => .error (.unknownDriver driver)

end DriverTable

end ComposeCluster

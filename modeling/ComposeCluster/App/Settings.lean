import ComposeCluster.Json.Record
import ComposeCluster.Naming.Identity
import ComposeCluster.Text.Blank
import ComposeCluster.Yaml.Value

/-!
# Settings

What shapes the generated objects without being part of an app. Settings are read from a YAML
document in which any of them may be missing, and are checked once (`Settings.check`).
-/

set_option autoImplicit false

namespace ComposeCluster

/-- The settings. -/
structure Settings where
  hashLength : Nat
  initImage : String
  ingressClass : String
  defaultPool : String
  headlessServices : Bool
  accessObjects : Bool
  deriving DecidableEq

namespace Settings

/-- The longest hash that can be set. -/
def maxHashLength : Nat := 32

/-- The settings where nothing is set. -/
def standard : Settings where
  hashLength := Identity.defaultHashLength
  initImage := "busybox:1.36"
  ingressClass := "traefik"
  defaultPool := "user"
  headlessServices := true
  accessObjects := true

/-- The settings that leave out what an app can run without. -/
def minimal : Settings :=
  { standard with headlessServices := false, accessObjects := false }

def toJson (settings : Settings) : Json :=
  .record
    [("hash_length", some (.nat settings.hashLength)),
     ("init_image", some (.str settings.initImage)),
     ("ingress_class", some (.str settings.ingressClass)),
     ("default_node_pool", some (.str settings.defaultPool)),
     ("headless_services", some (.bool settings.headlessServices)),
     ("access_resources", some (.bool settings.accessObjects))]

/-- Reads settings; what is missing is standard. -/
def ofJson? : Json → Option Settings :=
  Json.readRecord? do
    let hashLength ← Fields.orElse "hash_length" standard.hashLength (Json.asNatBelow? UInt64.size)
    let initImage ← Fields.orElse "init_image" standard.initImage Json.asText?
    let ingressClass ← Fields.orElse "ingress_class" standard.ingressClass Json.asText?
    let defaultPool ← Fields.orElse "default_node_pool" standard.defaultPool Json.asText?
    let headlessServices ←
      Fields.orElse "headless_services" standard.headlessServices Json.asBool?
    let accessObjects ← Fields.orElse "access_resources" standard.accessObjects Json.asBool?
    return { hashLength, initImage, ingressClass, defaultPool, headlessServices, accessObjects }

/-- Refuses a setting that is blank. -/
def requireText (name value : String) : Except Fault Unit :=
  if Text.isBlankText value then .error (.setting (name ++ " must not be empty")) else .ok ()

/-- Checks that the settings can be worked with. -/
def check (settings : Settings) : Except Fault Unit := do
  if settings.hashLength = 0 ∨ maxHashLength < settings.hashLength then
    .error (.setting
      ("hash_length must be between 1 and " ++ toString maxHashLength ++ ", got " ++
        toString settings.hashLength))
  requireText "init_image" settings.initImage
  requireText "ingress_class" settings.ingressClass
  requireText "default_node_pool" settings.defaultPool

/-- Reads settings from a YAML document and checks them. -/
def parse (text : String) : Except Fault Settings := do
  let value ← Yaml.parse text
  let settings ←
    match value with
    | .null => .ok standard
    | value =>
      match ofJson? value with
      | some settings => .ok settings
      | none => .error (.malformed Fault.wrongShape)
  settings.check
  return settings

end Settings

end ComposeCluster

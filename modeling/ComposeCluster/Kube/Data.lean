import ComposeCluster.Kube.Resource
import ComposeCluster.Digest.Base64
import ComposeCluster.Text.Utf8

/-!
# Config maps and secrets

The two kinds of objects that carry data. A config map holds text; a secret holds the Base64
encoding of bytes, so that any content survives. Either may carry a digest of its content as an
annotation.
-/

set_option autoImplicit false

namespace ComposeCluster

/-- A config map. -/
structure ConfigMap extends Header where
  data : TextMap
  deriving DecidableEq

namespace ConfigMap

/-- An empty config map. -/
def create (name nameSpace : String) : ConfigMap where
  toHeader := .of .configMap (.namespaced name nameSpace)
  data := .empty

/-- Stores a text. -/
def withData (object : ConfigMap) (key value : String) : ConfigMap :=
  { object with data := object.data.insert key value }

/-- The digest of the content, if it is recorded. -/
def contentHash? (object : ConfigMap) : Option String :=
  object.metadata.annotation? Key.contentHash

def toJson (object : ConfigMap) : Json :=
  .record (object.fields ++ [("data", Json.mapUnlessEmpty object.data)])

def ofJson? : Json → Option ConfigMap :=
  Json.readRecord? do
    let toHeader ← Header.read .configMap
    let data ← Fields.textMap "data"
    return { toHeader, data }

end ConfigMap

/-- A secret; its data is in Base64. -/
structure Secret extends Header where
  data : TextMap
  type? : Option String
  deriving DecidableEq

namespace Secret

/-- The type of secrets that hold arbitrary data. -/
def opaqueType : String := "Opaque"

/-- The type of secrets that hold credentials of registries. -/
def dockerConfigType : String := "kubernetes.io/dockerconfigjson"

/-- An empty secret for arbitrary data. -/
def create (name nameSpace : String) : Secret where
  toHeader := .of .secret (.namespaced name nameSpace)
  data := .empty
  type? := some opaqueType

/-- Sets the type. -/
def withType (object : Secret) (type : String) : Secret :=
  { object with type? := some type }

/-- Stores bytes. -/
def withData (object : Secret) (key : String) (value : Bytes) : Secret :=
  { object with data := object.data.insert key (Base64.encode value) }

/-- The bytes that are stored under a key. -/
def decoded? (object : Secret) (key : String) : Option Bytes :=
  (object.data.get? key).bind Base64.decode?

/-- The digest of the content, if it is recorded. -/
def contentHash? (object : Secret) : Option String :=
  object.metadata.annotation? Key.contentHash

def toJson (object : Secret) : Json :=
  .record <| object.fields ++
    [("data", Json.mapUnlessEmpty object.data),
     ("type", object.type?.map .str)]

def ofJson? : Json → Option Secret :=
  Json.readRecord? do
    let toHeader ← Header.read .secret
    let data ← Fields.textMap "data"
    let type? ← Fields.optional "type" Json.asText?
    return { toHeader, data, type? }

end Secret

end ComposeCluster

import ComposeCluster.Kube.Resource

/-!
# Ingresses

An ingress routes hosts to ports of services. Each of its rules is one host with the paths below
it, and each path leads to a port of a service by the port's name.
-/

set_option autoImplicit false

namespace ComposeCluster

/-- Where a path leads: a service and the name of its port. -/
structure IngressBackend where
  service : String
  port : String
  deriving DecidableEq

namespace IngressBackend

/-- A name alone as JSON. -/
def nameToJson (name : String) : Json :=
  .record [("name", some (.str name))]

/-- Reads a name alone. -/
def nameOfJson? : Json → Option String :=
  Json.readRecord? (Fields.text "name")

/-- The service of a backend as JSON. -/
def serviceToJson (backend : IngressBackend) : Json :=
  .record [("name", some (.str backend.service)), ("port", some (nameToJson backend.port))]

/-- Reads the service of a backend. -/
def serviceOfJson? : Json → Option IngressBackend :=
  Json.readRecord? do
    let service ← Fields.text "name"
    let port ← Fields.required "port" nameOfJson?
    return { service, port }

def toJson (backend : IngressBackend) : Json :=
  .record [("service", some backend.serviceToJson)]

def ofJson? : Json → Option IngressBackend :=
  Json.readRecord? (Fields.required "service" serviceOfJson?)

end IngressBackend

/-- A path below a host, and how it is compared. -/
structure IngressPath where
  path : String
  pathType : String
  backend : IngressBackend
  deriving DecidableEq

namespace IngressPath

/-- Everything below a host. -/
def root (service port : String) : IngressPath := ⟨"/", "Prefix", ⟨service, port⟩⟩

def toJson (path : IngressPath) : Json :=
  .record
    [("path", some (.str path.path)),
     ("pathType", some (.str path.pathType)),
     ("backend", some path.backend.toJson)]

def ofJson? : Json → Option IngressPath :=
  Json.readRecord? do
    let path ← Fields.text "path"
    let pathType ← Fields.text "pathType"
    let backend ← Fields.required "backend" IngressBackend.ofJson?
    return { path, pathType, backend }

end IngressPath

/-- A host and the paths below it. -/
structure IngressRule where
  host : String
  paths : List IngressPath
  deriving DecidableEq

namespace IngressRule

/-- Paths as JSON. -/
def pathsToJson (paths : List IngressPath) : Json :=
  .record [("paths", some (.arr (paths.map IngressPath.toJson)))]

/-- Reads paths. -/
def pathsOfJson? : Json → Option (List IngressPath) :=
  Json.readRecord? (Fields.required "paths" (Json.asList? IngressPath.ofJson?))

def toJson (rule : IngressRule) : Json :=
  .record [("host", some (.str rule.host)), ("http", some (pathsToJson rule.paths))]

def ofJson? : Json → Option IngressRule :=
  Json.readRecord? do
    let host ← Fields.text "host"
    let paths ← Fields.required "http" pathsOfJson?
    return { host, paths }

end IngressRule

/-- The hosts of an ingress and the class of controllers that serve them. -/
structure IngressSpec where
  className : String
  rules : List IngressRule
  deriving DecidableEq

namespace IngressSpec

def toJson (spec : IngressSpec) : Json :=
  .record
    [("ingressClassName", some (.str spec.className)),
     ("rules", some (.arr (spec.rules.map IngressRule.toJson)))]

def ofJson? : Json → Option IngressSpec :=
  Json.readRecord? do
    let className ← Fields.text "ingressClassName"
    let rules ← Fields.required "rules" (Json.asList? IngressRule.ofJson?)
    return { className, rules }

end IngressSpec

/-- An ingress. -/
structure Ingress extends Header where
  spec : IngressSpec
  deriving DecidableEq

namespace Ingress

/-- The hosts that an ingress routes, in the order of its rules. -/
def hosts (object : Ingress) : List String :=
  object.spec.rules.map (·.host)

def toJson (object : Ingress) : Json :=
  .record (object.fields ++ [("spec", some object.spec.toJson)])

def ofJson? : Json → Option Ingress :=
  Json.readRecord? do
    let toHeader ← Header.read .ingress
    let spec ← Fields.required "spec" IngressSpec.ofJson?
    return { toHeader, spec }

end Ingress

end ComposeCluster

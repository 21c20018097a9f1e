import ComposeCluster.App.Route
import ComposeCluster.App.Scope
import ComposeCluster.Kube.Ingress

/-!
# The ingresses of an app

An app has up to two ingresses in front of its service. The custom one serves the hosts of the
rules, with certificates from a resolver; the default one serves one generated host for each rule,
and only where the cluster has a domain for them.
-/

set_option autoImplicit false

namespace ComposeCluster

namespace Key

/-- The annotation for the entry point of the controller. -/
def routerEntrypoints : String := "traefik.ingress.kubernetes.io/router.entrypoints"

/-- The annotation for encrypted connections. -/
def routerTls : String := "traefik.ingress.kubernetes.io/router.tls"

/-- The annotation for the resolver of certificates. -/
def routerCertResolver : String := "traefik.ingress.kubernetes.io/router.tls.certresolver"

end Key

/-- How an app is to be reached: by which class of controllers, below which domain, and with
certificates from which resolver. -/
structure IngressSetting where
  className : String
  hostStart : String
  domain? : Option String
  certResolver? : Option String
  deriving DecidableEq

/-- The ingresses of an app. -/
structure AppIngresses where
  default? : Option Ingress
  custom? : Option Ingress
  deriving DecidableEq

namespace AppIngresses

/-- An app that is not reached from outside. -/
def none : AppIngresses := ⟨Option.none, Option.none⟩

/-- Both ingresses, as far as there are any. -/
def toList (ingresses : AppIngresses) : List Ingress :=
  ingresses.default?.toList ++ ingresses.custom?.toList

/-- The entry point for encrypted connections. -/
def secureEntrypoint : String := "websecure"

/-- The metadata of an ingress. -/
def metadata (scope : AppScope) (ending : String) : Meta :=
  ((scope.metadata (scope.component.resource ++ "-" ++ ending)).annotate
    Key.routerEntrypoints secureEntrypoint).annotate Key.routerTls "true"

/-- The metadata of the custom ingress. -/
def customMetadata (scope : AppScope) (certResolver? : Option String) : Meta :=
  match certResolver? with
  | some resolver => (metadata scope "custom").annotate Key.routerCertResolver resolver
  | Option.none => metadata scope "custom"

/-- The rule that leads everything below a host to a route. -/
def ruleFor (scope : AppScope) (route : Route) (host : String) : IngressRule :=
  ⟨host, [.root scope.component.resource route.name]⟩

/-- The rules for the hosts of routes. -/
def customRules (scope : AppScope) (routes : List Route) : List IngressRule :=
  routes.flatMap fun route => route.hosts.map (ruleFor scope route)

/-- The custom ingress; none without hosts. -/
def customIngress? (scope : AppScope) (setting : IngressSetting) (routes : List Route) :
    Option Ingress :=
  let rules := customRules scope routes
  if rules.isEmpty then Option.none
  else
    some
      { toHeader := .of .ingress (customMetadata scope setting.certResolver?)
        spec := ⟨setting.className, rules⟩ }

/-- The host that is generated for a port. -/
def defaultHost (hostStart : String) (port : Port) (domain : String) : String :=
  hostStart ++ "-" ++ toString port.toNat ++ "." ++ domain

/-- Adds the rule for the generated host of a route, unless the host is taken. -/
def addDefaultRule (scope : AppScope) (setting : IngressSetting) (domain : String)
    (customHosts : List String) (rules : List IngressRule) (route : Route) :
    Except Refusal (List IngressRule) :=
  let host := defaultHost setting.hostStart route.port domain
  if rules.any (·.host == host) then .error (.defaultHost host .duplicate)
  else if customHosts.contains host then .error (.defaultHost host .custom)
  else .ok (rules ++ [ruleFor scope route host])

/-- The default ingress. -/
def defaultIngress (scope : AppScope) (setting : IngressSetting) (routes : List Route)
    (domain : String) : Except Refusal Ingress := do
  let customHosts := routes.flatMap (·.hosts)
  let rules ← routes.foldlM (addDefaultRule scope setting domain customHosts) []
  return {
    toHeader := .of .ingress (metadata scope "default")
    spec := ⟨setting.className, rules⟩ }

/-- The ingresses for routes; none without routes. -/
def ofRoutes (scope : AppScope) (setting : IngressSetting) (routes : List Route) :
    Except Refusal AppIngresses :=
  if routes.isEmpty then .ok none
  else do
    let default? ← setting.domain?.mapM (defaultIngress scope setting routes)
    return ⟨default?, customIngress? scope setting routes⟩

end AppIngresses

end ComposeCluster

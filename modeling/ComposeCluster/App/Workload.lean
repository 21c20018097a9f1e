import ComposeCluster.App.Pod
import ComposeCluster.App.Route
import ComposeCluster.App.Scope
import ComposeCluster.Kube.Workload

/-!
# The objects that run an app

The namespace of the app, the deployment that keeps its one pod running, the service in front of
it, and one service without an address for each compose service, so that services find each other
by their names.
-/

set_option autoImplicit false

namespace ComposeCluster

namespace AppScope

/-- The namespace of an app, with its origin and the driver of its provider. -/
def nameSpaceObject (scope : AppScope) (placement : Placement) (driver : String) : NameSpace where
  toHeader :=
    .of .nameSpace
      ((((Meta.clusterScoped scope.identity.nameSpace).withLabels scope.baseLabels).annotate
        Key.app (Text.join "/" placement.names)).annotate Key.providerDriver driver)

/-- The strategy that stops the old pod before it starts the new one. -/
def recreateStrategy : String := "Recreate"

/-- The deployment of a pod. -/
def deployment (scope : AppScope) (pod : HashedPod) : Deployment where
  toHeader := .of .deployment (scope.metadata scope.component.resource)
  spec :=
    { replicas := 1
      strategy := recreateStrategy
      selector := .ofLabels scope.component.selector
      template :=
        { metadata :=
            { labels := scope.labels
              annotations :=
                match pod.hash? with
                | some hash => .singleton Key.contentHash hash
                | none => .empty }
          spec := pod.spec } }

/-- The ports of the service: those of the routes, or all published ports if there are no
routes. -/
def servicePorts (routes : List Route) (ports : Compose.PublishedPorts) : List ServicePort :=
  if routes.isEmpty then
    ports.mappings.map fun (host, target) => ⟨"p" ++ toString host.toNat, host, target⟩
  else routes.map fun route => ⟨route.name, route.port, route.targetPort⟩

/-- The service in front of the pod; none without ports. -/
def service? (scope : AppScope) (routes : List Route) (ports : Compose.PublishedPorts) :
    Option Service :=
  let servicePorts := servicePorts routes ports
  if servicePorts.isEmpty then none
  else
    some
      { toHeader := .of .service (scope.metadata scope.component.resource)
        spec := ⟨none, scope.component.selector, servicePorts⟩ }

/-- The address of a service that has none of its own. -/
def noAddress : String := "None"

/-- The service that gives a compose service a name. -/
def headlessService (scope : AppScope) (name : String) : Service where
  toHeader :=
    .of .service
      ((Meta.namespaced name scope.nameSpace).withLabels
        (scope.component.headlessLabels scope.identity))
  spec := ⟨some noAddress, scope.component.selector, []⟩

end AppScope

/-- Where a pod may run: on the nodes of a pool, and of a zone if there is one. -/
def nodeSelector (pool : String) (zone? : Option String) : TextMap :=
  let selector : TextMap := .singleton Key.nodePool pool
  match nonBlank? zone? with
  | some zone => selector.insert Key.nodeZone zone
  | none => selector

/-- What names of compose services may not start with, because generated services do. -/
def reservedStarts (app : String) : List String := [app ++ "-app", app ++ "-box"]

/-- Checks that no compose service has a name that is kept for generated services. -/
def checkNoneReserved (app : String) (names : List String) : Except Refusal Unit :=
  match names.find? fun name => (reservedStarts app).any (Text.startsWith · name) with
  | some name => .error (.reservedService name)
  | none => .ok ()

end ComposeCluster

import ComposeCluster.Naming.Component

/-!
# Where the objects of a component are

The objects around the pod of a component carry its labels and live in one namespace. The name of
the component is the name of its deployment and of its service.
-/

set_option autoImplicit false

namespace ComposeCluster

/-- A component of an app with the identity of the app and the namespace of its objects. -/
structure AppScope where
  component : Component
  identity : Identity
  nameSpace : String
  deriving DecidableEq

namespace AppScope

/-- The labels of the objects of the app. -/
def baseLabels (scope : AppScope) : TextMap := scope.component.baseLabels scope.identity

/-- The labels of the objects of the component. -/
def labels (scope : AppScope) : TextMap := scope.component.labels scope.identity

/-- The metadata of an object of the component. -/
def metadata (scope : AppScope) (name : String) : Meta :=
  (Meta.namespaced name scope.nameSpace).withLabels scope.labels

end AppScope

end ComposeCluster

import ComposeCluster.Content.Reference
import ComposeCluster.Json.Patch

/-!
# Patching live deployments

When the content of a secret or a config map has changed, the pods of a deployment have to be
replaced although the deployment itself is the same. `Rollout.of` compares a live deployment
with the live objects around it: what the hash on its pods should be, and whether its pods should
use the credentials of registries. The change is put as operations or as a merge patch, for
either way of sending it.
-/

set_option autoImplicit false

namespace ComposeCluster.Content

/-- What should change in a live deployment, and what it is like now. -/
structure Rollout where
  deployment : String
  hasPullSecret : Bool
  recordedHash? : Option String
  wantedHash? : Option String
  hasAnnotations : Bool
  livePullSecrets : List String
  deriving DecidableEq

namespace Rollout

/-- The secret with the credentials for a deployment. -/
def pullSecretOf (deployment : String) : String := deployment ++ "--pull"

/-- The secret with the credentials for the deployment of a plan. -/
def pullSecret (plan : Rollout) : String := pullSecretOf plan.deployment

/-- The secrets for images that a deployment should have. -/
def wantedPullSecrets (plan : Rollout) : List String :=
  if plan.hasPullSecret then [plan.pullSecret] else []

/-- Compares a live deployment with live secrets and config maps. -/
def of (deployment : LiveDeployment) (secrets configMaps : List LiveMeta) : Rollout :=
  let name := deployment.name?.getD ""
  let hasPullSecret := secrets.any (·.name? == some (pullSecretOf name))
  let desired : LivePod :=
    { deployment.pod with
      pullSecrets := if hasPullSecret then [pullSecretOf name] else [] }
  { deployment := name
    hasPullSecret
    recordedHash? := deployment.annotations?.bind (·.get? Key.contentHash)
    wantedHash? := Refs.hash? (Refs.ofLive desired).names (indexLive secrets configMaps)
    hasAnnotations := deployment.annotations?.isSome
    livePullSecrets := deployment.pod.pullSecrets }

/-- Whether the hash has to change. -/
def hashChanges (plan : Rollout) : Bool :=
  plan.wantedHash?.isSome && plan.wantedHash? != plan.recordedHash?

/-- Whether the secrets for images have to change. -/
def pullSecretsChange (plan : Rollout) : Bool :=
  plan.livePullSecrets != plan.wantedPullSecrets

/-- Whether nothing has to change. -/
def changesNothing (plan : Rollout) : Bool :=
  !plan.hashChanges && !plan.pullSecretsChange

/-- The hash to be set, if it has to change. -/
def newHash? (plan : Rollout) : Option String :=
  if plan.hashChanges then plan.wantedHash? else none

/-- Where the annotations of the pods are. -/
def annotationsPath : Pointer := ["spec", "template", "metadata", "annotations"]

/-- Where the secrets for images are. -/
def pullSecretsPath : Pointer := ["spec", "template", "spec", "imagePullSecrets"]

/-- The desired secrets for images as JSON. -/
def pullSecretsJson (plan : Rollout) : Json :=
  .arr (plan.wantedPullSecrets.map PodSpec.referenceToJson)

/-- The operations that set the hash. -/
def hashOperations (plan : Rollout) (hash : String) : List PatchOperation :=
  let kind : PatchKind := if plan.recordedHash?.isSome then .replace else .add
  (if plan.hasAnnotations then [] else [⟨.add, annotationsPath, .obj []⟩]) ++
    [⟨kind, annotationsPath ++ [Key.contentHash], .str hash⟩]

/-- The operations that set the secrets for images. -/
def pullSecretOperations (plan : Rollout) : List PatchOperation :=
  let kind : PatchKind := if plan.livePullSecrets.isEmpty then .add else .replace
  if plan.pullSecretsChange then [⟨kind, pullSecretsPath, plan.pullSecretsJson⟩] else []

/-- The change as operations. -/
def operations (plan : Rollout) : List PatchOperation :=
  (plan.newHash?.map plan.hashOperations).getD [] ++ plan.pullSecretOperations

/-- The change of the metadata of the pods. -/
def metadataPatch (hash : String) : Json :=
  .obj [("annotations", .obj [(Key.contentHash, .str hash)])]

/-- The change of the pods themselves. -/
def podPatch (plan : Rollout) : Json :=
  .obj [("imagePullSecrets", plan.pullSecretsJson)]

/-- The change of the template. -/
def templatePatch (plan : Rollout) : Json :=
  .obj ((plan.newHash?.map fun hash => ("metadata", metadataPatch hash)).toList ++
    (if plan.pullSecretsChange then [("spec", plan.podPatch)] else []))

/-- The change as a merge patch; none if nothing has to change. -/
def mergePatch? (plan : Rollout) : Option Json :=
  if plan.changesNothing then none
  else some (.obj [("spec", .obj [("template", plan.templatePatch)])])

end Rollout

end ComposeCluster.Content

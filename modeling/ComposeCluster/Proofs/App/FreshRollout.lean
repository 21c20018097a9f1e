import ComposeCluster.App.Conversion
import ComposeCluster.Proofs.Content.Objects
import ComposeCluster.Proofs.Content.Rollout
import ComposeCluster.Proofs.Kube.Generated
import Mathlib.Data.List.Basic

/-!
# Fresh objects need no rollout

The hash on a generated deployment is taken of the pod before it is written, and a plan takes it
of the live pod after it was read. The two agree because the live pod refers to the same names
(`Content.Refs.ofLive_live`), because each object carries the same digest in the cluster
(`Content.indexLive_live`), and because the plan looks for the credentials of registries under the
name that was generated for them and for nothing else (`Content.Objects.any_isPullSecret`). So
nothing has to change right after the objects of an app were created
(`Progress.changesNothing_after_build`).
-/

set_option autoImplicit false

namespace ComposeCluster

/-! ## Digests in the cluster -/

namespace Content

/-- An object with a name is seen in the cluster with the digest that it carries. -/
theorem liveEntry?_live {data : Meta} (hname : data.name ≠ "") :
    liveEntry? data.live = (data.annotation? Key.contentHash).map (data.name, ·) := by
  have hfilter : (some data.name).filter (fun name => !name.isEmpty) = some data.name := by
    simp [Option.filter, hname]
  have hannotation := SortedMap.bind_live data.annotations Key.contentHash
  show ((some data.name).filter _).bind (fun name =>
    (SortedMap.live data.annotations).bind fun annotations =>
      (annotations.get? Key.contentHash).bind fun digest => some (name, digest)) = _
  rw [hfilter, Option.bind_some]
  show _ = (data.annotations.get? Key.contentHash).map _
  rw [← hannotation]
  cases SortedMap.live data.annotations with
  | none => rfl
  | some annotations =>
    rw [Option.bind_some, Option.bind_some]
    cases annotations.get? Key.contentHash <;> rfl

/-- Objects with names are seen in the cluster with the digests that they carry. -/
theorem filterMap_liveEntry?_live {α : Type} {data : α → Meta} {objects : List α}
    (hnames : ∀ object ∈ objects, (data object).name ≠ "") :
    (objects.map fun object => (data object).live).filterMap liveEntry? =
      objects.filterMap fun object =>
        ((data object).annotation? Key.contentHash).map ((data object).name, ·) := by
  rw [List.filterMap_map]
  induction objects with
  | nil => rfl
  | cons object rest ih =>
    have hobject := liveEntry?_live (hnames object List.mem_cons_self)
    have hrest := ih fun object hmem => hnames object (List.mem_cons_of_mem _ hmem)
    rw [List.filterMap_cons, List.filterMap_cons, Function.comp_apply, hobject, hrest]

/-- Objects with names carry the same digests in the cluster. -/
theorem indexLive_live {secrets : List Secret} {configMaps : List ConfigMap}
    (hsecrets : ∀ object ∈ secrets, object.metadata.name ≠ "")
    (hconfigMaps : ∀ object ∈ configMaps, object.metadata.name ≠ "") :
    indexLive (secrets.map fun object => object.metadata.live)
        (configMaps.map fun object => object.metadata.live) =
      indexObjects secrets configMaps := by
  rw [indexLive, indexObjects, filterMap_liveEntry?_live hsecrets,
    filterMap_liveEntry?_live hconfigMaps]
  rfl

end Content

/-! ## The objects of an app as a cluster shows them -/

namespace ManifestSet

/-- What the objects of a kind are read back as, in the order in which they are created. -/
def readBack? (manifests : ManifestSet) (kind : ObjectKind) : Option (List LiveMeta) :=
  (manifests.objects.filter fun object => object.objectKind = kind).mapM fun object =>
    LiveMeta.ofObject? object.toJson

/-- The secrets and the config maps among all objects are those of the content. -/
theorem filter_objects (manifests : ManifestSet) :
    (manifests.objects.filter fun object => object.objectKind = .secret) =
        manifests.content.secrets.map .secret ∧
      (manifests.objects.filter fun object => object.objectKind = .configMap) =
        manifests.content.configMaps.map .configMap := by
  cases hpolicies : manifests.policies? <;> constructor <;>
  simp [objects, hpolicies, policyObjects, contentObjects, Content.Objects.secrets,
    List.filter_map, Function.comp_def, Manifest.objectKind, ObjectKind.secret,
    ObjectKind.nameSpace, ObjectKind.serviceAccount, ObjectKind.role, ObjectKind.roleBinding,
    ObjectKind.networkPolicy, ObjectKind.persistentVolume, ObjectKind.persistentVolumeClaim,
    ObjectKind.configMap, ObjectKind.deployment, ObjectKind.service, ObjectKind.ingress]

/-- Secrets are read back as what the cluster shows of their metadata. -/
theorem readBack?_secret (manifests : ManifestSet) :
    manifests.readBack? .secret =
      some (manifests.content.secrets.map fun object => object.metadata.live) := by
  have hread : ∀ object : Secret, LiveMeta.ofObject? (Manifest.secret object).toJson =
      some object.metadata.live := Secret.ofObject?_toJson
  rw [readBack?, (filter_objects manifests).1, List.mapM_map]
  have hall := Json.mapM_map_of_read hread manifests.content.secrets
  rwa [List.mapM_map] at hall

/-- Config maps are read back as what the cluster shows of their metadata. -/
theorem readBack?_configMap (manifests : ManifestSet) :
    manifests.readBack? .configMap =
      some (manifests.content.configMaps.map fun object => object.metadata.live) := by
  have hread : ∀ object : ConfigMap, LiveMeta.ofObject? (Manifest.configMap object).toJson =
      some object.metadata.live := ConfigMap.ofObject?_toJson
  rw [readBack?, (filter_objects manifests).2, List.mapM_map]
  have hall := Json.mapM_map_of_read hread manifests.content.configMaps
  rwa [List.mapM_map] at hall

end ManifestSet

/-! ## The plan for fresh objects -/

namespace Job

open Content (Rollout)

variable {job : Job} {conversion : Conversion} {bound : List BoundVolume}
  {manifests : ManifestSet}

/-- Objects that could be put together have content of the project and a deployment for its pod. -/
theorem of_assemble (h : job.assemble conversion bound = .ok manifests) :
    Content.Objects.ofNormal job.contentScope conversion.project job.credentials? =
        .ok manifests.content ∧
      manifests.deployment = job.scope.deployment
        (.of conversion.project manifests.content bound job.podSetting) := by
  obtain ⟨content, hcontent, h⟩ := Except.bind_eq_ok.1 h
  obtain ⟨ingresses, -, h⟩ := Except.bind_eq_ok.1 h
  cases h
  exact ⟨hcontent, rfl⟩

/-- What a plan compares for the deployment of a pod: the hash of the pod, and what is found
behind its names together with the credentials. -/
theorem of_deployment_live (scope : AppScope) (pod : HashedPod) (secrets configMaps : List LiveMeta)
    (hpull : pod.spec.pullSecrets =
      if secrets.any (·.name? == some scope.component.pullSecret) then [scope.component.pullSecret]
      else []) :
    let plan := Rollout.of (scope.deployment pod).live secrets configMaps
    plan.recordedHash? = pod.hash? ∧
      plan.wantedHash? = Content.Refs.hash? (Content.Refs.ofSpec pod.spec).names
        (Content.indexLive secrets configMaps) ∧
      plan.livePullSecrets = plan.wantedPullSecrets := by
  intro plan
  refine ⟨?_, ?_, hpull⟩
  · have hannotation := SortedMap.bind_live
      (scope.deployment pod).spec.template.metadata.annotations Key.contentHash
    refine hannotation.trans ?_
    unfold AppScope.deployment
    cases pod.hash? with
    | none => rfl
    | some hash => exact SortedMap.get?_singleton _ _ _
  · -- The secrets for images that the plan puts in place of those of the pod are the same.
    have hdesired : { pod.spec.live with
        pullSecrets :=
          if secrets.any (·.name? == some scope.component.pullSecret) then
            [scope.component.pullSecret]
          else [] } = pod.spec.live := by
      rw [← hpull]
      rfl
    rw [← Content.Refs.ofLive_live, ← hdesired]
    rfl

/-- The pod asks for the secret for images exactly if there is one. -/
theorem pullSecrets_of_assemble (h : job.assemble conversion bound = .ok manifests) :
    manifests.deployment.spec.template.spec.pullSecrets =
      if manifests.content.pullSecret?.isSome then [job.component.pullSecret] else [] := by
  obtain ⟨hcontent, hdeployment⟩ := of_assemble h
  rw [hdeployment]
  show manifests.content.pullSecret?.toList.map (fun secret => secret.metadata.name) = _
  cases hpull : manifests.content.pullSecret? with
  | none => rfl
  | some secret =>
    have hname := Content.Objects.name_of_mem_pullSecret? hcontent (Option.mem_toList.2 hpull)
    show [secret.metadata.name] = [job.component.pullSecret]
    rw [hname]
    rfl

/-- The plan for the objects of an app as the cluster shows them finds the hash that it wants, and
the secrets for images as well. -/
theorem plan_of_assemble (h : job.assemble conversion bound = .ok manifests) :
    let plan := Rollout.of manifests.deployment.live
      (manifests.content.secrets.map fun object => object.metadata.live)
      (manifests.content.configMaps.map fun object => object.metadata.live)
    plan.wantedHash? = plan.recordedHash? ∧ plan.livePullSecrets = plan.wantedPullSecrets := by
  obtain ⟨hcontent, hdeployment⟩ := of_assemble h
  have hpull := pullSecrets_of_assemble h
  have hany : ((manifests.content.secrets.map fun object => object.metadata.live).any
      (·.name? == some job.component.pullSecret)) = manifests.content.pullSecret?.isSome := by
    rw [List.any_map, ← Content.Objects.any_isPullSecret hcontent]
    rfl
  have hindex := Content.indexLive_live (Content.Objects.secrets_have_names hcontent)
    (Content.Objects.configMaps_have_names hcontent)
  rw [← hany, hdeployment] at hpull
  obtain ⟨hrecorded, hwanted, hsame⟩ := of_deployment_live job.scope
    (.of conversion.project manifests.content bound job.podSetting) _
    (manifests.content.configMaps.map fun object => object.metadata.live) hpull
  rw [hdeployment]
  refine ⟨?_, hsame⟩
  rw [hrecorded, hwanted, hindex]
  rfl

end Job

namespace Progress

open Content (Rollout)

/-- Right after the objects of an app were built, by whatever phases, nothing has to change: the
deployment, the secrets and the config maps are read back from their JSON, and the plan for them
wants the hash that is recorded, has no operations and no merge patch. -/
theorem changesNothing_after_build {job : Job} {progress : Progress} {delivery : Delivery}
    (h : (progress.build job).2 = .ok delivery) :
    ∃ deployment secrets configMaps,
      LiveDeployment.ofJson? delivery.manifests.deployment.toJson = some deployment ∧
      delivery.manifests.readBack? .secret = some secrets ∧
      delivery.manifests.readBack? .configMap = some configMaps ∧
      let plan := Rollout.of deployment secrets configMaps
      plan.wantedHash? = plan.recordedHash? ∧ plan.changesNothing = true ∧
        plan.operations = [] ∧ plan.mergePatch? = none := by
  obtain ⟨conversion, bound, hassemble⟩ : ∃ conversion bound,
      job.assemble conversion bound = .ok delivery.manifests := by
    unfold build at h
    split at h
    · cases h
    · cases h
    · cases h
    · rename_i conversion bound hphase
      refine ⟨conversion, bound, ?_⟩
      split at h
      · cases h
      · rename_i manifests hmanifests
        cases h
        exact hmanifests
  obtain ⟨hhash, hpull⟩ := Job.plan_of_assemble hassemble
  refine ⟨_, _, _, delivery.manifests.deployment.ofJson?_toJson,
    delivery.manifests.readBack?_secret, delivery.manifests.readBack?_configMap, hhash, ?_⟩
  have hnothing : (Rollout.of delivery.manifests.deployment.live
      (delivery.manifests.content.secrets.map fun object => object.metadata.live)
      (delivery.manifests.content.configMaps.map fun object => object.metadata.live)).changesNothing
        = true := by
    rw [Rollout.changesNothing, Rollout.hashChanges, Rollout.pullSecretsChange, hhash, hpull]
    simp
  exact ⟨hnothing, (Rollout.operations_eq_nil_iff _).2 hnothing,
    (Rollout.mergePatch?_eq_none_iff _).2 hnothing⟩

/-- An app with one service that has an environment file. -/
def shopJob : Job where
  target :=
    { workspace := "team"
      provider := "home"
      driver := "local"
      cluster := .unknown
      app :=
        { name := "shop"
          compose := "services:\n  web:\n    image: nginx\n    env_file: web.env\n"
          baseDir? := none
          volumes := []
          ingress := .none
          nodes := .any
          admissions := [] } }
  settings := .minimal
  resolver := fun _ _ volume => .error (.volumeClass volume.name)
  credentials? := none

/-- The app after its compose document was converted and its volumes, of which there are none, were
bound. -/
def shopProgress : Progress :=
  let tree : SourceTree := ⟨["srv"], [(["srv", "web.env"], .file (Text.utf8 "A=1\n"))]⟩
  ((start.convert shopJob tree).1.bind shopJob []).1

/-- After the build of the shop there is nothing left to change. -/
theorem changesNothing_after_build_of_shop :
    ∃ delivery, (shopProgress.build shopJob).2 = .ok delivery ∧
      ∃ deployment secrets configMaps,
        LiveDeployment.ofJson? delivery.manifests.deployment.toJson = some deployment ∧
        (Rollout.of deployment secrets configMaps).changesNothing = true := by
  have hok : (shopProgress.build shopJob).2.toBool = true := by decide +kernel
  cases hbuild : (shopProgress.build shopJob).2 with
  | error error =>
    rw [hbuild] at hok
    cases hok
  | ok delivery =>
    obtain ⟨deployment, secrets, configMaps, hread, -, -, -, hnothing, -⟩ :=
      changesNothing_after_build hbuild
    exact ⟨delivery, rfl, deployment, secrets, configMaps, hread, hnothing⟩

end Progress

end ComposeCluster

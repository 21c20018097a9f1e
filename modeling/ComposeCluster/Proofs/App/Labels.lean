import ComposeCluster.Proofs.App.CreationOrder

/-!
# Labels and selectors

All objects of an app are found by the labels of the app, whatever they are called themselves
(`Job.IsLabelled`): metadata starts out with labels of its own, and those of the app are put in
their place. It is enough to know that the labels that an object is given include those of the app
(`SortedMap.Within`); each block of objects is given one of three sets of labels, and they all do.
Selectors ask for a part of the labels of a component, which are also the labels of its pods.
-/

set_option autoImplicit false

namespace ComposeCluster

/-! ## Maps within maps -/

namespace SortedMap

variable {κ ν : Type} [Ord κ]

/-- Each entry of the map is an entry of the other one. -/
def Within (map other : SortedMap κ ν) : Prop :=
  ∀ key value, map.get? key = some value → other.get? key = some value

variable {map other : SortedMap κ ν}

/-- A map is within itself. -/
theorem Within.refl (map : SortedMap κ ν) : map.Within map := fun _ _ h => h

variable [Std.TransOrd κ] [Std.LawfulEqOrd κ] [DecidableEq κ]

/-- A map that is within another one is within each union that prefers the other one. -/
theorem Within.union (h : map.Within other) (found : SortedMap κ ν) :
    map.Within (found.union other) := by
  intro key value hvalue
  rw [get?_union, h key value hvalue, Option.some_or]

/-- An entry with a new key may be added around a map. -/
theorem Within.insert (h : map.Within other) {key : κ} (hnew : map.get? key = none) (value : ν) :
    map.Within (other.insert key value) := by
  intro k v hv
  have hne : k ≠ key := by
    rintro rfl
    rw [hnew] at hv
    cases hv
  rw [get?_insert, if_neg hne, h k v hv]

end SortedMap

namespace Component

variable (c : Component) (id : Identity)

/-- The labels of an app are among those of its component. -/
theorem baseLabels_within_labels : (c.baseLabels id).Within (c.labels id) := by
  have hselector : (c.baseLabels id).get? Key.selector = none := by
    rw [baseLabels, SortedMap.get?_ofList]
    rfl
  have hcomponent : (c.baseLabels id).get? Key.component = none := by
    rw [baseLabels, SortedMap.get?_ofList]
    rfl
  have hbase : (c.baseLabels id).Within ((c.baseLabels id).union c.selector) :=
    (SortedMap.Within.refl _).insert hselector c.resource
  exact hbase.insert hcomponent c.name

/-- The labels of an app are among those of a service without an address. -/
theorem baseLabels_within_headlessLabels : (c.baseLabels id).Within (c.headlessLabels id) := by
  have hheadless : (c.baseLabels id).get? Key.headless = none := by
    rw [baseLabels, SortedMap.get?_ofList]
    rfl
  exact (c.baseLabels_within_labels id).insert hheadless "true"

/-- The selector of a component asks for labels of this component. -/
theorem selector_within_labels : c.selector.Within (c.labels id) :=
  ((SortedMap.Within.refl c.selector).union (c.baseLabels id)).insert rfl c.name

/-- The selector of a component asks for something. -/
theorem selector_ne_empty : c.selector ≠ .empty := by
  intro h
  have hentries := congrArg SortedMap.entries h
  cases hentries

end Component

/-! ## Metadata -/

section Metadata

variable {map : TextMap}

/-- Labels are among those of metadata that was given them. -/
theorem Meta.within_withLabels {labels : TextMap} (h : map.Within labels) (data : Meta) :
    map.Within (data.withLabels labels).labels := h.union data.labels

/-- An annotation does not change labels. -/
theorem Meta.within_annotate {data : Meta} (h : map.Within data.labels) (key value : String) :
    map.Within (data.annotate key value).labels := h

/-- Metadata of content has the labels of its scope. -/
theorem Content.Scope.within_metadata {scope : Content.Scope} (h : map.Within scope.labels)
    (name digest : String) : map.Within (scope.metadata name digest).labels :=
  Meta.within_annotate (Meta.within_withLabels h _) _ _

/-- Metadata of an app has the labels of its scope. -/
theorem AppScope.within_metadata {scope : AppScope} (h : map.Within scope.labels) (name : String) :
    map.Within (scope.metadata name).labels :=
  Meta.within_withLabels h _

/-- Metadata of an ingress has the labels of its scope. -/
theorem AppIngresses.within_metadata {scope : AppScope} (h : map.Within scope.labels)
    (ending : String) : map.Within (metadata scope ending).labels :=
  Meta.within_annotate (Meta.within_annotate (scope.within_metadata h _) _ _) _ _

/-- Metadata of the custom ingress has the labels of its scope. -/
theorem AppIngresses.within_customMetadata {scope : AppScope} (h : map.Within scope.labels)
    (certResolver? : Option String) : map.Within (customMetadata scope certResolver?).labels := by
  cases certResolver? with
  | none => exact within_metadata h _
  | some resolver => exact Meta.within_annotate (within_metadata h _) _ _

end Metadata

/-! ## Selecting -/

/-- What a requirement asks of labels. -/
def LabelRequirement.Holds (requirement : LabelRequirement) (labels : TextMap) : Prop :=
  match requirement.operator with
  | "In" => ∃ value ∈ requirement.values, labels.get? requirement.key = some value
  | "NotIn" => ∀ value ∈ requirement.values, labels.get? requirement.key ≠ some value
  | "Exists" => labels.contains requirement.key = true
  | "DoesNotExist" => labels.contains requirement.key = false
  | _ => False

/-- An object with these labels is selected. -/
structure LabelSelector.Matches (selector : LabelSelector) (labels : TextMap) : Prop where
  within : selector.matchLabels.Within labels
  holds : ∀ requirement ∈ selector.matchExpressions, requirement.Holds labels

/-- A service leads to the pods with these labels. Without a selector it leads to none. -/
def Service.Selects (service : Service) (labels : TextMap) : Prop :=
  service.spec.selector ≠ .empty ∧ service.spec.selector.Within labels

namespace Job

/-- Labels that say which app an object is of, and which instance of the app. -/
structure IsLabelled (job : Job) (labels : TextMap) : Prop where
  name : labels.get? Key.name = some job.target.app.name
  instanceName : labels.get? Key.instanceName =
    some (job.target.app.name ++ "-" ++ job.identity.appInstance)
  manager : labels.get? Key.managedBy = some "kompox"
  instanceHash : labels.get? Key.appInstanceHash = some job.identity.appInstance
  idHash : labels.get? Key.appIdHash = some job.identity.appId

/-- Labels that include those of the app say which app and which instance it is. -/
theorem isLabelled_of_within {job : Job} {labels : TextMap}
    (h : job.scope.baseLabels.Within labels) : job.IsLabelled labels := by
  have hbase (key value : String) (hfind : findEntry key
      [(Key.appIdHash, job.identity.appId), (Key.appInstanceHash, job.identity.appInstance),
        (Key.managedBy, Key.manager),
        (Key.instanceName, job.target.app.name ++ "-" ++ job.identity.appInstance),
        (Key.name, job.target.app.name)] = some value) : labels.get? key = some value :=
    h key value ((SortedMap.get?_ofList _ key).trans hfind)
  exact ⟨hbase _ _ rfl, hbase _ _ rfl, hbase _ _ rfl, hbase _ _ rfl, hbase _ _ rfl⟩

/-- An object is of its kind, and its labels include those of the app. -/
def Marks (job : Job) (object : Manifest) : Prop :=
  ∃ data : Meta, object.header = .of object.objectKind data ∧
    job.scope.baseLabels.Within data.labels

/-- The labels of the component include those of the app. -/
theorem within_labels (job : Job) : job.scope.baseLabels.Within job.scope.labels :=
  job.component.baseLabels_within_labels job.identity

namespace Assembles

open ManifestSet (policyObjects contentObjects)

variable {job : Job} {tree : SourceTree} {bindings : List VolumeBinding}
  {project : Compose.Project} {conversion : Conversion} {manifests : ManifestSet}
  {object : Manifest}

/-- Policies and what belongs to them are marked. -/
theorem marks_policies (h : job.Assembles tree bindings project conversion manifests)
    (hmem : object ∈ manifests.policies?.toList.flatMap policyObjects) : job.Marks object := by
  rw [h.policies, policies?] at hmem
  split at hmem
  · simp only [Option.toList_some, List.flatMap_singleton, policyObjects, List.mem_cons,
      List.not_mem_nil, or_false] at hmem
    rcases hmem with rfl | rfl | rfl | rfl <;>
      exact ⟨AppPolicies.metadata _ _, rfl, Meta.within_withLabels (.refl _) _⟩
  · cases hmem

/-- Volumes and claims are marked. -/
theorem marks_bound (h : job.Assembles tree bindings project conversion manifests)
    {bound : BoundVolume} (hmem : bound ∈ manifests.bound) :
    job.Marks (.persistentVolume bound.volume) ∧
      job.Marks (.persistentVolumeClaim bound.claim) := by
  obtain ⟨binding, -, -, volumeClass, handle, size, hvolume, hclaim⟩ :=
    exists_left_of_forall₂ h.bound hmem
  rw [hvolume, hclaim]
  exact ⟨⟨(Meta.clusterScoped _).withLabels _, rfl, Meta.within_withLabels (.refl _) _⟩,
    ⟨(Meta.namespaced _ _).withLabels _, rfl, Meta.within_withLabels (.refl _) _⟩⟩

/-- Config maps and secrets are marked. -/
theorem marks_content (h : job.Assembles tree bindings project conversion manifests)
    (hmem : object ∈ contentObjects manifests.content) : job.Marks object := by
  have hlabels : job.scope.baseLabels.Within job.contentScope.labels := job.within_labels
  obtain ⟨hpull, hconfigMaps, hconfigSecrets, henvSecrets⟩ := Content.Objects.of_ofNormal h.content
  rw [contentObjects, hpull, hconfigMaps, hconfigSecrets, henvSecrets] at hmem
  simp only [List.mem_append, List.mem_map, Option.mem_toList, Option.map_eq_some_iff,
    or_assoc] at hmem
  rcases hmem with ⟨_, ⟨_, -, rfl⟩, rfl⟩ | ⟨_, ⟨_, -, rfl⟩, rfl⟩ | ⟨_, ⟨_, -, rfl⟩, rfl⟩ |
    ⟨_, ⟨env, -, rfl⟩, rfl⟩
  case inr.inr.inr =>
    exact ⟨(job.contentScope.metadata _ _).annotate _ _, rfl,
      Meta.within_annotate (Content.Scope.within_metadata hlabels _ _) _ _⟩
  all_goals exact ⟨job.contentScope.metadata _ _, rfl, Content.Scope.within_metadata hlabels _ _⟩

/-- The service and those that only give names select the pods of the component. -/
theorem of_mem_services (h : job.Assembles tree bindings project conversion manifests)
    {service : Service} (hmem : service ∈ manifests.service?.toList ++ manifests.headlessServices) :
    job.Marks (.service service) ∧ service.spec.selector = job.component.selector := by
  rw [List.mem_append, Option.mem_toList, h.service, h.headless] at hmem
  rcases hmem with hservice | hheadless
  · unfold AppScope.service? at hservice
    dsimp only at hservice
    split at hservice
    · cases hservice
    · cases hservice
      exact ⟨⟨job.scope.metadata _, rfl, AppScope.within_metadata job.within_labels _⟩, rfl⟩
  · split at hheadless
    · obtain ⟨name, -, rfl⟩ := List.mem_map.1 hheadless
      exact ⟨⟨(Meta.namespaced _ _).withLabels _, rfl, Meta.within_withLabels
        (job.component.baseLabels_within_headlessLabels job.identity) _⟩, rfl⟩
    · cases hheadless

/-- Ingresses are marked. -/
theorem marks_ingresses (h : job.Assembles tree bindings project conversion manifests)
    {ingress : Ingress} (hmem : ingress ∈ manifests.ingresses.toList) :
    job.Marks (.ingress ingress) := by
  rcases h.ingresses_cases with hnone | ⟨-, hmade⟩
  · rw [hnone] at hmem
    cases hmem
  · obtain ⟨hdefault, hcustom⟩ := AppIngresses.of_ofRoutes hmade
    rw [AppIngresses.toList, List.mem_append, Option.mem_toList, Option.mem_toList] at hmem
    rcases hmem with hmem | hmem
    · exact ⟨_, (hdefault ingress hmem).1, AppIngresses.within_metadata job.within_labels _⟩
    · exact ⟨_, (hcustom ingress hmem).1, AppIngresses.within_customMetadata job.within_labels _⟩

/-- All objects of an app are marked. -/
theorem marks_objects (h : job.Assembles tree bindings project conversion manifests)
    (hmem : object ∈ manifests.objects) : job.Marks object := by
  simp only [ManifestSet.objects, List.mem_append, List.mem_singleton, List.mem_map,
    or_assoc] at hmem
  rcases hmem with rfl | hpolicy | ⟨bound, hbound, rfl⟩ | ⟨bound, hbound, rfl⟩ | hcontent | rfl |
    ⟨service, hservice, rfl⟩ | ⟨service, hheadless, rfl⟩ | ⟨ingress, hingress, rfl⟩
  · rw [h.nameSpace]
    exact ⟨(((Meta.clusterScoped _).withLabels _).annotate _ _).annotate _ _, rfl,
      Meta.within_annotate (Meta.within_annotate (Meta.within_withLabels (.refl _) _) _ _) _ _⟩
  · exact h.marks_policies hpolicy
  · exact (h.marks_bound hbound).1
  · exact (h.marks_bound hbound).2
  · exact h.marks_content hcontent
  · rw [h.deployment]
    exact ⟨job.scope.metadata _, rfl, AppScope.within_metadata job.within_labels _⟩
  · exact (h.of_mem_services (List.mem_append_left _ hservice)).1
  · exact (h.of_mem_services (List.mem_append_right _ hheadless)).1
  · exact h.marks_ingresses hingress

/-- Just the namespace and the volumes belong to the cluster. -/
theorem nameSpace?_eq_none_iff (h : job.Assembles tree bindings project conversion manifests)
    (hmem : object ∈ manifests.objects) :
    object.nameSpace? = none ↔
      object.objectKind = .nameSpace ∨ object.objectKind = .persistentVolume := by
  obtain ⟨data, hheader, -⟩ := h.marks_objects hmem
  have hin := h.isIn_of_mem_objects hmem
  have hkind : object.ref.kind = object.objectKind.kind := by
    rw [Manifest.ref, hheader]
    rfl
  have hnamed : (object.objectKind.kind = "Namespace" ∨
      object.objectKind.kind = "PersistentVolume") ↔
        object.objectKind = .nameSpace ∨ object.objectKind = .persistentVolume := by
    cases object <;> dsimp only [Manifest.objectKind] <;> decide
  rw [ObjectRef.IsIn, hkind, if_congr hnamed rfl rfl] at hin
  show object.ref.nameSpace? = none ↔ _
  rw [hin]
  split
  case isTrue hcluster => exact iff_of_true rfl hcluster
  case isFalse hlocal => exact iff_of_false (Option.some_ne_none _) hlocal

end Assembles

end Job

namespace Progress

variable {job : Job} {calls : List Call} {turn : Turn} {delivery : Delivery}

/-- All objects of an app carry its labels. The deployment, the service and the services that only
give names select the pods of the template, and not because they select all. Just the namespace and
the volumes are in no namespace. -/
theorem labels_and_selectors_agree (hturn : turn ∈ turns job calls start)
    (hreply : turn.reply = .ok (some delivery)) :
    (∀ object ∈ delivery.manifests.objects, job.IsLabelled object.header.metadata.labels) ∧
    (let deployment := delivery.manifests.deployment.spec
     let pods := deployment.template.metadata.labels
     deployment.selector ≠ .everything ∧ deployment.selector.Matches pods ∧
      ∀ service ∈ delivery.manifests.service?.toList ++ delivery.manifests.headlessServices,
        service.Selects pods) ∧
    ∀ object ∈ delivery.manifests.objects, object.nameSpace? = none ↔
      object.objectKind = .nameSpace ∨ object.objectKind = .persistentVolume := by
  obtain ⟨tree, bindings, hmakes, -⟩ := makes_of_delivered hturn hreply
  obtain ⟨project, conversion, -, h⟩ := hmakes.exists_parts
  refine ⟨fun object hmem => ?labels, ⟨?proper, ?deployment, fun service hmem => ?service⟩,
    fun object => h.nameSpace?_eq_none_iff⟩
  case labels =>
    obtain ⟨data, hheader, hbase⟩ := h.marks_objects hmem
    rw [hheader]
    exact Job.isLabelled_of_within hbase
  case proper =>
    rw [h.deployment]
    intro heq
    exact job.component.selector_ne_empty (congrArg LabelSelector.matchLabels heq)
  case deployment =>
    rw [h.deployment]
    exact ⟨job.component.selector_within_labels job.identity, fun _ hmem => nomatch hmem⟩
  case service =>
    rw [Service.Selects, (h.of_mem_services hmem).2, h.deployment]
    exact ⟨job.component.selector_ne_empty, job.component.selector_within_labels job.identity⟩

/-- In the store all objects say whose they are, and the service selects the pods. -/
theorem labels_and_selectors_agree_in_store :
    ∃ turn ∈ turns storeJob storeCalls start, ∃ delivery, turn.reply = .ok (some delivery) ∧
      (∀ object ∈ delivery.manifests.objects,
        object.header.metadata.labels.get? Key.name = some "store") ∧
      ∃ service, delivery.manifests.service? = some service ∧
        service.Selects delivery.manifests.deployment.spec.template.metadata.labels := by
  have hok : ((turns storeJob storeCalls start).any fun turn =>
      turn.delivery?.any (·.manifests.service?.isSome)) = true := by
    decide +kernel
  obtain ⟨turn, hturn, delivery, hreply, hsome⟩ := Turn.exists_delivered hok
  obtain ⟨service, hservice⟩ := Option.isSome_iff_exists.1 hsome
  obtain ⟨hlabels, ⟨-, -, hservices⟩, -⟩ := labels_and_selectors_agree hturn hreply
  have hmem : service ∈ delivery.manifests.service?.toList ++ delivery.manifests.headlessServices :=
    List.mem_append_left _ (Option.mem_toList.2 hservice)
  exact ⟨turn, hturn, delivery, hreply, fun object hobject => (hlabels object hobject).name,
    service, hservice, hservices service hmem⟩

end Progress

end ComposeCluster

import ComposeCluster.Content.Reference
import ComposeCluster.Kube.Workload
import ComposeCluster.Proofs.Kube.Live

/-!
# Generated objects in a cluster

A generated object that is sent to a cluster and read back is seen as a live one. What is left of
it is its live view: the name and the annotations of any object (`Meta.live`), and of a deployment
what its pods take their content from (`Deployment.live`). Each view is what the JSON of the
object is read as, and a pod and its view refer to the same objects (`Refs.ofLive_live`).
-/

set_option autoImplicit false

namespace ComposeCluster

/-! ## Fields of records -/

namespace Json

/-- Written items are read as their views if each is. -/
theorem mapM_map_of_read {α β γ : Type} {write : α → β} {read : β → Option γ} {view : α → γ}
    (hread : ∀ a, read (write a) = some (view a)) (items : List α) :
    (items.map write).mapM read = some (items.map view) := by
  induction items with
  | nil => rfl
  | cons item rest ih =>
    rw [List.map_cons, List.mapM_cons, hread, ih]
    rfl

variable {α β : Type} {write : α → Json} {read : Json → Option β} {view : α → β}

/-- A written list is read as the views of its items. -/
theorem asList?_map (hread : ∀ a, read (write a) = some (view a)) (items : List α) :
    asList? read (.arr (items.map write)) = some (items.map view) :=
  mapM_map_of_read hread items

/-- A list that is left out when it is empty is read as it is or, when empty, as missing. -/
theorem exists_read_listUnlessEmpty (hread : ∀ a, read (write a) = some (view a))
    (items : List α) :
    ∃ items?, ((listUnlessEmpty write items).getD .null).asOption? (asList? read) = some items? ∧
      items?.getD [] = items.map view := by
  cases items with
  | nil => exact ⟨none, rfl, rfl⟩
  | cons item rest =>
    have hlist := asList?_map hread (item :: rest)
    exact ⟨_, asOption?_eq_some_some.2 ⟨Json.noConfusion, hlist⟩, rfl⟩

/-- An optional field that is not written as null is read as it is. -/
theorem asOption?_map (hread : ∀ a, read (write a) = some (view a))
    (hpresent : ∀ a, write a ≠ .null) (value? : Option α) :
    ((value?.map write).getD .null).asOption? read = some (value?.map view) := by
  cases value? with
  | none => rfl
  | some value => exact asOption?_eq_some_some.2 ⟨hpresent value, hread value⟩

/-- A record is never null. -/
theorem record_ne_null (fields : List (String × Option Json)) : record fields ≠ .null :=
  Json.noConfusion

/-- A written map of texts is read as it was. -/
theorem asTextMap?_ofMap (map : TextMap) : asTextMap? (ofMap .str map) = some map := by
  have hsorted : SortedEntries (map.entries.map fun entry => (entry.1, Json.str entry.2)) :=
    map.sorted.of_keys (by rw [List.map_map]; rfl)
  have hread : ∀ entry : String × String,
      entryOfMember? asText? (entry.1, .str entry.2) = some (id entry) := fun _ => rfl
  refine (asMap?_eq_some_iff hsorted).2 ?_
  rw [mapM_map_of_read hread, List.map_id]

/-- A map that is left out when it is empty is read as missing then. -/
theorem asOption?_mapUnlessEmpty (map : TextMap) :
    ((mapUnlessEmpty map).getD .null).asOption? asTextMap? =
      some (if map.isEmpty then none else some map) := by
  unfold mapUnlessEmpty
  split
  · rfl
  · exact asOption?_eq_some_some.2 ⟨Json.noConfusion, asTextMap?_ofMap map⟩

end Json

/-! ## Metadata -/

/-- Annotations as the cluster shows them. -/
def SortedMap.live (annotations : TextMap) : Option TextMap :=
  if annotations.isEmpty then none else some annotations

/-- Annotations that a cluster does not show are empty, so looking a key up gives the same. -/
theorem SortedMap.bind_live (annotations : TextMap) (key : String) :
    (SortedMap.live annotations).bind (·.get? key) = annotations.get? key := by
  unfold SortedMap.live
  split
  · rename_i hempty
    rw [SortedMap.isEmpty_eq_true.1 hempty]
    rfl
  · rfl

namespace Meta

/-- What metadata is read back as. -/
def live (data : Meta) : LiveMeta := ⟨some data.name, SortedMap.live data.annotations⟩

/-- Metadata is read back as its live view. -/
theorem ofJson?_toJson (data : Meta) : LiveMeta.ofJson? data.toJson = some data.live := by
  show LiveMeta.ofJson? (.obj data.toJson.members) = _
  rw [LiveMeta.ofJson?_obj, toJson, Json.optionalIn_record _ _ (by simp),
    Json.optionalIn_record _ _ (by simp)]
  simp [findEntry, Json.asText?, Json.asOption?_mapUnlessEmpty, live, SortedMap.live]

/-- Any object is read back as its metadata. -/
theorem ofObject?_of_fields {header : Header} {fields : List (String × Option Json)}
    (hnodup : ((header.fields ++ fields).map (·.1)).Nodup) :
    LiveMeta.ofObject? (.record (header.fields ++ fields)) = some header.metadata.live := by
  show LiveMeta.ofObject? (.obj (Json.record (header.fields ++ fields)).members) = _
  have hmetadata : Fields.optionalIn "metadata" LiveMeta.ofJson?
      (Json.record (header.fields ++ fields)).members = some (some header.metadata.live) := by
    rw [Json.optionalIn_record _ _ hnodup]
    simp only [Header.fields, List.cons_append, findEntry]
    exact Json.asOption?_eq_some_some.2 ⟨Json.record_ne_null _, ofJson?_toJson _⟩
  simp [LiveMeta.ofObject?, Json.readLive?, Fields.run_optional, hmetadata]

end Meta

/-- A secret is read back as its live metadata. -/
theorem Secret.ofObject?_toJson (object : Secret) :
    LiveMeta.ofObject? object.toJson = some object.metadata.live :=
  Meta.ofObject?_of_fields (by simp [Header.fields])

/-- A config map is read back as its live metadata. -/
theorem ConfigMap.ofObject?_toJson (object : ConfigMap) :
    LiveMeta.ofObject? object.toJson = some object.metadata.live :=
  Meta.ofObject?_of_fields (by simp [Header.fields])

/-! ## Pods -/

namespace EnvSourceRef

/-- A reference to an object with variables is read back as its name. -/
theorem nameOfJson?_toJson (ref : EnvSourceRef) :
    LiveEnvSource.nameOfJson? ref.toJson = some ref.name := by
  show LiveEnvSource.nameOfJson? (.obj ref.toJson.members) = _
  rw [LiveEnvSource.nameOfJson?_obj, toJson, Json.optionalIn_record _ _ (by simp)]
  simp [findEntry, Json.asText?]

end EnvSourceRef

namespace EnvSource

def live (source : EnvSource) : LiveEnvSource :=
  ⟨source.secret?.map (·.name), source.configMap?.map (·.name)⟩

/-- A source of environment is read back as its live view. -/
theorem ofJson?_toJson (source : EnvSource) :
    LiveEnvSource.ofJson? source.toJson = some source.live := by
  have hsecret := Json.asOption?_map EnvSourceRef.nameOfJson?_toJson
    (fun _ => Json.record_ne_null _) source.secret?
  have hconfigMap := Json.asOption?_map EnvSourceRef.nameOfJson?_toJson
    (fun _ => Json.record_ne_null _) source.configMap?
  show LiveEnvSource.ofJson? (.obj source.toJson.members) = _
  rw [LiveEnvSource.ofJson?_obj, toJson, Json.optionalIn_record _ _ (by simp),
    Json.optionalIn_record _ _ (by simp)]
  simp [findEntry, hsecret, hconfigMap, live]

end EnvSource

namespace Container

def live (container : Container) : LiveContainer :=
  ⟨container.name, container.envFrom.map EnvSource.live⟩

/-- A container is read back as its live view. -/
theorem ofJson?_toJson (container : Container) :
    LiveContainer.ofJson? container.toJson = some container.live := by
  obtain ⟨envFrom?, henv, henvFrom⟩ :=
    Json.exists_read_listUnlessEmpty EnvSource.ofJson?_toJson container.envFrom
  show LiveContainer.ofJson? (.obj container.toJson.members) = _
  rw [LiveContainer.ofJson?_obj, toJson, Json.optionalIn_record _ _ (by simp),
    Json.optionalIn_record _ _ (by simp)]
  simp [findEntry, henv, henvFrom, Json.asText?, live]

end Container

namespace DataSource

/-- A projected config map is read back as its name. -/
theorem nameOfJson?_toJson (source : DataSource) :
    LiveEnvSource.nameOfJson? (source.toJson "name") = some source.object := by
  show LiveEnvSource.nameOfJson? (.obj (source.toJson "name").members) = _
  rw [LiveEnvSource.nameOfJson?_obj, toJson, Json.optionalIn_record _ _ (by simp)]
  simp [findEntry, Json.asText?]

/-- A projected secret is read back as its name. -/
theorem secretOfJson?_toJson (source : DataSource) :
    LiveVolume.secretOfJson? (source.toJson "secretName") = some (some source.object) := by
  show LiveVolume.secretOfJson? (.obj (source.toJson "secretName").members) = _
  rw [LiveVolume.secretOfJson?_obj, toJson, Json.optionalIn_record _ _ (by simp)]
  simp [findEntry, Json.asText?]

end DataSource

namespace Volume

def live (volume : Volume) : LiveVolume :=
  ⟨volume.secret?.map (·.object), volume.configMap?.map (·.object)⟩

/-- A volume is read back as its live view. -/
theorem ofJson?_toJson (volume : Volume) :
    LiveVolume.ofJson? volume.toJson = some volume.live := by
  have hsecret := Json.asOption?_map DataSource.secretOfJson?_toJson
    (fun _ => Json.record_ne_null _) volume.secret?
  have hconfigMap := Json.asOption?_map DataSource.nameOfJson?_toJson
    (fun _ => Json.record_ne_null _) volume.configMap?
  show LiveVolume.ofJson? (.obj volume.toJson.members) = _
  rw [LiveVolume.ofJson?_obj, toJson, Json.optionalIn_record _ _ (by simp),
    Json.optionalIn_record _ _ (by simp)]
  have hjoin : (volume.secret?.map fun source => some source.object).join =
      volume.secret?.map (·.object) := by
    cases volume.secret? <;> rfl
  simp [findEntry, hsecret, hconfigMap, hjoin, live]

end Volume

namespace PodSpec

/-- What a pod is read back as. -/
def live (spec : PodSpec) : LivePod :=
  ⟨spec.pullSecrets, spec.containers.map Container.live, spec.volumes.map Volume.live⟩

/-- A pod is read back as its live view. -/
theorem ofJson?_toJson (spec : PodSpec) : LivePod.ofJson? spec.toJson = some spec.live := by
  have hreference : ∀ name, LiveEnvSource.nameOfJson? (referenceToJson name) = some (id name) :=
    LivePod.nameOfJson?_reference
  obtain ⟨pull?, hpull, hpullSecrets⟩ :=
    Json.exists_read_listUnlessEmpty hreference spec.pullSecrets
  have hcontainers := Json.asList?_map Container.ofJson?_toJson spec.containers
  obtain ⟨volumes?, hvolumes?, hvolumes⟩ :=
    Json.exists_read_listUnlessEmpty Volume.ofJson?_toJson spec.volumes
  show LivePod.ofJson? (.obj spec.toJson.members) = _
  rw [LivePod.ofJson?_obj, toJson, Json.optionalIn_record _ _ (by simp),
    Json.optionalIn_record _ _ (by simp), Json.optionalIn_record _ _ (by simp)]
  simp [findEntry, hpull, hpullSecrets, hcontainers, hvolumes?, hvolumes, live]

end PodSpec

/-- A pod and what it is read back as refer to the same objects. -/
theorem Content.Refs.ofLive_live (spec : PodSpec) :
    Content.Refs.ofLive spec.live = Content.Refs.ofSpec spec := by
  simp [ofLive, ofSpec, PodSpec.live, Container.live, EnvSource.live, Volume.live,
    Function.comp_def, List.flatMap_map]

/-! ## Deployments -/

namespace PodMeta

def live (data : PodMeta) : LiveMeta := ⟨none, SortedMap.live data.annotations⟩

/-- The metadata of pods is read back as its live view. -/
theorem ofJson?_toJson (data : PodMeta) : LiveMeta.ofJson? data.toJson = some data.live := by
  show LiveMeta.ofJson? (.obj data.toJson.members) = _
  rw [LiveMeta.ofJson?_obj, toJson, Json.optionalIn_record _ _ (by simp),
    Json.optionalIn_record _ _ (by simp)]
  simp [findEntry, Json.asOption?_mapUnlessEmpty, live, SortedMap.live]

end PodMeta

namespace PodTemplate

def live (template : PodTemplate) : LiveTemplate :=
  ⟨some template.metadata.live, some template.spec.live⟩

/-- A template is read back as its live view. -/
theorem ofJson?_toJson (template : PodTemplate) :
    LiveTemplate.ofJson? template.toJson = some template.live := by
  have hmetadata : template.metadata.toJson.asOption? LiveMeta.ofJson? =
      some (some template.metadata.live) :=
    Json.asOption?_eq_some_some.2 ⟨Json.record_ne_null _, template.metadata.ofJson?_toJson⟩
  have hspec : template.spec.toJson.asOption? LivePod.ofJson? =
      some (some template.spec.live) :=
    Json.asOption?_eq_some_some.2 ⟨Json.record_ne_null _, template.spec.ofJson?_toJson⟩
  show LiveTemplate.ofJson? (.obj template.toJson.members) = _
  rw [LiveTemplate.ofJson?_obj, toJson, Json.optionalIn_record _ _ (by simp),
    Json.optionalIn_record _ _ (by simp)]
  simp [findEntry, hmetadata, hspec, live]

end PodTemplate

/-- The inner part of a deployment is read back as its live template. -/
theorem DeploymentSpec.templateOfJson?_toJson (spec : DeploymentSpec) :
    LiveDeployment.templateOfJson? spec.toJson = some (some spec.template.live) := by
  have htemplate : spec.template.toJson.asOption? LiveTemplate.ofJson? =
      some (some spec.template.live) :=
    Json.asOption?_eq_some_some.2 ⟨Json.record_ne_null _, spec.template.ofJson?_toJson⟩
  show LiveDeployment.templateOfJson? (.obj spec.toJson.members) = _
  rw [LiveDeployment.templateOfJson?_obj, toJson, Json.optionalIn_record _ _ (by simp)]
  simp [findEntry, htemplate]

namespace Deployment

/-- What a deployment is read back as. -/
def live (object : Deployment) : LiveDeployment :=
  ⟨some object.metadata.name, some object.spec.template.live⟩

/-- A deployment is read back as its live view. -/
theorem ofJson?_toJson (object : Deployment) :
    LiveDeployment.ofJson? object.toJson = some object.live := by
  have hmetadata : object.metadata.toJson.asOption? LiveMeta.ofJson? =
      some (some object.metadata.live) :=
    Json.asOption?_eq_some_some.2 ⟨Json.record_ne_null _, object.metadata.ofJson?_toJson⟩
  have hspec : object.spec.toJson.asOption? LiveDeployment.templateOfJson? =
      some (some (some object.spec.template.live)) :=
    Json.asOption?_eq_some_some.2 ⟨Json.record_ne_null _, object.spec.templateOfJson?_toJson⟩
  show LiveDeployment.ofJson? (.obj object.toJson.members) = _
  rw [LiveDeployment.ofJson?_obj, toJson, Json.optionalIn_record _ _ (by simp [Header.fields]),
    Json.optionalIn_record _ _ (by simp [Header.fields])]
  simp [Header.fields, findEntry, hmetadata, hspec, live, Meta.live]

end Deployment

end ComposeCluster

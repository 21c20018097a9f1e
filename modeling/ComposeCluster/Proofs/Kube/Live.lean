import ComposeCluster.Kube.Live
import ComposeCluster.Kube.Pod
import ComposeCluster.Proofs.Json.Member
import ComposeCluster.Proofs.Json.Ordered

/-!
# Live objects in documents

What a live deployment is read as depends on a few places of its document, and a change at one of
these places changes what is read there and nothing else: `LiveDeployment.ofJson?_update` for its
template, `LiveTemplate.ofJson?_update_metadata` and `LiveTemplate.ofJson?_update_spec` for the two
parts of that. Each part may be missing, which reads like an object without members.
-/

set_option autoImplicit false

namespace ComposeCluster

namespace Fields

/-- A live text is one that may be missing, and then it is empty. -/
theorem run_liveText (name : String) (members : List (String × Json)) :
    (liveText name).run (.named members) =
      (optionalIn name Json.asText? members).map (·.getD "", .named members) := by
  rw [liveText, StateT.run_bind, run_optional]
  cases optionalIn name Json.asText? members <;> rfl

/-- A live list is one that may be missing, and then it is empty. -/
theorem run_liveList {α : Type} (name : String) (read : Json → Option α)
    (members : List (String × Json)) :
    (liveList name read).run (.named members) =
      (optionalIn name (Json.asList? read) members).map (·.getD [], .named members) := by
  rw [liveList, StateT.run_bind, run_optional]
  cases optionalIn name (Json.asList? read) members <;> rfl

end Fields

/-- Live objects are read from objects only. -/
theorem Json.readLive?_eq_obj {α : Type} {fields : Fields.Reader α} {value : Json} {a : α}
    (h : Json.readLive? fields value = some a) : ∃ members, value = .obj members := by
  cases value with
  | obj members => exact ⟨members, rfl⟩
  | _ => cases h

open Fields (optionalIn)

/-- A missing map of texts reads like an object without members. -/
theorem readsObjects_textMap : Json.ReadsObjects Json.asTextMap? .empty where
  eq_obj := fun {value} _ h => by
    cases value with
    | obj members => exact ⟨members, rfl⟩
    | _ => cases h
  read_empty := rfl

namespace LiveMeta

/-- Metadata is read from its name and its annotations, either of which may be missing. -/
theorem ofJson?_obj (members : List (String × Json)) :
    ofJson? (.obj members) =
      (optionalIn "name" Json.asText? members).bind fun name? =>
        (optionalIn "annotations" Json.asTextMap? members).map fun annotations? =>
          ⟨name?, annotations?⟩ := by
  simp [ofJson?, Json.readLive?, Fields.run_optional, Option.bind_map, Function.comp_def]

/-- Missing metadata reads like an object without members. -/
theorem readsObjects : Json.ReadsObjects ofJson? unknown where
  eq_obj := Json.readLive?_eq_obj
  read_empty := rfl

/-- Setting an annotation in a document sets it in what is read. -/
theorem ofJson?_update_annotation {value : Json} {data : LiveMeta}
    (h : ofJson? (.obj value.members) = some data)
    (hsorted : SortedEntries (value.valueAt ["annotations"]).members) (key text : String) :
    ofJson? (value.update (fun _ => .str text) ["annotations", key]) =
      some { data with
        annotations? := some ((data.annotations?.getD .empty).insert key text) } := by
  rw [ofJson?_obj] at h
  simp only [Option.bind_eq_some_iff, Option.map_eq_some_iff] at h
  obtain ⟨name?, hname, annotations?, hannotations, rfl⟩ := h
  have hmap := (readsObjects_textMap.optionalIn hannotations).2
  have hinsert : Json.asTextMap? (.obj (insertEntry key (.str text)
      (value.valueAt ["annotations"]).members)) =
        some ((annotations?.getD .empty).insert key text) :=
    Json.asMap?_insertEntry (show Json.asText? (.str text) = some text from rfl) hsorted hmap
  rw [Json.update, ofJson?_obj, Fields.optionalIn_insertEntry, if_neg (by decide), hname,
    Fields.optionalIn_insertEntry, if_pos rfl, Json.update, Json.asOption?_obj, Json.update_nil]
  show Option.bind _ (fun _ => Option.map _ (Option.map _
    (Json.asTextMap? (.obj (insertEntry key _ (value.valueAt ["annotations"]).members))))) = _
  rw [hinsert]
  rfl

end LiveMeta

/-- The name of an object is read as the empty text if it is missing. -/
theorem LiveEnvSource.nameOfJson?_obj (members : List (String × Json)) :
    nameOfJson? (.obj members) = (optionalIn "name" Json.asText? members).map (·.getD "") := by
  simp [nameOfJson?, Json.readLive?, Fields.run_liveText, Function.comp_def]

/-- A source of environment is read from its two references. -/
theorem LiveEnvSource.ofJson?_obj (members : List (String × Json)) :
    ofJson? (.obj members) =
      (optionalIn "secretRef" nameOfJson? members).bind fun secret? =>
        (optionalIn "configMapRef" nameOfJson? members).map fun configMap? =>
          ⟨secret?, configMap?⟩ := by
  simp [ofJson?, Json.readLive?, Fields.run_optional, Option.bind_map, Function.comp_def]

/-- A container is read from its name and its sources of environment. -/
theorem LiveContainer.ofJson?_obj (members : List (String × Json)) :
    ofJson? (.obj members) =
      (optionalIn "name" Json.asText? members).bind fun name? =>
        (optionalIn "envFrom" (Json.asList? LiveEnvSource.ofJson?) members).map fun envFrom? =>
          ⟨name?.getD "", envFrom?.getD []⟩ := by
  simp [ofJson?, Json.readLive?, Fields.run_liveText, Fields.run_liveList, Option.bind_map,
    Function.comp_def]

/-- The name of a secret in a volume is read if there is one. -/
theorem LiveVolume.secretOfJson?_obj (members : List (String × Json)) :
    secretOfJson? (.obj members) = optionalIn "secretName" Json.asText? members := by
  simp [secretOfJson?, Json.readLive?, Fields.run_optional, Function.comp_def]

/-- A volume is read from the secret and the config map in it. -/
theorem LiveVolume.ofJson?_obj (members : List (String × Json)) :
    ofJson? (.obj members) =
      (optionalIn "secret" secretOfJson? members).bind fun secret? =>
        (optionalIn "configMap" LiveEnvSource.nameOfJson? members).map fun configMap? =>
          ⟨secret?.join, configMap?⟩ := by
  simp [ofJson?, Json.readLive?, Fields.run_optional, Option.bind_map, Function.comp_def]

namespace LivePod

/-- A reference with a name is read as this name. -/
theorem nameOfJson?_reference (name : String) :
    LiveEnvSource.nameOfJson? (PodSpec.referenceToJson name) = some name := by
  show LiveEnvSource.nameOfJson? (.obj (PodSpec.referenceToJson name).members) = _
  rw [LiveEnvSource.nameOfJson?_obj, PodSpec.referenceToJson, Json.optionalIn_record _ _ (by simp)]
  simp [findEntry, Json.asText?]

/-- References with names are read as these names. -/
theorem asList?_references (names : List String) :
    Json.asList? LiveEnvSource.nameOfJson? (.arr (names.map PodSpec.referenceToJson)) =
      some names := by
  show (names.map PodSpec.referenceToJson).mapM LiveEnvSource.nameOfJson? = some names
  induction names with
  | nil => rfl
  | cons name names ih =>
    simp [List.mapM_cons, nameOfJson?_reference, ih]

/-- A pod is read from three lists, each of which may be missing. -/
theorem ofJson?_obj (members : List (String × Json)) :
    ofJson? (.obj members) =
      (optionalIn "imagePullSecrets" (Json.asList? LiveEnvSource.nameOfJson?) members).bind
        fun pullSecrets =>
          (optionalIn "containers" (Json.asList? LiveContainer.ofJson?) members).bind
            fun containers =>
              (optionalIn "volumes" (Json.asList? LiveVolume.ofJson?) members).map
                fun volumes =>
                  ⟨pullSecrets.getD [], containers.getD [], volumes.getD []⟩ := by
  simp [ofJson?, Json.readLive?, Fields.run_liveList, Option.bind_map, Function.comp_def]

/-- A missing pod reads like an object without members. -/
theorem readsObjects : Json.ReadsObjects ofJson? empty where
  eq_obj := Json.readLive?_eq_obj
  read_empty := rfl

/-- Setting the secrets for images in a document sets them in what is read. -/
theorem ofJson?_update_pullSecrets {value : Json} {pod : LivePod}
    (h : ofJson? (.obj value.members) = some pod) (names : List String) :
    ofJson? (value.update (fun _ => .arr (names.map PodSpec.referenceToJson))
        ["imagePullSecrets"]) = some { pod with pullSecrets := names } := by
  rw [ofJson?_obj] at h
  simp only [Option.bind_eq_some_iff, Option.map_eq_some_iff] at h
  obtain ⟨pullSecrets, -, containers, hcontainers, volumes, hvolumes, rfl⟩ := h
  rw [Json.update, ofJson?_obj]
  simp only [Fields.optionalIn_insertEntry, String.reduceEq, if_true, if_false, hcontainers,
    hvolumes, Json.update_nil, Json.asOption?_arr, asList?_references, Option.map_some,
    Option.bind_some, Option.getD_some]

end LivePod

namespace LiveTemplate

/-- A template that says nothing. -/
def empty : LiveTemplate := ⟨none, none⟩

/-- A template is read from its metadata and its pod. -/
theorem ofJson?_obj (members : List (String × Json)) :
    ofJson? (.obj members) =
      (optionalIn "metadata" LiveMeta.ofJson? members).bind fun metadata? =>
        (optionalIn "spec" LivePod.ofJson? members).map fun pod? => ⟨metadata?, pod?⟩ := by
  simp [ofJson?, Json.readLive?, Fields.run_optional, Option.bind_map, Function.comp_def]

/-- A missing template reads like an object without members. -/
theorem readsObjects : Json.ReadsObjects ofJson? empty where
  eq_obj := Json.readLive?_eq_obj
  read_empty := rfl

/-- What the two parts of a template are read from. -/
theorem optionalIn_of_ofJson? {value : Json} {template : LiveTemplate}
    (h : ofJson? (.obj value.members) = some template) :
    optionalIn "metadata" LiveMeta.ofJson? value.members = some template.metadata? ∧
      optionalIn "spec" LivePod.ofJson? value.members = some template.pod? := by
  rw [ofJson?_obj] at h
  simp only [Option.bind_eq_some_iff, Option.map_eq_some_iff] at h
  obtain ⟨metadata?, hmetadata, pod?, hpod, rfl⟩ := h
  exact ⟨hmetadata, hpod⟩

/-- Changing the metadata in a document changes it in what is read. -/
theorem ofJson?_update_metadata {value : Json} {template : LiveTemplate}
    (h : ofJson? (.obj value.members) = some template) {change : Json → Json}
    {metadata : LiveMeta}
    (hchange : LiveMeta.ofJson? (change (value.valueAt ["metadata"])) = some metadata) :
    ofJson? (value.update change ["metadata"]) =
      some { template with metadata? := some metadata } := by
  rw [ofJson?_obj] at h
  simp only [Option.bind_eq_some_iff, Option.map_eq_some_iff] at h
  obtain ⟨metadata?, -, pod?, hpod, rfl⟩ := h
  obtain ⟨members, hmembers⟩ := LiveMeta.readsObjects.eq_obj hchange
  rw [hmembers] at hchange
  rw [Json.update, ofJson?_obj, Fields.optionalIn_insertEntry, if_pos rfl,
    Fields.optionalIn_insertEntry, if_neg (by decide), hpod, Json.update_nil]
  show Option.bind (Json.asOption? _ (change (value.valueAt ["metadata"]))) _ = _
  rw [hmembers, Json.asOption?_obj, hchange]
  rfl

/-- A template with a changed pod is read with the pod that the change leads to. -/
theorem ofJson?_update_spec {value : Json} {template : LiveTemplate}
    (h : ofJson? (.obj value.members) = some template) {change : Json → Json} {pod : LivePod}
    (hchange : LivePod.ofJson? (change (value.valueAt ["spec"])) = some pod) :
    ofJson? (value.update change ["spec"]) = some { template with pod? := some pod } := by
  rw [ofJson?_obj] at h
  simp only [Option.bind_eq_some_iff, Option.map_eq_some_iff] at h
  obtain ⟨metadata?, hmetadata, pod?, -, rfl⟩ := h
  obtain ⟨members, hmembers⟩ := LivePod.readsObjects.eq_obj hchange
  rw [hmembers] at hchange
  rw [Json.update, ofJson?_obj, Fields.optionalIn_insertEntry, if_neg (by decide), hmetadata,
    Fields.optionalIn_insertEntry, if_pos rfl, Json.update_nil]
  show Option.bind _ (fun _ => Option.map _
    (Json.asOption? _ (change (value.valueAt ["spec"])))) = _
  rw [hmembers, Json.asOption?_obj, hchange]
  rfl

end LiveTemplate

namespace LiveDeployment

/-- The template is read from the inner part of a deployment. -/
theorem templateOfJson?_obj (members : List (String × Json)) :
    templateOfJson? (.obj members) = optionalIn "template" LiveTemplate.ofJson? members := by
  simp [templateOfJson?, Json.readLive?, Fields.run_optional, Option.map_map, Function.comp_def]

/-- A missing inner part reads like an object without members. -/
theorem readsObjects_template : Json.ReadsObjects templateOfJson? none where
  eq_obj := Json.readLive?_eq_obj
  read_empty := rfl

/-- A deployment is read from its name and its template. -/
theorem ofJson?_obj (members : List (String × Json)) :
    ofJson? (.obj members) =
      (optionalIn "metadata" LiveMeta.ofJson? members).bind fun metadata? =>
        (optionalIn "spec" templateOfJson? members).map fun template? =>
          ⟨metadata?.bind (·.name?), template?.join⟩ := by
  simp [ofJson?, Json.readLive?, Fields.run_optional, Option.bind_map, Function.comp_def]

/-- Where the template is. -/
def templatePath : Pointer := ["spec", "template"]

/-- The template of a deployment that is read, there as an object or missing; likewise what holds
it. -/
theorem read_template {document : Json} {deployment : LiveDeployment}
    (h : ofJson? document = some deployment) :
    document.IsOpen ∧ (document.valueAt ["spec"]).IsOpen ∧
      (document.valueAt templatePath).IsOpen ∧
      LiveTemplate.ofJson? (.obj (document.valueAt templatePath).members) =
        some (deployment.template?.getD .empty) := by
  obtain ⟨members, rfl⟩ := Json.readLive?_eq_obj h
  rw [ofJson?_obj] at h
  simp only [Option.bind_eq_some_iff, Option.map_eq_some_iff] at h
  obtain ⟨metadata?, -, template?, htemplate, rfl⟩ := h
  obtain ⟨hspec, hread⟩ := readsObjects_template.optionalIn htemplate
  have hjoin : template?.getD none = template?.join := by cases template? <;> rfl
  rw [templateOfJson?_obj, hjoin] at hread
  exact ⟨.inr ⟨members, rfl⟩, hspec, LiveTemplate.readsObjects.optionalIn hread⟩

def metadataPath : Pointer := ["spec", "template", "metadata"]

def podPath : Pointer := ["spec", "template", "spec"]

/-- The metadata of the template; unknown if it is missing. -/
def podMetadata (deployment : LiveDeployment) : LiveMeta :=
  (deployment.template?.bind (·.metadata?)).getD .unknown

/-- The metadata and the pod are read as the two parts of the template. -/
theorem read_parts {document : Json} {deployment : LiveDeployment}
    (h : ofJson? document = some deployment) :
    optionalIn "metadata" LiveMeta.ofJson? (document.valueAt templatePath).members =
        some (deployment.template?.bind (·.metadata?)) ∧
      optionalIn "spec" LivePod.ofJson? (document.valueAt templatePath).members =
        some (deployment.template?.bind (·.pod?)) := by
  obtain ⟨-, -, -, htemplate⟩ := read_template h
  have hparts := LiveTemplate.optionalIn_of_ofJson? htemplate
  cases hcase : deployment.template? <;> rw [hcase] at hparts <;> exact hparts

/-- The metadata of a deployment that is read. -/
theorem read_metadata {document : Json} {deployment : LiveDeployment}
    (h : ofJson? document = some deployment) :
    (document.valueAt metadataPath).IsOpen ∧
      LiveMeta.ofJson? (.obj (document.valueAt metadataPath).members) =
        some deployment.podMetadata :=
  LiveMeta.readsObjects.optionalIn (read_parts h).1

/-- The annotations of the pods are those of the metadata in the template. -/
theorem annotations?_eq (deployment : LiveDeployment) :
    deployment.annotations? = deployment.podMetadata.annotations? := by
  unfold annotations? podMetadata
  cases deployment.template?.bind (·.metadata?) <;> rfl

/-- The annotations that were read are those at their place in the document. -/
theorem read_annotations {document : Json} {deployment : LiveDeployment}
    (h : ofJson? document = some deployment) :
    ((document.valueAt metadataPath).valueAt ["annotations"]).asOption? Json.asTextMap? =
      some deployment.annotations? := by
  have hmetadata := (read_metadata h).2
  rw [LiveMeta.ofJson?_obj] at hmetadata
  simp only [Option.bind_eq_some_iff, Option.map_eq_some_iff] at hmetadata
  obtain ⟨name?, -, annotations?, hannotations, heq⟩ := hmetadata
  rw [annotations?_eq, ← heq]
  exact hannotations

/-- The pod that was read is what stands at its place in the document. -/
theorem read_pod {document : Json} {deployment : LiveDeployment}
    (h : ofJson? document = some deployment) :
    (document.valueAt podPath).IsOpen ∧
      LivePod.ofJson? (.obj (document.valueAt podPath).members) = some deployment.pod :=
  LivePod.readsObjects.optionalIn (read_parts h).2

/-- Secrets for images that were read have a member of their own in the pod. -/
theorem isSome_pullSecrets {document : Json} {deployment : LiveDeployment}
    (h : ofJson? document = some deployment) (hpull : deployment.pod.pullSecrets ≠ []) :
    (findEntry "imagePullSecrets" (document.valueAt podPath).members).isSome := by
  have hpod := (read_pod h).2
  rw [LivePod.ofJson?_obj] at hpod
  simp only [Option.bind_eq_some_iff, Option.map_eq_some_iff] at hpod
  obtain ⟨pullSecrets?, hread, containers, -, volumes, -, heq⟩ := hpod
  rw [← heq] at hpull
  cases hmember : findEntry "imagePullSecrets" (document.valueAt podPath).members with
  | some member => rfl
  | none =>
    rw [optionalIn, hmember] at hread
    cases hread
    exact absurd rfl hpull

/-- Metadata that was read is an object in the document. -/
theorem valueAt_metadataPath_eq_obj {document : Json} {deployment : LiveDeployment}
    (h : ofJson? document = some deployment)
    (hmetadata : (deployment.template?.bind (·.metadata?)).isSome) :
    ∃ members, document.valueAt metadataPath = .obj members :=
  LiveMeta.readsObjects.eq_obj_of_isSome (read_parts h).1 hmetadata

/-- A pod that was read is an object in the document. -/
theorem valueAt_podPath_eq_obj {document : Json} {deployment : LiveDeployment}
    (h : ofJson? document = some deployment)
    (hpod : (deployment.template?.bind (·.pod?)).isSome) :
    ∃ members, document.valueAt podPath = .obj members :=
  LivePod.readsObjects.eq_obj_of_isSome (read_parts h).2 hpod

/-- Changing the template in a document changes it in what is read. -/
theorem ofJson?_update {document : Json} {deployment : LiveDeployment}
    (h : ofJson? document = some deployment) {change : Json → Json} {template : LiveTemplate}
    (hchange : LiveTemplate.ofJson? (change (document.valueAt templatePath)) = some template) :
    ofJson? (document.update change templatePath) =
      some { deployment with template? := some template } := by
  obtain ⟨members, rfl⟩ := Json.readLive?_eq_obj h
  rw [ofJson?_obj] at h
  simp only [Option.bind_eq_some_iff, Option.map_eq_some_iff] at h
  obtain ⟨metadata?, hmetadata, template?, -, rfl⟩ := h
  obtain ⟨entries, hentries⟩ := LiveTemplate.readsObjects.eq_obj hchange
  rw [hentries] at hchange
  rw [templatePath, Json.update, ofJson?_obj, Fields.optionalIn_insertEntry,
    if_neg (by decide), Json.members_obj, hmetadata, Fields.optionalIn_insertEntry, if_pos rfl,
    Json.update, Json.asOption?_obj, templateOfJson?_obj, Fields.optionalIn_insertEntry,
    if_pos rfl, Json.update_nil]
  show Option.bind _ (fun _ => Option.map _ (Option.map _
    (Json.asOption? _ (change (Json.valueAt templatePath (.obj members)))))) = _
  rw [hentries, Json.asOption?_obj, hchange]
  rfl

end LiveDeployment

end ComposeCluster

import ComposeCluster.Content.Rollout
import ComposeCluster.Proofs.Content.Reference
import ComposeCluster.Proofs.Json.Patch
import ComposeCluster.Proofs.Kube.Live

/-!
# What a rollout changes

A plan is written as operations and as a merge patch. Both set the same two places of a document,
the hash on the pods and the secrets for images (`Rollout.applied`), so they agree wherever the
operations can be applied at all, and that is wherever the template has its two parts
(`operations_agree_with_mergePatch?`). After either of them there is nothing left to change
(`changesNothing_after_rollout`).
-/

set_option autoImplicit false

namespace ComposeCluster.Content.Rollout

open Json (update ChangedOnlyAt)

/-- Where the hash on the pods is. -/
def hashPath : Pointer := annotationsPath ++ [Key.contentHash]

/-- Sets the hash on the pods in a document. -/
def setHash (hash : String) (document : Json) : Json :=
  document.update (fun _ => .str hash) hashPath

def setPullSecrets (names : List String) (document : Json) : Json :=
  document.update (fun _ => .arr (names.map PodSpec.referenceToJson)) pullSecretsPath

def appliedHash (plan : Rollout) (document : Json) : Json :=
  match plan.newHash? with
  | some hash => setHash hash document
  | none => document

/-- A document with all that a plan has to change. -/
def applied (plan : Rollout) (document : Json) : Json :=
  if plan.pullSecretsChange then
    setPullSecrets plan.wantedPullSecrets (plan.appliedHash document)
  else plan.appliedHash document

/-- A document after the merge patch of a plan, which is the document itself if there is none. -/
def mergeInto (plan : Rollout) (document : Json) : Json :=
  match plan.mergePatch? with
  | some patch => patch.merge document
  | none => document

variable (plan : Rollout)

/-! ## When nothing changes -/

/-- There is no new hash exactly if the hash does not change. -/
theorem newHash?_eq_none_iff : plan.newHash? = none ↔ plan.hashChanges = false := by
  unfold newHash?
  cases hchanges : plan.hashChanges with
  | false => simp
  | true =>
    have hsome : plan.wantedHash?.isSome := by
      rw [hashChanges, Bool.and_eq_true] at hchanges
      exact hchanges.1
    simp [Option.ne_none_iff_isSome.2 hsome]

/-- Nothing changes if there is no new hash and the secrets for images stay. -/
theorem changesNothing_iff :
    plan.changesNothing = true ↔ plan.newHash? = none ∧ plan.pullSecretsChange = false := by
  rw [newHash?_eq_none_iff, changesNothing, Bool.and_eq_true, Bool.not_eq_true',
    Bool.not_eq_true']

/-- There is no merge patch exactly if nothing changes. -/
theorem mergePatch?_eq_none_iff : plan.mergePatch? = none ↔ plan.changesNothing = true := by
  unfold mergePatch?
  split <;> simp_all

/-- There are no operations exactly if nothing changes. -/
theorem operations_eq_nil_iff : plan.operations = [] ↔ plan.changesNothing = true := by
  rw [changesNothing_iff, operations, List.append_eq_nil_iff]
  refine and_congr ?_ ?_
  · cases plan.newHash? with
    | none => simp
    | some hash => simp [hashOperations]
  · unfold pullSecretOperations
    cases plan.pullSecretsChange <;> simp

/-! ## The merge patch -/

/-- Merging the patch of the metadata sets the annotation and keeps everything beside it. -/
theorem merge_metadataPatch (hash : String) :
    (metadataPatch hash).merge = update (fun _ => .str hash) ["annotations", Key.contentHash] := by
  rw [metadataPatch, Json.merge_obj_singleton (by simp), Json.merge_obj_singleton (by simp),
    Json.merge_str]
  exact (Json.update_append _ ["annotations"] [Key.contentHash]).symm

/-- Merging the patch of the pod sets the secrets for images and keeps everything beside them. -/
theorem merge_podPatch :
    plan.podPatch.merge =
      update (fun _ => .arr (plan.wantedPullSecrets.map PodSpec.referenceToJson))
        ["imagePullSecrets"] := by
  rw [podPatch, pullSecretsJson, Json.merge_obj_singleton (by simp), Json.merge_arr]

/-- The hash is set in the metadata of the template. -/
theorem setHash_eq (hash : String) :
    setHash hash =
      update (update (update (fun _ => .str hash) ["annotations", Key.contentHash]) ["metadata"])
        LiveDeployment.templatePath := by
  rw [← Json.update_append, ← Json.update_append]
  rfl

/-- The secrets for images are set in the pod of the template. -/
theorem setPullSecrets_eq (names : List String) :
    setPullSecrets names =
      update (update (update (fun _ => .arr (names.map PodSpec.referenceToJson))
        ["imagePullSecrets"]) ["spec"]) LiveDeployment.templatePath := by
  rw [← Json.update_append, ← Json.update_append]
  rfl

/-- A merge patch changes the template and nothing else. -/
theorem mergeInto_of_changes (hchanges : plan.changesNothing = false) :
    plan.mergeInto = update plan.templatePatch.merge LiveDeployment.templatePath := by
  have htemplate : plan.templatePatch ≠ .null := by
    unfold templatePatch
    simp
  funext document
  unfold mergeInto mergePatch?
  rw [hchanges]
  show Json.merge (.obj [("spec", .obj [("template", plan.templatePatch)])]) document = _
  rw [Json.merge_obj_singleton (by simp), Json.merge_obj_singleton htemplate,
    ← Json.update_append]
  rfl

/-- The merge patch sets the two places. -/
theorem mergeInto_eq_applied : plan.mergeInto = plan.applied := by
  funext document
  unfold applied appliedHash
  -- which of the two members the patch has decides both sides
  cases hhash : plan.newHash? with
  | none =>
    cases hpull : plan.pullSecretsChange with
    | false =>
      have hnothing := (mergePatch?_eq_none_iff plan).2
        ((changesNothing_iff plan).2 ⟨hhash, hpull⟩)
      rw [mergeInto, hnothing]
      rfl
    | true =>
      have hchanges : plan.changesNothing = false := by simp [changesNothing, hpull]
      rw [mergeInto_of_changes plan hchanges, templatePatch, hhash, hpull]
      show update (Json.merge (.obj [("spec", plan.podPatch)])) _ document =
        setPullSecrets plan.wantedPullSecrets document
      rw [Json.merge_obj_singleton (by simp [podPatch]), merge_podPatch, setPullSecrets_eq]
  | some hash =>
    have hchanges : plan.changesNothing = false := by
      cases hcase : plan.changesNothing with
      | false => rfl
      | true =>
        rw [((changesNothing_iff plan).1 hcase).1] at hhash
        cases hhash
    rw [mergeInto_of_changes plan hchanges, templatePatch, hhash]
    cases hpull : plan.pullSecretsChange with
    | false =>
      show update (Json.merge (.obj [("metadata", metadataPatch hash)])) _ document =
        setHash hash document
      rw [Json.merge_obj_singleton (by simp [metadataPatch]), merge_metadataPatch, setHash_eq]
    | true =>
      show update (Json.merge (.obj [("metadata", metadataPatch hash), ("spec", plan.podPatch)])) _
        document = setPullSecrets plan.wantedPullSecrets (setHash hash document)
      rw [Json.merge_obj_pair (by simp [metadataPatch]) (by simp [podPatch]),
        merge_metadataPatch, merge_podPatch, setHash_eq, setPullSecrets_eq, Json.update_update]

/-! ## The operations -/

/-- What a plan notes about a document is true of it. -/
structure Describes (plan : Rollout) (document : Json) : Prop where
  missing : plan.hasAnnotations = false →
    document.valueAt annotationsPath = .null ∧ plan.recordedHash? = none
  present : plan.hasAnnotations = true →
    ∃ members, document.valueAt annotationsPath = .obj members ∧
      (plan.recordedHash?.isSome → (findEntry Key.contentHash members).isSome)
  pullSecrets : plan.livePullSecrets ≠ [] →
    (findEntry "imagePullSecrets" (document.valueAt LiveDeployment.podPath).members).isSome

/-- The plan for a document describes what stands in it. -/
theorem describes_of {document : Json} {deployment : LiveDeployment}
    (hread : LiveDeployment.ofJson? document = some deployment)
    (secrets configMaps : List LiveMeta) :
    (Rollout.of deployment secrets configMaps).Describes document := by
  have hannotations := LiveDeployment.read_annotations hread
  refine ⟨fun hmissing => ?_, fun hpresent => ?_, LiveDeployment.isSome_pullSecrets hread⟩
  · have hnone : deployment.annotations? = none := by
      simpa [Rollout.of] using hmissing
    rw [hnone] at hannotations
    exact ⟨Json.asOption?_eq_some_none.1 hannotations, by simp [Rollout.of, hnone]⟩
  · obtain ⟨map, hmap⟩ := Option.isSome_iff_exists.1 hpresent
    rw [hmap] at hannotations
    have hread := (Json.asOption?_eq_some_some.1 hannotations).2
    obtain ⟨members, hmembers⟩ := readsObjects_textMap.eq_obj hread
    refine ⟨members, hmembers, fun hrecorded => ?_⟩
    rw [hmembers] at hread
    refine (Json.isSome_get?_of_asMap? hread Key.contentHash).1 ?_
    simpa [Rollout.of, hmap] using hrecorded

/-- The tokens of both paths are names, and none could be the place of a list item. -/
theorem isName_of_mem {token : String} (h : token ∈ hashPath ++ pullSecretsPath) :
    Json.IsName token := by
  have hall : ∀ token ∈ hashPath ++ pullSecretsPath, Json.IsName token := by decide +kernel
  exact hall token h

/-- It does not matter for the hash whether missing annotations are added first. -/
theorem setHash_of_missing {document : Json} (hmissing : document.valueAt annotationsPath = .null)
    (hash : String) :
    setHash hash (document.update (fun _ => .obj []) annotationsPath) = setHash hash document := by
  unfold setHash hashPath
  rw [Json.update_append, Json.update_update]
  refine Json.update_congr ?_
  rw [hmissing]
  rfl

variable {plan} {document : Json}

def hashOperation (plan : Rollout) (hash : String) : PatchOperation :=
  ⟨if plan.recordedHash?.isSome then .replace else .add, hashPath, .str hash⟩

/-- The hash is replaced exactly if one was recorded. -/
theorem hashOperation_replaces_iff {hash : String} :
    (plan.hashOperation hash).kind = .replace ↔ plan.recordedHash?.isSome = true := by
  unfold hashOperation
  cases plan.recordedHash?.isSome <;> simp

/-- Without annotations the operations put an empty object there first. -/
theorem hashOperations_of_missing (hcase : plan.hasAnnotations = false) (hash : String) :
    plan.hashOperations hash =
      [⟨.add, annotationsPath, .obj []⟩, plan.hashOperation hash] := by
  unfold hashOperations
  rw [hcase]
  rfl

/-- With annotations one operation sets the hash. -/
theorem hashOperations_of_present (hcase : plan.hasAnnotations = true) (hash : String) :
    plan.hashOperations hash = [plan.hashOperation hash] := by
  unfold hashOperations
  rw [hcase]
  rfl

/-- The operations for the hash set it where the metadata of the pods is there. -/
theorem applyAll?_hashOperations (hplan : plan.Describes document)
    {members : List (String × Json)}
    (hmetadata : document.valueAt LiveDeployment.metadataPath = .obj members) (hash : String) :
    document.applyAll? (plan.hashOperations hash) = some (setHash hash document) := by
  cases hcase : plan.hasAnnotations with
  | false =>
    -- Annotations are added first, and the hash is then added to them: there is none to replace.
    obtain ⟨hmissing, hrecorded⟩ := hplan.missing hcase
    have hadd : document.applyTo? ⟨.add, annotationsPath, .obj []⟩ =
        some (document.update (fun _ => .obj []) annotationsPath) :=
      Json.put?_append_singleton hmetadata (by simp) _
    have hset : (document.update (fun _ => .obj []) annotationsPath).applyTo?
        (plan.hashOperation hash) =
          some (setHash hash (document.update (fun _ => .obj []) annotationsPath)) :=
      Json.put?_append_singleton (Json.valueAt_update _ _ _)
        (fun hkind => by simp [hashOperation_replaces_iff, hrecorded] at hkind) _
    rw [hashOperations_of_missing hcase, Json.applyAll?_cons, hadd, Option.bind_some,
      Json.applyAll?_cons, hset, setHash_of_missing hmissing]
    rfl
  | true =>
    obtain ⟨entries, hentries, hrecorded⟩ := hplan.present hcase
    have hset : document.applyTo? (plan.hashOperation hash) = some (setHash hash document) :=
      Json.put?_append_singleton hentries
        (fun hkind => hrecorded (hashOperation_replaces_iff.1 hkind)) _
    rw [hashOperations_of_present hcase, Json.applyAll?_cons, hset]
    rfl

/-- Wherever the operations for the hash can be applied, they set it. -/
theorem eq_setHash_of_applyAll? (hplan : plan.Describes document) {hash : String} {result : Json}
    (h : document.applyAll? (plan.hashOperations hash) = some result) :
    result = setHash hash document := by
  have hset {before after : Json}
      (happly : before.applyTo? (plan.hashOperation hash) = some after) :
      after = setHash hash before :=
    Json.put?_eq_update (fun token htoken => isName_of_mem (List.mem_append_left _ htoken)) happly
  cases hcase : plan.hasAnnotations with
  | false =>
    rw [hashOperations_of_missing hcase, Json.applyAll?_cons, Option.bind_eq_some_iff] at h
    obtain ⟨added, hadded, hrest⟩ := h
    have hadd : added = document.update (fun _ => .obj []) annotationsPath := by
      refine Json.put?_eq_update (fun token htoken => isName_of_mem ?_) hadded
      exact List.mem_append_left _ (List.mem_append_left _ htoken)
    rw [Json.applyAll?_cons, Option.bind_eq_some_iff] at hrest
    obtain ⟨changed, hchanged, hresult⟩ := hrest
    cases hresult
    rw [hset hchanged, hadd, setHash_of_missing (hplan.missing hcase).1]
  | true =>
    rw [hashOperations_of_present hcase, Json.applyAll?_cons, Option.bind_eq_some_iff] at h
    obtain ⟨changed, hchanged, hresult⟩ := h
    cases hresult
    exact hset hchanged

def pullSecretOperation (plan : Rollout) : PatchOperation :=
  ⟨if plan.livePullSecrets.isEmpty then .add else .replace, pullSecretsPath, plan.pullSecretsJson⟩

/-- If the secrets for images change, one operation sets them. -/
theorem pullSecretOperations_of_change (hchange : plan.pullSecretsChange = true) :
    plan.pullSecretOperations = [plan.pullSecretOperation] := by
  unfold pullSecretOperations
  rw [hchange]
  rfl

/-- If the secrets for images stay, no operation is needed. -/
theorem pullSecretOperations_of_same (hsame : plan.pullSecretsChange = false) :
    plan.pullSecretOperations = [] := by
  unfold pullSecretOperations
  rw [hsame]
  rfl

/-- On a template with a pod the operation sets the secrets for images. -/
theorem applyAll?_pullSecretOperations (hchange : plan.pullSecretsChange = true)
    {members : List (String × Json)}
    (hpod : document.valueAt LiveDeployment.podPath = .obj members)
    (hlive : plan.livePullSecrets ≠ [] → (findEntry "imagePullSecrets" members).isSome) :
    document.applyAll? plan.pullSecretOperations =
      some (setPullSecrets plan.wantedPullSecrets document) := by
  have hset : document.applyTo? plan.pullSecretOperation =
      some (setPullSecrets plan.wantedPullSecrets document) := by
    refine Json.put?_append_singleton hpod (fun hkind => hlive fun hempty => ?_) _
    simp [pullSecretOperation, hempty] at hkind
  rw [pullSecretOperations_of_change hchange, Json.applyAll?_cons, hset]
  rfl

/-- What the operation leads to, if anything, is the document with the secrets for images set. -/
theorem eq_setPullSecrets_of_applyAll? (hchange : plan.pullSecretsChange = true) {result : Json}
    (h : document.applyAll? plan.pullSecretOperations = some result) :
    result = setPullSecrets plan.wantedPullSecrets document := by
  rw [pullSecretOperations_of_change hchange, Json.applyAll?_cons, Option.bind_eq_some_iff] at h
  obtain ⟨changed, hchanged, hresult⟩ := h
  cases hresult
  exact Json.put?_eq_update
    (fun token htoken => isName_of_mem (List.mem_append_right _ htoken)) hchanged

/-- The hash lies outside of the pod. -/
theorem valueAt_podPath_appliedHash (plan : Rollout) (document : Json) :
    (plan.appliedHash document).valueAt LiveDeployment.podPath =
      document.valueAt LiveDeployment.podPath := by
  unfold appliedHash
  cases plan.newHash? with
  | none => rfl
  | some hash =>
    exact Json.valueAt_update_of_ne (by decide) (fun _ => .str hash) ["spec", "template"]
      ["annotations", Key.contentHash] [] document

/-- The operations make the whole change where the template has its two parts. -/
theorem applyAll?_operations (hplan : plan.Describes document)
    {metadata pod : List (String × Json)}
    (hmetadata : document.valueAt LiveDeployment.metadataPath = .obj metadata)
    (hpod : document.valueAt LiveDeployment.podPath = .obj pod) :
    document.applyAll? plan.operations = some (plan.applied document) := by
  have hhash : document.applyAll? ((plan.newHash?.map plan.hashOperations).getD []) =
      some (plan.appliedHash document) := by
    unfold appliedHash
    cases plan.newHash? with
    | none => rfl
    | some hash => exact applyAll?_hashOperations hplan hmetadata hash
  -- The operations for the hash come first, but they leave the pod as it was described.
  have hlive := hplan.pullSecrets
  rw [hpod, Json.members_obj] at hlive
  rw [operations, Json.applyAll?_append, hhash, Option.bind_some, applied]
  split
  · rename_i hchange
    refine applyAll?_pullSecretOperations hchange ?_ hlive
    rw [valueAt_podPath_appliedHash, hpod]
  · rename_i hsame
    rw [pullSecretOperations_of_same (by simpa using hsame)]
    rfl

/-- Wherever the operations can be applied, they make the whole change. -/
theorem eq_applied_of_applyAll? (hplan : plan.Describes document) {result : Json}
    (h : document.applyAll? plan.operations = some result) : result = plan.applied document := by
  rw [operations, Json.applyAll?_append, Option.bind_eq_some_iff] at h
  obtain ⟨hashed, hhashed, hrest⟩ := h
  have hhash : hashed = plan.appliedHash document := by
    unfold appliedHash
    cases hcase : plan.newHash? with
    | none =>
      rw [hcase] at hhashed
      cases hhashed
      rfl
    | some hash =>
      rw [hcase] at hhashed
      exact eq_setHash_of_applyAll? hplan hhashed
  rw [hhash] at hrest
  unfold applied
  split
  · rename_i hchange
    exact eq_setPullSecrets_of_applyAll? hchange hrest
  · rename_i hsame
    rw [pullSecretOperations_of_same (by simpa using hsame)] at hrest
    cases hrest
    rfl

/-! ## Only the two places change -/

/-- Along the path of the hash a live deployment has objects, or nothing. -/
theorem openAlong_hashPath {deployment : LiveDeployment}
    (hread : LiveDeployment.ofJson? document = some deployment) :
    document.OpenAlong hashPath := by
  obtain ⟨hroot, hspec, htemplate, -⟩ := LiveDeployment.read_template hread
  have hmetadata := (LiveDeployment.read_metadata hread).1
  have hannotations := LiveDeployment.read_annotations hread
  refine ⟨hroot, hspec, htemplate, hmetadata, ?_, trivial⟩
  cases hcase : deployment.annotations? with
  | none =>
    rw [hcase] at hannotations
    exact .inl (Json.asOption?_eq_some_none.1 hannotations)
  | some map =>
    rw [hcase] at hannotations
    exact .inr (readsObjects_textMap.eq_obj (Json.asOption?_eq_some_some.1 hannotations).2)

/-- Along the path of the secrets for images a live deployment has objects, or nothing. -/
theorem openAlong_pullSecretsPath {deployment : LiveDeployment}
    (hread : LiveDeployment.ofJson? document = some deployment) :
    document.OpenAlong pullSecretsPath := by
  obtain ⟨hroot, hspec, htemplate, -⟩ := LiveDeployment.read_template hread
  exact ⟨hroot, hspec, htemplate, (LiveDeployment.read_pod hread).1, trivial⟩

/-- Where a plan changes documents. -/
def places : List Pointer := [hashPath, pullSecretsPath]

/-- A document with all changes of a plan differs at the two places only. -/
theorem changedOnlyAt_applied {deployment : LiveDeployment}
    (hread : LiveDeployment.ofJson? document = some deployment) (plan : Rollout) :
    ChangedOnlyAt places document (plan.applied document) := by
  have hopen := openAlong_pullSecretsPath hread
  have hhash : ChangedOnlyAt places document (plan.appliedHash document) ∧
      (plan.appliedHash document).OpenAlong pullSecretsPath := by
    unfold appliedHash
    cases plan.newHash? with
    | none => exact ⟨.refl _ _, hopen⟩
    | some hash =>
      refine ⟨?_, hopen.update (by decide) _⟩
      exact (Json.changedOnlyAt_update _ (openAlong_hashPath hread)).mono (by simp [places])
  unfold applied
  split
  · refine hhash.1.trans ?_
    exact (Json.changedOnlyAt_update _ hhash.2).mono (by simp [places])
  · exact hhash.1

/-- Operations for the hash are about the annotations or the hash in them. -/
theorem path_of_mem_hashOperations {hash : String} {operation : PatchOperation}
    (h : operation ∈ plan.hashOperations hash) :
    operation.path = annotationsPath ∨ operation.path = hashPath := by
  cases hcase : plan.hasAnnotations with
  | false =>
    rw [hashOperations_of_missing hcase] at h
    rcases List.mem_cons.1 h with rfl | h
    · exact .inl rfl
    · exact .inr (List.mem_singleton.1 h ▸ rfl)
  | true =>
    rw [hashOperations_of_present hcase] at h
    exact .inr (List.mem_singleton.1 h ▸ rfl)

/-- Operations for the secrets for images are about these secrets. -/
theorem path_of_mem_pullSecretOperations {operation : PatchOperation}
    (h : operation ∈ plan.pullSecretOperations) : operation.path = pullSecretsPath := by
  cases hcase : plan.pullSecretsChange with
  | false =>
    rw [pullSecretOperations_of_same hcase] at h
    cases h
  | true =>
    rw [pullSecretOperations_of_change hcase] at h
    exact List.mem_singleton.1 h ▸ rfl

/-- The operations are written with the paths that they are applied to. -/
theorem ofText?_render_path {operation : PatchOperation} (h : operation ∈ plan.operations) :
    Pointer.ofText? operation.path.render = some operation.path := by
  have hall : ∀ path ∈ [annotationsPath, hashPath, pullSecretsPath],
      Pointer.ofText? path.render = some path := by decide +kernel
  refine hall _ ?_
  rw [operations, List.mem_append] at h
  rcases h with hhash | hpull
  · cases hcase : plan.newHash? with
    | none =>
      rw [hcase] at hhash
      cases hhash
    | some hash =>
      rw [hcase] at hhash
      rcases path_of_mem_hashOperations hhash with hpath | hpath <;> simp [hpath]
  · simp [path_of_mem_pullSecretOperations hpull]

/-- The operations and the merge patch of a plan for a deployment whose template has metadata and
a pod: the operations can be applied, both give the same document, neither is there if nothing
has to change, and only the hash and the secrets for images change. -/
theorem operations_agree_with_mergePatch? {document : Json} {deployment : LiveDeployment}
    (hread : LiveDeployment.ofJson? document = some deployment)
    (hmetadata : (deployment.template?.bind (·.metadata?)).isSome)
    (hpod : (deployment.template?.bind (·.pod?)).isSome)
    (secrets configMaps : List LiveMeta) :
    let plan := Rollout.of deployment secrets configMaps
    document.applyAll? plan.operations = some (plan.mergeInto document) ∧
      (∀ operation ∈ plan.operations,
        Pointer.ofText? operation.path.render = some operation.path) ∧
      (plan.operations = [] ↔ plan.mergePatch? = none) ∧
      (plan.mergePatch? = none ↔ plan.changesNothing = true) ∧
      ChangedOnlyAt places document (plan.mergeInto document) := by
  intro plan
  obtain ⟨metadata, hmetadata⟩ := LiveDeployment.valueAt_metadataPath_eq_obj hread hmetadata
  obtain ⟨pod, hpod⟩ := LiveDeployment.valueAt_podPath_eq_obj hread hpod
  rw [mergeInto_eq_applied, mergePatch?_eq_none_iff, operations_eq_nil_iff]
  refine ⟨?_, fun operation hmem => ofText?_render_path hmem, Iff.rfl, Iff.rfl, ?_⟩
  · exact applyAll?_operations (describes_of hread secrets configMaps) hmetadata hpod
  · exact changedOnlyAt_applied hread plan

/-- The document of a deployment with one container that takes its environment from a secret. -/
def shopDocument : Json :=
  .obj
    [("metadata", .obj [("name", .str "shop-app")]),
     ("spec", .obj
       [("template", .obj
         [("metadata", .obj []),
          ("spec", .obj
            [("containers", .arr
              [.obj [("envFrom", .arr [.obj [("secretRef", .obj [("name", .str "shop-env")])]]),
                     ("name", .str "web")]]),
             ("imagePullSecrets", .arr [.obj [("name", .str "old")]])])])])]

def shopDeployment : LiveDeployment where
  name? := some "shop-app"
  template? := some
    { metadata? := some .unknown
      pod? := some ⟨["old"], [⟨"web", [⟨some "shop-env", none⟩]⟩], []⟩ }

def shopSecrets : List LiveMeta :=
  [⟨some "shop-app--pull", some (.singleton Key.contentHash "pppppp")⟩,
   ⟨some "shop-env", some (.singleton Key.contentHash "eeeeee")⟩]

/-- In the shop both ways of writing the plan lead to the same document. -/
theorem operations_agree_for_shop :
    LiveDeployment.ofJson? shopDocument = some shopDeployment ∧
      (let plan := Rollout.of shopDeployment shopSecrets []
      shopDocument.applyAll? plan.operations = some (plan.mergeInto shopDocument) ∧
        (plan.operations = [] ↔ plan.mergePatch? = none)) := by
  have hread : LiveDeployment.ofJson? shopDocument = some shopDeployment := rfl
  obtain ⟨happly, -, hempty, -, -⟩ :=
    operations_agree_with_mergePatch? hread rfl rfl shopSecrets []
  exact ⟨hread, happly, hempty⟩

/-! ## The plan after the change -/

section Converged

def withTemplate (deployment : LiveDeployment) (change : LiveTemplate → LiveTemplate) :
    LiveDeployment :=
  { deployment with template? := some (change (deployment.template?.getD .empty)) }

def withHash (hash : String) (deployment : LiveDeployment) : LiveDeployment :=
  withTemplate deployment fun template =>
    { template with
      metadata? := some
        { deployment.podMetadata with
          annotations? := some
            ((deployment.annotations?.getD .empty).insert Key.contentHash hash) } }

def withPullSecrets (names : List String) (deployment : LiveDeployment) : LiveDeployment :=
  withTemplate deployment fun template =>
    { template with pod? := some { deployment.pod with pullSecrets := names } }

variable {deployment : LiveDeployment}

/-- A document with another hash is read as the deployment with this hash. -/
theorem ofJson?_setHash (hordered : document.Ordered)
    (hread : LiveDeployment.ofJson? document = some deployment) (hash : String) :
    LiveDeployment.ofJson? (setHash hash document) = some (withHash hash deployment) := by
  have hmetadata := (LiveDeployment.read_metadata hread).2
  have hannotated := LiveMeta.ofJson?_update_annotation hmetadata
    ((hordered.valueAt LiveDeployment.metadataPath).valueAt ["annotations"]).members_sorted
    Key.contentHash hash
  rw [← LiveDeployment.annotations?_eq] at hannotated
  obtain ⟨-, -, -, htemplate⟩ := LiveDeployment.read_template hread
  rw [setHash_eq]
  exact LiveDeployment.ofJson?_update hread
    (LiveTemplate.ofJson?_update_metadata htemplate hannotated)

/-- A document with other secrets for images is read as the deployment with these secrets. -/
theorem ofJson?_setPullSecrets (hread : LiveDeployment.ofJson? document = some deployment)
    (names : List String) :
    LiveDeployment.ofJson? (setPullSecrets names document) =
      some (withPullSecrets names deployment) := by
  have hpod := LivePod.ofJson?_update_pullSecrets (LiveDeployment.read_pod hread).2 names
  obtain ⟨-, -, -, htemplate⟩ := LiveDeployment.read_template hread
  rw [setPullSecrets_eq]
  exact LiveDeployment.ofJson?_update hread (LiveTemplate.ofJson?_update_spec htemplate hpod)

/-- Another hash leaves the pod as it is. -/
theorem pod_withHash (hash : String) (deployment : LiveDeployment) :
    (withHash hash deployment).pod = deployment.pod := by
  unfold LiveDeployment.pod withHash withTemplate
  cases deployment.template? <;> rfl

/-- Other secrets for images leave the annotations as they are. -/
theorem annotations?_withPullSecrets (names : List String) (deployment : LiveDeployment) :
    (withPullSecrets names deployment).annotations? = deployment.annotations? := by
  unfold LiveDeployment.annotations? withPullSecrets withTemplate
  cases deployment.template? <;> rfl

variable (secrets configMaps : List LiveMeta)

/-- A new hash is what the next plan finds recorded; all else stays. -/
theorem of_withHash (hash : String) (deployment : LiveDeployment) :
    Rollout.of (withHash hash deployment) secrets configMaps =
      { Rollout.of deployment secrets configMaps with
        recordedHash? := some hash
        hasAnnotations := true } := by
  have hrecorded : (withHash hash deployment).annotations?.bind (·.get? Key.contentHash) =
      some hash := by
    show (SortedMap.insert _ Key.contentHash hash).get? Key.contentHash = some hash
    rw [SortedMap.get?_insert, if_pos rfl]
  unfold Rollout.of
  rw [hrecorded, pod_withHash]
  rfl

/-- New secrets for images are what the next plan finds; all else stays. -/
theorem of_withPullSecrets (names : List String) (deployment : LiveDeployment) :
    Rollout.of (withPullSecrets names deployment) secrets configMaps =
      { Rollout.of deployment secrets configMaps with livePullSecrets := names } := by
  unfold Rollout.of
  rw [annotations?_withPullSecrets]
  rfl

/-- What a document with all changes of a plan is read as, and the plan for that. -/
theorem exists_read_applied (hordered : document.Ordered)
    (hread : LiveDeployment.ofJson? document = some deployment) (plan : Rollout)
    (hplan : plan = Rollout.of deployment secrets configMaps) :
    ∃ after, LiveDeployment.ofJson? (plan.applied document) = some after ∧
      Rollout.of after secrets configMaps =
        { plan with
          recordedHash? := plan.newHash?.or plan.recordedHash?
          hasAnnotations := plan.newHash?.isSome || plan.hasAnnotations
          livePullSecrets :=
            if plan.pullSecretsChange then plan.wantedPullSecrets else plan.livePullSecrets } := by
  -- The hash is set first, so the secrets are set in a document that is already read differently.
  obtain ⟨hashed, hhashed, hof⟩ : ∃ hashed,
      LiveDeployment.ofJson? (plan.appliedHash document) = some hashed ∧
      Rollout.of hashed secrets configMaps =
        { plan with
          recordedHash? := plan.newHash?.or plan.recordedHash?
          hasAnnotations := plan.newHash?.isSome || plan.hasAnnotations } := by
    unfold appliedHash
    cases plan.newHash? with
    | none => exact ⟨deployment, hread, hplan.symm⟩
    | some hash =>
      refine ⟨withHash hash deployment, ofJson?_setHash hordered hread hash, ?_⟩
      rw [of_withHash, ← hplan]
      rfl
  unfold applied
  cases hchange : plan.pullSecretsChange with
  | false => exact ⟨hashed, hhashed, hof⟩
  | true =>
    refine ⟨withPullSecrets plan.wantedPullSecrets hashed, ofJson?_setPullSecrets hhashed _, ?_⟩
    rw [of_withPullSecrets, hof]
    rfl

/-- A plan whose hash and secrets for images are recorded changes nothing. -/
theorem changesNothing_of_recorded (plan : Rollout) :
    changesNothing
      { plan with
        recordedHash? := plan.newHash?.or plan.recordedHash?
        hasAnnotations := plan.newHash?.isSome || plan.hasAnnotations
        livePullSecrets :=
          if plan.pullSecretsChange then plan.wantedPullSecrets else plan.livePullSecrets } =
      true := by
  rw [changesNothing, Bool.and_eq_true, Bool.not_eq_true', Bool.not_eq_true']
  constructor
  · cases hhash : plan.newHash? with
    | none => exact (newHash?_eq_none_iff plan).1 hhash
    | some hash =>
      have hwanted : plan.wantedHash? = some hash := by
        unfold newHash? at hhash
        split at hhash
        · exact hhash
        · cases hhash
      simp [hashChanges, hwanted]
  · show ((if plan.pullSecretsChange then plan.wantedPullSecrets else plan.livePullSecrets) !=
      plan.wantedPullSecrets) = false
    cases hchange : plan.pullSecretsChange with
    | true => simp
    | false => exact hchange

/-- Plans converge: after the merge patch of a plan, or after its operations where these can be
applied, the next plan for the same secrets and config maps changes nothing, and it wants the same
hash. The document is any whose objects are ordered, as they are in all that is read from text
(`Json.ordered_of_parse?`). -/
theorem changesNothing_after_rollout {patched : Json} (hordered : document.Ordered)
    (hread : LiveDeployment.ofJson? document = some deployment)
    (hpatched : patched = (Rollout.of deployment secrets configMaps).mergeInto document ∨
      document.applyAll? (Rollout.of deployment secrets configMaps).operations = some patched) :
    ∃ after, LiveDeployment.ofJson? patched = some after ∧
      (Rollout.of after secrets configMaps).changesNothing = true ∧
      (Rollout.of after secrets configMaps).wantedHash? =
        (Rollout.of deployment secrets configMaps).wantedHash? := by
  have happlied : patched = (Rollout.of deployment secrets configMaps).applied document := by
    rcases hpatched with hmerge | hoperations
    · rw [hmerge, mergeInto_eq_applied]
    · exact eq_applied_of_applyAll? (describes_of hread secrets configMaps) hoperations
  obtain ⟨after, hafter, hof⟩ := exists_read_applied secrets configMaps hordered hread _ rfl
  refine ⟨after, happlied ▸ hafter, ?_, ?_⟩
  · rw [hof]
    exact changesNothing_of_recorded _
  · rw [hof]

/-- In the shop nothing is left to change after the rollout. -/
theorem changesNothing_after_rollout_of_shop :
    shopDocument.Ordered ∧
      ∃ after,
        LiveDeployment.ofJson?
          ((Rollout.of shopDeployment shopSecrets []).mergeInto shopDocument) = some after ∧
        (Rollout.of after shopSecrets []).changesNothing = true := by
  have hordered : shopDocument.Ordered := by
    simp [shopDocument, Json.ordered_obj_iff, Json.ordered_arr_iff, SortedEntries,
      Json.Ordered.str]
    decide
  obtain ⟨after, hafter, hnothing, -⟩ :=
    changesNothing_after_rollout shopSecrets [] hordered
      (show LiveDeployment.ofJson? shopDocument = some shopDeployment from rfl) (.inl rfl)
  exact ⟨hordered, after, hafter, hnothing⟩

end Converged

end ComposeCluster.Content.Rollout

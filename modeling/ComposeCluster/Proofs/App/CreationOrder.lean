import ComposeCluster.Proofs.App.PodVolumes

/-!
# The order of creation

The objects of an app may be created one after the other: the namespace comes first, and everything
that an object refers to stands before it (`Manifest.ResolvedAfter`, which is looked at block by
block). Inside the pod, everything that a container mounts is one of its volumes.
-/

set_option autoImplicit false

namespace ComposeCluster

namespace Manifest

/-- Every object refers only to those that stand before it, or that were there earlier. -/
def ResolvedAfter : List ObjectRef → List Manifest → Prop
  | _, [] => True
  | earlier, object :: rest =>
    (∀ ref ∈ object.references, ref ∈ earlier) ∧ ResolvedAfter (earlier ++ [object.ref]) rest

/-- References are resolved in two lists if they are in each, with the first before the second. -/
theorem resolvedAfter_append {earlier : List ObjectRef} {front back : List Manifest} :
    ResolvedAfter earlier (front ++ back) ↔
      ResolvedAfter earlier front ∧ ResolvedAfter (earlier ++ front.map ref) back := by
  induction front generalizing earlier with
  | nil => simp [ResolvedAfter]
  | cons object rest ih =>
    rw [List.cons_append, ResolvedAfter, ResolvedAfter, ih, and_assoc, List.map_cons,
      List.append_assoc, List.singleton_append]

/-- Objects that need nothing but what was there earlier may come in any order. -/
theorem resolvedAfter_of_forall {earlier : List ObjectRef} {objects : List Manifest}
    (h : ∀ object ∈ objects, ∀ ref ∈ object.references, ref ∈ earlier) :
    ResolvedAfter earlier objects := by
  induction objects generalizing earlier with
  | nil => trivial
  | cons object rest ih =>
    refine ⟨h object List.mem_cons_self, ih fun later hmem ref href => ?_⟩
    exact List.mem_append_left _ (h later (List.mem_cons_of_mem _ hmem) ref href)

/-- What an object refers to stands before it. -/
theorem ResolvedAfter.exists_before {objects front back : List Manifest} {object : Manifest}
    (h : ResolvedAfter [] objects) (hsplit : objects = front ++ object :: back) {ref : ObjectRef}
    (href : ref ∈ object.references) : ∃ target ∈ front, target.ref = ref := by
  rw [hsplit, resolvedAfter_append] at h
  exact List.mem_map.1 (h.2.1 ref href)

end Manifest

/-- Whether an object is in a namespace, or belongs to the cluster if it is of such a kind. -/
def ObjectRef.IsIn (nameSpace : String) (ref : ObjectRef) : Prop :=
  ref.nameSpace? =
    if ref.kind = "Namespace" ∨ ref.kind = "PersistentVolume" then none else some nameSpace

namespace Job.Assembles

open Compose (FileUse)
open Manifest (ResolvedAfter resolvedAfter_append resolvedAfter_of_forall)

variable {job : Job} {tree : SourceTree} {bindings : List VolumeBinding}
  {project : Compose.Project} {conversion : Conversion} {manifests : ManifestSet}

/-! ## The pod -/

/-- The pod of the deployment is made of the project, its content and its volumes. -/
theorem pod_eq (h : job.Assembles tree bindings project conversion manifests) :
    manifests.deployment.spec.template.spec =
      HashedPod.specOf conversion.project manifests.content manifests.bound job.podSetting := by
  rw [h.deployment]
  rfl

/-- The containers take variables only from secrets that need not exist. -/
theorem references_container (h : job.Assembles tree bindings project conversion manifests)
    (nameSpace? : Option String) {container : Container}
    (hmem : container ∈
      (conversion.project.subPaths.initContainer? job.podSetting.initImage).toList ++
        conversion.project.containers) :
    container.references nameSpace? = [] := by
  rcases List.mem_append.1 hmem with hinit | hservice
  · rw [Container.references, (Compose.DirectoryPlan.of_initContainer? hinit).1]
    rfl
  · obtain ⟨service, -, hof⟩ := exists_left_of_forall₂ h.normal.containers hservice
    rw [Container.references, hof.envFrom_eq]
    rfl

/-- The secret for images is among the content objects if there are credentials. -/
theorem pullSecret_mem_contentRefs {normal : Compose.Normal} {credentials : String}
    (hcredentials : credentials ∈ job.credentials?.toList) :
    job.localRef .secret job.component.pullSecret ∈ job.contentRefs normal := by
  have hmem := List.mem_map_of_mem (f := fun _ : String =>
    job.localRef .secret job.component.pullSecret) hcredentials
  unfold contentRefs
  exact List.mem_append_left _ (List.mem_append_left _ (List.mem_append_left _ hmem))

/-- Content that is stored is in an object of the app. -/
theorem localRef_mem_contentRefs {normal : Compose.Normal} {kind : SourceKind} {name key : String}
    (hstored : (name, key) ∈ normal.stored kind) :
    job.localRef kind.objectKind (FileUse.objectName job.component kind name) ∈
      job.contentRefs normal := by
  unfold contentRefs
  cases kind with
  | config =>
    have hmem := List.mem_map_of_mem (f := fun entry : String × String =>
      job.localRef .configMap (job.component.configMap entry.1)) hstored
    exact List.mem_append_left _ (List.mem_append_left _ (List.mem_append_right _ hmem))
  | secret =>
    have hmem := List.mem_map_of_mem (f := fun entry : String × String =>
      job.localRef .secret (job.component.configSecret entry.1)) hstored
    exact List.mem_append_left _ (List.mem_append_right _ hmem)

/-- What a volume of the pod shows is a claim or a content object of the app. -/
theorem mem_of_references_volume (h : job.Assembles tree bindings project conversion manifests)
    {volume : Volume} {ref : ObjectRef}
    (hmem : volume ∈ manifests.bound.map BoundVolume.podVolume ++ manifests.content.volumes)
    (href : ref ∈ volume.references (some job.identity.nameSpace)) :
    ref ∈ bindings.map job.claimRef ++ job.contentRefs conversion.project := by
  rcases List.mem_append.1 hmem with hclaimed | hcontent
  · obtain ⟨bound, hbound, rfl⟩ := List.mem_map.1 hclaimed
    obtain ⟨binding, hbinding, -, _, _, _, -, hclaim⟩ := exists_left_of_forall₂ h.bound hbound
    have href : ref = job.localRef .persistentVolumeClaim bound.claim.metadata.name :=
      List.mem_singleton.1 href
    rw [href, hclaim]
    exact List.mem_append_left _ (List.mem_map_of_mem hbinding)
  · obtain ⟨kind, name, file, hfile, rfl⟩ := (Content.Objects.mem_volumes h.content).1 hcontent
    obtain ⟨service, -, definition, hmounts, hobject, -⟩ :=
      h.normal.shared.shown kind name file hfile
    obtain ⟨content, -, hstored⟩ := h.normal.exists_stored hmounts.2
    have href : ref = job.localRef kind.objectKind file.object := by
      cases kind <;> exact List.mem_singleton.1 href
    rw [href, hobject]
    exact List.mem_append_right _ (localRef_mem_contentRefs hstored)

/-- Everything that the deployment cannot do without is a claim or a content object of the app. -/
theorem mem_of_references_deployment
    (h : job.Assembles tree bindings project conversion manifests) {ref : ObjectRef}
    (href : ref ∈ (Manifest.deployment manifests.deployment).references) :
    ref ∈ bindings.map job.claimRef ++ job.contentRefs conversion.project := by
  have hnameSpace : manifests.deployment.metadata.nameSpace? = some job.identity.nameSpace := by
    rw [h.deployment]
    rfl
  rw [Manifest.references, h.pod_eq, hnameSpace, PodSpec.references, List.mem_append,
    List.mem_append] at href
  rcases href with (hpull | hvolume) | hcontainer
  · obtain ⟨name, hname, rfl⟩ := List.mem_map.1 hpull
    obtain ⟨secret, hsecret, rfl⟩ := List.mem_map.1 hname
    rw [Content.Objects.name_of_mem_pullSecret? h.content hsecret]
    obtain ⟨hpulls, -⟩ := Content.Objects.of_ofNormal h.content
    rw [hpulls, Option.toList_map] at hsecret
    obtain ⟨credentials, hcredentials, -⟩ := List.mem_map.1 hsecret
    exact List.mem_append_right _ (pullSecret_mem_contentRefs hcredentials)
  · obtain ⟨volume, hmem, href⟩ := List.mem_flatMap.1 hvolume
    exact h.mem_of_references_volume hmem href
  · obtain ⟨container, hmem, href⟩ := List.mem_flatMap.1 hcontainer
    rw [h.references_container _ hmem] at href
    cases href

/-- Everything that a container mounts is a volume of the pod. -/
theorem mount_names_volume (h : job.Assembles tree bindings project conversion manifests)
    {container : Container} {mount : VolumeMount}
    (hmem : container ∈ manifests.deployment.spec.template.spec.initContainers ++
      manifests.deployment.spec.template.spec.containers)
    (hmount : mount ∈ container.mounts) :
    mount.volume ∈ manifests.deployment.spec.template.spec.volumes.map (·.name) := by
  have hbound : manifests.bound.map (·.binding.volume) =
      (job.context tree).volumes.map (·.name) := map_volume_of_binds h.volumes h.bound
  rw [h.pod_eq] at hmem ⊢
  exact HashedPod.mount_names_volume h.normal h.content hbound hmem hmount

/-! ## The order -/

/-- Policies and what belongs to them refer to earlier ones of themselves only. -/
theorem resolved_policies (h : job.Assembles tree bindings project conversion manifests)
    (earlier : List ObjectRef) :
    ResolvedAfter earlier (manifests.policies?.toList.flatMap ManifestSet.policyObjects) := by
  have hgroup : ObjectKind.serviceAccount.groupAndVersion.1 = "" := by decide
  rw [h.policies, policies?]
  split
  · refine ⟨List.forall_mem_nil _, List.forall_mem_nil _, fun ref href => ?_,
      List.forall_mem_nil _, trivial⟩
    rcases List.mem_cons.1 href with rfl | hsubject
    · exact List.mem_append_right _ (List.mem_singleton.2 rfl)
    · have haccount : ref = job.localRef .serviceAccount job.target.app.name := by
        rw [localRef, ObjectRef.of, hgroup]
        exact List.mem_singleton.1 hsubject
      rw [haccount]
      exact List.mem_append_left _ (List.mem_append_right _ (List.mem_singleton.2 rfl))
  · trivial

/-- A claim refers to the volume for the same binding. -/
theorem mem_of_references_claim (h : job.Assembles tree bindings project conversion manifests)
    {object : Manifest} {ref : ObjectRef}
    (hmem : object ∈ manifests.bound.map fun bound => .persistentVolumeClaim bound.claim)
    (href : ref ∈ object.references) : ref ∈ bindings.map job.volumeRef := by
  obtain ⟨bound, hbound, rfl⟩ := List.mem_map.1 hmem
  obtain ⟨binding, hbinding, -, _, _, _, -, hclaim⟩ := exists_left_of_forall₂ h.bound hbound
  obtain rfl := List.mem_singleton.1 href
  rw [hclaim]
  exact List.mem_map_of_mem hbinding

/-- An ingress refers to the service, which is there. -/
theorem mem_of_references_ingress (h : job.Assembles tree bindings project conversion manifests)
    {object : Manifest} {ref : ObjectRef}
    (hmem : object ∈ manifests.ingresses.toList.map .ingress) (href : ref ∈ object.references) :
    ref ∈ (manifests.service?.toList.map .service).map Manifest.ref := by
  obtain ⟨ingress, hingress, rfl⟩ := List.mem_map.1 hmem
  rcases h.ingresses_cases with hnone | ⟨hservice, hmade⟩
  · rw [hnone] at hingress
    cases hingress
  · obtain ⟨service, hservice⟩ := Option.isSome_iff_exists.1 hservice
    rw [h.map_ref_service, hservice]
    obtain ⟨hdefault, hcustom⟩ := AppIngresses.of_ofRoutes hmade
    have hleads : ingress.metadata.nameSpace? = some job.identity.nameSpace ∧
        AppIngresses.LeadToService job.scope ingress.spec.rules := by
      rcases List.mem_append.1 hingress with hmem | hmem
      · obtain ⟨hheader, hrules⟩ := hdefault ingress (Option.mem_toList.1 hmem)
        rw [hheader]
        exact ⟨rfl, hrules⟩
      · obtain ⟨hheader, hrules⟩ := hcustom ingress (Option.mem_toList.1 hmem)
        rw [hheader]
        exact ⟨AppIngresses.nameSpace?_customMetadata job.scope _, hrules⟩
    obtain ⟨rule, hrule, hpath⟩ := List.mem_flatMap.1 href
    obtain ⟨route, host, rfl⟩ := hleads.2 rule hrule
    have hbackend : ref = .of .service ingress.metadata.nameSpace? job.component.resource :=
      List.mem_singleton.1 hpath
    rw [hbackend, hleads.1]
    exact List.mem_singleton.2 rfl

/-- All objects refer to earlier ones only. -/
theorem resolved_objects (h : job.Assembles tree bindings project conversion manifests) :
    ResolvedAfter [] manifests.objects := by
  have hnothing {objects : List Manifest} (earlier : List ObjectRef)
      (hnone : ∀ object ∈ objects, object.references = []) : ResolvedAfter earlier objects :=
    resolvedAfter_of_forall fun object hmem ref href => by
      rw [hnone object hmem] at href
      cases href
  have hcontent : ∀ object ∈ ManifestSet.contentObjects manifests.content,
      object.references = [] := by
    intro object hmem
    simp only [ManifestSet.contentObjects, List.mem_append, List.mem_map] at hmem
    rcases hmem with ((⟨_, -, rfl⟩ | ⟨_, -, rfl⟩) | ⟨_, -, rfl⟩) | ⟨_, -, rfl⟩ <;> rfl
  simp only [ManifestSet.objects, resolvedAfter_append, List.map_append]
  -- policies, claims, the deployment and ingresses refer to objects, the other blocks to none
  refine ⟨⟨⟨⟨⟨⟨⟨⟨?nameSpace, ?policies⟩, ?volumes⟩, ?claims⟩, ?content⟩, ?deployment⟩, ?service⟩,
    ?headless⟩, ?ingresses⟩
  case nameSpace => exact ⟨List.forall_mem_nil _, trivial⟩
  case policies => exact h.resolved_policies _
  case volumes =>
    refine hnothing _ fun object hmem => ?_
    obtain ⟨bound, -, rfl⟩ := List.mem_map.1 hmem
    rfl
  case claims =>
    refine resolvedAfter_of_forall fun object hmem ref href => ?_
    rw [h.map_ref_volumes]
    exact List.mem_append_right _ (List.mem_append_right _ (h.mem_of_references_claim hmem href))
  case content => exact hnothing _ hcontent
  case deployment =>
    refine ⟨fun ref href => ?_, trivial⟩
    have hmem := h.mem_of_references_deployment href
    rw [h.map_ref_claims, h.map_ref_content]
    rcases List.mem_append.1 hmem with hclaim | hobject
    · exact List.mem_append_right _ (List.mem_append_left _ (List.mem_append_right _ hclaim))
    · exact List.mem_append_right _ (List.mem_append_right _ hobject)
  case service =>
    refine hnothing _ fun object hmem => ?_
    obtain ⟨service, -, rfl⟩ := List.mem_map.1 hmem
    rfl
  case headless =>
    refine hnothing _ fun object hmem => ?_
    obtain ⟨service, -, rfl⟩ := List.mem_map.1 hmem
    rfl
  case ingresses =>
    refine resolvedAfter_of_forall fun object hmem ref href => ?_
    have hservice := h.mem_of_references_ingress hmem href
    exact List.mem_append_right _ (List.mem_append_left _ (List.mem_append_right _ hservice))

/-! ## The namespace -/

section Blocks

variable (job : Job)

/-- An object of a kind that belongs to a namespace is in that of the app. -/
theorem isIn_localRef {kind : ObjectKind}
    (hkind : ¬ (kind.kind = "Namespace" ∨ kind.kind = "PersistentVolume")) (name : String) :
    (job.localRef kind name).IsIn job.identity.nameSpace :=
  (if_neg hkind).symm

/-- Policies and what belongs to them are in the namespace of the app. -/
theorem isIn_of_mem_policyRefs {ref : ObjectRef} (hmem : ref ∈ job.policyRefs) :
    ref.IsIn job.identity.nameSpace := by
  unfold policyRefs at hmem
  split at hmem
  · simp only [List.mem_cons, List.not_mem_nil, or_false] at hmem
    rcases hmem with rfl | rfl | rfl | rfl <;> exact isIn_localRef job (by decide) _
  · cases hmem

/-- Content objects are in the namespace of the app. -/
theorem isIn_of_mem_contentRefs {normal : Compose.Normal} {ref : ObjectRef}
    (hmem : ref ∈ job.contentRefs normal) : ref.IsIn job.identity.nameSpace := by
  simp only [contentRefs, List.mem_append, List.mem_map, or_assoc] at hmem
  rcases hmem with ⟨_, -, rfl⟩ | ⟨_, -, rfl⟩ | ⟨_, -, rfl⟩ | ⟨_, -, rfl⟩ <;>
    exact isIn_localRef job (by decide) _

/-- Services without an address are in the namespace of the app. -/
theorem isIn_of_mem_headlessRefs {services : List String} {ref : ObjectRef}
    (hmem : ref ∈ job.headlessRefs services) : ref.IsIn job.identity.nameSpace := by
  unfold headlessRefs at hmem
  split at hmem
  · obtain ⟨name, -, rfl⟩ := List.mem_map.1 hmem
    exact isIn_localRef job (by decide) name
  · cases hmem

/-- Ingresses are in the namespace of the app. -/
theorem isIn_of_mem_ingressRefs {ingresses : AppIngresses} {ref : ObjectRef}
    (hmem : ref ∈ job.ingressRefs ingresses) : ref.IsIn job.identity.nameSpace := by
  simp only [ingressRefs, List.mem_append, List.mem_map] at hmem
  rcases hmem with ⟨_, -, rfl⟩ | ⟨_, -, rfl⟩ <;> exact isIn_localRef job (by decide) _

end Blocks

/-- Everything but the namespace and the volumes is in the namespace of the app. -/
theorem isIn_of_mem_objects (h : job.Assembles tree bindings project conversion manifests)
    {object : Manifest} (hmem : object ∈ manifests.objects) :
    object.ref.IsIn job.identity.nameSpace := by
  have href : object.ref ∈ manifests.objects.map Manifest.ref := List.mem_map_of_mem hmem
  rw [h.map_ref_objects] at href
  simp only [List.mem_append, List.mem_singleton, List.mem_map, or_assoc] at href
  rcases href with hnameSpace | hpolicy | ⟨_, -, hvolume⟩ | ⟨_, -, hclaim⟩ | hcontent |
    hdeployment | ⟨_, -, hservice⟩ | hheadless | hingress
  · rw [hnameSpace]
    rfl
  · exact isIn_of_mem_policyRefs job hpolicy
  · rw [← hvolume]
    rfl
  · rw [← hclaim]
    exact isIn_localRef job (by decide) _
  · exact isIn_of_mem_contentRefs job hcontent
  · rw [hdeployment]
    exact isIn_localRef job (by decide) _
  · rw [← hservice]
    exact isIn_localRef job (by decide) _
  · exact isIn_of_mem_headlessRefs job hheadless
  · exact isIn_of_mem_ingressRefs job hingress

end Job.Assembles

namespace Progress

variable {job : Job} {calls : List Call} {turn : Turn} {delivery : Delivery}

/-- The objects of an app can be created in their order. The namespace comes first, and all others
are in it or belong to the cluster; what an object cannot do without stands before it; and what a
container of the pod mounts is a volume of the pod. -/
theorem created_in_order (hturn : turn ∈ turns job calls start)
    (hreply : turn.reply = .ok (some delivery)) :
    (∃ nameSpace rest, delivery.manifests.objects = .nameSpace nameSpace :: rest ∧
      ∀ object ∈ delivery.manifests.objects, object.ref.IsIn nameSpace.metadata.name) ∧
    (∀ front object back, delivery.manifests.objects = front ++ object :: back →
      ∀ ref ∈ object.references, ∃ target ∈ front, target.ref = ref) ∧
    let pod := delivery.manifests.deployment.spec.template.spec
    ∀ container ∈ pod.initContainers ++ pod.containers, ∀ mount ∈ container.mounts,
      mount.volume ∈ pod.volumes.map (·.name) := by
  obtain ⟨tree, bindings, hmakes, -⟩ := makes_of_delivered hturn hreply
  obtain ⟨project, conversion, -, h⟩ := hmakes.exists_parts
  refine ⟨⟨delivery.manifests.nameSpace, _, rfl, fun object hmem => ?_⟩,
    fun front object back hsplit ref href => h.resolved_objects.exists_before hsplit href,
    fun container hmem mount hmount => h.mount_names_volume hmem hmount⟩
  rw [h.nameSpace]
  exact h.isIn_of_mem_objects hmem

/-- An app with a volume, content of every kind, and an ingress. -/
def storeJob : Job where
  target :=
    { workspace := "team"
      provider := "home"
      driver := "local"
      cluster := ⟨"main", ⟨none, some "example.org", none⟩⟩
      app :=
        { name := "store"
          compose :=
            "services:\n  web:\n    image: nginx\n    env_file: web.env\n" ++
            "    ports: ['80:8080']\n    volumes: ['data/files:/files']\n" ++
            "    configs: [site]\n    secrets: [key]\n" ++
            "configs:\n  site:\n    content: hello\nsecrets:\n  key:\n    content: k\n"
          baseDir? := none
          volumes := [⟨"data", 1048576⟩]
          ingress := ⟨none, [⟨"main", 80, ["store.example.com"]⟩]⟩
          nodes := .any
          admissions := [] } }
  settings := .standard
  resolver := fun _ _ _ => .ok { VolumeClass.blank with driver := "disk" }
  credentials? := some "\x7b\"auths\":1\x7d"

def storeCalls : List Call :=
  [.convert ⟨["srv"], [(["srv", "web.env"], .file (Text.utf8 "A=1\n"))]⟩,
    .bind [⟨"data", ⟨"disk-1", 0⟩, none⟩], .build]

/-- In the store each object is created after those that it refers to. -/
theorem created_in_order_for_store :
    ∃ turn ∈ turns storeJob storeCalls start, ∃ delivery, turn.reply = .ok (some delivery) ∧
      ∀ front object back, delivery.manifests.objects = front ++ object :: back →
        ∀ ref ∈ object.references, ∃ target ∈ front, target.ref = ref := by
  have hok : ((turns storeJob storeCalls start).any (·.delivery?.any fun _ => true)) = true := by
    decide +kernel
  obtain ⟨turn, hturn, delivery, hreply, -⟩ := Turn.exists_delivered hok
  exact ⟨turn, hturn, delivery, hreply, (created_in_order hturn hreply).2.1⟩

end Progress

end ComposeCluster

import ComposeCluster.Proofs.App.Assembly
import ComposeCluster.Proofs.App.Ingresses

/-!
# Objects as others refer to them

A cluster finds an object by its group, its kind, its namespace and its name (`Manifest.ref`), and
an object says in the same way which others it needs (`Manifest.references`). The objects of an app
are put together in blocks; for each block there is one lemma about what its objects are called.
-/

set_option autoImplicit false

namespace ComposeCluster

/-- What an object is called: its group and its kind, the namespace if it is in one, and its
name. -/
structure ObjectRef where
  group : String
  kind : String
  nameSpace? : Option String
  name : String
  deriving DecidableEq

namespace ObjectRef

def of (kind : ObjectKind) (nameSpace? : Option String) (name : String) : ObjectRef :=
  ⟨kind.groupAndVersion.1, kind.kind, nameSpace?, name⟩

end ObjectRef

def Header.ref (header : Header) : ObjectRef :=
  .of ⟨header.apiVersion, header.kind⟩ header.metadata.nameSpace? header.metadata.name

def Manifest.ref (manifest : Manifest) : ObjectRef := manifest.header.ref

/-- A header refers to its kind, its namespace and its name. -/
theorem Header.ref_of (kind : ObjectKind) (metadata : Meta) :
    (Header.of kind metadata).ref = .of kind metadata.nameSpace? metadata.name := rfl

/-! ## References -/

def SourceKind.objectKind : SourceKind → ObjectKind
  | .config => .configMap
  | .secret => .secret

/-- The objects that a source of variables cannot do without. -/
def EnvSource.references (nameSpace? : Option String) (source : EnvSource) : List ObjectRef :=
  let needed (ref : EnvSourceRef) : Bool := ref.optional? != some true
  (source.configMap?.filter needed).toList.map (fun ref => .of .configMap nameSpace? ref.name) ++
    (source.secret?.filter needed).toList.map fun ref => .of .secret nameSpace? ref.name

def Container.references (nameSpace? : Option String) (container : Container) : List ObjectRef :=
  container.envFrom.flatMap (·.references nameSpace?)

def Volume.references (nameSpace? : Option String) (volume : Volume) : List ObjectRef :=
  volume.configMap?.toList.map (fun source => .of .configMap nameSpace? source.object) ++
    volume.secret?.toList.map (fun source => .of .secret nameSpace? source.object) ++
    volume.claim?.toList.map (.of .persistentVolumeClaim nameSpace?)

/-- The objects that a pod cannot do without. -/
def PodSpec.references (nameSpace? : Option String) (spec : PodSpec) : List ObjectRef :=
  spec.pullSecrets.map (.of .secret nameSpace?) ++
    spec.volumes.flatMap (·.references nameSpace?) ++
    (spec.initContainers ++ spec.containers).flatMap (·.references nameSpace?)

/-- The accounts and the role that a binding brings together. -/
def RoleBinding.references (binding : RoleBinding) : List ObjectRef :=
  ⟨binding.role.group, binding.role.kind, binding.metadata.nameSpace?, binding.role.name⟩ ::
    binding.subjects.map fun subject => ⟨"", subject.kind, some subject.nameSpace, subject.name⟩

def Ingress.references (ingress : Ingress) : List ObjectRef :=
  ingress.spec.rules.flatMap fun rule => rule.paths.map fun path =>
    .of .service ingress.metadata.nameSpace? path.backend.service

/-- The objects that an object cannot do without. -/
def Manifest.references : Manifest → List ObjectRef
  | .persistentVolumeClaim object => [.of .persistentVolume none object.spec.volume]
  | .roleBinding object => object.references
  | .deployment object => object.spec.template.spec.references object.metadata.nameSpace?
  | .ingress object => object.references
  | .nameSpace _ | .serviceAccount _ | .role _ | .networkPolicy _ | .persistentVolume _
  | .secret _ | .configMap _ | .service _ => []

/-! ## Ingresses -/

section Ingresses

variable {scope : AppScope} {setting : IngressSetting} {routes : List Route}

/-- Rules that lead to the service of a component. -/
def AppIngresses.LeadToService (scope : AppScope) (rules : List IngressRule) : Prop :=
  ∀ rule ∈ rules, ∃ route host, rule = ruleFor scope route host

/-- The custom ingress is in the namespace of the app. -/
theorem AppIngresses.nameSpace?_customMetadata (scope : AppScope) (certResolver? : Option String) :
    (customMetadata scope certResolver?).nameSpace? = some scope.nameSpace := by
  cases certResolver? <;> rfl

/-- The custom ingress has its own name, whatever the certificates come from. -/
theorem AppIngresses.name_customMetadata (scope : AppScope) (certResolver? : Option String) :
    (customMetadata scope certResolver?).name = (metadata scope "custom").name := by
  cases certResolver? <;> rfl

/-- The ingresses have two names, and lead to the service of the component. -/
theorem AppIngresses.of_ofRoutes {ingresses : AppIngresses}
    (h : ofRoutes scope setting routes = .ok ingresses) :
    (∀ ingress, ingresses.default? = some ingress →
      ingress.toHeader = .of .ingress (metadata scope "default") ∧
        LeadToService scope ingress.spec.rules) ∧
    ∀ ingress, ingresses.custom? = some ingress →
      ingress.toHeader = .of .ingress (customMetadata scope setting.certResolver?) ∧
        LeadToService scope ingress.spec.rules := by
  have hleads : ∀ ingress ∈ ingresses.toList, LeadToService scope ingress.spec.rules := by
    intro ingress hingress rule hrule
    obtain ⟨route, -, host, -, hmade⟩ := exists_serves_of_mem_rules h hingress hrule
    exact ⟨route, host, hmade⟩
  obtain ⟨-, hmade⟩ := ofRoutes_eq_ok.1 h
  refine ⟨fun ingress hdefault => ⟨?_, hleads ingress ?_⟩,
    fun ingress hcustom => ⟨?_, hleads ingress ?_⟩⟩
  · rw [hmade] at hdefault
    obtain ⟨domain, -, rfl⟩ := of_defaultIngress? hdefault
    rfl
  · exact List.mem_append_left _ (Option.mem_toList.2 hdefault)
  · rw [hmade] at hcustom
    exact (of_customIngress? hcustom).1
  · exact List.mem_append_right _ (Option.mem_toList.2 hcustom)

end Ingresses

/-! ## What the objects of an app are called -/

namespace Job

/-- An object in the namespace of an app. -/
def localRef (job : Job) (kind : ObjectKind) (name : String) : ObjectRef :=
  .of kind (some job.identity.nameSpace) name

def policyRefs (job : Job) : List ObjectRef :=
  if job.settings.accessObjects then
    [job.localRef .serviceAccount job.target.app.name,
     job.localRef .role (job.target.app.name ++ "-access"),
     job.localRef .roleBinding (job.target.app.name ++ "-access"),
     job.localRef .networkPolicy job.target.app.name]
  else []

def volumeRef (job : Job) (binding : VolumeBinding) : ObjectRef :=
  .of .persistentVolume none (binding.objectName job.identity)

def claimRef (job : Job) (binding : VolumeBinding) : ObjectRef :=
  job.localRef .persistentVolumeClaim (binding.objectName job.identity)

def contentRefs (job : Job) (normal : Compose.Normal) : List ObjectRef :=
  job.credentials?.toList.map (fun _ => job.localRef .secret job.component.pullSecret) ++
    (normal.stored .config).map
      (fun entry => job.localRef .configMap (job.component.configMap entry.1)) ++
    (normal.stored .secret).map
      (fun entry => job.localRef .secret (job.component.configSecret entry.1)) ++
    normal.envData.map fun env => job.localRef .secret (job.component.envSecret env.service)

/-- The services that give compose services their names. -/
def headlessRefs (job : Job) (services : List String) : List ObjectRef :=
  if job.settings.headlessServices then services.map (job.localRef .service) else []

def ingressRefs (job : Job) (ingresses : AppIngresses) : List ObjectRef :=
  ingresses.default?.toList.map
    (fun _ => job.localRef .ingress (job.component.resource ++ "-default")) ++
    ingresses.custom?.toList.map
      fun _ => job.localRef .ingress (job.component.resource ++ "-custom")

namespace Assembles

open ManifestSet (policyObjects contentObjects)

variable {job : Job} {tree : SourceTree} {bindings : List VolumeBinding}
  {project : Compose.Project} {conversion : Conversion} {manifests : ManifestSet}

/-- References to policies and what belongs to them are known from the job. -/
theorem map_ref_policies (h : job.Assembles tree bindings project conversion manifests) :
    (manifests.policies?.toList.flatMap policyObjects).map Manifest.ref = job.policyRefs := by
  rw [h.policies, policies?, policyRefs]
  split <;> rfl

/-- References to volumes in the cluster are known from the bindings. -/
theorem map_ref_volumes (h : job.Assembles tree bindings project conversion manifests) :
    (manifests.bound.map fun bound => Manifest.persistentVolume bound.volume).map Manifest.ref =
      bindings.map job.volumeRef := by
  rw [List.map_map]
  refine (map_eq_of_forall₂ h.bound ?_).symm
  rintro binding bound ⟨-, volumeClass, handle, size, hvolume, -⟩
  rw [Function.comp_apply, hvolume]
  rfl

/-- References to claims are known from the bindings. -/
theorem map_ref_claims (h : job.Assembles tree bindings project conversion manifests) :
    (manifests.bound.map fun bound => Manifest.persistentVolumeClaim bound.claim).map
      Manifest.ref = bindings.map job.claimRef := by
  rw [List.map_map]
  refine (map_eq_of_forall₂ h.bound ?_).symm
  rintro binding bound ⟨-, volumeClass, handle, size, -, hclaim⟩
  rw [Function.comp_apply, hclaim]
  rfl

/-- References to content objects are known from the normal form. -/
theorem map_ref_content (h : job.Assembles tree bindings project conversion manifests) :
    (contentObjects manifests.content).map Manifest.ref = job.contentRefs conversion.project := by
  obtain ⟨hpull, hconfigMaps, hconfigSecrets, henvSecrets⟩ :=
    Content.Objects.of_ofNormal h.content
  rw [contentObjects, hpull, hconfigMaps, hconfigSecrets, henvSecrets, contentRefs]
  simp only [List.map_append, List.map_map, Option.toList_map, Compose.Normal.stored]
  rfl

/-- References to services without an address are known from the services of the document. -/
theorem map_ref_headless (h : job.Assembles tree bindings project conversion manifests) :
    (manifests.headlessServices.map Manifest.service).map Manifest.ref =
      job.headlessRefs (project.services.map (·.name)) := by
  rw [h.headless, headlessRefs, h.normal.serviceNames_eq]
  split
  · rw [List.map_map, List.map_map]
    rfl
  · rfl

/-- The reference to the service is known from the job, if there is a service. -/
theorem map_ref_service (h : job.Assembles tree bindings project conversion manifests) :
    (manifests.service?.toList.map Manifest.service).map Manifest.ref =
      manifests.service?.toList.map
        (fun _ => job.localRef .service job.component.resource) := by
  rw [h.service, AppScope.service?]
  dsimp only
  split <;> rfl

/-- There are no ingresses without a service. -/
theorem ingresses_cases (h : job.Assembles tree bindings project conversion manifests) :
    manifests.ingresses = .none ∨ manifests.service?.isSome ∧
      AppIngresses.ofRoutes job.scope job.ingressSetting conversion.routes =
        .ok manifests.ingresses := by
  have hmade := h.ingresses
  unfold Job.ingresses at hmade
  split at hmade
  · exact .inl (Except.ok.inj hmade).symm
  · rename_i service hservice
    exact .inr ⟨hservice ▸ rfl, hmade⟩

/-- References to ingresses are known from the job and from which of the two there are. -/
theorem map_ref_ingresses (h : job.Assembles tree bindings project conversion manifests) :
    (manifests.ingresses.toList.map Manifest.ingress).map Manifest.ref =
      job.ingressRefs manifests.ingresses := by
  rcases h.ingresses_cases with hnone | ⟨-, hmade⟩
  · rw [hnone]
    rfl
  · obtain ⟨hdefault, hcustom⟩ := AppIngresses.of_ofRoutes hmade
    have hname (ending : String) : (AppIngresses.metadata job.scope ending).name =
        job.component.resource ++ ("-" ++ ending) := by
      rw [← String.append_assoc]
      rfl
    have hdefaultRef : ∀ ingress ∈ manifests.ingresses.default?.toList,
        (Manifest.ingress ingress).ref =
          job.localRef .ingress (job.component.resource ++ "-default") := fun ingress hmem => by
      show ingress.toHeader.ref = _
      rw [(hdefault ingress (Option.mem_toList.1 hmem)).1, Header.ref_of, hname "default"]
      rfl
    have hcustomRef : ∀ ingress ∈ manifests.ingresses.custom?.toList,
        (Manifest.ingress ingress).ref =
          job.localRef .ingress (job.component.resource ++ "-custom") := fun ingress hmem => by
      show ingress.toHeader.ref = _
      rw [(hcustom ingress (Option.mem_toList.1 hmem)).1, Header.ref_of,
        AppIngresses.nameSpace?_customMetadata, AppIngresses.name_customMetadata, hname "custom"]
      rfl
    rw [AppIngresses.toList, ingressRefs, List.map_map, List.map_append]
    exact congrArg₂ _ (List.map_congr_left hdefaultRef) (List.map_congr_left hcustomRef)

/-- What the objects of an app are called, in the order in which they are to be created. -/
theorem map_ref_objects (h : job.Assembles tree bindings project conversion manifests) :
    manifests.objects.map Manifest.ref =
      [.of .nameSpace none job.identity.nameSpace] ++ job.policyRefs ++
        bindings.map job.volumeRef ++ bindings.map job.claimRef ++
        job.contentRefs conversion.project ++
        [job.localRef .deployment job.component.resource] ++
        manifests.service?.toList.map (fun _ => job.localRef .service job.component.resource) ++
        job.headlessRefs (project.services.map (·.name)) ++
        job.ingressRefs manifests.ingresses := by
  have hnameSpace : (Manifest.nameSpace manifests.nameSpace).ref =
      .of .nameSpace none job.identity.nameSpace := by
    rw [h.nameSpace]
    rfl
  have hdeployment : (Manifest.deployment manifests.deployment).ref =
      job.localRef .deployment job.component.resource := by
    rw [h.deployment]
    rfl
  rw [ManifestSet.objects, List.map_append, List.map_append, List.map_append, List.map_append,
    List.map_append, List.map_append, List.map_append, List.map_append, h.map_ref_policies,
    h.map_ref_volumes, h.map_ref_claims, h.map_ref_content, h.map_ref_service,
    h.map_ref_headless, h.map_ref_ingresses, List.map_singleton, List.map_singleton, hnameSpace,
    hdeployment]

end Assembles

end Job

end ComposeCluster

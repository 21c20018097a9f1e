import ComposeCluster.Proofs.App.Confidential
import ComposeCluster.Proofs.App.CreationOrder
import ComposeCluster.Proofs.Content.Carried

/-!
# What makes pods roll

The hash on the pods of an app is taken of the digests behind the names that the pod refers to. Over
two trees of files the names are the same, and so are the objects that carry digests, so the bytes
are the same exactly if no object behind a name carries another digest. The names are those of the
objects that services mount, and for each service the two names that its environment secrets have
(`Compose.Project.Uses`). The second of these is meant for a secret that an operator adds, but
nothing keeps a secret of the document from being generated under it. Such a collision of names is a
defect: the secret then counts, and even becomes part of the environment, although no service mounts
it (`Job.hash_follows_unmounted_tls`).
-/

set_option autoImplicit false

namespace ComposeCluster

open Content (DataKind DataRef Refs Digests dataKind)
open Compose (FileUse)

/-- The objects whose digests have a say in the hash of a pod: those that its services mount, and
whatever has a name that a service looks for its environment under. The environment of a service is
meant to be there, and so is what an operator puts in the place of its override; that any other
generated object with such a name counts as well is not meant but not prevented. -/
inductive Compose.Project.Uses (component : Component) (project : Project) : DataRef → Prop
  | mounted {service : Service} {kind : SourceKind} {name : String} {definition : Definition}
      (hservice : service ∈ project.services)
      (hmounts : project.Mounts service kind name definition) :
      Uses component project ⟨dataKind kind, FileUse.objectName component kind name⟩
  | environment {service : Service} (kind : DataKind) (hservice : service ∈ project.services) :
      Uses component project ⟨kind, component.envSecret service.name⟩
  | override {service : Service} (kind : DataKind) (hservice : service ∈ project.services) :
      Uses component project ⟨kind, component.envOverrideSecret service.name⟩

/-- What the hash on the pods of an app is taken of. -/
def ManifestSet.hashedBytes (manifests : ManifestSet) : Bytes :=
  manifests.content.digests.hashed (.ofSpec manifests.deployment.spec.template.spec)

/-- Whatever a project uses has a name. -/
theorem Compose.Project.Uses.name_ne {component : Component} {project : Project} {ref : DataRef}
    (h : project.Uses component ref) : ref.name ≠ "" := by
  cases h with
  | @mounted _ kind name =>
    cases kind <;> simp [FileUse.objectName, Component.configMap, Component.configSecret]
  | environment => simp [Component.envSecret]
  | override => simp [Component.envOverrideSecret]

/-- The deployment carries the hash of its pod. -/
theorem AppScope.contentHash_deployment (scope : AppScope) (pod : HashedPod) :
    (scope.deployment pod).spec.template.metadata.annotations.get? Key.contentHash = pod.hash? := by
  unfold deployment
  cases pod.hash? with
  | none => rfl
  | some hash => simp

namespace Job

variable {job : Job} {tree other : SourceTree} {bindings : List VolumeBinding}
  {manifests copies : ManifestSet} {project : Compose.Project} {conversion found : Conversion}

/-! ## The names that the pod refers to -/

/-- A container refers to two names for the environment of its service. -/
theorem mem_envFrom_iff {service : Compose.Service} {container : Container} {name : String}
    (hof : Compose.IsContainerOf (job.context tree) project service container) :
    name ∈ (container.envFrom.flatMap fun source =>
        Refs.envNames (source.secret?.map (·.name)) (source.configMap?.map (·.name))) ↔
      name = job.component.envSecret service.name ∨
        name = job.component.envOverrideSecret service.name := by
  simp [hof.envFrom_eq, EnvSource.optionalSecret, Refs.envNames, Job.context]

namespace Assembles

variable (h : job.Assembles tree bindings project conversion manifests)
include h

/-- The pod refers to every object that the project uses. -/
theorem mem_names_of_uses {ref : DataRef} (huses : project.Uses job.component ref) :
    ref.name ∈ (Refs.ofSpec manifests.deployment.spec.template.spec).names := by
  have hne := huses.name_ne
  rw [h.pod_eq, Refs.mem_names]
  refine ⟨?_, hne⟩
  simp only [Refs.unsorted, Refs.ofSpec, HashedPod.specOf, List.mem_append, List.mem_flatMap,
    List.mem_map]
  cases huses with
  | @mounted service kind name definition hservice hmounts =>
    right
    have hcontains := h.normal.shared.complete service hservice kind name definition hmounts
    obtain ⟨file, hfile⟩ := Option.isSome_iff_exists.1 hcontains
    obtain ⟨-, -, -, -, hobject, -⟩ := h.normal.shared.shown kind name file hfile
    have hvolume := (Content.Objects.mem_volumes h.content).2 ⟨kind, name, file, hfile, rfl⟩
    refine ⟨_, .inr hvolume, ?_⟩
    have hobject : file.object = FileUse.objectName job.component kind name := hobject
    cases kind <;> simp [Content.Objects.fileVolume, Volume.ofConfigMap, Volume.ofSecret,
      Refs.envNames, hobject]
  | environment kind hservice =>
    left; right
    obtain ⟨container, hcontainer, hof⟩ := exists_right_of_forall₂ h.normal.containers hservice
    exact ⟨_, ⟨container, hcontainer, rfl⟩, (mem_envFrom_iff hof).2 (.inl rfl)⟩
  | override kind hservice =>
    left; right
    obtain ⟨container, hcontainer, hof⟩ := exists_right_of_forall₂ h.normal.containers hservice
    exact ⟨_, ⟨container, hcontainer, rfl⟩, (mem_envFrom_iff hof).2 (.inr rfl)⟩

/-- A name that the pod refers to is that of the credentials, or one that a service looks for its
environment under, or that of an object that was generated for what a service mounts. -/
theorem of_mem_names {name : String}
    (hmem : name ∈ (Refs.ofSpec manifests.deployment.spec.template.spec).names) :
    (∃ object ∈ manifests.content.pullSecret?.toList, object.metadata.name = name) ∨
      (∀ kind, project.Uses job.component ⟨kind, name⟩) ∨
      ∃ kind, project.Uses job.component ⟨kind, name⟩ ∧ name ∈ manifests.content.names kind := by
  rw [h.pod_eq, Refs.mem_names] at hmem
  obtain ⟨hmem, -⟩ := hmem
  simp only [Refs.unsorted, Refs.ofSpec, HashedPod.specOf, List.mem_append, List.mem_flatMap,
    List.mem_map] at hmem
  rcases hmem with (hpull | ⟨_, ⟨container, hcontainer, rfl⟩, hsource⟩) | ⟨volume, hvolume, hmem⟩
  · exact .inl hpull
  · right; left
    obtain ⟨service, hservice, hof⟩ := exists_left_of_forall₂ h.normal.containers hcontainer
    intro kind
    rcases (mem_envFrom_iff hof).1 hsource with rfl | rfl
    · exact .environment kind hservice
    · exact .override kind hservice
  · rcases hvolume with ⟨bound, -, rfl⟩ | hvolume
    · simp [BoundVolume.podVolume, Volume.ofClaim, Refs.envNames] at hmem
    · right; right
      obtain ⟨kind, source, file, hfile, rfl⟩ := (Content.Objects.mem_volumes h.content).1 hvolume
      obtain ⟨service, hservice, definition, hmounts, hobject, -⟩ :=
        h.normal.shared.shown kind source file hfile
      have hobject : file.object = FileUse.objectName job.component kind source := hobject
      have hname : name = FileUse.objectName job.component kind source := by
        cases kind <;> simpa [Content.Objects.fileVolume, Volume.ofConfigMap, Volume.ofSecret,
          Refs.envNames, hobject] using hmem
      subst hname
      obtain ⟨content, -, hstored⟩ := h.normal.exists_stored hmounts.2
      exact ⟨dataKind kind, .mounted hservice hmounts,
        Content.Objects.objectName_mem_names h.content hstored⟩

/-- A pod that refers to nothing has no hash; otherwise it has that of the bytes. -/
theorem hash?_pod :
    (HashedPod.of conversion.project manifests.content manifests.bound job.podSetting).hash? =
      if (Refs.ofSpec manifests.deployment.spec.template.spec).names.isEmpty then none
      else some (shortHashOf manifests.hashedBytes Content.digestLength) := by
  have hhash := manifests.content.digests.hash?_eq
    (.ofSpec manifests.deployment.spec.template.spec)
  rw [ManifestSet.hashedBytes, ← hhash, h.pod_eq]
  rfl

/-- The hash on the pods is that of the bytes; there is none where the pod refers to nothing. -/
theorem contentHash_eq :
    manifests.deployment.spec.template.metadata.annotations.get? Key.contentHash =
      if (Refs.ofSpec manifests.deployment.spec.template.spec).names.isEmpty then none
      else some (shortHashOf manifests.hashedBytes Content.digestLength) := by
  have hannotation := job.scope.contentHash_deployment
    (.of conversion.project manifests.content manifests.bound job.podSetting)
  rw [← h.hash?_pod, ← hannotation, h.deployment]

end Assembles

/-! ## Two trees of files -/

namespace Twins

variable (h : job.Twins tree other bindings project conversion found manifests copies)
include h

/-- The same objects are generated. -/
theorem names_eq (kind : DataKind) :
    manifests.content.names kind = copies.content.names kind := by
  cases kind with
  | secret =>
    rw [Content.Objects.names_secret h.first.content, Content.Objects.names_secret h.second.content,
      h.alike.stored, h.alike.environments]
  | configMap =>
    rw [Content.Objects.names_configMap h.first.content,
      Content.Objects.names_configMap h.second.content, h.alike.stored]

/-- They all carry digests. -/
theorem isSome_carried?_eq (ref : DataRef) :
    (manifests.content.digests.carried? ref).isSome =
      (copies.content.digests.carried? ref).isSome := by
  rw [Bool.eq_iff_iff, Content.Objects.isSome_carried? h.first.content,
    Content.Objects.isSome_carried? h.second.content, h.names_eq]

variable (hnames :
  (manifests.content.names .secret ++ manifests.content.names .configMap).Nodup)
include hnames

/-- The digests are valid over both trees. -/
theorem valid_digests : manifests.content.digests.Valid ∧ copies.content.digests.Valid := by
  obtain ⟨hsecrets, hconfigMaps, -⟩ := List.nodup_append.1 hnames
  have hfirst : ∀ kind, (manifests.content.names kind).Nodup := by
    intro kind
    cases kind with
    | secret => exact hsecrets
    | configMap => exact hconfigMaps
  constructor
  · exact Content.Objects.valid_digests h.first.content hfirst
  · apply Content.Objects.valid_digests h.second.content
    intro kind
    rw [← h.names_eq]
    exact hfirst kind

/-- No secret is called like a config map. -/
theorem carried?_eq_none {name : String} {kind : DataKind}
    (hmem : name ∈ manifests.content.names kind) {asked : DataKind} (hne : asked ≠ kind) :
    manifests.content.digests.carried? ⟨asked, name⟩ = none := by
  obtain ⟨-, -, hapart⟩ := List.nodup_append.1 hnames
  rw [← Option.isNone_iff_eq_none, ← Option.not_isSome, Bool.not_eq_true',
    ← Bool.not_eq_true, Content.Objects.isSome_carried? h.first.content]
  intro hasked
  cases kind <;> cases asked
  · exact hne rfl
  · exact hapart name hmem name hasked rfl
  · exact hapart name hasked name hmem rfl
  · exact hne rfl

/-- An object of another kind with the name of a generated one carries the same digest over both
trees. -/
theorem carried?_eq_of_ne {name : String} {kind : DataKind}
    (hmem : name ∈ manifests.content.names kind) {asked : DataKind} (hne : asked ≠ kind) :
    manifests.content.digests.carried? ⟨asked, name⟩ =
      copies.content.digests.carried? ⟨asked, name⟩ := by
  have hnone := h.carried?_eq_none hnames hmem hne
  rw [hnone, Digests.carried?_eq_none_of_kept (h.isSome_carried?_eq _) hnone]

/-- One object has a name, so the digests under the name are the same exactly if those are that
objects of either kind carry. -/
theorem get?_byName_eq_iff (name : String) :
    manifests.content.digests.byName.get? name = copies.content.digests.byName.get? name ↔
      ∀ kind, manifests.content.digests.carried? ⟨kind, name⟩ =
        copies.content.digests.carried? ⟨kind, name⟩ := by
  obtain ⟨hvalid, hvalid'⟩ := h.valid_digests hnames
  apply Digests.get?_byName_eq_iff hvalid hvalid' h.isSome_carried?_eq
  by_cases hmem : name ∈ manifests.content.names .configMap
  · right
    exact h.carried?_eq_none hnames hmem nofun
  · left
    rw [← Option.isNone_iff_eq_none, ← Option.not_isSome, Bool.not_eq_true', ← Bool.not_eq_true,
      Content.Objects.isSome_carried? h.first.content]
    exact hmem

/-- The credentials are the same, so what is found under their name is. -/
theorem carried?_pullSecret_eq {object : Secret}
    (hmem : object ∈ manifests.content.pullSecret?.toList) (kind : DataKind) :
    manifests.content.digests.carried? ⟨kind, object.metadata.name⟩ =
      copies.content.digests.carried? ⟨kind, object.metadata.name⟩ := by
  obtain ⟨hvalid, hvalid'⟩ := h.valid_digests hnames
  have hfirst : object ∈ manifests.content.secrets :=
    List.mem_append_left _ (List.mem_append_left _ hmem)
  have hsecond : object ∈ copies.content.secrets := by
    rw [h.pullSecret_eq] at hmem
    exact List.mem_append_left _ (List.mem_append_left _ hmem)
  cases kind with
  | secret =>
    rw [Content.Objects.carried?_of_mem_secrets h.first.content hvalid hfirst,
      Content.Objects.carried?_of_mem_secrets h.second.content hvalid' hsecond]
  | configMap =>
    have hname : object.metadata.name ∈ manifests.content.names .secret :=
      List.mem_map_of_mem hfirst
    exact h.carried?_eq_of_ne hnames hname nofun

/-- The bytes are the same exactly if every object that the project uses carries the same digest. -/
theorem hashedBytes_eq_iff :
    manifests.hashedBytes = copies.hashedBytes ↔
      ∀ ref, project.Uses job.component ref →
        manifests.content.digests.carried? ref = copies.content.digests.carried? ref := by
  obtain ⟨hvalid, hvalid'⟩ := h.valid_digests hnames
  rw [ManifestSet.hashedBytes, ManifestSet.hashedBytes, ← h.spec_eq,
    Digests.hashed_eq_iff_of_kept hvalid hvalid' h.isSome_carried?_eq]
  constructor
  · intro hfound ref huses
    have hmem := h.first.mem_names_of_uses huses
    exact (h.get?_byName_eq_iff hnames ref.name).1 (hfound ref.name hmem) ref.kind
  · intro hcarried name hmem
    apply (h.get?_byName_eq_iff hnames name).2
    intro kind
    rcases h.first.of_mem_names hmem with ⟨object, hobject, rfl⟩ | hall | ⟨shown, huses, hnamed⟩
    · -- The credentials do not come from files.
      exact h.carried?_pullSecret_eq hnames hobject kind
    · exact hcarried _ (hall kind)
    · -- The name is that of an object that is mounted, and of no other one.
      by_cases hkind : kind = shown
      · subst hkind
        exact hcarried _ huses
      · exact h.carried?_eq_of_ne hnames hnamed hkind

omit hnames in
/-- Where the bytes are the same, so is everything about the pods. -/
theorem deployment_eq (hbytes : manifests.hashedBytes = copies.hashedBytes) :
    manifests.deployment = copies.deployment := by
  have hspec := h.spec_eq
  have hhash : (HashedPod.of conversion.project manifests.content manifests.bound
      job.podSetting).hash? = (HashedPod.of found.project copies.content copies.bound
        job.podSetting).hash? := by
    rw [h.first.hash?_pod, h.second.hash?_pod, hspec, hbytes]
  rw [h.first.pod_eq, h.second.pod_eq] at hspec
  rw [h.first.deployment, h.second.deployment]
  exact congrArg job.scope.deployment (congrArg₂ HashedPod.mk hspec hhash)

end Twins

/-- Over two trees of files the hash on the pods is taken of the same bytes exactly if every object
that the pod refers to by name carries the same digest in both, and then the deployment is the same.
-/
theorem hash_follows_used_content {delivery copy : Delivery}
    (h : job.run tree bindings = .ok delivery) (hother : job.run other bindings = .ok copy)
    (hnames : (delivery.manifests.content.names .secret ++
      delivery.manifests.content.names .configMap).Nodup) :
    ∃ project, Compose.Project.parse job.target.app.compose = .ok project ∧
      (∀ manifests ∈ [delivery.manifests, copy.manifests],
        manifests.deployment.spec.template.metadata.annotations.get? Key.contentHash =
          if (Refs.ofSpec manifests.deployment.spec.template.spec).names.isEmpty then none
          else some (shortHashOf manifests.hashedBytes Content.digestLength)) ∧
      (delivery.manifests.hashedBytes = copy.manifests.hashedBytes ↔
        ∀ ref, project.Uses job.component ref →
          delivery.manifests.content.digests.carried? ref =
            copy.manifests.content.digests.carried? ref) ∧
      (delivery.manifests.hashedBytes = copy.manifests.hashedBytes →
        delivery.manifests.deployment = copy.manifests.deployment) := by
  obtain ⟨project, conversion, found, hparse, htwins⟩ :=
    (makes_of_run h).exists_twins (makes_of_run hother)
  refine ⟨project, hparse, ?_, htwins.hashedBytes_eq_iff hnames, htwins.deployment_eq⟩
  intro manifests hmem
  rcases List.mem_pair.1 hmem with rfl | rfl
  · exact htwins.first.contentHash_eq
  · exact htwins.second.contentHash_eq

/-- A change of an environment file changes the bytes. -/
theorem hash_follows_environment_of_shop :
    ∃ delivery copy, Progress.shopJob.run (shopTree "A=1") [] = .ok delivery ∧
      Progress.shopJob.run (shopTree "A=2") [] = .ok copy ∧
      delivery.manifests.hashedBytes ≠ copy.manifests.hashedBytes := by
  have hok : ((Progress.shopJob.run (shopTree "A=1") []).toOption.any fun delivery =>
      (Progress.shopJob.run (shopTree "A=2") []).toOption.any fun copy =>
        (delivery.manifests.content.names .secret ++
          delivery.manifests.content.names .configMap).Nodup ∧
        delivery.manifests.content.digests.carried? ⟨.secret, "shop-app-web-base"⟩ ≠
          copy.manifests.content.digests.carried? ⟨.secret, "shop-app-web-base"⟩) = true := by
    decide +kernel
  have hservices : ((Compose.Project.parse Progress.shopJob.target.app.compose).toOption.all
      fun project => project.services.any (·.name == "web")) = true := by
    decide +kernel
  obtain ⟨delivery, hrun, hok⟩ := Except.exists_of_any hok
  obtain ⟨copy, hrun', hok⟩ := Except.exists_of_any hok
  obtain ⟨hnames, hne⟩ := of_decide_eq_true hok
  refine ⟨delivery, copy, hrun, hrun', fun hbytes => ?_⟩
  obtain ⟨project, hparse, -, hiff, -⟩ := hash_follows_used_content hrun hrun' hnames
  have hservice := Except.of_all hservices hparse
  obtain ⟨service, hmem, hname⟩ := List.any_eq_true.1 hservice
  have huses : project.Uses Progress.shopJob.component
      ⟨.secret, Progress.shopJob.component.envSecret service.name⟩ := .environment .secret hmem
  rw [beq_iff_eq.1 hname] at huses
  exact hne (hiff.1 hbytes _ huses)

/-- A secret that no service mounts, generated under the name that a service looks for the override
of its environment under. -/
def tlsOverrideJob : Job :=
  Progress.smallJob []
    ("services:\n  -sec-tls:\n    image: nginx\n" ++
      "secrets:\n  tls-override:\n    file: key\n")

def keyTree (text : String) : SourceTree :=
  ⟨["srv"], [(["srv", "key"], .file (Text.utf8 text))]⟩

/-- Its content is hashed, although it is neither mounted nor the environment of a service: a change
of a file that nothing uses rolls the pods. -/
theorem hash_follows_unmounted_tls :
    ∃ delivery copy project,
      tlsOverrideJob.run (keyTree "a") [] = .ok delivery ∧
      tlsOverrideJob.run (keyTree "b") [] = .ok copy ∧
      Compose.Project.parse tlsOverrideJob.target.app.compose = .ok project ∧
      (delivery.manifests.content.names .secret ++
        delivery.manifests.content.names .configMap).Nodup ∧
      ¬(delivery.manifests.hashedBytes = copy.manifests.hashedBytes ↔
        (∀ service ∈ project.services,
          delivery.manifests.content.digests.carried?
              ⟨.secret, tlsOverrideJob.component.envSecret service.name⟩ =
            copy.manifests.content.digests.carried?
              ⟨.secret, tlsOverrideJob.component.envSecret service.name⟩) ∧
        ∀ service ∈ project.services, ∀ kind name definition,
          project.Mounts service kind name definition →
            delivery.manifests.content.digests.carried?
                ⟨dataKind kind, FileUse.objectName tlsOverrideJob.component kind name⟩ =
              copy.manifests.content.digests.carried?
                ⟨dataKind kind, FileUse.objectName tlsOverrideJob.component kind name⟩) := by
  have hok : ((tlsOverrideJob.run (keyTree "a") []).toOption.any fun delivery =>
      (tlsOverrideJob.run (keyTree "b") []).toOption.any fun copy =>
        (delivery.manifests.content.names .secret ++
          delivery.manifests.content.names .configMap).Nodup ∧
        delivery.manifests.content.digests.carried? ⟨.secret, "shop-app--sec-tls-override"⟩ ≠
          copy.manifests.content.digests.carried? ⟨.secret, "shop-app--sec-tls-override"⟩ ∧
        delivery.manifests.content.digests.carried? ⟨.secret, "shop-app--sec-tls-base"⟩ =
          copy.manifests.content.digests.carried? ⟨.secret, "shop-app--sec-tls-base"⟩) = true := by
    decide +kernel
  have hservices : ((Compose.Project.parse tlsOverrideJob.target.app.compose).toOption.all
      fun project => project.services ≠ [] ∧ ∀ service ∈ project.services,
        service.name = "-sec-tls" ∧ service.configs = [] ∧ service.secrets = []) = true := by
    decide +kernel
  obtain ⟨delivery, hrun, hok⟩ := Except.exists_of_any hok
  obtain ⟨copy, hrun', hok⟩ := Except.exists_of_any hok
  obtain ⟨hnames, hoverride, hbase⟩ := of_decide_eq_true hok
  obtain ⟨project, conversion, found, hparse, htwins⟩ :=
    (makes_of_run hrun).exists_twins (makes_of_run hrun')
  have hservice := Except.of_all hservices hparse
  obtain ⟨hsome, hall⟩ := of_decide_eq_true hservice
  refine ⟨delivery, copy, project, hrun, hrun', hparse, hnames, fun hiff => ?_⟩
  -- Nothing is mounted and the environment is the same, so the bytes would be.
  have hbytes : delivery.manifests.hashedBytes = copy.manifests.hashedBytes := by
    apply hiff.2
    constructor
    · intro service hmem
      rw [(hall service hmem).1]
      exact hbase
    · rintro service hmem kind name definition ⟨⟨ref, href, -⟩, -⟩
      obtain ⟨-, hconfigs, hsecrets⟩ := hall service hmem
      cases kind with
      | config => simp [Compose.Service.files, hconfigs] at href
      | secret => simp [Compose.Service.files, hsecrets] at href
  -- But the service looks for its overrides under the name of the secret.
  obtain ⟨service, hmem⟩ := List.exists_mem_of_ne_nil _ hsome
  have huses : project.Uses tlsOverrideJob.component
      ⟨.secret, tlsOverrideJob.component.envOverrideSecret service.name⟩ := .override .secret hmem
  rw [(hall service hmem).1] at huses
  exact hoverride ((htwins.hashedBytes_eq_iff hnames).1 hbytes _ huses)

end Job

end ComposeCluster

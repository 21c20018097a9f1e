import ComposeCluster.Proofs.App.ObjectRef
import Mathlib.Data.List.Nodup

/-!
# Objects that are told apart

Whoever applies objects to a cluster finds each by its kind, its namespace and its name
(`Manifest.identity`), so two objects with one identity overwrite each other. The kinds keep most
blocks of objects apart (`ObjectRef.distinct_append`), and the names keep the rest apart but for two
gaps: nothing checks that bindings name different objects, and the environment of one service may be
called like a secret of the compose document (`Compose.Project.KeepsSecretsApart`). There are no
other gaps (`Job.Assembles.nodup_identity_iff`).
-/

set_option autoImplicit false

namespace ComposeCluster

/-- What an apply step finds an object by. -/
def Manifest.identity (manifest : Manifest) : String × Option String × String :=
  (manifest.kind, manifest.nameSpace?, manifest.name)

namespace ObjectRef

/-- What an apply step finds an object by. -/
def identity (ref : ObjectRef) : String × Option String × String :=
  (ref.kind, ref.nameSpace?, ref.name)

/-- No two of these are the same to an apply step. -/
def Distinct (refs : List ObjectRef) : Prop := (refs.map identity).Nodup

/-- All of these are of some kinds. -/
def AreOf (kinds : List String) (refs : List ObjectRef) : Prop := ∀ ref ∈ refs, ref.kind ∈ kinds

variable {front back refs : List ObjectRef} {frontKinds backKinds : List String}

/-- Two lists after each other are of the kinds of either. -/
theorem AreOf.append (hfront : AreOf frontKinds front) (hback : AreOf backKinds back) :
    AreOf (frontKinds ++ backKinds) (front ++ back) := by
  intro ref hmem
  rcases List.mem_append.1 hmem with hmem | hmem
  · exact List.mem_append_left _ (hfront ref hmem)
  · exact List.mem_append_right _ (hback ref hmem)

/-- Objects that are made with one kind are of this kind. -/
theorem areOf_map {α : Type} (kind : String) {f : α → ObjectRef} {items : List α}
    (h : ∀ item, (f item).kind = kind) : AreOf [kind] (items.map f) := by
  intro ref hmem
  obtain ⟨item, -, rfl⟩ := List.mem_map.1 hmem
  exact List.mem_singleton.2 (h item)

/-- Lists of different kinds are told apart exactly if each is in itself. -/
theorem distinct_append (hfront : AreOf frontKinds front) (hback : AreOf backKinds back)
    (hkinds : ∀ kind ∈ frontKinds, kind ∉ backKinds) :
    Distinct (front ++ back) ↔ Distinct front ∧ Distinct back := by
  rw [Distinct, List.map_append, List.nodup_append]
  refine and_congr_right fun _ => and_iff_left fun first hfirst second hsecond heq => ?_
  obtain ⟨ref, href, rfl⟩ := List.mem_map.1 hfirst
  obtain ⟨other, hother, rfl⟩ := List.mem_map.1 hsecond
  have hkind : ref.kind = other.kind := congrArg Prod.fst heq
  exact hkinds _ (hfront ref href) (hkind ▸ hback other hother)

/-- Whether objects are told apart does not depend on their order. -/
theorem distinct_of_perm {others : List ObjectRef} (h : refs.Perm others) :
    Distinct refs ↔ Distinct others := (h.map identity).nodup_iff

end ObjectRef

/-! ## Names of services -/

/-- A service has the name under which it stands in the document. -/
theorem Compose.Service.name_of_ofRaw {name : String} {raw : Compose.Raw.Service}
    {service : Compose.Service} (h : Compose.Service.ofRaw name raw = .ok service) :
    service.name = name := by
  unfold ofRaw at h
  split at h
  · cases h
  · obtain ⟨_, -, h⟩ := Except.bind_eq_ok.1 h
    obtain ⟨_, -, h⟩ := Except.bind_eq_ok.1 h
    obtain ⟨_, -, h⟩ := Except.bind_eq_ok.1 h
    obtain ⟨_, -, h⟩ := Except.bind_eq_ok.1 h
    cases h
    rfl

/-- The services of a document are the entries of a map. -/
theorem Compose.Project.nodup_names_of_parse {text : String} {project : Compose.Project}
    (h : parse text = .ok project) : (project.services.map (·.name)).Nodup := by
  unfold parse at h
  split at h
  · cases h
  · dsimp only at h
    split at h
    · cases h
    · rename_i raw _
      split at h
      · cases h
      · rename_i made hmade
        cases h
        obtain ⟨services, hservices, hmade⟩ := Except.bind_eq_ok.1 hmade
        cases hmade
        have hnames : raw.services.entries.map (·.1) = services.map (·.name) :=
          map_eq_of_forall₂ (Except.mapM_eq_ok.1 hservices) fun _ _ hentry =>
            (Service.name_of_ofRaw hentry).symm
        show (services.map (·.name)).Nodup
        rw [← hnames]
        exact raw.services.nodup_keys

/-- The environment of no service is kept under the name of a secret of the document. -/
def Compose.Project.KeepsSecretsApart (project : Compose.Project) : Prop :=
  ∀ service ∈ project.services, service.envFiles ≠ [] → ∀ name definition,
    project.Generates .secret name definition → service.name ++ "-base" ≠ "-sec-" ++ name

/-- A service that passed the check is not called like the service of the app. -/
theorem ne_of_checkNoneReserved {app : String} {names : List String}
    (h : checkNoneReserved app names = .ok ()) {name : String} (hmem : name ∈ names) :
    name ≠ app ++ "-app" := by
  rintro rfl
  unfold checkNoneReserved at h
  split at h
  · cases h
  · rename_i hnone
    have hstart := List.find?_eq_none.1 hnone _ hmem
    simp [reservedStarts, Text.startsWith] at hstart

namespace Job

open ObjectRef (Distinct AreOf distinct_append areOf_map distinct_of_perm)

variable {job : Job} {tree : SourceTree} {bindings : List VolumeBinding}
  {project : Compose.Project} {conversion : Conversion} {manifests : ManifestSet}

/-! ## Blocks -/

/-- Objects of one kind in one namespace are told apart by their names. -/
theorem distinct_map_localRef (kind : ObjectKind) (names : List String) :
    Distinct (names.map (job.localRef kind)) ↔ names.Nodup := by
  rw [Distinct, List.map_map]
  exact List.nodup_map_iff fun name other heq => congrArg (·.2.2) heq

/-- Volumes in the cluster are told apart by the names that the bindings give them. -/
theorem distinct_volumeRefs :
    Distinct (bindings.map job.volumeRef) ↔
      (bindings.map fun binding => binding.objectName job.identity).Nodup := by
  have hmap : bindings.map job.volumeRef =
      (bindings.map fun binding => binding.objectName job.identity).map
        (.of .persistentVolume none) := by
    rw [List.map_map]
    rfl
  rw [hmap, Distinct, List.map_map]
  exact List.nodup_map_iff fun name other heq => congrArg (·.2.2) heq

/-- Claims are told apart by the names that the bindings give them. -/
theorem distinct_claimRefs :
    Distinct (bindings.map job.claimRef) ↔
      (bindings.map fun binding => binding.objectName job.identity).Nodup := by
  rw [← distinct_map_localRef .persistentVolumeClaim, List.map_map]
  rfl

/-- Policies and what belongs to them are of four kinds. -/
theorem areOf_policyRefs (job : Job) :
    AreOf ["ServiceAccount", "Role", "RoleBinding", "NetworkPolicy"] job.policyRefs := by
  unfold policyRefs
  split
  · intro ref hmem
    simp only [List.mem_cons, List.not_mem_nil, or_false] at hmem
    rcases hmem with rfl | rfl | rfl | rfl
    · exact .head _
    · exact .tail _ (.head _)
    · exact .tail _ (.tail _ (.head _))
    · exact .tail _ (.tail _ (.tail _ (.head _)))
  · exact nofun

/-- Each policy, account, role or binding is the only one of its kind. -/
theorem distinct_policyRefs (job : Job) : Distinct job.policyRefs := by
  unfold policyRefs Distinct
  split
  · simp [ObjectRef.identity, localRef, ObjectRef.of, ObjectKind.serviceAccount, ObjectKind.role,
      ObjectKind.roleBinding, ObjectKind.networkPolicy]
  · exact List.nodup_nil

/-- Content objects are config maps and secrets. -/
theorem areOf_contentRefs (job : Job) (normal : Compose.Normal) :
    AreOf ["ConfigMap", "Secret"] (job.contentRefs normal) := by
  intro ref hmem
  simp only [contentRefs, List.mem_append, List.mem_map, or_assoc] at hmem
  rcases hmem with ⟨_, -, rfl⟩ | ⟨_, -, rfl⟩ | ⟨_, -, rfl⟩ | ⟨_, -, rfl⟩
  · exact .tail _ (.head _)
  · exact .head _
  · exact .tail _ (.head _)
  · exact .tail _ (.head _)

/-- What services without an address refer to are services. -/
theorem areOf_headlessRefs (job : Job) (services : List String) :
    AreOf ["Service"] (job.headlessRefs services) := by
  unfold headlessRefs
  split
  · exact areOf_map "Service" fun _ => rfl
  · exact nofun

/-- What ingresses refer to are ingresses. -/
theorem areOf_ingressRefs (job : Job) (ingresses : AppIngresses) :
    AreOf ["Ingress"] (job.ingressRefs ingresses) := by
  intro ref hmem
  simp only [ingressRefs, List.mem_append, List.mem_map] at hmem
  rcases hmem with ⟨_, -, rfl⟩ | ⟨_, -, rfl⟩ <;> exact .head _

/-- The two ingresses of an app have different names. -/
theorem distinct_ingressRefs (job : Job) (ingresses : AppIngresses) :
    Distinct (job.ingressRefs ingresses) := by
  have hnames : job.ingressRefs ingresses =
      (ingresses.default?.toList.map (fun _ => job.component.resource ++ "-default") ++
        ingresses.custom?.toList.map fun _ => job.component.resource ++ "-custom").map
          (job.localRef .ingress) := by
    rw [List.map_append, List.map_map, List.map_map]
    rfl
  have hends : job.component.resource ++ "-default" ≠ job.component.resource ++ "-custom" :=
    fun heq => absurd ((String.append_right_inj _).1 heq) (by decide)
  rw [hnames, distinct_map_localRef]
  cases ingresses.default? <;> cases ingresses.custom? <;> simp [hends]

/-- The service of the component and those of the compose services have different names. -/
theorem Assembles.distinct_services (h : job.Assembles tree bindings project conversion manifests)
    (hservices : (project.services.map (·.name)).Nodup) :
    Distinct (manifests.service?.toList.map
        (fun _ => job.localRef .service job.component.resource) ++
      job.headlessRefs (project.services.map (·.name))) := by
  have hnames : manifests.service?.toList.map
        (fun _ => job.localRef .service job.component.resource) ++
      job.headlessRefs (project.services.map (·.name)) =
      (manifests.service?.toList.map (fun _ => job.component.resource) ++
        if job.settings.headlessServices then project.services.map (·.name) else []).map
          (job.localRef .service) := by
    rw [List.map_append, List.map_map, headlessRefs]
    split <;> rfl
  have hother : ∀ name ∈ project.services.map (·.name), job.component.resource ≠ name := by
    intro name hmem heq
    rw [← h.normal.serviceNames_eq] at hmem
    refine ne_of_checkNoneReserved h.unreserved hmem ?_
    rw [← heq, Component.resource, String.append_assoc]
    rfl
  rw [hnames, distinct_map_localRef, List.nodup_append]
  refine ⟨?_, ?_, fun first hfirst second hsecond => ?_⟩
  · cases manifests.service? <;> simp
  · split
    · exact hservices
    · exact List.nodup_nil
  · obtain ⟨service, -, rfl⟩ := List.mem_map.1 hfirst
    split at hsecond
    · exact hother second hsecond
    · cases hsecond

/-- The names of the secrets of an app, in the order in which they are to be created. -/
def secretNames (job : Job) (normal : Compose.Normal) : List String :=
  job.credentials?.toList.map (fun _ => job.component.pullSecret) ++
    (normal.stored .secret).map (fun entry => job.component.configSecret entry.1) ++
    normal.envData.map fun env => job.component.envSecret env.service

/-- Content objects are told apart if the secrets among them are. -/
theorem Assembles.distinct_contentRefs
    (h : job.Assembles tree bindings project conversion manifests) :
    Distinct (job.contentRefs conversion.project) ↔
      (job.secretNames conversion.project).Nodup := by
  have hperm : (job.contentRefs conversion.project).Perm
      (((conversion.project.stored .config).map (·.1)).map
          (fun name => job.localRef .configMap (job.component.configMap name)) ++
        (job.secretNames conversion.project).map (job.localRef .secret)) := by
    simp only [contentRefs, secretNames, List.map_append, List.map_map, List.append_assoc]
    exact List.perm_append_comm_assoc _ _ _
  have hconfigMaps : Distinct (((conversion.project.stored .config).map (·.1)).map
      (fun name => job.localRef .configMap (job.component.configMap name))) := by
    rw [Distinct, List.map_map]
    refine (List.nodup_map_iff fun name other heq => ?_).2 h.normal.nodup_names
    exact job.component.configMap_inj.1 (congrArg (·.2.2) heq)
  have hconfigKind : AreOf ["ConfigMap"] (((conversion.project.stored .config).map (·.1)).map
      (fun name => job.localRef .configMap (job.component.configMap name))) :=
    areOf_map "ConfigMap" fun _ => rfl
  have hsecretKind : AreOf ["Secret"]
      ((job.secretNames conversion.project).map (job.localRef .secret)) :=
    areOf_map "Secret" fun _ => rfl
  rw [distinct_of_perm hperm, distinct_append hconfigKind hsecretKind (by decide),
    distinct_map_localRef, and_iff_right hconfigMaps]

/-- There is one secret with an environment for each service with environment files. -/
theorem Assembles.map_envSecret (h : job.Assembles tree bindings project conversion manifests) :
    (conversion.project.envData.map fun env => job.component.envSecret env.service) =
      ((project.services.filter fun service => !service.envFiles.isEmpty).map (·.name)).map
        job.component.envSecret := by
  rw [← h.normal.environments, List.map_map]
  rfl

/-- Secrets with different names keep the environments apart from the secrets of the document. -/
theorem Assembles.keepsSecretsApart (h : job.Assembles tree bindings project conversion manifests)
    (hnames : (job.secretNames conversion.project).Nodup) : project.KeepsSecretsApart := by
  intro service hservice hfiles name definition hgenerates heq
  rw [secretNames, h.map_envSecret] at hnames
  have hapart := (List.nodup_append.1 hnames).2.2
  obtain ⟨content, -, hstored⟩ := h.normal.exists_stored hgenerates
  have hsecret : job.component.configSecret name ∈
      (conversion.project.stored .secret).map fun entry => job.component.configSecret entry.1 :=
    List.mem_map.2 ⟨_, hstored, rfl⟩
  have hkept : service ∈ project.services.filter fun service => !service.envFiles.isEmpty :=
    List.mem_filter.2 ⟨hservice, by simpa using hfiles⟩
  have henv := List.mem_map_of_mem (f := job.component.envSecret)
    (List.mem_map_of_mem (f := (·.name)) hkept)
  exact hapart _ (List.mem_append_right _ hsecret) _ henv
    (job.component.envSecret_eq_configSecret_iff.2 heq).symm

/-- Services with different names whose environments are kept apart have secrets with different
names. -/
theorem Assembles.nodup_secretNames (h : job.Assembles tree bindings project conversion manifests)
    (hservices : (project.services.map (·.name)).Nodup) (hapart : project.KeepsSecretsApart) :
    (job.secretNames conversion.project).Nodup := by
  have hpull : ∀ name ∈ job.credentials?.toList.map (fun _ => job.component.pullSecret),
      name = job.component.pullSecret := by
    intro name hmem
    obtain ⟨_, -, rfl⟩ := List.mem_map.1 hmem
    rfl
  have hsecrets : ((conversion.project.stored .secret).map fun entry =>
      job.component.configSecret entry.1).Nodup := by
    have hnames : ((conversion.project.stored .secret).map (·.1)).Nodup := h.normal.nodup_names
    have hinjective := hnames.map fun name other => job.component.configSecret_inj.1
    rwa [List.map_map] at hinjective
  have henvironments : (((project.services.filter fun service =>
      !service.envFiles.isEmpty).map (·.name)).map job.component.envSecret).Nodup := by
    have hnames : ((project.services.filter fun service => !service.envFiles.isEmpty).map
        (·.name)).Nodup := hservices.sublist (List.filter_sublist.map _)
    exact hnames.map fun name other => job.component.envSecret_inj.1
  rw [secretNames, h.map_envSecret, List.nodup_append, List.nodup_append]
  refine ⟨⟨?_, hsecrets, fun first hfirst second hsecond => ?_⟩, henvironments,
    fun first hfirst second hsecond => ?_⟩
  · cases job.credentials? <;> simp
  · obtain ⟨stored, -, rfl⟩ := List.mem_map.1 hsecond
    rw [hpull first hfirst]
    exact (job.component.configSecret_ne_pullSecret stored.1).symm
  · obtain ⟨_, hname, rfl⟩ := List.mem_map.1 hsecond
    obtain ⟨service, hkept, rfl⟩ := List.mem_map.1 hname
    rcases List.mem_append.1 hfirst with hfirst | hfirst
    · rw [hpull first hfirst]
      exact (job.component.envSecret_ne_pullSecret service.name).symm
    -- Only here the names alone do not tell the secrets apart.
    · obtain ⟨⟨name, key⟩, hstored, rfl⟩ := List.mem_map.1 hfirst
      obtain ⟨hservice, hfiles⟩ := List.mem_filter.1 hkept
      obtain ⟨definition, content, hgenerates, -, -⟩ := h.normal.of_mem_stored hstored
      have hne := hapart service hservice (by simpa using hfiles) name definition hgenerates
      exact fun heq => hne (job.component.envSecret_eq_configSecret_iff.1 heq.symm)

/-! ## All objects -/

/-- The objects of an app are told apart exactly if its bindings name different objects and its
secrets are told apart. -/
theorem Assembles.nodup_identity_iff
    (h : job.Assembles tree bindings project conversion manifests)
    (hservices : (project.services.map (·.name)).Nodup) :
    (manifests.objects.map Manifest.identity).Nodup ↔
      (bindings.map fun binding => binding.objectName job.identity).Nodup ∧
        project.KeepsSecretsApart := by
  have hidentity : manifests.objects.map Manifest.identity =
      (manifests.objects.map Manifest.ref).map ObjectRef.identity := by
    rw [List.map_map]
    rfl
  rw [hidentity]
  change Distinct (manifests.objects.map Manifest.ref) ↔ _
  have hone (ref : ObjectRef) : AreOf [ref.kind] [ref] ∧ Distinct [ref] :=
    ⟨fun _ hmem => (List.mem_singleton.1 hmem) ▸ List.mem_singleton_self _, List.nodup_singleton _⟩
  obtain ⟨hnameSpaceKind, hnameSpace⟩ :
      AreOf ["Namespace"] [.of .nameSpace none job.identity.nameSpace] ∧ _ := hone _
  obtain ⟨hdeploymentKind, hdeployment⟩ :
      AreOf ["Deployment"] [job.localRef .deployment job.component.resource] ∧ _ := hone _
  have hvolumeKind : AreOf ["PersistentVolume"] (bindings.map job.volumeRef) :=
    areOf_map "PersistentVolume" fun _ => rfl
  have hclaimKind : AreOf ["PersistentVolumeClaim"] (bindings.map job.claimRef) :=
    areOf_map "PersistentVolumeClaim" fun _ => rfl
  have hserviceKind : AreOf ["Service"] (manifests.service?.toList.map
      fun _ => job.localRef .service job.component.resource) := areOf_map "Service" fun _ => rfl
  -- The kinds of each block with all blocks before it.
  have htoPolicies := hnameSpaceKind.append job.areOf_policyRefs
  have htoVolumes := htoPolicies.append hvolumeKind
  have htoClaims := htoVolumes.append hclaimKind
  have htoContent := htoClaims.append (job.areOf_contentRefs conversion.project)
  have htoDeployment := htoContent.append hdeploymentKind
  have hservicesKind :=
    hserviceKind.append (job.areOf_headlessRefs (project.services.map (·.name)))
  have htoServices := htoDeployment.append hservicesKind
  rw [h.map_ref_objects, List.append_assoc _ (manifests.service?.toList.map _),
    distinct_append htoServices (job.areOf_ingressRefs manifests.ingresses) (by decide),
    distinct_append htoDeployment hservicesKind (by decide),
    distinct_append htoContent hdeploymentKind (by decide),
    distinct_append htoClaims (job.areOf_contentRefs conversion.project) (by decide),
    distinct_append htoVolumes hclaimKind (by decide),
    distinct_append htoPolicies hvolumeKind (by decide),
    distinct_append hnameSpaceKind job.areOf_policyRefs (by decide),
    distinct_volumeRefs, distinct_claimRefs, h.distinct_contentRefs]
  have hsecrets : (job.secretNames conversion.project).Nodup ↔ project.KeepsSecretsApart :=
    ⟨h.keepsSecretsApart, h.nodup_secretNames hservices⟩
  have hpolicies := job.distinct_policyRefs
  have hservices' := h.distinct_services hservices
  have hingresses := job.distinct_ingressRefs manifests.ingresses
  tauto

end Job

namespace Progress

open Turn (successes)

/-- No two objects of an app are the same to an apply step exactly if the bindings name different
objects and the environments of services are told apart from the secrets of the document. -/
theorem distinct_objects_iff {job : Job} {calls : List Call} {turn : Turn} {delivery : Delivery}
    (hturn : turn ∈ turns job calls start) (hreply : turn.reply = .ok (some delivery)) :
    ∃ tree bindings project,
      successes (turns job calls start) = [.convert tree, .bind bindings, .build] ∧
      Compose.Project.parse job.target.app.compose = .ok project ∧
      ((delivery.manifests.objects.map Manifest.identity).Nodup ↔
        (bindings.map fun binding => binding.objectName job.identity).Nodup ∧
          project.KeepsSecretsApart) := by
  obtain ⟨tree, bindings, hmakes, hsuccesses⟩ := makes_of_delivered hturn hreply
  obtain ⟨project, conversion, hparse, h⟩ := hmakes.exists_parts
  have hservices := Compose.Project.nodup_names_of_parse hparse
  exact ⟨tree, bindings, project, hsuccesses, hparse, h.nodup_identity_iff hservices⟩

def smallJob (volumes : List AppVolume) (compose : String) : Job where
  target :=
    { workspace := "team"
      provider := "home"
      driver := "local"
      cluster := .unknown
      app :=
        { name := "shop"
          compose
          baseDir? := none
          volumes
          ingress := .none
          nodes := .any
          admissions := [] } }
  settings := .standard
  resolver := fun _ _ _ => .ok { VolumeClass.blank with driver := "disk" }
  credentials? := none

/-- A service with environment files and a secret whose objects have one name. -/
def tlsJob : Job :=
  smallJob []
    ("services:\n  -sec-tls:\n    image: nginx\n    env_file: web.env\n" ++
      "secrets:\n  tls-base:\n    content: k\n")

def tlsCalls : List Call :=
  [.convert ⟨["srv"], [(["srv", "web.env"], .file (Text.utf8 "A=1\n"))]⟩, .bind [], .build]

/-- Two secrets of the build have one identity: the environment of a service and a secret of the
document. -/
theorem objects_collide_for_tls :
    ∃ turn ∈ turns tlsJob tlsCalls start, ∃ delivery, turn.reply = .ok (some delivery) ∧
      ¬ (delivery.manifests.objects.map Manifest.identity).Nodup := by
  have hok : ((turns tlsJob tlsCalls start).any (·.delivery?.any fun _ => true)) = true := by
    decide +kernel
  have hnames : ((Compose.Project.parse tlsJob.target.app.compose).toOption.any fun project =>
      (project.services.any fun service =>
        service.name == "-sec-tls" && !service.envFiles.isEmpty) &&
      (project.secrets.get? "tls-base").any fun definition => !definition.isExisting) = true := by
    decide +kernel
  obtain ⟨turn, hturn, delivery, hreply, -⟩ := Turn.exists_delivered hok
  obtain ⟨tree, bindings, project, -, hparse, hiff⟩ := distinct_objects_iff hturn hreply
  refine ⟨turn, hturn, delivery, hreply, fun hnodup => ?_⟩
  rw [hparse] at hnames
  obtain ⟨hservices, hsecrets⟩ := (Bool.and_eq_true _ _).mp hnames
  obtain ⟨service, hservice, hfiles⟩ := List.any_eq_true.1 hservices
  obtain ⟨hname, hfiles⟩ := (Bool.and_eq_true _ _).mp hfiles
  obtain ⟨definition, hdefinition, hexisting⟩ := (Option.any_eq_true _ _).1 hsecrets
  have hgenerates : project.Generates .secret "tls-base" definition :=
    ⟨hdefinition, by simpa using hexisting⟩
  refine (hiff.1 hnodup).2 service hservice (by simpa using hfiles) _ _ hgenerates ?_
  rw [beq_iff_eq.1 hname]
  decide

/-- Two volumes whose bindings name the same objects. -/
def diskJob : Job :=
  smallJob [⟨"a", 1048576⟩, ⟨"b", 1048576⟩] "services:\n  web:\n    image: nginx\n"

def diskCalls : List Call :=
  [.convert .empty, .bind [⟨"a", ⟨"disk-1", 0⟩, some "disk"⟩, ⟨"b", ⟨"disk-2", 0⟩, some "disk"⟩],
    .build]

/-- Two volumes of the build have one identity, and so have their claims. -/
theorem objects_collide_for_disk :
    ∃ turn ∈ turns diskJob diskCalls start, ∃ delivery, turn.reply = .ok (some delivery) ∧
      ¬ (delivery.manifests.objects.map Manifest.identity).Nodup := by
  have hok : ((turns diskJob diskCalls start).any fun turn => turn.delivery?.any fun delivery =>
      !decide (delivery.manifests.objects.map Manifest.identity).Nodup) = true := by
    decide +kernel
  obtain ⟨turn, hturn, delivery, hreply, hcollide⟩ := Turn.exists_delivered hok
  refine ⟨turn, hturn, delivery, hreply, fun hnodup => ?_⟩
  rw [decide_eq_true hnodup] at hcollide
  cases hcollide

end Progress

end ComposeCluster

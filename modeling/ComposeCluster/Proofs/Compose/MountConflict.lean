import ComposeCluster.Proofs.Compose.Target

/-!
# Mounts of a container

Which mounts a container gets is a matter of its service and of where the volumes of the service
were resolved to (`Service.IsMounted`): the volumes that share no target with a file, then the
files. There is a container exactly if no two files share a target (`containerOf_ok_or_conflict`);
two volumes may, so the paths of a container are distinct only as far as the targets of its volumes
are.
-/

set_option autoImplicit false

namespace ComposeCluster.Compose

/-! ## Files -/

/-- The mount that a reference to a definition asks for; none if the object already exists. -/
def Project.fileMount? (project : Project) (kind : SourceKind) (ref : FileRef) :
    Option VolumeMount :=
  match (project.definitions kind).get? ref.source with
  | some definition =>
    if definition.isExisting then none
    else some <| .file (FileUse.volumeName kind ref.source)
      (ref.target?.getD (FileUse.defaultTarget kind ref.source)) (definition.key ref.source)
  | none => none

/-- A file is asked for where its mount is. -/
theorem Project.fileTarget?_eq (project : Project) (kind : SourceKind) (ref : FileRef) :
    project.fileTarget? kind ref =
      (project.fileMount? kind ref).map fun mount => (.file kind ref.source, mount.path) := by
  unfold fileTarget? fileMount?
  cases (project.definitions kind).get? ref.source with
  | none => rfl
  | some definition =>
    dsimp only
    split <;> rfl

namespace Service

/-- The files that a service mounts: configs, then secrets. -/
def fileMounts (project : Project) (service : Service) : List VolumeMount :=
  service.configs.filterMap (project.fileMount? .config) ++
    service.secrets.filterMap (project.fileMount? .secret)

/-- Where a service mounts files. -/
def filePaths (project : Project) (service : Service) : List String :=
  (service.fileMounts project).map (·.path)

/-- Every config and every secret that a service refers to is defined. -/
def IsDefined (project : Project) (service : Service) : Prop :=
  ∀ kind, ∀ ref ∈ service.files kind, (project.definitions kind).contains ref.source = true

/-- What a service asks for apart from its volumes. -/
def fileTargets (project : Project) (service : Service) : List (MountOrigin × String) :=
  service.configs.filterMap (project.fileTarget? .config) ++
    service.secrets.filterMap (project.fileTarget? .secret)

variable {project : Project} {service : Service}

/-- A service asks for its volumes, and then for its files. -/
theorem targets_eq (project : Project) (service : Service) :
    service.targets project =
      (service.volumes.map fun spec => (.volume spec.source, spec.target)) ++
        service.fileTargets project :=
  rfl

/-- What comes from configs and secrets comes from a reference of one of the kinds. -/
theorem exists_ref_of_mem {γ : Type} {f : SourceKind → FileRef → Option γ} {found : γ}
    (h : found ∈ service.configs.filterMap (f .config) ++ service.secrets.filterMap (f .secret)) :
    ∃ kind, ∃ ref ∈ service.files kind, f kind ref = some found := by
  rcases List.mem_append.1 h with hconfig | hsecret
  · exact ⟨.config, List.mem_filterMap.1 hconfig⟩
  · exact ⟨.secret, List.mem_filterMap.1 hsecret⟩

/-- Files are not volumes. -/
theorem isVolume_of_mem_fileTargets {target : MountOrigin × String}
    (h : target ∈ service.fileTargets project) : target.1.isVolume = false := by
  obtain ⟨kind, ref, -, href⟩ := exists_ref_of_mem (f := project.fileTarget?) h
  rw [Project.fileTarget?_eq, Option.map_eq_some_iff] at href
  obtain ⟨mount, -, rfl⟩ := href
  rfl

/-- Files are mounted for reading. -/
theorem readOnly?_of_mem_fileMounts {mount : VolumeMount}
    (h : mount ∈ service.fileMounts project) : mount.readOnly? = some true := by
  obtain ⟨kind, ref, -, href⟩ := exists_ref_of_mem (f := project.fileMount?) h
  unfold Project.fileMount? at href
  grind [VolumeMount.file]

/-- The files among what a service asks for are its files. -/
theorem filesOf_targets : filesOf (service.targets project) = service.fileTargets project := by
  have hvolumes : filesOf (service.volumes.map fun spec =>
      (MountOrigin.volume spec.source, spec.target)) = [] := by
    apply List.filter_eq_nil_iff.2
    intro target htarget
    obtain ⟨spec, -, rfl⟩ := List.mem_map.1 htarget
    exact Bool.false_ne_true
  have hfiles : filesOf (service.fileTargets project) = service.fileTargets project := by
    apply List.filter_eq_self.2
    intro target htarget
    rw [isVolume_of_mem_fileTargets htarget]
    rfl
  rw [targets_eq, filesOf_append, hvolumes, hfiles, List.nil_append]

/-- The volumes among what a service asks for are its volumes. -/
theorem volumesOf_targets :
    volumesOf (service.targets project) =
      service.volumes.map fun spec => (.volume spec.source, spec.target) := by
  have hvolumes : volumesOf (service.volumes.map fun spec =>
      (MountOrigin.volume spec.source, spec.target)) =
        service.volumes.map fun spec => (.volume spec.source, spec.target) := by
    apply List.filter_eq_self.2
    intro target htarget
    obtain ⟨spec, -, rfl⟩ := List.mem_map.1 htarget
    rfl
  have hfiles : volumesOf (service.fileTargets project) = [] := by
    apply List.filter_eq_nil_iff.2
    intro target htarget
    rw [isVolume_of_mem_fileTargets htarget]
    exact Bool.false_ne_true
  rw [targets_eq, volumesOf_append, hvolumes, hfiles, List.append_nil]

/-- A service asks for its files where it mounts them. -/
theorem map_fileTargets :
    (service.fileTargets project).map (·.2) = service.filePaths project := by
  simp only [fileTargets, filePaths, fileMounts, List.map_append, List.map_filterMap,
    Project.fileTarget?_eq, Option.map_map]
  rfl

end Service

namespace FileUse

variable {component : Component} {project : Project} {service : Service} {kind : SourceKind}

/-- A use of a definition has the mount that the reference asks for. -/
theorem mount_of_ofRef {ref : FileRef} {use? : Option FileUse}
    (h : ofRef component project service.name kind ref = .ok use?) :
    use?.map (·.mount) = project.fileMount? kind ref := by
  unfold ofRef at h
  unfold Project.fileMount?
  split at h
  · cases h
  case h_2 definition hdefinition =>
    simp only [hdefinition]
    by_cases hexisting : definition.isExisting = true
    · rw [if_pos hexisting] at h ⊢
      cases h
      rfl
    · rw [if_neg hexisting] at h ⊢
      cases h
      rfl

/-- Uses of definitions have the mounts that the references ask for, in their order. -/
theorem mounts_of_ofRefs {uses : List FileUse}
    (h : ofRefs component project service kind = .ok uses) :
    uses.map (·.mount) = (service.files kind).filterMap (project.fileMount? kind) :=
  map_of_ofRefs (fun _ _ href => mount_of_ofRef href) h

/-- References to definitions that are there can all be used. -/
theorem exists_ofRefs (component : Component)
    (h : ∀ ref ∈ service.files kind, (project.definitions kind).contains ref.source = true) :
    ∃ uses, ofRefs component project service kind = .ok uses := by
  cases hmapM : (service.files kind).mapM (ofRef component project service.name kind) with
  | ok uses? => exact ⟨uses?.filterMap id, Except.map_eq_ok.2 ⟨uses?, hmapM, rfl⟩⟩
  | error refusal =>
    obtain ⟨ref, href, hfails⟩ := Except.exists_of_mapM_eq_error hmapM
    obtain ⟨definition, hdefinition⟩ := Option.isSome_iff_exists.1 (h ref href)
    unfold ofRef at hfails
    simp only [hdefinition] at hfails
    split at hfails <;> cases hfails

end FileUse

/-! ## Directories -/

namespace DirectoryPlan

variable {plan : DirectoryPlan} {mount : Mount} {mounts : List Mount} {volume sub : String}

/-- A directory that has to exist in a volume. -/
def Plans (plan : DirectoryPlan) (volume sub : String) : Prop :=
  (plan.directories volume).contains sub = true

/-- A mount adds its directory to the planned ones, if it has one. -/
theorem plans_add :
    (plan.add mount).Plans volume sub ↔
      plan.Plans volume sub ∨ mount.volume = volume ∧ mount.subPath? = some sub := by
  unfold add Plans
  cases hsub : mount.subPath? with
  | none => simp
  | some path =>
    by_cases hvolume : volume = mount.volume
    · subst hvolume
      by_cases hpath : sub = path
      · simp [directories, SortedMap.contains, hpath]
      · simp [directories, SortedMap.contains, hpath, Ne.symm hpath]
    · simp [directories, SortedMap.contains, hvolume, Ne.symm hvolume]

/-- The directories that are planned after several mounts are those of before and those of the
mounts. -/
theorem plans_foldl_add :
    (mounts.foldl add plan).Plans volume sub ↔
      plan.Plans volume sub ∨
        ∃ mount ∈ mounts, mount.volume = volume ∧ mount.subPath? = some sub := by
  induction mounts generalizing plan with
  | nil => simp
  | cons mount rest ih =>
    rw [List.foldl_cons, ih, plans_add, or_assoc]
    simp only [List.mem_cons, exists_eq_or_imp]

end DirectoryPlan

/-! ## The container of a service -/

/-- A volume of a service as a mount of its container. -/
def Mount.toVolumeMount (mount : Mount) : VolumeMount :=
  .directory mount.volume mount.target mount.subPath?

namespace Service

/-- The warning about a volume that a file takes the place of: the first one with its target. -/
def shadowWarning? (project : Project) (service : Service) (spec : ServiceVolume) :
    Option String :=
  ((service.fileTargets project).find? fun file => file.2 = spec.target).map fun winner =>
    TargetUse.shadowText service.name spec.target winner.1 (.volume spec.source)

/-- What a service comes to whose volumes were resolved to some mounts: the container has those that
share no target with a file, and then the files; there is one warning for each of the others, and
the directories that have to exist are those of the former. -/
structure IsMounted (project : Project) (service : Service) (mounts : List Mount)
    (shared : Shared) (container : Container) (after : Shared) : Prop where
  mounts_eq : container.mounts =
    (mounts.filter fun mount => mount.target ∉ service.filePaths project).map
      Mount.toVolumeMount ++ service.fileMounts project
  warnings : ∃ warnings, after.warnings = shared.warnings ++ warnings ∧
    warnings.Perm (service.volumes.filterMap (service.shadowWarning? project)) ∧
    warnings.length =
      (mounts.filter fun mount => mount.target ∈ service.filePaths project).length
  plans_iff : ∀ volume sub, after.subPaths.Plans volume sub ↔
    shared.subPaths.Plans volume sub ∨ ∃ mount ∈ mounts,
      mount.target ∉ service.filePaths project ∧
        mount.volume = volume ∧ mount.subPath? = some sub

variable {context : Context} {project : Project} {service : Service} {shared after : Shared}
  {container : Container} {mounts : List Mount}

/-- The directories that a container mounts are those that the volumes of its service were resolved
to, as far as these share no target with a file. -/
theorem IsMounted.directory_mem_iff {volume path : String} {subPath? : Option String}
    (h : service.IsMounted project mounts shared container after) :
    .directory volume path subPath? ∈ container.mounts ↔
      ⟨volume, subPath?, path⟩ ∈ mounts ∧ path ∉ service.filePaths project := by
  rw [h.mounts_eq, List.mem_append]
  constructor
  · rintro (hkept | hfile)
    · obtain ⟨mount, hmount, heq⟩ := List.mem_map.1 hkept
      cases heq
      obtain ⟨hmem, hapart⟩ := List.mem_filter.1 hmount
      exact ⟨hmem, of_decide_eq_true hapart⟩
    · cases readOnly?_of_mem_fileMounts hfile
  · rintro ⟨hmem, hapart⟩
    exact .inl (List.mem_map.2 ⟨_, List.mem_filter.2 ⟨hmem, decide_eq_true hapart⟩, rfl⟩)

/-- Resolved mounts have the targets of the volumes that they were made of, in their order. -/
theorem map_target_of_resolve
    (hmounts : service.volumes.mapM (fun spec =>
      Mount.resolve service.name spec context.volumes context.tree) = .ok mounts) :
    service.volumes.map (·.target) = mounts.map (·.target) :=
  map_eq_of_forall₂ (Except.mapM_eq_ok.1 hmounts) fun _ _ hresolve =>
    (Mount.target_of_resolve hresolve).symm

/-- There is a warning about a volume exactly if a file has its target. -/
theorem isSome_shadowWarning? (spec : ServiceVolume) :
    (service.shadowWarning? project spec).isSome =
      decide (spec.target ∈ service.filePaths project) := by
  rw [Bool.eq_iff_iff, shadowWarning?, Option.isSome_map, List.find?_isSome, decide_eq_true_eq,
    ← map_fileTargets, List.mem_map]
  simp only [decide_eq_true_eq]

/-- There are as many warnings as mounts that are left out. -/
theorem length_shadowWarnings (htargets : service.volumes.map (·.target) = mounts.map (·.target)) :
    (service.volumes.filterMap (service.shadowWarning? project)).length =
      (mounts.filter fun mount => mount.target ∈ service.filePaths project).length := by
  have hcount := congrArg (List.countP fun target => decide (target ∈ service.filePaths project))
    htargets
  rw [List.countP_map, List.countP_map] at hcount
  rw [List.length_filterMap_eq_countP, ← List.countP_eq_length_filter]
  simp only [isSome_shadowWarning?]
  exact hcount

/-- The warnings about the targets of a service are those about its volumes. -/
theorem filterMap_shadowWarning? :
    (volumesOf (service.targets project)).filterMap
        (TargetUse.shadowWarning? service.name (service.targets project)) =
      service.volumes.filterMap (service.shadowWarning? project) := by
  rw [volumesOf_targets, List.filterMap_map]
  apply List.filterMap_congr
  intro spec _
  simp only [Function.comp_apply, TargetUse.shadowWarning?, filesOf_targets, shadowWarning?]

/-- The mounts that a check leaves are those that share no target with a file. -/
theorem filter_shadowed {findings : TargetFindings}
    (hfindings : findings.IsOf service.name (service.targets project))
    (htargets : service.volumes.map (·.target) = mounts.map (·.target)) :
    (mounts.filter fun mount => !findings.shadowed.contains mount.target) =
      mounts.filter fun mount => mount.target ∉ service.filePaths project := by
  apply List.filter_congr
  intro mount hmount
  have hvolume : mount.target ∈ (volumesOf (service.targets project)).map (·.2) := by
    rw [volumesOf_targets, List.map_map]
    exact htargets ▸ List.mem_map_of_mem hmount
  have hshadowed : findings.shadowed.contains mount.target =
      decide (mount.target ∈ service.filePaths project) := by
    rw [Bool.eq_iff_iff, hfindings.shadowed, filesOf_targets, map_fileTargets, decide_eq_true_eq,
      and_iff_left hvolume]
  rw [hshadowed, decide_not]

/-- A container says that no two files have one target, and shows where the volumes went. -/
theorem isMounted_of_containerOf
    (h : containerOf context project service shared = .ok (container, after)) :
    (service.filePaths project).Nodup ∧ ∃ mounts,
      service.volumes.mapM (fun spec =>
        Mount.resolve service.name spec context.volumes context.tree) = .ok mounts ∧
      service.IsMounted project mounts shared container after := by
  obtain @⟨ports, table, mounts, configs, secrets, check, -, hmounts, hconfigs, hsecrets, hcheck⟩ :=
    makesContainer h
  rw [mountedTargets_eq hmounts hconfigs hsecrets] at hcheck
  obtain ⟨hnodup, hfindings⟩ := nodup_of_checkTargets hcheck
  rw [filesOf_targets, map_fileTargets] at hnodup
  have htargets := map_target_of_resolve hmounts
  have hkept := filter_shadowed hfindings htargets
  have hwarnings := hfindings.warnings
  rw [filterMap_shadowWarning?] at hwarnings
  refine ⟨hnodup, mounts, hmounts, ?mounts, ?warnings, ?plans⟩
  case mounts =>
    have hfiles : (configs ++ secrets).map (·.mount) = service.fileMounts project := by
      rw [List.map_append, FileUse.mounts_of_ofRefs hconfigs, FileUse.mounts_of_ofRefs hsecrets]
      rfl
    rw [← hkept, ← hfiles]
    rfl
  case warnings =>
    refine ⟨check.warnings, rfl, hwarnings, ?_⟩
    rw [hwarnings.length_eq, length_shadowWarnings htargets]
  case plans =>
    intro volume sub
    refine DirectoryPlan.plans_foldl_add.trans ?_
    rw [hkept]
    simp only [List.mem_filter, decide_eq_true_eq, and_assoc]

/-- With ports, volumes and references that are valid, there is a container unless two files have
one target, and then the refusal says so. -/
theorem containerOf_ok_or_conflict {ports : List Port} {table : PublishedPorts}
    (hports : publishAll service.name shared.ports [] service.ports = .ok (ports, table))
    (hmounts : service.volumes.mapM (fun spec =>
      Mount.resolve service.name spec context.volumes context.tree) = .ok mounts)
    (hdefined : service.IsDefined project) :
    (∃ container after, containerOf context project service shared = .ok (container, after)) ∨
      ¬ (service.filePaths project).Nodup ∧ ∃ conflicts,
        containerOf context project service shared =
          .error (.targets service.name conflicts) := by
  obtain ⟨configs, hconfigs⟩ := FileUse.exists_ofRefs context.component (hdefined .config)
  obtain ⟨secrets, hsecrets⟩ := FileUse.exists_ofRefs context.component (hdefined .secret)
  have htargets := mountedTargets_eq hmounts hconfigs hsecrets
  simp only [containerOf, hports, hmounts, hconfigs, hsecrets, bind, Except.bind, htargets]
  cases hcheck : checkTargets service.name (service.targets project) with
  | ok check => exact .inl ⟨_, _, rfl⟩
  | error refusal =>
    obtain ⟨hrepeats, conflicts, rfl⟩ := not_nodup_of_checkTargets hcheck
    rw [filesOf_targets, map_fileTargets] at hrepeats
    exact .inr ⟨hrepeats, conflicts, rfl⟩

/-- With ports, volumes and references that are valid, a service is refused for its targets exactly
if two of its files have one target; otherwise it has a container, with the volumes that share no
target with a file and with all files. -/
theorem mounted_iff_files_apart (context : Context) (project : Project) (service : Service)
    (shared : Shared) {ports : List Port} {table : PublishedPorts} {mounts : List Mount}
    (hports : publishAll service.name shared.ports [] service.ports = .ok (ports, table))
    (hmounts : service.volumes.mapM (fun spec =>
      Mount.resolve service.name spec context.volumes context.tree) = .ok mounts)
    (hdefined : service.IsDefined project) :
    ((∃ conflicts, containerOf context project service shared =
        .error (.targets service.name conflicts)) ↔ ¬ (service.filePaths project).Nodup) ∧
    ((service.filePaths project).Nodup → ∃ container after,
      containerOf context project service shared = .ok (container, after) ∧
        service.IsMounted project mounts shared container after) := by
  rcases containerOf_ok_or_conflict hports hmounts hdefined with
    ⟨container, after, hok⟩ | ⟨hrepeats, conflicts, herror⟩
  · obtain ⟨hnodup, others, hothers, hmounted⟩ := isMounted_of_containerOf hok
    obtain rfl : mounts = others := Except.ok.inj (hmounts.symm.trans hothers)
    refine ⟨iff_of_false ?_ (not_not.2 hnodup), fun _ => ⟨container, after, hok, hmounted⟩⟩
    rintro ⟨conflicts, herror⟩
    rw [hok] at herror
    cases herror
  · exact ⟨iff_of_true ⟨conflicts, herror⟩ hrepeats, fun hnodup => absurd hnodup hrepeats⟩

/-- A volume and a config with one target, a directory of the volume, and a secret that already
exists. -/
def site : Service where
  name := "web"
  image := "nginx"
  entrypoint := []
  command := []
  environment := .empty
  envFiles := []
  ports := []
  volumes := [⟨.named, "data", "/site"⟩, ⟨.named, "data/logs", "/logs"⟩]
  configs := [⟨"site", some "/site", none⟩]
  secrets := [⟨"key", some "/site", none⟩]
  resources? := none

def siteProject : Project :=
  ⟨[site], .singleton "site" ⟨none, some "hello", none, false⟩,
    .singleton "key" ⟨none, none, none, true⟩, []⟩

def siteContext : Context := ⟨⟨"shop", "app"⟩, .empty, [⟨"data", 1048576⟩]⟩

/-- The config takes the place of the volume on its target, and the directory is mounted beside
it. -/
theorem site_mounted_beside_config :
    ∃ container after,
      containerOf siteContext siteProject site (.start []) = .ok (container, after) ∧
        container.mounts =
          [.directory "data" "/logs" (some "logs"), .file "cfg-site" "/site" "site"] ∧
        after.warnings.length = 1 ∧ after.subPaths.Plans "data" "logs" := by
  have hports : publishAll "web" .empty [] [] = .ok ([], .empty) := by rfl
  have hmounts : site.volumes.mapM (fun spec =>
      Mount.resolve site.name spec siteContext.volumes siteContext.tree) =
        .ok [⟨"data", none, "/site"⟩, ⟨"data", some "logs", "/logs"⟩] := by rfl
  have hdefined : site.IsDefined siteProject := by
    intro kind
    cases kind <;> decide
  obtain ⟨container, after, hok, hmounted⟩ :=
    (mounted_iff_files_apart siteContext siteProject site (.start []) hports hmounts hdefined).2
      (by decide)
  obtain ⟨warnings, hwarnings, -, hlength⟩ := hmounted.warnings
  refine ⟨container, after, hok, hmounted.mounts_eq, ?_, ?_⟩
  · rw [hwarnings, List.length_append, hlength]
    rfl
  · rw [hmounted.plans_iff]
    exact .inr ⟨⟨"data", some "logs", "/logs"⟩, by decide, by decide, rfl, rfl⟩

end Service

/-! ## Paths -/

section Paths

variable {context : Context} {project : Project} {service : Service} {services : List Service}
  {shared after : Shared} {container : Container} {containers : List Container} {normal : Normal}

/-- The targets of the volumes that share none with a file. -/
def Service.keptTargets (project : Project) (service : Service) : List String :=
  (service.volumes.map (·.target)).filter fun target => target ∉ service.filePaths project

/-- A container mounts volumes that share no target with a file, and then the files of its
service. -/
theorem paths_of_containerOf
    (h : containerOf context project service shared = .ok (container, after)) :
    container.mounts.map (·.path) =
      service.keptTargets project ++ service.filePaths project := by
  obtain ⟨-, mounts, hmounts, hmounted⟩ := Service.isMounted_of_containerOf h
  rw [Service.keptTargets, Service.map_target_of_resolve hmounts, List.filter_map,
    hmounted.mounts_eq, List.map_append, List.map_map]
  rfl

/-- A path that a container has twice is the target of two volumes. -/
theorem nodup_paths_iff_of_containerOf
    (h : containerOf context project service shared = .ok (container, after)) :
    (container.mounts.map (·.path)).Nodup ↔ (service.keptTargets project).Nodup := by
  have hfiles := (Service.isMounted_of_containerOf h).1
  rw [paths_of_containerOf h, List.nodup_append]
  constructor
  · exact fun hnodup => hnodup.1
  · intro hkept
    refine ⟨hkept, hfiles, ?_⟩
    rintro target htarget other hother rfl
    have hapart := (List.mem_filter.1 htarget).2
    exact of_decide_eq_true hapart hother

/-- What is said of each service and its container is said of all. -/
theorem forall₂_of_containersOf {relation : Service → Container → Prop}
    (hof : ∀ service shared container after,
      containerOf context project service shared = .ok (container, after) →
        relation service container)
    (h : containersOf context project services shared = .ok (containers, after)) :
    List.Forall₂ relation services containers :=
  containersOf_induction (motive := fun done made _ => List.Forall₂ relation done made)
    (fun hmade hcontainer => List.rel_append hmade (.cons (hof _ _ _ _ hcontainer) .nil)) .nil h

/-- The mounts of a container have different paths exactly if the volumes of its service have
different targets, as far as these are not those of files. -/
theorem paths_distinct_iff_targets (h : Normal.ofProject context project = .ok normal) :
    List.Forall₂ (fun service container =>
      (container.mounts.map (·.path)).Nodup ↔ (service.keptTargets project).Nodup)
      project.services normal.containers := by
  obtain ⟨warnings, -, -, -, hcontainers⟩ := Normal.ofProject_eq_ok h
  apply forall₂_of_containersOf _ hcontainers
  intro service shared container after hcontainer
  exact nodup_paths_iff_of_containerOf hcontainer

/-- The path of the volume that the config takes the place of does not repeat. -/
theorem site_paths_distinct :
    ∃ normal, Normal.ofProject Service.siteContext Service.siteProject = .ok normal ∧
      ∀ container ∈ normal.containers, (container.mounts.map (·.path)).Nodup := by
  obtain ⟨normal, hnormal⟩ : ∃ normal,
      Normal.ofProject Service.siteContext Service.siteProject = .ok normal := ⟨_, rfl⟩
  refine ⟨normal, hnormal, ?_⟩
  intro container hcontainer
  obtain ⟨service, hservice, hiff⟩ :=
    exists_left_of_forall₂ (paths_distinct_iff_targets hnormal) hcontainer
  obtain rfl := List.mem_singleton.1 hservice
  exact hiff.2 (by decide)

/-- Two volumes on one target. -/
def twiceProject : Project :=
  ⟨[{ Service.site with volumes := [⟨.named, "data", "/data"⟩, ⟨.named, "logs", "/data"⟩] }],
    Service.siteProject.configs, Service.siteProject.secrets, []⟩

/-- Two volumes on one target are both mounted there. -/
theorem paths_repeat_for_twice :
    ∃ normal, Normal.ofProject ⟨⟨"shop", "app"⟩, .empty, [⟨"data", 1048576⟩, ⟨"logs", 1048576⟩]⟩
        twiceProject = .ok normal ∧
      ¬ ∀ container ∈ normal.containers, (container.mounts.map (·.path)).Nodup :=
  ⟨_, rfl, by decide⟩

end Paths

end ComposeCluster.Compose

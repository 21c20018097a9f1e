import ComposeCluster.Proofs.Compose.MountConflict
import ComposeCluster.Proofs.Env.Merge

/-!
# What a project gives reason to warn about

The messages are said of the project and of the files that are there, not of the steps that find
them: what the document itself says, then for each service one message for each key that two of its
environment files change (`Service.WarnsOfKeys`), then for each service one message for each of its
volumes whose target is that of a config or a secret (`Service.WarnsOfVolumes`). The warnings of a
normal form are these, all of them and in this order (`Normal.givesReason_of_ofProject`).
-/

set_option autoImplicit false

namespace ComposeCluster.Compose

/-! ## One part for each item -/

/-- A list is put together from one part for each item, in the order of the items. -/
def InTurn {α β : Type} (part : α → List β → Prop) (items : List α) (whole : List β) : Prop :=
  ∃ parts, List.Forall₂ part items parts ∧ whole = parts.flatten

namespace InTurn

variable {α β : Type} {part : α → List β → Prop} {item : α} {items : List α} {whole piece : List β}

/-- Of no items there is nothing. -/
theorem nil : InTurn part [] [] := ⟨[], .nil, rfl⟩

/-- The part of a first item goes before the others. -/
theorem cons (hpart : part item piece) (h : InTurn part items whole) :
    InTurn part (item :: items) (piece ++ whole) := by
  obtain ⟨parts, hparts, rfl⟩ := h
  exact ⟨piece :: parts, .cons hpart hparts, rfl⟩

/-- The part of a last item goes behind the others. -/
theorem concat (h : InTurn part items whole) (hpart : part item piece) :
    InTurn part (items ++ [item]) (whole ++ piece) := by
  obtain ⟨parts, hparts, rfl⟩ := h
  refine ⟨parts ++ [piece], List.rel_append hparts (.cons hpart .nil), ?_⟩
  rw [List.flatten_append, List.flatten_singleton]

end InTurn

/-! ## Reasons -/

namespace Service

/-- Two environment files of a service that define a key one after the other give it different
values. -/
def ChangesKey (tree : SourceTree) (service : Service) (key : String) : Prop :=
  ∃ front first second back,
    EnvFile.values tree service.envFiles key = front ++ first :: second :: back ∧ first ≠ second

/-- The message about a key that a later environment file changes. -/
def changeText (service : Service) (key : String) : String :=
  "service " ++ service.name ++ ": env key " ++ key ++ " overridden by a later env_file"

/-- One message for each key that the environment files of a service change, by ascending key. -/
def WarnsOfKeys (tree : SourceTree) (service : Service) (messages : List String) : Prop :=
  ∃ keys : List String, messages = keys.map service.changeText ∧
    keys.Pairwise (fun key later => compare key later = .lt) ∧
    ∀ key, key ∈ keys ↔ service.ChangesKey tree key

/-- The message about a volume says which config or secret has its target. -/
def TellsOfVolume (project : Project) (service : Service) (spec : ServiceVolume)
    (message : String) : Prop :=
  ∃ file ∈ service.fileTargets project, file.2 = spec.target ∧
    message = TargetUse.shadowText service.name spec.target file.1 (.volume spec.source)

/-- One message for each volume of a service whose target is that of a config or a secret, by
ascending target; the volumes on one target keep their order. -/
def WarnsOfVolumes (project : Project) (service : Service) (messages : List String) : Prop :=
  ∃ dropped : List ServiceVolume,
    List.Forall₂ (service.TellsOfVolume project) dropped messages ∧
    dropped.Pairwise (fun spec later => compare spec.target later.target ≠ .gt) ∧
    ∀ target, (dropped.filter fun spec => spec.target = target) =
      if target ∈ service.filePaths project then
        service.volumes.filter fun spec => spec.target = target
      else []

end Service

/-- The warnings are what the document says, then the messages about the keys that environment files
change, then those about the volumes that configs and secrets take the place of, both in the order
of the services. -/
def Project.GivesReason (project : Project) (tree : SourceTree) (warnings : List String) : Prop :=
  ∃ changes drops,
    InTurn (fun service messages => service.WarnsOfKeys tree messages) project.services changes ∧
    InTurn (fun service messages => service.WarnsOfVolumes project messages) project.services
      drops ∧
    warnings = project.warnings ++ changes ++ drops

/-! ## Keys -/

section Keys

variable {tree : SourceTree} {service : Service} {services : List Service}

/-- What a merge counts as overridden are the keys that its files change. -/
theorem Service.warnsOfKeys_of_addFiles {merged : EnvMerge}
    (hadd : EnvMerge.empty.addFiles tree service.envFiles = .ok merged) :
    service.WarnsOfKeys tree (overrideWarnings service.name merged) := by
  refine ⟨merged.overridden.keys, rfl, ?_, fun key => ?_⟩
  · exact List.pairwise_map.2 merged.overridden.sorted
  · rw [SortedMap.mem_keys, EnvMerge.contains_overridden_iff hadd, ChangesKey]

/-- The environments are read in turn, and a service without environment files changes no key. -/
theorem warnsOfKeys_of_readEnvironments {data : List EnvData} {warnings : List String}
    (h : readEnvironments tree services = .ok (data, warnings)) :
    InTurn (fun service messages => service.WarnsOfKeys tree messages) services warnings := by
  induction services generalizing data warnings with
  | nil =>
    cases h
    exact .nil
  | cons service rest ih =>
    rw [readEnvironments] at h
    split at h
    case isTrue hnone =>
      have hadd : EnvMerge.empty.addFiles tree service.envFiles = .ok .empty := by
        rw [List.isEmpty_iff.1 hnone]
        rfl
      exact (ih h).cons (Service.warnsOfKeys_of_addFiles hadd)
    case isFalse =>
      obtain ⟨merged, hmerged, h⟩ := Except.bind_eq_ok.1 h
      obtain ⟨⟨later, laterWarnings⟩, hlater, h⟩ := Except.bind_eq_ok.1 h
      cases h
      exact (ih hlater).cons (Service.warnsOfKeys_of_addFiles (mergeEnv_eq_ok hmerged).1)

end Keys

/-! ## Volumes -/

/-- The items that are given something stand in order beside what they are given. -/
theorem forall₂_filterMap {α β : Type} (f : α → Option β) (items : List α) :
    List.Forall₂ (fun item found => f item = some found) (items.filter fun item => (f item).isSome)
      (items.filterMap f) := by
  induction items with
  | nil => exact .nil
  | cons item rest ih =>
    cases h : f item with
    | none => simpa [h] using ih
    | some found => simpa [h] using ih

section Volumes

variable {context : Context} {project : Project} {service : Service} {services : List Service}
  {shared after : Shared} {container : Container} {containers : List Container} {normal : Normal}

/-- The volumes of a service, by ascending target, and those on one target in their order. -/
def Service.volumesByTarget (project : Project) (service : Service) : List ServiceVolume :=
  (byTarget (service.targets project)).keys.flatMap fun target =>
    service.volumes.filter fun spec => spec.target = target

/-- The target of a volume is one of the targets of its service. -/
theorem Service.mem_keys_of_mem_volumes {spec : ServiceVolume} (h : spec ∈ service.volumes) :
    spec.target ∈ (byTarget (service.targets project)).keys := by
  rw [mem_keys_byTarget, targets_eq, List.map_append, List.mem_append]
  exact .inl (List.mem_map.2 ⟨_, List.mem_map_of_mem h, rfl⟩)

/-- Volumes by their targets are in the order of the targets. -/
theorem Service.pairwise_volumesByTarget :
    (service.volumesByTarget project).Pairwise fun spec later =>
      compare spec.target later.target ≠ .gt := by
  have hkeys : (byTarget (service.targets project)).keys.Pairwise fun key later =>
      compare key later = .lt :=
    List.pairwise_map.2 (byTarget (service.targets project)).sorted
  refine List.pairwise_flatMap.2 ⟨?same, hkeys.imp ?apart⟩
  case same =>
    intro target _
    refine List.Pairwise.imp_of_mem ?_ (List.pairwise_of_forall fun _ _ => trivial)
    intro spec later hspec hlater _
    rw [of_decide_eq_true (List.mem_filter.1 hspec).2,
      of_decide_eq_true (List.mem_filter.1 hlater).2]
    simp
  case apart =>
    intro target other hlt spec hspec later hlater
    rw [of_decide_eq_true (List.mem_filter.1 hspec).2,
      of_decide_eq_true (List.mem_filter.1 hlater).2, hlt]
    decide

/-- The warnings of a check, target by target, are those about the volumes by target. -/
theorem Service.flatMap_warnings :
    (TargetUse.ofMounts (service.targets project)).flatMap (·.warnings service.name) =
      (service.volumesByTarget project).filterMap (service.shadowWarning? project) := by
  rw [TargetUse.ofMounts_eq, List.flatMap_map, volumesByTarget, List.filterMap_flatMap]
  apply List.flatMap_congr
  intro target _
  rw [TargetUse.warnings_on, volumesOf_targets, List.filter_map, List.filterMap_map]
  apply List.filterMap_congr
  intro spec _
  simp only [Function.comp_apply, TargetUse.shadowWarning?, filesOf_targets, shadowWarning?]

/-- The volumes that are warned about are those whose target is that of a file, and what the warning
says of each is the file. -/
theorem Service.warnsOfVolumes (project : Project) (service : Service) :
    service.WarnsOfVolumes project
      ((TargetUse.ofMounts (service.targets project)).flatMap (·.warnings service.name)) := by
  rw [flatMap_warnings]
  have htold := forall₂_filterMap (service.shadowWarning? project)
    (service.volumesByTarget project)
  refine ⟨_, htold.imp ?tells, pairwise_volumesByTarget.filter _, fun target => ?target⟩
  case tells =>
    intro spec message hmessage
    obtain ⟨file, hfile, rfl⟩ := Option.map_eq_some_iff.1 hmessage
    have htarget := List.find?_some hfile
    exact ⟨file, List.mem_of_find?_eq_some hfile, of_decide_eq_true htarget, rfl⟩
  case target =>
    have hgroup : ((service.volumesByTarget project).filter fun spec => spec.target = target) =
        service.volumes.filter fun spec => spec.target = target :=
      filter_flatMap_filter ServiceVolume.target (byTarget (service.targets project)).nodup_keys
        (fun _ => mem_keys_of_mem_volumes) target
    simp only [isSome_shadowWarning?]
    rw [List.filter_comm, hgroup]
    split
    case isTrue hfile =>
      apply List.filter_eq_self.2
      intro spec hspec
      rw [of_decide_eq_true (List.mem_filter.1 hspec).2]
      exact decide_eq_true hfile
    case isFalse hnone =>
      apply List.filter_eq_nil_iff.2
      intro spec hspec
      rw [of_decide_eq_true (List.mem_filter.1 hspec).2, decide_eq_true_eq]
      exact hnone

/-- A container adds the messages about the volumes of its service, and no others. -/
theorem warnsOfVolumes_of_containerOf
    (h : containerOf context project service shared = .ok (container, after)) :
    ∃ messages, after.warnings = shared.warnings ++ messages ∧
      service.WarnsOfVolumes project messages := by
  obtain ⟨-, hmounts, hconfigs, hsecrets, hcheck⟩ := makesContainer h
  have hwarnings := warnings_of_checkTargets hcheck
  rw [mountedTargets_eq hmounts hconfigs hsecrets] at hwarnings
  exact ⟨_, congrArg (shared.warnings ++ ·) hwarnings, service.warnsOfVolumes project⟩

/-- The services add their messages one after the other. -/
theorem warnsOfVolumes_of_containersOf
    (h : containersOf context project services shared = .ok (containers, after)) :
    ∃ messages, after.warnings = shared.warnings ++ messages ∧
      InTurn (fun service messages => service.WarnsOfVolumes project messages) services
        messages := by
  refine containersOf_induction (motive := fun done _ next =>
    ∃ messages, next.warnings = shared.warnings ++ messages ∧
      InTurn (fun service messages => service.WarnsOfVolumes project messages) done messages)
    ?step ⟨[], (List.append_nil _).symm, .nil⟩ h
  case step =>
    rintro done made service next container after ⟨messages, hnext, hdone⟩ hcontainer
    obtain ⟨last, hlast, hservice⟩ := warnsOfVolumes_of_containerOf hcontainer
    exact ⟨messages ++ last, by rw [hlast, hnext, List.append_assoc], hdone.concat hservice⟩

/-- The warnings of a normal form are those that the project gives reason for. -/
theorem Normal.givesReason_of_ofProject (h : ofProject context project = .ok normal) :
    project.GivesReason context.tree normal.warnings := by
  obtain ⟨changes, henv, -, -, hcontainers⟩ := ofProject_eq_ok h
  obtain ⟨drops, hdrops, hvolumes⟩ := warnsOfVolumes_of_containersOf hcontainers
  exact ⟨changes, drops, warnsOfKeys_of_readEnvironments henv, hvolumes, hdrops⟩

/-- What the document says comes first. -/
theorem Project.GivesReason.split {tree : SourceTree} {warnings : List String}
    (h : project.GivesReason tree warnings) :
    project.warnings ++ warnings.drop project.warnings.length = warnings := by
  obtain ⟨changes, drops, -, -, rfl⟩ := h
  rw [List.append_assoc, List.drop_left]

end Volumes

end ComposeCluster.Compose

import ComposeCluster.Proofs.Compose.Normal
import Mathlib.Data.List.Nodup

/-!
# Targets in a service

What a service asks for at which target (`Service.targets`), and what a check of such a list finds.
The check looks at the list target by target (`TargetUse.ofMounts_eq`), but what it finds can be
said of the list as it is: there is nothing to refuse exactly if no two files have one target
(`conflicts_eq_nil_iff`), the targets that are set aside are those of a file and a volume
(`mem_shadowed_iff`), and there is one warning for each volume on such a target (`warnings_perm`).
-/

set_option autoImplicit false

namespace ComposeCluster.Compose

/-! ## What a service asks for -/

/-- Where a reference to a definition asks for a file; nowhere if the object already exists. -/
def Project.fileTarget? (project : Project) (kind : SourceKind) (ref : FileRef) :
    Option (MountOrigin × String) :=
  match (project.definitions kind).get? ref.source with
  | some definition =>
    if definition.isExisting then none
    else some (.file kind ref.source, ref.target?.getD (FileUse.defaultTarget kind ref.source))
  | none => none

/-- What a service asks for at which target: its volumes, then configs, then secrets. -/
def Service.targets (project : Project) (service : Service) : List (MountOrigin × String) :=
  service.volumes.map (fun spec => (.volume spec.source, spec.target)) ++
    (service.configs.filterMap (project.fileTarget? .config) ++
      service.secrets.filterMap (project.fileTarget? .secret))

/-- A resolved mount has the target of the volume that it was made of. -/
theorem Mount.target_of_resolve {service : String} {spec : ServiceVolume}
    {volumes : List AppVolume} {tree : SourceTree} {mount : Mount}
    (h : resolve service spec volumes tree = .ok mount) : mount.target = spec.target := by
  cases (resolve_eq_ok.1 h).2 with
  | below => rfl
  | named => rfl

namespace FileUse

variable {component : Component} {project : Project} {service : Service} {kind : SourceKind}

/-- A use of a definition is mounted where the reference asks for it. -/
theorem target_of_ofRef {ref : FileRef} {use? : Option FileUse}
    (h : ofRef component project service.name kind ref = .ok use?) :
    use?.map (fun use => (MountOrigin.file use.kind use.name, use.mount.path)) =
      project.fileTarget? kind ref := by
  unfold ofRef at h
  unfold Project.fileTarget?
  split at h
  · cases h
  case h_2 definition hdefinition =>
    simp only [hdefinition]
    split at h
    case isTrue hexisting =>
      cases h
      rw [if_pos hexisting]
      rfl
    case isFalse hexisting =>
      cases h
      rw [if_neg hexisting]
      rfl

/-- What is said of each use by its reference is said of all uses by the references that are one. -/
theorem map_of_ofRefs {γ : Type} {f : FileUse → γ} {g : FileRef → Option γ} {uses : List FileUse}
    (hof : ∀ ref use?, ofRef component project service.name kind ref = .ok use? →
      use?.map f = g ref)
    (h : ofRefs component project service kind = .ok uses) :
    uses.map f = (service.files kind).filterMap g := by
  obtain ⟨uses?, hall, rfl⟩ := Except.map_eq_ok.1 h
  have heach := map_eq_of_forall₂ (Except.mapM_eq_ok.1 hall)
    (fun ref use? href => (hof ref use? href).symm)
  have hfound := congrArg (List.filterMap id) heach
  rw [List.filterMap_map, List.filterMap_map] at hfound
  rw [List.map_filterMap]
  exact hfound.symm

/-- Uses of definitions are mounted where the references ask for them, in their order. -/
theorem targets_of_ofRefs {uses : List FileUse}
    (h : ofRefs component project service kind = .ok uses) :
    uses.map (fun use => (MountOrigin.file use.kind use.name, use.mount.path)) =
      (service.files kind).filterMap (project.fileTarget? kind) :=
  map_of_ofRefs (fun _ _ href => target_of_ofRef href) h

end FileUse

/-- What is mounted where in a service is what the service asks for. -/
theorem mountedTargets_eq {context : Context} {project : Project} {service : Service}
    {mounts : List Mount} {configs secrets : List FileUse}
    (hmounts : service.volumes.mapM (fun spec =>
      Mount.resolve service.name spec context.volumes context.tree) = .ok mounts)
    (hconfigs : FileUse.ofRefs context.component project service .config = .ok configs)
    (hsecrets : FileUse.ofRefs context.component project service .secret = .ok secrets) :
    mountedTargets service mounts (configs ++ secrets) = service.targets project := by
  have hzip : (service.volumes.zip mounts).map
      (fun pair => (MountOrigin.volume pair.1.source, pair.2.target)) =
        service.volumes.map fun spec => (.volume spec.source, spec.target) := by
    have hall := Except.mapM_eq_ok.1 hmounts
    clear hmounts
    generalize service.volumes = specs at hall ⊢
    induction hall with
    | nil => rfl
    | cons hfirst _ ih =>
      rw [List.zip_cons_cons, List.map_cons, List.map_cons, Mount.target_of_resolve hfirst, ih]
  rw [mountedTargets, hzip, List.map_append, FileUse.targets_of_ofRefs hconfigs,
    FileUse.targets_of_ofRefs hsecrets]
  rfl

/-! ## Target by target -/

/-- The volumes among mounts. -/
def volumesOf (mounts : List (MountOrigin × String)) : List (MountOrigin × String) :=
  mounts.filter (·.1.isVolume)

/-- The files among mounts. -/
def filesOf (mounts : List (MountOrigin × String)) : List (MountOrigin × String) :=
  mounts.filter fun mount => !mount.1.isVolume

/-- Volumes of two lists of mounts are those of the first and those of the second. -/
theorem volumesOf_append (front back : List (MountOrigin × String)) :
    volumesOf (front ++ back) = volumesOf front ++ volumesOf back :=
  List.filter_append front back

/-- Files of two lists of mounts are those of the first and those of the second. -/
theorem filesOf_append (front back : List (MountOrigin × String)) :
    filesOf (front ++ back) = filesOf front ++ filesOf back :=
  List.filter_append front back

/-- What is mounted on a target, in the order of declaration. -/
def originsOn (mounts : List (MountOrigin × String)) (target : String) : List MountOrigin :=
  (mounts.filter fun mount => mount.2 = target).map (·.1)

variable {mounts : List (MountOrigin × String)} {service target : String}

/-- The target of a volume is a target. -/
theorem mem_targets_of_volumesOf (h : target ∈ (volumesOf mounts).map (·.2)) :
    target ∈ mounts.map (·.2) :=
  (List.filter_sublist.map _).subset h

/-- The target of a file is a target. -/
theorem mem_targets_of_filesOf (h : target ∈ (filesOf mounts).map (·.2)) :
    target ∈ mounts.map (·.2) :=
  (List.filter_sublist.map _).subset h

/-- Nothing is mounted on what is not a target. -/
theorem originsOn_eq_nil_iff : originsOn mounts target = [] ↔ target ∉ mounts.map (·.2) := by
  simp only [originsOn, List.map_eq_nil_iff, List.filter_eq_nil_iff, decide_eq_true_eq,
    List.mem_map, not_exists, not_and]

/-- There are as many origins on a target as mounts with it. -/
theorem length_originsOn (mounts : List (MountOrigin × String)) (target : String) :
    (originsOn mounts target).length = (mounts.map (·.2)).count target := by
  rw [originsOn, List.length_map, List.count, List.countP_map, List.countP_eq_length_filter]
  rfl

/-- The first origin on a target is that of the first mount with it. -/
theorem head?_originsOn (mounts : List (MountOrigin × String)) (target : String) :
    (originsOn mounts target).head? = (mounts.find? fun mount => mount.2 = target).map (·.1) := by
  rw [originsOn, List.head?_map, List.head?_filter]

/-- Grouped by target, mounts are found under the targets that they have. -/
theorem get?_byTarget (mounts : List (MountOrigin × String)) (target : String) :
    (byTarget mounts).get? target =
      if target ∈ mounts.map (·.2) then some (originsOn mounts target) else none := by
  -- Mounts that come later are added behind those that the map already holds.
  have hfold : ∀ map : SortedMap String (List MountOrigin),
      (mounts.foldl (fun map mount =>
        map.insert mount.2 ((map.get? mount.2).getD [] ++ [mount.1])) map).get? target =
      if target ∈ mounts.map (·.2) then
        some ((map.get? target).getD [] ++ originsOn mounts target)
      else map.get? target := by
    induction mounts with
    | nil =>
      intro map
      simp
    | cons mount rest ih =>
      intro map
      rw [List.foldl_cons, ih, SortedMap.get?_insert]
      by_cases hhere : mount.2 = target
      · subst hhere
        by_cases hlater : mount.2 ∈ rest.map (·.2)
        · simp [originsOn, hlater]
        · have hnone := originsOn_eq_nil_iff.2 hlater
          rw [originsOn, List.map_eq_nil_iff] at hnone
          simp [originsOn, hlater, hnone]
      · have hne : target ≠ mount.2 := fun heq => hhere heq.symm
        simp only [originsOn, List.map_cons, List.mem_cons, hne, false_or, if_false,
          List.filter_cons, decide_eq_false hhere, Bool.false_eq_true]
  have hempty := hfold .empty
  rwa [SortedMap.get?_empty, Option.getD_none, List.nil_append] at hempty

/-- The keys of the groups are the targets. -/
theorem mem_keys_byTarget : target ∈ (byTarget mounts).keys ↔ target ∈ mounts.map (·.2) := by
  rw [SortedMap.mem_keys, SortedMap.contains, get?_byTarget]
  split <;> simp_all

namespace TargetUse

/-- The use of a target. -/
def on (mounts : List (MountOrigin × String)) (target : String) : TargetUse :=
  ⟨target, originsOn (volumesOf mounts) target, originsOn (filesOf mounts) target⟩

/-- There is one use for each target, by ascending target. -/
theorem ofMounts_eq (mounts : List (MountOrigin × String)) :
    ofMounts mounts = (byTarget mounts).keys.map (on mounts) := by
  rw [ofMounts, SortedMap.keys, List.map_map]
  apply List.map_congr_left
  intro entry hentry
  have hget : (byTarget mounts).get? entry.1 = some entry.2 := SortedMap.get?_eq_some.2 hentry
  rw [get?_byTarget] at hget
  split at hget
  · have horigins := Option.some_inj.1 hget
    simp only [Function.comp_apply, on, ← horigins, originsOn, volumesOf, filesOf,
      List.filter_map, List.filter_filter, Bool.and_comm]
  · cases hget

/-- A use of a target is that of a target that some mount has. -/
theorem mem_ofMounts {use : TargetUse} :
    use ∈ ofMounts mounts ↔ ∃ target ∈ mounts.map (·.2), on mounts target = use := by
  rw [ofMounts_eq, List.mem_map]
  simp only [mem_keys_byTarget]

/-- The message about a volume that a file takes the place of. -/
def shadowText (service target : String) (winner volume : MountOrigin) : String :=
  "service " ++ service ++ ": target path " ++ Text.quoted target ++ " conflicts between " ++
    winner.text ++ " and " ++ volume.text ++
    "; ignoring volume (use configs/secrets for single files)"

/-- The warning about a volume that a file takes the place of: the first one on its target. -/
def shadowWarning? (service : String) (mounts : List (MountOrigin × String))
    (volume : MountOrigin × String) : Option String :=
  ((filesOf mounts).find? fun file => file.2 = volume.2).map fun winner =>
    shadowText service volume.2 winner.1 volume.1

/-- On one target there is a warning for each volume that a file takes the place of. -/
theorem warnings_on (service : String) (mounts : List (MountOrigin × String)) (target : String) :
    (on mounts target).warnings service =
      ((volumesOf mounts).filter fun mount => mount.2 = target).filterMap
        (shadowWarning? service mounts) := by
  have hwinner : ∀ volume ∈ (volumesOf mounts).filter fun mount => mount.2 = target,
      shadowWarning? service mounts volume =
        (on mounts target).files.head?.map fun winner =>
          shadowText service target winner volume.1 := by
    intro volume hvolume
    obtain rfl := of_decide_eq_true (List.mem_filter.1 hvolume).2
    simp only [shadowWarning?, on, head?_originsOn, Option.map_map]
    rfl
  rw [List.filterMap_congr hwinner, warnings]
  cases (on mounts target).files with
  | nil => simp
  | cons winner later =>
    simp only [List.head?_cons, Option.map_some, List.filterMap_eq_map', on, originsOn,
      List.map_map]
    rfl

end TargetUse

/-! ## What a check finds -/

/-- Items that are taken key by key are all the items. -/
theorem flatMap_filter_perm {α κ : Type} [DecidableEq κ] {keyOf : α → κ} {keys : List κ}
    {items : List α} (hkeys : keys.Nodup) (hall : ∀ item ∈ items, keyOf item ∈ keys) :
    (keys.flatMap fun key => items.filter fun item => keyOf item = key).Perm items := by
  induction keys generalizing items with
  | nil =>
    have hnone : items = [] := List.eq_nil_iff_forall_not_mem.2 fun item hitem =>
      List.not_mem_nil (hall item hitem)
    rw [hnone]
    exact .nil
  | cons key rest ih =>
    obtain ⟨hkey, hrest⟩ := List.nodup_cons.1 hkeys
    have hothers : ∀ item ∈ items.filter fun item => !decide (keyOf item = key),
        keyOf item ∈ rest := by
      intro item hitem
      obtain ⟨hmem, hne⟩ := List.mem_filter.1 hitem
      have hne : keyOf item ≠ key := by simpa using hne
      exact (List.mem_cons.1 (hall item hmem)).resolve_left hne
    have hsame : (rest.flatMap fun other => items.filter fun item => keyOf item = other) =
        rest.flatMap fun other => (items.filter fun item => !decide (keyOf item = key)).filter
          fun item => keyOf item = other := by
      apply List.flatMap_congr
      intro other hother
      rw [List.filter_filter]
      apply List.filter_congr
      intro item hitem
      by_cases heq : keyOf item = other
      · have hne : other ≠ key := fun h => hkey (h ▸ hother)
        simp [heq, hne]
      · simp [heq]
    rw [List.flatMap_cons, hsame]
    exact ((ih hrest hothers).append_left _).trans (List.filter_append_perm _ _)

/-- Keys that are each there once contribute one group under a key. -/
theorem flatMap_ite_eq {α κ : Type} [DecidableEq κ] {keys : List κ} (hkeys : keys.Nodup) (key : κ)
    (group : List α) :
    (keys.flatMap fun other => if other = key then group else []) =
      if key ∈ keys then group else [] := by
  induction keys with
  | nil => rfl
  | cons first rest ih =>
    obtain ⟨hfirst, hrest⟩ := List.nodup_cons.1 hkeys
    rw [List.flatMap_cons, ih hrest]
    by_cases heq : first = key
    · subst heq
      simp [hfirst]
    · simp [heq, Ne.symm heq]

/-- Of items that are taken key by key, those with one key keep their order. -/
theorem filter_flatMap_filter {α κ : Type} [DecidableEq κ] (keyOf : α → κ) {keys : List κ}
    {items : List α} (hkeys : keys.Nodup) (hall : ∀ item ∈ items, keyOf item ∈ keys) (key : κ) :
    ((keys.flatMap fun other => items.filter fun item => keyOf item = other).filter
      fun item => keyOf item = key) = items.filter fun item => keyOf item = key := by
  have hgroup (other : κ) : ((items.filter fun item => keyOf item = other).filter
      fun item => keyOf item = key) =
        if other = key then items.filter fun item => keyOf item = key else [] := by
    rw [List.filter_filter]
    split
    case isTrue heq => simp [heq]
    case isFalse hne =>
      apply List.filter_eq_nil_iff.2
      intro item _
      rw [Bool.and_eq_true, decide_eq_true_eq, decide_eq_true_eq]
      rintro ⟨rfl, rfl⟩
      exact hne rfl
  rw [List.filter_flatMap]
  simp only [hgroup]
  rw [flatMap_ite_eq hkeys]
  split
  case isTrue => rfl
  case isFalse hmissing =>
    symm
    apply List.filter_eq_nil_iff.2
    intro item hitem heq
    rw [decide_eq_true_eq] at heq
    exact hmissing (heq ▸ hall item hitem)

/-- Target by target there are the same warnings as volume by volume, in another order. -/
theorem warnings_perm (service : String) (mounts : List (MountOrigin × String)) :
    ((TargetUse.ofMounts mounts).flatMap (·.warnings service)).Perm
      ((volumesOf mounts).filterMap (TargetUse.shadowWarning? service mounts)) := by
  have hcover : ∀ mount ∈ volumesOf mounts, mount.2 ∈ (byTarget mounts).keys := by
    intro mount hmount
    rw [mem_keys_byTarget]
    exact mem_targets_of_volumesOf (List.mem_map_of_mem hmount)
  have hgroups := flatMap_filter_perm (byTarget mounts).nodup_keys hcover
  rw [TargetUse.ofMounts_eq, List.flatMap_map]
  simp only [TargetUse.warnings_on]
  rw [← List.filterMap_flatMap]
  exact hgroups.filterMap _

/-- The targets that are set aside are those of a file and a volume. -/
theorem mem_shadowed_iff :
    target ∈ ((TargetUse.ofMounts mounts).filter (·.isShadowed)).map (·.target) ↔
      target ∈ (filesOf mounts).map (·.2) ∧ target ∈ (volumesOf mounts).map (·.2) := by
  have hshadowed : ∀ other, (TargetUse.on mounts other).isShadowed = true ↔
      other ∈ (filesOf mounts).map (·.2) ∧ other ∈ (volumesOf mounts).map (·.2) := by
    intro other
    simp only [TargetUse.isShadowed, TargetUse.on, Bool.and_eq_true, Bool.not_eq_true',
      List.isEmpty_eq_false_iff, ne_eq, originsOn_eq_nil_iff, not_not]
  constructor
  · intro h
    obtain ⟨use, huse, rfl⟩ := List.mem_map.1 h
    obtain ⟨hmem, hboth⟩ := List.mem_filter.1 huse
    obtain ⟨other, -, rfl⟩ := TargetUse.mem_ofMounts.1 hmem
    exact (hshadowed other).1 hboth
  · intro h
    have hmem := TargetUse.mem_ofMounts.2 ⟨target, mem_targets_of_volumesOf h.2, rfl⟩
    exact List.mem_map.2 ⟨_, List.mem_filter.2 ⟨hmem, (hshadowed target).2 h⟩, rfl⟩

/-- There is nothing to refuse exactly if no two files have one target. -/
theorem conflicts_eq_nil_iff (service : String) (mounts : List (MountOrigin × String)) :
    (TargetUse.ofMounts mounts).filterMap (·.conflict? service) = [] ↔
      ((filesOf mounts).map (·.2)).Nodup := by
  have hconflict : ∀ other, (TargetUse.on mounts other).conflict? service = none ↔
      ((filesOf mounts).map (·.2)).count other ≤ 1 := by
    intro other
    rw [← length_originsOn, TargetUse.conflict?, TargetUse.on]
    simp
  rw [List.filterMap_eq_nil_iff, List.nodup_iff_count_le_one]
  constructor
  · intro h other
    by_cases hother : other ∈ (filesOf mounts).map (·.2)
    · have hmem := TargetUse.mem_ofMounts.2 ⟨other, mem_targets_of_filesOf hother, rfl⟩
      exact (hconflict other).1 (h _ hmem)
    · rw [List.count_eq_zero_of_not_mem hother]
      exact Nat.zero_le 1
  · intro h use huse
    obtain ⟨other, -, rfl⟩ := TargetUse.mem_ofMounts.1 huse
    exact (hconflict other).2 (h other)

/-- What a check that is passed says about the mounts. -/
structure TargetFindings.IsOf (service : String) (mounts : List (MountOrigin × String))
    (findings : TargetFindings) : Prop where
  warnings : findings.warnings.Perm
    ((volumesOf mounts).filterMap (TargetUse.shadowWarning? service mounts))
  shadowed : ∀ target, findings.shadowed.contains target = true ↔
    target ∈ (filesOf mounts).map (·.2) ∧ target ∈ (volumesOf mounts).map (·.2)

/-- The warnings of a check that is passed are those on its targets. -/
theorem warnings_of_checkTargets {service : String} {mounts : List (MountOrigin × String)}
    {check : TargetFindings} (h : checkTargets service mounts = .ok check) :
    check.warnings = (TargetUse.ofMounts mounts).flatMap (·.warnings service) := by
  unfold checkTargets at h
  dsimp only at h
  split at h
  · cases h
    rfl
  · cases h

/-- In a check that is passed no two files have one target. -/
theorem nodup_of_checkTargets {findings : TargetFindings}
    (h : checkTargets service mounts = .ok findings) :
    ((filesOf mounts).map (·.2)).Nodup ∧ findings.IsOf service mounts := by
  unfold checkTargets at h
  dsimp only at h
  split at h
  · rename_i hnone
    cases h
    rw [List.isEmpty_iff, conflicts_eq_nil_iff] at hnone
    refine ⟨hnone, warnings_perm service mounts, fun target => ?_⟩
    rw [List.contains_iff_mem]
    exact mem_shadowed_iff
  · cases h

/-- A check that is not passed names all conflicts. -/
theorem not_nodup_of_checkTargets {refusal : Refusal}
    (h : checkTargets service mounts = .error refusal) :
    ¬ ((filesOf mounts).map (·.2)).Nodup ∧ ∃ conflicts, refusal = .targets service conflicts := by
  unfold checkTargets at h
  dsimp only at h
  split at h
  · cases h
  · rename_i hsome
    cases h
    rw [List.isEmpty_iff, conflicts_eq_nil_iff] at hsome
    exact ⟨hsome, _, rfl⟩

end ComposeCluster.Compose

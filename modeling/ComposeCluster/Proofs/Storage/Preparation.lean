import ComposeCluster.Proofs.Compose.MountConflict
import ComposeCluster.Proofs.Storage.MakeDirectories
import ComposeCluster.Proofs.Compose.VolumeRef
import ComposeCluster.Proofs.Naming.Label
import ComposeCluster.Storage.Preparation

/-!
# Directories that are prepared

The directories that have to exist in the volumes of an app are those that its containers mount
(`plans_iff_of_containersOf`). Each is at a place below its volume, since the names of volumes are
labels and sub-paths are plain (`Normal.isPlace_of_plans`). The container that creates them names
each once, and none before one that leads to it, because a path comes before the paths that continue
it; so no directory is made on the way to another one before it gets its own mode
(`DirectoryPlan.pairwise_wayOf`).
-/

set_option autoImplicit false

namespace ComposeCluster

/-! ## Names of volumes -/

namespace Naming

variable {name kind : String} {maxLength : Nat}

/-- A label is one part of a path, and leads on. -/
theorem isPlain_of_checkLabel (h : checkLabel name maxLength kind = .ok ()) :
    '/' ∉ name.toList ∧ Compose.SubPath.IsPlain name := by
  have hlabel := (checkLabel_eq_ok.1 h).2
  simp only [isLabelText, Bool.and_eq_true, List.all_eq_true] at hlabel
  obtain ⟨⟨hall, hfirst⟩, -⟩ := hlabel
  have hslash : '/' ∉ name.toList := by
    intro hmem
    have hchar := hall _ hmem
    revert hchar
    decide
  refine ⟨hslash, ?_⟩
  intro part hpart
  rw [pathParts_of_notMem hslash, List.mem_singleton] at hpart
  subst hpart
  refine ⟨?_, ?_, ?_⟩
  all_goals
    rintro rfl
    revert hfirst
    decide

end Naming

namespace Compose

/-! ## The command -/

namespace DirectoryPlan

variable {plan : DirectoryPlan} {volume sub image : String} {container : Container}

/-- The volumes and the directories in them, in the order of the command. -/
def pairs (plan : DirectoryPlan) : List (String × String) :=
  plan.occupied.flatMap fun entry => entry.2.map fun sub => (entry.1, sub)

/-- The paths of a plan are its directories below the places of their volumes. -/
theorem paths_eq (plan : DirectoryPlan) :
    plan.paths = plan.pairs.map fun pair => mountPath pair.1 ++ "/" ++ pair.2 := by
  simp only [paths, pairs, List.map_flatMap, List.map_map]
  rfl

/-- A directory is planned if its volume has an entry with it. -/
theorem plans_iff : plan.Plans volume sub ↔
    ∃ directories, plan.get? volume = some directories ∧ sub ∈ directories.keys := by
  unfold Plans directories
  cases hget : plan.get? volume with
  | none =>
    simp only [Option.getD_none, reduceCtorEq, false_and, exists_false, iff_false]
    exact Bool.false_ne_true
  | some directories =>
    simp only [Option.getD_some, Option.some_inj, SortedMap.mem_keys, exists_eq_left']

/-- Only volumes with a directory to create are listed. -/
theorem subs_ne_nil {entry : String × List String} (h : entry ∈ plan.occupied) :
    entry.2 ≠ [] := by
  obtain ⟨⟨name, directories⟩, hplanned, rfl⟩ := List.mem_map.1 h
  have hsome := (List.mem_filter.1 hplanned).2
  intro hnone
  rw [SortedMap.keys, List.map_eq_nil_iff] at hnone
  rw [SortedMap.isEmpty, hnone] at hsome
  cases hsome

/-- The pairs of a plan are its directories. -/
theorem mem_pairs : (volume, sub) ∈ plan.pairs ↔ plan.Plans volume sub := by
  rw [plans_iff]
  constructor
  · intro h
    obtain ⟨entry, hentry, hmem⟩ := List.mem_flatMap.1 h
    obtain ⟨⟨name, directories⟩, hplanned, rfl⟩ := List.mem_map.1 hentry
    obtain ⟨path, hpath, heq⟩ := List.mem_map.1 hmem
    cases heq
    exact ⟨directories, SortedMap.get?_eq_some.2 (List.mem_of_mem_filter hplanned), hpath⟩
  · rintro ⟨directories, hget, hsub⟩
    have hsome : (!directories.isEmpty) = true := by
      rw [Bool.not_eq_true', ← Bool.not_eq_true, SortedMap.isEmpty_eq_true]
      rintro rfl
      cases hsub
    have hplanned : (volume, directories) ∈ plan.entries.filter fun entry => !entry.2.isEmpty :=
      List.mem_filter.2 ⟨SortedMap.get?_eq_some.1 hget, hsome⟩
    exact List.mem_flatMap.2 ⟨_, List.mem_map_of_mem hplanned, List.mem_map_of_mem hsub⟩

/-- The occupied volumes of a plan are those with a directory. -/
theorem mem_volumes : volume ∈ plan.occupied.map (·.1) ↔ ∃ sub, plan.Plans volume sub := by
  constructor
  · intro h
    obtain ⟨entry, hentry, rfl⟩ := List.mem_map.1 h
    obtain ⟨sub, hsub⟩ := List.exists_mem_of_ne_nil _ (subs_ne_nil hentry)
    exact ⟨sub, mem_pairs.1 (List.mem_flatMap.2 ⟨entry, hentry, List.mem_map_of_mem hsub⟩)⟩
  · rintro ⟨sub, hplans⟩
    obtain ⟨entry, hentry, hmem⟩ := List.mem_flatMap.1 (mem_pairs.2 hplans)
    obtain ⟨path, -, heq⟩ := List.mem_map.1 hmem
    cases heq
    exact List.mem_map_of_mem hentry

/-- Volumes ascend, and so do the directories of each volume. -/
theorem pairwise_pairs (plan : DirectoryPlan) :
    plan.pairs.Pairwise fun earlier later =>
      compare earlier.1 later.1 = .lt ∨
        earlier.1 = later.1 ∧ compare earlier.2 later.2 = .lt := by
  rw [pairs, List.pairwise_flatMap]
  constructor
  · intro entry hentry
    obtain ⟨⟨name, directories⟩, -, rfl⟩ := List.mem_map.1 hentry
    rw [SortedMap.keys, List.map_map, List.pairwise_map]
    exact directories.sorted.imp fun hlt => .inr ⟨rfl, hlt⟩
  · have hsorted := plan.sorted.filter fun entry => !entry.2.isEmpty
    rw [occupied, List.pairwise_map]
    refine hsorted.imp fun hlt first hfirst second hsecond => ?_
    obtain ⟨-, -, rfl⟩ := List.mem_map.1 hfirst
    obtain ⟨-, -, rfl⟩ := List.mem_map.1 hsecond
    exact .inl hlt

/-- No directory stands twice in the command. -/
theorem nodup_pairs (plan : DirectoryPlan) : plan.pairs.Nodup := by
  refine plan.pairwise_pairs.imp fun hlt heq => ?_
  subst heq
  simp at hlt

/-! ## Ways -/

/-- Where the container that prepares the volumes sees a directory. -/
def pathOf (volume sub : String) : String := mountPath volume ++ "/" ++ sub

/-- The path of a directory leads through the common directory and that of its volume. -/
theorem pathParts_pathOf (h : '/' ∉ volume.toList) (sub : String) :
    pathParts (pathOf volume sub) = ["", "work", volume] ++ pathParts sub := by
  have hwork : pathParts workDirectory = ["", "work"] := by decide
  rw [pathOf, mountPath, pathParts_append_slash, pathParts_append_slash, hwork,
    pathParts_of_notMem h]
  rfl

/-- The name of a volume is one part of a path, and a directory in it is reached by parts that lead
on. -/
structure IsPlace (volume sub : String) : Prop where
  noSlash : '/' ∉ volume.toList
  volume : SubPath.IsPlain volume
  sub : SubPath.IsPlain sub

/-- The parts of a place lead on: none is empty, a dot, or two dots. -/
theorem IsPlace.leadsOn (h : IsPlace volume sub) :
    ∀ part ∈ volume :: pathParts sub, part ≠ "" ∧ part ≠ "." ∧ part ≠ ".." := by
  intro part hpart
  rcases List.mem_cons.1 hpart with rfl | hpart
  · apply h.volume
    rw [pathParts_of_notMem h.noSlash]
    exact List.mem_singleton_self _
  · exact h.sub part hpart

/-- Where a directory is among all, seen by the container that prepares the volumes. -/
def wayOf (volume sub : String) : List String := "work" :: volume :: pathParts sub

/-- The way to a place leads on as well. -/
theorem IsPlace.leadsOn_wayOf (h : IsPlace volume sub) :
    ∀ part ∈ wayOf volume sub, part ≠ "" ∧ part ≠ "." ∧ part ≠ ".." := by
  intro part hpart
  rcases List.mem_cons.1 hpart with rfl | hpart
  · decide
  · exact h.leadsOn part hpart

/-- An absolute path leads as far as its other parts do. -/
theorem steps_of_pathParts {path : String} {parts : List String}
    (hparts : pathParts path = "" :: parts)
    (hleads : ∀ part ∈ parts, part ≠ "" ∧ part ≠ "." ∧ part ≠ "..") :
    SubPath.steps path = parts := by
  rw [SubPath.steps, hparts, List.filter_cons_of_neg (by decide)]
  apply List.filter_eq_self.2
  intro part hpart
  simp [(hleads part hpart).1, (hleads part hpart).2.1]

/-- The steps of the path of a directory are the way to it. -/
theorem IsPlace.steps_pathOf (h : IsPlace volume sub) :
    SubPath.steps (pathOf volume sub) = wayOf volume sub :=
  steps_of_pathParts (pathParts_pathOf h.noSlash sub) h.leadsOn_wayOf

/-- The place of a volume is in the common directory. -/
theorem IsPlace.steps_mountPath (h : IsPlace volume sub) :
    SubPath.steps (mountPath volume) = ["work", volume] := by
  have hwork : pathParts workDirectory = ["", "work"] := by decide
  have hparts : pathParts (mountPath volume) = ["", "work", volume] := by
    rw [mountPath, pathParts_append_slash, hwork, pathParts_of_notMem h.noSlash]
    rfl
  apply steps_of_pathParts hparts
  intro part hpart
  apply h.leadsOn_wayOf
  exact List.mem_of_mem_take (i := 2) hpart

/-- The path of a directory leads to it by its way. -/
theorem IsPlace.wayOf?_pathOf (h : IsPlace volume sub) :
    Directories.wayOf? (pathOf volume sub) = some (wayOf volume sub) := by
  have habsolute : Text.startsWith "/" (pathOf volume sub) = true := by
    simp [Text.startsWith, pathOf, mountPath, workDirectory]
  have hup : (pathParts (pathOf volume sub)).contains ".." = false := by
    rw [pathParts_pathOf h.noSlash, ← Bool.not_eq_true, List.contains_iff_mem]
    intro hmem
    rcases List.mem_cons.1 hmem with hempty | hway
    · exact absurd hempty (by decide)
    · exact (h.leadsOn_wayOf _ hway).2.2 rfl
  rw [Directories.wayOf?, habsolute, hup, h.steps_pathOf]
  rfl

/-- No directory leads to one that comes before it in the command. -/
theorem pairwise_wayOf (plan : DirectoryPlan) :
    (plan.pairs.map fun pair => wayOf pair.1 pair.2).Pairwise fun earlier later =>
      ¬ later <+: earlier := by
  rw [List.pairwise_map]
  refine plan.pairwise_pairs.imp fun {earlier later} hlt hprefix => ?_
  obtain ⟨-, hway⟩ := List.cons_prefix_cons.1 hprefix
  obtain ⟨hvolume, hsub⟩ := List.cons_prefix_cons.1 hway
  rcases hlt with hlt | ⟨-, hlt⟩
  · simp [hvolume] at hlt
  · exact not_prefix_of_compare_eq_lt hlt hsub

/-- Two places with one path are the same place. -/
theorem IsPlace.pathOf_inj {other path : String} (h : IsPlace volume sub)
    (hother : IsPlace other path) (heq : pathOf volume sub = pathOf other path) :
    (volume, sub) = (other, path) := by
  have hways := congrArg Directories.wayOf? heq
  rw [h.wayOf?_pathOf, hother.wayOf?_pathOf, Option.some_inj, wayOf, wayOf] at hways
  obtain ⟨-, hways⟩ := List.cons.inj hways
  obtain ⟨hvolume, hparts⟩ := List.cons.inj hways
  exact Prod.ext hvolume (pathParts_inj hparts)

/-! ## The container -/

/-- What a container does for a plan: it has one argument for each directory, no two are equal, and
each stays below the place where its volume is mounted, as is every volume of the plan; and when it
has run on volumes with nothing in them, every directory is there, with the mode that lets everybody
write. -/
structure IsPreparedBy (plan : DirectoryPlan) (container : Container) : Prop where
  arguments : ∃ pairs : List (String × String),
    (∀ volume sub, (volume, sub) ∈ pairs ↔ plan.Plans volume sub) ∧ pairs.Nodup ∧
      container.command? = some (["mkdir", "-m", "1777", "-p"] ++
        pairs.map fun pair => "/work/" ++ pair.1 ++ "/" ++ pair.2) ∧
      (pairs.map fun pair => "/work/" ++ pair.1 ++ "/" ++ pair.2).Nodup
  below : ∀ volume sub, plan.Plans volume sub →
    pathParts ("/work/" ++ volume ++ "/" ++ sub) = ["", "work", volume] ++ pathParts sub ∧
      ∀ part ∈ volume :: pathParts sub, part ≠ "" ∧ part ≠ "." ∧ part ≠ ".."
  mounts : ∀ mount, mount ∈ container.mounts ↔
    ∃ volume sub, plan.Plans volume sub ∧ mount = .directory volume ("/work/" ++ volume) none
  made : ∀ before : Directories, (∀ mount ∈ container.mounts, before.NothingIn mount.path) →
    ∃ command after, container.command? = some command ∧ before.run? command = some after ∧
      ∀ volume sub, plan.Plans volume sub →
        after.modeAt? ("/work/" ++ volume ++ "/" ++ sub) = some (.given "1777")

/-- No container is needed exactly if no directory is planned. -/
theorem initContainer?_eq_none_iff :
    plan.initContainer? image = none ↔ ∀ volume sub, ¬ plan.Plans volume sub := by
  have hnone : plan.occupied.isEmpty = true ↔ ∀ volume sub, ¬ plan.Plans volume sub := by
    rw [List.isEmpty_iff, ← List.map_eq_nil_iff (f := (·.1)), List.eq_nil_iff_forall_not_mem]
    simp only [mem_volumes, not_exists]
  rw [← hnone, initContainer?]
  by_cases hempty : plan.occupied.isEmpty = true
  · rw [if_pos hempty]
    exact iff_of_true rfl hempty
  · rw [if_neg hempty]
    exact iff_of_false nofun hempty

/-- The container makes all directories and mounts each occupied volume as a whole. -/
theorem of_initContainer?_eq_some (h : plan.initContainer? image = some container) :
    container.command? = some (makeDirectories ++ plan.paths) ∧
      container.mounts = (plan.occupied.map (·.1)).map
        fun volume => .directory volume (mountPath volume) none := by
  unfold initContainer? at h
  split at h
  · cases h
  · cases h
    rw [List.map_map]
    exact ⟨rfl, rfl⟩

/-- The container mounts the volumes with a planned directory, each as a whole. -/
theorem mem_mounts_iff (h : plan.initContainer? image = some container) {mount : VolumeMount} :
    mount ∈ container.mounts ↔
      ∃ volume sub, plan.Plans volume sub ∧ mount = .directory volume (mountPath volume) none := by
  rw [(of_initContainer?_eq_some h).2, List.mem_map]
  simp only [mem_volumes]
  constructor
  · rintro ⟨volume, ⟨sub, hplans⟩, rfl⟩
    exact ⟨volume, sub, hplans, rfl⟩
  · rintro ⟨volume, sub, hplans, rfl⟩
    exact ⟨volume, ⟨sub, hplans⟩, rfl⟩

/-- At first there is nothing at a place in an empty volume. -/
theorem IsPlace.eq_none_of_nothingIn {directories : Directories} (h : IsPlace volume sub)
    (hnothing : directories.NothingIn (mountPath volume)) :
    directories (wayOf volume sub) = none := by
  obtain ⟨name, rest, hparts⟩ := List.exists_cons_of_ne_nil (pathParts_ne_nil sub)
  have hbelow := hnothing name rest
  rw [h.steps_mountPath, ← hparts] at hbelow
  exact hbelow

/-- On empty volumes, the command makes every directory with the mode that it names. -/
theorem run?_paths (hplaces : ∀ volume sub, plan.Plans volume sub → IsPlace volume sub)
    {before : Directories}
    (hempty : ∀ volume sub, plan.Plans volume sub → before.NothingIn (mountPath volume)) :
    ∃ after, before.run? (makeDirectories ++ plan.paths) = some after ∧
      ∀ volume sub, plan.Plans volume sub →
        after.modeAt? (pathOf volume sub) = some (.given "1777") := by
  have hways : ∀ pair ∈ plan.pairs,
      Directories.wayOf? (pathOf pair.1 pair.2) = some (wayOf pair.1 pair.2) := by
    intro pair hpair
    exact (hplaces _ _ (mem_pairs.1 hpair)).wayOf?_pathOf
  have hrun := Directories.run?_map before "1777" hways
  have hnew : ∀ way ∈ plan.pairs.map fun pair => wayOf pair.1 pair.2, before way = none := by
    intro way hway
    obtain ⟨pair, hpair, rfl⟩ := List.mem_map.1 hway
    have hplans := mem_pairs.1 hpair
    exact (hplaces _ _ hplans).eq_none_of_nothingIn (hempty _ _ hplans)
  refine ⟨_, by rw [paths_eq]; exact hrun, ?_⟩
  intro volume sub hplans
  rw [Directories.modeAt?, (hplaces volume sub hplans).steps_pathOf]
  apply Directories.given_of_foldl_make hnew plan.pairwise_wayOf
  exact List.mem_map.2 ⟨(volume, sub), mem_pairs.2 hplans, rfl⟩

/-- The path of a directory is put together from its volume and the way in it. -/
theorem pathOf_eq (volume sub : String) :
    pathOf volume sub = "/work/" ++ volume ++ "/" ++ sub :=
  rfl

/-- The container prepares all planned directories if each is at a place. -/
theorem isPreparedBy_of_initContainer?
    (hplaces : ∀ volume sub, plan.Plans volume sub → IsPlace volume sub)
    (h : plan.initContainer? image = some container) : plan.IsPreparedBy container := by
  have hcommand := (of_initContainer?_eq_some h).1
  constructor
  case arguments =>
    refine ⟨plan.pairs, fun volume sub => mem_pairs, plan.nodup_pairs, ?_, ?_⟩
    · rw [hcommand, paths_eq]
      rfl
    · refine List.Nodup.map_on ?_ plan.nodup_pairs
      rintro ⟨volume, sub⟩ hpair ⟨other, path⟩ hother heq
      exact (hplaces _ _ (mem_pairs.1 hpair)).pathOf_inj (hplaces _ _ (mem_pairs.1 hother)) heq
  case below =>
    intro volume sub hplans
    have hplace := hplaces volume sub hplans
    exact ⟨pathParts_pathOf hplace.noSlash sub, hplace.leadsOn⟩
  case mounts =>
    intro mount
    exact mem_mounts_iff h
  case made =>
    intro before hempty
    have hnothing : ∀ volume sub, plan.Plans volume sub →
        before.NothingIn (mountPath volume) := by
      intro volume sub hplans
      have hmount : .directory volume (mountPath volume) none ∈ container.mounts :=
        (mem_mounts_iff h).2 ⟨volume, sub, hplans, rfl⟩
      simpa only [VolumeMount.directory] using hempty _ hmount
    obtain ⟨after, hrun, hmade⟩ := run?_paths hplaces hnothing
    simp only [pathOf_eq] at hmade
    exact ⟨_, after, hcommand, hrun, hmade⟩

end DirectoryPlan

/-! ## What containers mount -/

/-- The directory that a service volume is resolved to is reached by parts that lead on. -/
theorem Mount.isPlain_of_resolve {service : String} {spec : ServiceVolume}
    {volumes : List AppVolume} {tree : SourceTree} {mount : Mount} {sub : String}
    (h : resolve service spec volumes tree = .ok mount) (hsub : mount.subPath? = some sub) :
    SubPath.IsPlain sub := by
  cases (resolve_eq_ok.1 h).2 with
  | below first hfirst hbelow =>
    cases hsub
    exact SubPath.isPlain_join_steps hbelow.descends
  | named name rest hnamed =>
    by_cases hrest : rest = ""
    · rw [if_pos hrest] at hsub
      cases hsub
    · rw [if_neg hrest] at hsub
      cases hsub
      exact SubPath.isPlain_join_steps (hnamed.descends.resolve_left hrest)

section Services

variable {context : Context} {project : Project} {service : Service} {services : List Service}
  {shared after : Shared} {container : Container} {containers : List Container} {normal : Normal}
  {volume sub path : String}

/-- A service adds the directories that its container mounts. -/
theorem plans_iff_of_containerOf
    (h : containerOf context project service shared = .ok (container, after)) :
    after.subPaths.Plans volume sub ↔ shared.subPaths.Plans volume sub ∨
      ∃ path, .directory volume path (some sub) ∈ container.mounts := by
  obtain ⟨-, mounts, -, hmounted⟩ := Service.isMounted_of_containerOf h
  rw [hmounted.plans_iff]
  apply or_congr_right
  simp only [hmounted.directory_mem_iff]
  constructor
  · rintro ⟨mount, hmount, hapart, rfl, hsub⟩
    exact ⟨mount.target, hsub ▸ hmount, hapart⟩
  · rintro ⟨path, hmount, hapart⟩
    exact ⟨_, hmount, hapart, rfl, rfl⟩

/-- All services together add the directories that their containers mount. -/
theorem plans_iff_of_containersOf
    (h : containersOf context project services shared = .ok (containers, after)) :
    after.subPaths.Plans volume sub ↔ shared.subPaths.Plans volume sub ∨
      ∃ container ∈ containers, ∃ path, .directory volume path (some sub) ∈ container.mounts := by
  refine containersOf_induction (motive := fun _ made next =>
    next.subPaths.Plans volume sub ↔ shared.subPaths.Plans volume sub ∨
      ∃ container ∈ made, ∃ path, .directory volume path (some sub) ∈ container.mounts) ?_ ?_ h
  · intro done made service next container after hnext hcontainer
    rw [plans_iff_of_containerOf hcontainer, hnext, or_assoc]
    simp only [List.mem_append, List.mem_singleton, or_and_right, exists_or, exists_eq_left]
  · simp

/-- A container mounts directories of volumes of the app only, by plain sub-paths. -/
theorem isPlain_of_containerOf
    (h : containerOf context project service shared = .ok (container, after))
    (hmount : .directory volume path (some sub) ∈ container.mounts) :
    volume ∈ context.volumes.map (·.name) ∧ SubPath.IsPlain sub := by
  obtain ⟨-, mounts, hmounts, hmounted⟩ := Service.isMounted_of_containerOf h
  obtain ⟨hmem, -⟩ := hmounted.directory_mem_iff.1 hmount
  obtain ⟨spec, -, hresolve⟩ := exists_left_of_forall₂ (Except.mapM_eq_ok.1 hmounts) hmem
  exact ⟨Mount.volume_mem_of_resolve hresolve, Mount.isPlain_of_resolve hresolve rfl⟩

namespace Normal

/-- Exactly the directories are planned that some container mounts. -/
theorem plans_iff_mounted (h : ofProject context project = .ok normal) (volume sub : String) :
    normal.subPaths.Plans volume sub ↔
      ∃ container ∈ normal.containers, ∃ path,
        .directory volume path (some sub) ∈ container.mounts := by
  obtain ⟨warnings, -, -, -, hcontainers⟩ := ofProject_eq_ok h
  have hnone : ¬ DirectoryPlan.Plans .empty volume sub := Bool.false_ne_true
  exact (plans_iff_of_containersOf hcontainers).trans (or_iff_right hnone)

/-- Volumes of a normalized project have valid names. -/
theorem checkVolumeName_of_ofProject (h : ofProject context project = .ok normal)
    (hvolume : volume ∈ context.volumes.map (·.name)) :
    Naming.checkVolumeName volume = .ok () := by
  obtain ⟨⟨⟩, hnames, -⟩ := Except.bind_eq_ok.1 h
  obtain ⟨known, hknown, rfl⟩ := List.mem_map.1 hvolume
  exact Except.mapError_eq_ok.1 (Except.forM_eq_ok.1 hnames known hknown)

/-- Each planned directory of a normalized project is at a place. -/
theorem isPlace_of_plans (h : ofProject context project = .ok normal)
    (hplans : normal.subPaths.Plans volume sub) : DirectoryPlan.IsPlace volume sub := by
  obtain ⟨container, hcontainer, path, hmount⟩ := (plans_iff_mounted h volume sub).1 hplans
  obtain ⟨warnings, -, -, -, hcontainers⟩ := ofProject_eq_ok h
  have hall : List.Forall₂ (fun (_ : Service) container =>
      .directory volume path (some sub) ∈ container.mounts →
        volume ∈ context.volumes.map (·.name) ∧ SubPath.IsPlain sub)
      project.services normal.containers :=
    forall₂_of_containersOf (fun _ _ _ _ hof => isPlain_of_containerOf hof) hcontainers
  obtain ⟨service, -, hplain⟩ := exists_left_of_forall₂ hall hcontainer
  obtain ⟨hknown, hsub⟩ := hplain hmount
  have hlabel := Naming.isPlain_of_checkLabel (checkVolumeName_of_ofProject h hknown)
  exact ⟨hlabel.1, hlabel.2, hsub⟩

/-- The directories that the containers of a project mount are prepared by one container, if there
are any. -/
theorem directories_prepared (h : ofProject context project = .ok normal) (image : String) :
    (∀ volume sub, normal.subPaths.Plans volume sub ↔
      ∃ container ∈ normal.containers, ∃ path,
        .directory volume path (some sub) ∈ container.mounts) ∧
    (normal.subPaths.initContainer? image = none ↔
      ∀ volume sub, ¬ normal.subPaths.Plans volume sub) ∧
    ∀ container, normal.subPaths.initContainer? image = some container →
      normal.subPaths.IsPreparedBy container := by
  refine ⟨plans_iff_mounted h, DirectoryPlan.initContainer?_eq_none_iff, ?_⟩
  intro container hcontainer
  exact DirectoryPlan.isPreparedBy_of_initContainer? (fun _ _ => isPlace_of_plans h) hcontainer

/-- A service that mounts a directory before the one that it is in. -/
def nested : Project :=
  ⟨[{ Service.site with
      volumes := [⟨.named, "data/a/b", "/b"⟩, ⟨.named, "data/a", "/a"⟩]
      configs := []
      secrets := [] }], .empty, .empty, []⟩

/-- A directory and the one that it is in are both made with their own mode. -/
theorem nested_directories_prepared :
    ∃ normal container, ofProject Service.siteContext nested = .ok normal ∧
      normal.subPaths.initContainer? "busybox" = some container ∧
      container.command? = some ["mkdir", "-m", "1777", "-p", "/work/data/a", "/work/data/a/b"] ∧
      ∃ command after, container.command? = some command ∧
        Directories.run? (fun _ => none) command = some after ∧
        after.modeAt? "/work/data/a" = some (.given "1777") ∧
        after.modeAt? "/work/data/a/b" = some (.given "1777") := by
  obtain ⟨normal, hnormal, container, hcontainer, hcommand, hplans⟩ : ∃ normal,
      ofProject Service.siteContext nested = .ok normal ∧ ∃ container,
        normal.subPaths.initContainer? "busybox" = some container ∧
        container.command? =
          some ["mkdir", "-m", "1777", "-p", "/work/data/a", "/work/data/a/b"] ∧
        normal.subPaths.Plans "data" "a" ∧ normal.subPaths.Plans "data" "a/b" :=
    ⟨_, rfl, _, rfl, rfl, rfl, rfl⟩
  have hprepared := (directories_prepared hnormal "busybox").2.2 container hcontainer
  obtain ⟨command, after, hsome, hrun, hmade⟩ := hprepared.made (fun _ => none) fun _ _ _ _ => rfl
  exact ⟨normal, container, hnormal, hcontainer, hcommand, command, after, hsome, hrun,
    hmade "data" "a" hplans.1, hmade "data" "a/b" hplans.2⟩

end Normal

end Services

end Compose

end ComposeCluster

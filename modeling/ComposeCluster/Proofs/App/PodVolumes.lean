import ComposeCluster.App.Pod
import ComposeCluster.Proofs.App.DistinctObjects
import Mathlib.Data.List.Nodup

/-!
# Volumes of the pod

A pod has a volume for each volume of its app, under the name that the app gives it, and a volume
for each config and each secret that is mounted, under a name with a fixed start. Containers mount
all of them by name. Nothing keeps an app from naming two volumes alike, or a volume like one for a
config or a secret; a mount designates a single volume as long as neither happens
(`Job.volume_names_distinct_iff`).
-/

set_option autoImplicit false

namespace ComposeCluster

open Compose (FileUse)

/-- Volumes for definitions of different kinds or names have different names. -/
theorem Compose.FileUse.volumeName_inj {kind other : SourceKind} {name otherName : String} :
    volumeName kind name = volumeName other otherName ↔ kind = other ∧ name = otherName := by
  have hends (config secret : String) : "cfg-" ++ config ≠ "sec-" ++ secret := by
    intro heq
    have hfirst := congrArg (fun text => text.toList.head?) heq
    rw [String.toList_append, String.toList_append] at hfirst
    cases hfirst
  cases kind <;> cases other
  · exact (String.append_right_inj _).trans (and_iff_right rfl).symm
  · exact iff_of_false (hends name otherName) nofun
  · exact iff_of_false (hends otherName name).symm nofun
  · exact (String.append_right_inj _).trans (and_iff_right rfl).symm

/-- No volume is called like that of a config or a secret that a service mounts. -/
def Compose.Project.KeepsVolumesApart (project : Project) (volumes : List String) : Prop :=
  ∀ service ∈ project.services, ∀ kind name definition,
    project.Mounts service kind name definition → FileUse.volumeName kind name ∉ volumes

/-- The container that prepares volumes does nothing else. -/
theorem Compose.DirectoryPlan.of_initContainer? {plan : DirectoryPlan} {image : String}
    {container : Container} (h : container ∈ (plan.initContainer? image).toList) :
    container.envFrom = [] ∧ container.ports = [] ∧
      ∀ mount ∈ container.mounts, mount.volume ∈ plan.keys := by
  have hinit := Option.mem_toList.1 h
  unfold initContainer? at hinit
  split at hinit
  · cases hinit
  · cases hinit
    refine ⟨rfl, rfl, fun mount hmount => ?_⟩
    obtain ⟨⟨volume, directories⟩, hoccupied, rfl⟩ := List.mem_map.1 hmount
    obtain ⟨entry, hentry, heq⟩ := List.mem_map.1 hoccupied
    cases heq
    exact List.mem_map_of_mem (List.mem_of_mem_filter hentry)

/-! ## Volumes for configs and secrets -/

namespace Content.Objects

variable {scope : Scope} {context : Compose.Context} {project : Compose.Project}
  {normal : Compose.Normal} {credentials? : Option String} {objects : Objects}

/-- No two volumes for content have one name. -/
theorem nodup_names_volumes (h : ofNormal scope normal credentials? = .ok objects) :
    (objects.volumes.map (·.name)).Nodup := by
  have hnames : objects.volumes.map (·.name) =
      normal.configMounts.keys.map (FileUse.volumeName .config) ++
        normal.secretMounts.keys.map (FileUse.volumeName .secret) := by
    rw [volumes_of_ofNormal h, volumesOfFiles, List.map_append, List.map_map, List.map_map,
      SortedMap.keys, SortedMap.keys, List.map_map, List.map_map]
    rfl
  rw [hnames, List.nodup_append]
  refine ⟨?_, ?_, fun config hconfig secret hsecret => ?_⟩
  · exact normal.configMounts.nodup_keys.map fun _ _ heq => (FileUse.volumeName_inj.1 heq).2
  · exact normal.secretMounts.nodup_keys.map fun _ _ heq => (FileUse.volumeName_inj.1 heq).2
  · obtain ⟨name, -, rfl⟩ := List.mem_map.1 hconfig
    obtain ⟨other, -, rfl⟩ := List.mem_map.1 hsecret
    intro heq
    cases (FileUse.volumeName_inj.1 heq).1

/-- There is a volume for each definition that a service mounts, and for no other. -/
theorem mem_names_volumes (hnormal : normal.IsOf context project)
    (hobjects : ofNormal scope normal credentials? = .ok objects) {volume : String} :
    volume ∈ objects.volumes.map (·.name) ↔
      ∃ service ∈ project.services, ∃ kind name definition,
        project.Mounts service kind name definition ∧
          volume = FileUse.volumeName kind name := by
  constructor
  · intro hmem
    obtain ⟨shown, hshown, rfl⟩ := List.mem_map.1 hmem
    obtain ⟨kind, name, file, hfile, rfl⟩ := (mem_volumes hobjects).1 hshown
    obtain ⟨service, hservice, definition, hmounts, -⟩ :=
      hnormal.shared.shown kind name file hfile
    exact ⟨service, hservice, kind, name, definition, hmounts, name_fileVolume kind name file⟩
  · rintro ⟨service, hservice, kind, name, definition, hmounts, rfl⟩
    have hcontains := hnormal.shared.complete service hservice kind name definition hmounts
    obtain ⟨file, hfile⟩ := Option.isSome_iff_exists.1 hcontains
    exact List.mem_map.2 ⟨fileVolume kind name file,
      (mem_volumes hobjects).2 ⟨kind, name, file, hfile, rfl⟩, name_fileVolume kind name file⟩

end Content.Objects

/-! ## All volumes -/

namespace HashedPod

variable {scope : Content.Scope} {context : Compose.Context} {project : Compose.Project}
  {normal : Compose.Normal} {credentials? : Option String} {objects : Content.Objects}
  {bound : List BoundVolume} {setting : Setting}

/-- The volumes of a pod are those that were bound and those for content. -/
theorem map_name_volumes :
    (specOf normal objects bound setting).volumes.map (·.name) =
      bound.map (·.binding.volume) ++ objects.volumes.map (·.name) := by
  show (bound.map BoundVolume.podVolume ++ objects.volumes).map (·.name) = _
  rw [List.map_append, List.map_map]
  rfl

variable (hnormal : normal.IsOf context project)
  (hobjects : Content.Objects.ofNormal scope normal credentials? = .ok objects)
  (hbound : bound.map (·.binding.volume) = context.volumes.map (·.name))
include hnormal hobjects hbound

/-- The volumes of a pod have different names exactly if those of the app have and none is called
like one for content. -/
theorem nodup_names_volumes_iff :
    ((specOf normal objects bound setting).volumes.map (·.name)).Nodup ↔
      (context.volumes.map (·.name)).Nodup ∧
        project.KeepsVolumesApart (context.volumes.map (·.name)) := by
  rw [map_name_volumes, hbound, List.nodup_append]
  refine and_congr_right fun _ => ?_
  rw [and_iff_right (Content.Objects.nodup_names_volumes hobjects)]
  constructor
  · intro hapart service hservice kind name definition hmounts hmem
    have hshown := (Content.Objects.mem_names_volumes hnormal hobjects).2
      ⟨service, hservice, kind, name, definition, hmounts, rfl⟩
    exact hapart _ hmem _ hshown rfl
  · rintro hapart volume hmem _ hshown rfl
    obtain ⟨service, hservice, kind, name, definition, hmounts, rfl⟩ :=
      (Content.Objects.mem_names_volumes hnormal hobjects).1 hshown
    exact hapart service hservice kind name definition hmounts hmem

/-- Everything that a container mounts is a volume of the pod. -/
theorem mount_names_volume {container : Container} {mount : VolumeMount}
    (hmem : container ∈ (specOf normal objects bound setting).initContainers ++
      (specOf normal objects bound setting).containers)
    (hmount : mount ∈ container.mounts) :
    mount.volume ∈ (specOf normal objects bound setting).volumes.map (·.name) := by
  rw [map_name_volumes, hbound, List.mem_append]
  rcases List.mem_append.1 hmem with hinit | hservice
  · obtain ⟨-, -, hmounts⟩ := Compose.DirectoryPlan.of_initContainer? hinit
    exact .inl (hnormal.shared.prepared _ (hmounts mount hmount))
  · obtain ⟨service, hmem, hof⟩ := exists_left_of_forall₂ hnormal.containers hservice
    rcases hof.mounts mount hmount with ⟨hvolume, -⟩ | ⟨kind, name, definition, path, hmounts, rfl⟩
    · exact .inl hvolume
    · right
      exact (Content.Objects.mem_names_volumes hnormal hobjects).2
        ⟨service, hmem, kind, name, definition, hmounts, rfl⟩

end HashedPod

namespace Job

variable {job : Job} {tree : SourceTree} {project : Compose.Project} {normal : Compose.Normal}
  {bindings : List VolumeBinding} {bound : List BoundVolume} {scope : Content.Scope}
  {credentials? : Option String} {objects : Content.Objects}

/-- The volumes of the app are bound in their order. -/
theorem map_volume_of_binds
    (hvolumes : bindings.map (·.volume) = job.target.app.volumes.map (·.name))
    (hbound : List.Forall₂ job.Binds bindings bound) :
    bound.map (·.binding.volume) = job.target.app.volumes.map (·.name) := by
  rw [← hvolumes]
  exact (map_eq_of_forall₂ hbound fun _ _ hbinds => hbinds.1.symm).symm

/-- The volumes of a pod have different names exactly if those of the app do, and none of these is
the name for a config or a secret that a service mounts. In that case each mount designates one
volume of the pod. -/
theorem volume_names_distinct_iff (setting : HashedPod.Setting)
    (hnormal : job.normalize tree project = .ok normal) (hbound : job.bindAll bindings = .ok bound)
    (hobjects : Content.Objects.ofNormal scope normal credentials? = .ok objects) :
    let pod := HashedPod.specOf normal objects bound setting
    let names := job.target.app.volumes.map (·.name)
    ((pod.volumes.map (·.name)).Nodup ↔ names.Nodup ∧ project.KeepsVolumesApart names) ∧
    ((pod.volumes.map (·.name)).Nodup →
      ∀ container ∈ pod.initContainers ++ pod.containers, ∀ mount ∈ container.mounts,
        ∃! volume, volume ∈ pod.volumes ∧ volume.name = mount.volume) := by
  obtain ⟨hvolumes, hbinds⟩ := binds_of_bindAll hbound
  have hof := Compose.Normal.isOf_ofProject hnormal
  have hnames : bound.map (·.binding.volume) = (job.context tree).volumes.map (·.name) :=
    map_volume_of_binds hvolumes hbinds
  refine ⟨HashedPod.nodup_names_volumes_iff hof hobjects hnames, ?_⟩
  intro hnodup container hcontainer mount hmount
  have hmem := HashedPod.mount_names_volume hof hobjects hnames hcontainer hmount
  obtain ⟨volume, hvolume, hname⟩ := List.mem_map.1 hmem
  refine ⟨volume, ⟨hvolume, hname⟩, ?_⟩
  rintro other ⟨hother, hsame⟩
  exact List.inj_on_of_nodup_map hnodup hother hvolume (hsame.trans hname.symm)

/-- A service that mounts a volume and the config `site`. -/
def siteJob (volume : String) : Job :=
  Progress.smallJob [⟨volume, 1048576⟩]
    ("services:\n  web:\n    image: nginx\n    volumes: ['" ++ volume ++ ":/data']\n" ++
      "    configs: [site]\nconfigs:\n  site:\n    content: hello\n")

/-- The pod of `siteJob` without what chooses its nodes. -/
def sitePod? (volume : String) : Option PodSpec := do
  let project ← (Compose.Project.parse (siteJob volume).target.app.compose).toOption
  let normal ← ((siteJob volume).normalize .empty project).toOption
  let bound ← ((siteJob volume).bindAll [⟨volume, ⟨"disk-1", 0⟩, none⟩]).toOption
  let objects ← (Content.Objects.ofNormal (siteJob volume).contentScope normal none).toOption
  return HashedPod.specOf normal objects bound ⟨"", .empty⟩

/-- A volume of the app and the one for a config have one name. -/
theorem volume_names_repeat_for_site :
    ∃ pod, sitePod? "cfg-site" = some pod ∧
      pod.volumes.map (·.name) = ["cfg-site", "cfg-site"] := by
  have hok : ((sitePod? "cfg-site").any fun pod =>
      pod.volumes.map (·.name) = ["cfg-site", "cfg-site"]) = true := by
    decide +kernel
  obtain ⟨pod, hpod, hnames⟩ := (Option.any_eq_true _ _).1 hok
  exact ⟨pod, hpod, of_decide_eq_true hnames⟩

/-- With another volume each mount of the pod designates one volume. -/
theorem mounts_designate_one_volume_for_site :
    ∃ pod, sitePod? "data" = some pod ∧ pod.volumes.map (·.name) = ["data", "cfg-site"] ∧
      ∀ container ∈ pod.initContainers ++ pod.containers, ∀ mount ∈ container.mounts,
        ∃! volume, volume ∈ pod.volumes ∧ volume.name = mount.volume := by
  have hok : ((sitePod? "data").any fun pod =>
      pod.volumes.map (·.name) = ["data", "cfg-site"]) = true := by
    decide +kernel
  obtain ⟨pod, hpod, hnames⟩ := (Option.any_eq_true _ _).1 hok
  have hnames := of_decide_eq_true hnames
  have hmade := hpod
  unfold sitePod? at hmade
  obtain ⟨project, hproject, hmade⟩ := Option.bind_eq_some_iff.1 hmade
  obtain ⟨normal, hnormal, hmade⟩ := Option.bind_eq_some_iff.1 hmade
  obtain ⟨bound, hbound, hmade⟩ := Option.bind_eq_some_iff.1 hmade
  obtain ⟨objects, hobjects, hmade⟩ := Option.bind_eq_some_iff.1 hmade
  cases hmade
  have hone := (volume_names_distinct_iff ⟨"", .empty⟩
    (Except.toOption_eq_some.1 hnormal) (Except.toOption_eq_some.1 hbound)
    (Except.toOption_eq_some.1 hobjects)).2
  rw [hnames] at hone
  exact ⟨_, hpod, hnames, hone (by decide)⟩

end Job

end ComposeCluster

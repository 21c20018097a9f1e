import ComposeCluster.Proofs.App.DistinctObjects
import Mathlib.Order.Bounds.Basic

/-!
# Volumes and their disks, one to one

Bindings are accepted one after another, and each of them is looked at three times: in its place
among the volumes, for its disk, and for what the provider says about the volume. `bindOne_eq_ok`
says what one binding needs and what it gives, and `checkOneEach_eq_ok` what all of them need
together; `Job.exists_bindAll_iff_provides` says the same of the volumes. The persistent volume and
the claim of a binding are made field by field, and `BoundVolume.IsPair` says in which of them they
agree. Both state a capacity, which is exact for all sizes of 64 bits (`isCapacity_capacityText`).
-/

set_option autoImplicit false

namespace ComposeCluster

/-! ## Capacities -/

/-- The capacity for a size: the least whole number of mebibytes that holds it, or a plain zero if
there is nothing to hold. -/
structure IsCapacity (size : Int64) (text : String) : Prop where
  zero : size.toInt ≤ 0 → text = "0"
  least : 0 < size.toInt → ∃ count : Int, text = toString count ++ "Mi" ∧
    IsLeast {units : Int | size.toInt ≤ units * 1048576} count

section Capacity

variable {size : Int64}

/-- A mebibyte has 1048576 bytes. -/
theorem toInt_mebibyte : mebibyte.toInt = 1048576 := by decide

/-- Dividing a positive size by a mebibyte does not overflow. -/
theorem toInt_div_mebibyte (hpos : 0 < size.toInt) :
    (size / mebibyte).toInt = size.toInt / 1048576 := by
  have hsize := size.toInt_lt
  rw [Int64.toInt_div, toInt_mebibyte, Int.tdiv_eq_ediv_of_nonneg hpos.le, Int.bmod_eq_of_le] <;>
    omega

/-- A positive size is a whole number of mebibytes exactly if nothing is left over. -/
theorem mod_mebibyte_eq_zero (hpos : 0 < size.toInt) :
    size % mebibyte = 0 ↔ size.toInt % 1048576 = 0 := by
  rw [← Int64.toInt_inj, Int64.toInt_mod, toInt_mebibyte, Int.tmod_eq_emod_of_nonneg hpos.le,
    Int64.toInt_zero]

/-- The largest size has far fewer mebibytes than 64 bits can count, so the last one, which need
not be full, is added without overflow. -/
theorem toInt_startedMebibytes (hpos : 0 < size.toInt) :
    (size / mebibyte + if size % mebibyte = 0 then 0 else 1).toInt =
      size.toInt / 1048576 + if size.toInt % 1048576 = 0 then 0 else 1 := by
  have hsize := size.toInt_lt
  have hlast : (if size % mebibyte = 0 then (0 : Int64) else 1).toInt =
      if size.toInt % 1048576 = 0 then 0 else 1 := by
    rw [apply_ite Int64.toInt, Int64.toInt_zero, Int64.toInt_one]
    exact if_congr (mod_mebibyte_eq_zero hpos) rfl rfl
  rw [Int64.toInt_add, toInt_div_mebibyte hpos, hlast, Int.bmod_eq_of_le] <;> split <;> omega

/-- The text for a size states the capacity for it, up to the largest size. -/
theorem isCapacity_capacityText (size : Int64) : IsCapacity size (capacityText size) where
  zero hzero := by
    rw [capacityText, if_pos]
    rwa [Int64.le_iff_toInt_le, Int64.toInt_zero]
  least hpos := by
    have hsome : ¬size ≤ 0 := by
      rw [Int64.le_iff_toInt_le, Int64.toInt_zero]
      omega
    refine ⟨size.toInt / 1048576 + if size.toInt % 1048576 = 0 then 0 else 1, ?text, ?holds, ?least⟩
    case text => rw [capacityText, if_neg hsome, ← toInt_startedMebibytes hpos]
    case holds =>
      show size.toInt ≤ _ * 1048576
      split <;> omega
    case least =>
      intro units (hunits : size.toInt ≤ units * 1048576)
      split <;> omega

example : capacityText 9223372036854775807 = "8796093022208Mi" := by decide +kernel

end Capacity

/-! ## One binding -/

namespace VolumeClass

/-- A class always has an access mode. -/
theorem volumeAccessModes_ne_nil (c : VolumeClass) : c.volumeAccessModes ≠ [] := by
  unfold volumeAccessModes
  dsimp only
  split
  · exact List.cons_ne_nil _ _
  · rename_i hknown
    rwa [List.isEmpty_iff] at hknown

/-- A class has no access modes but the known ones. -/
theorem known_of_mem_volumeAccessModes {c : VolumeClass} {mode : String}
    (h : mode ∈ c.volumeAccessModes) : mode ∈ knownAccessModes := by
  unfold volumeAccessModes at h
  dsimp only at h
  split at h
  · rw [List.mem_singleton.1 h]
    decide
  · exact List.contains_iff_mem.1 (List.of_mem_filter h)

end VolumeClass

/-- The volume and the claim of a bound volume, in a namespace and for a size: each is for the
other, and what they state about the disk is the same. -/
structure BoundVolume.IsPair (nameSpace : String) (size : Int64) (bound : BoundVolume) : Prop where
  named : bound.volume.metadata.name = bound.claim.metadata.name
  claimed : bound.claim.spec.volume = bound.claim.metadata.name
  recorded : bound.binding.resource? = some bound.claim.metadata.name
  clusterScoped : bound.volume.metadata.nameSpace? = none
  namespaced : bound.claim.metadata.nameSpace? = some nameSpace
  storage : ∃ text, IsCapacity size text ∧ bound.volume.spec.capacity = .singleton "storage" text ∧
    bound.claim.spec.requests = .singleton "storage" text
  volumeMode : bound.claim.spec.volumeMode = bound.volume.spec.volumeMode
  storageClass : bound.claim.spec.storageClass? = bound.volume.spec.storageClass?
  accessModes : bound.claim.spec.accessModes = bound.volume.spec.accessModes
  accessible : bound.claim.spec.accessModes ≠ []
  known : ∀ mode ∈ bound.claim.spec.accessModes,
    mode ∈ ["ReadWriteOnce", "ReadOnlyMany", "ReadWriteMany", "ReadWriteOncePod"]

section Binding

variable {volumes : List AppVolume} {binding : VolumeBinding} {volume : AppVolume}
  {bound : BoundVolume}

/-- The volume of a binding is the first one with its name, and its disk has a handle. -/
theorem VolumeBinding.volumeIn_eq_ok :
    binding.volumeIn volumes = .ok volume ↔
      volumes.find? (·.name == binding.volume) = some volume ∧
        Text.isBlankText binding.disk.handle = false := by
  unfold volumeIn
  cases volumes.find? (·.name == binding.volume) with
  | none => simp
  | some found => cases Text.isBlankText binding.disk.handle <;> simp

/-- Whatever the class and the names are, the objects for a binding belong together. -/
theorem BoundVolume.isPair_of_ofBinding {scope : BindingScope} {c : VolumeClass}
    (h : ofBinding scope volumes binding c = .ok bound) :
    bound.binding.volume = binding.volume ∧
      ∃ volume, volumes.find? (·.name == binding.volume) = some volume ∧
        bound.IsPair scope.nameSpace
          (if 0 < binding.disk.size then binding.disk.size else volume.size) := by
  obtain ⟨volume, hvolume, -, rfl⟩ := ofBinding_eq_ok.1 h
  refine ⟨rfl, volume, (VolumeBinding.volumeIn_eq_ok.1 hvolume).1, ?_⟩
  exact
    { named := rfl
      claimed := rfl
      recorded := rfl
      clusterScoped := rfl
      namespaced := rfl
      storage := ⟨_, isCapacity_capacityText _, rfl, rfl⟩
      volumeMode := rfl
      storageClass := rfl
      accessModes := rfl
      accessible := c.volumeAccessModes_ne_nil
      known := fun _ hmode => VolumeClass.known_of_mem_volumeAccessModes hmode }

end Binding

/-! ## All bindings -/

/-- There is a first volume with the name of a declared one. -/
theorem App.exists_volume? {app : App} {declared : AppVolume} (h : declared ∈ app.volumes) :
    ∃ volume ∈ app.volumes, app.volume? declared.name = some volume ∧
      volume.name = declared.name := by
  have hfound : (app.volumes.find? (·.name == declared.name)).isSome :=
    List.find?_isSome.2 ⟨declared, h, beq_self_eq_true _⟩
  obtain ⟨volume, hvolume⟩ := Option.isSome_iff_exists.1 hfound
  have hname := List.find?_some hvolume
  exact ⟨volume, List.mem_of_find?_eq_some hvolume, hvolume, beq_iff_eq.1 hname⟩

/-- Bindings are in order if each is for the volume at its place. -/
theorem checkOrderFrom_eq_ok {index : Nat} {volumes : List AppVolume}
    {bindings : List VolumeBinding} :
    checkOrderFrom index volumes bindings = .ok () ↔
      ∀ pair ∈ bindings.zip volumes, pair.1.volume = pair.2.name := by
  induction volumes generalizing index bindings with
  | nil => simp [checkOrderFrom]
  | cons volume rest ih =>
    cases bindings with
    | nil => simp [checkOrderFrom]
    | cons binding later =>
      rw [List.zip_cons_cons, List.forall_mem_cons, checkOrderFrom]
      split
      case isTrue hvolume => rw [ih, and_iff_right hvolume]
      case isFalse hvolume => exact iff_of_false nofun fun h => hvolume h.1

/-- There is one binding for each volume if there are as many and they are in order. -/
theorem checkOneEach_eq_ok {volumes : List AppVolume} {bindings : List VolumeBinding} :
    checkOneEach volumes bindings = .ok () ↔
      bindings.length = volumes.length ∧
        ∀ pair ∈ bindings.zip volumes, pair.1.volume = pair.2.name := by
  unfold checkOneEach
  split
  case isTrue hlength => rw [checkOrderFrom_eq_ok, and_iff_right hlength]
  case isFalse hlength => exact iff_of_false nofun fun h => hlength h.1

/-- With a binding for each volume at its place, the names in bindings are those of the volumes. -/
theorem forall_volume_iff_of_checkOneEach {volumes : List AppVolume}
    {bindings : List VolumeBinding} (h : checkOneEach volumes bindings = .ok ())
    (p : String → Prop) :
    (∀ binding ∈ bindings, p binding.volume) ↔ ∀ declared ∈ volumes, p declared.name := by
  have hall : (∀ name ∈ bindings.map (·.volume), p name) ↔
      ∀ name ∈ volumes.map (·.name), p name := by
    rw [map_volume_of_checkOneEach h]
  rwa [List.forall_mem_map, List.forall_mem_map] at hall

namespace Job

variable {job : Job} {binding : VolumeBinding} {bindings : List VolumeBinding}
  {bound : BoundVolume} {allBound : List BoundVolume}

/-- The provider has a class for a volume, and the class has a driver. -/
def Provides (job : Job) (volume : AppVolume) : Prop :=
  ∃ c, job.resolver job.target.cluster job.target.app volume = .ok c ∧
    Text.isBlankText c.driver = false

/-- What a binding is bound to is made of its volume and the class that the provider has for
that. -/
theorem bindOne_eq_ok :
    job.bindOne binding = .ok bound ↔
      ∃ volume c, job.target.app.volume? binding.volume = some volume ∧
        Text.isBlankText binding.disk.handle = false ∧
        job.resolver job.target.cluster job.target.app volume = .ok c ∧
        BoundVolume.ofBinding job.bindingScope job.target.app.volumes binding c = .ok bound := by
  unfold bindOne
  simp only [Except.bind_eq_ok, Except.mapError_eq_ok, VolumeBinding.volumeIn_eq_ok, App.volume?,
    and_assoc, exists_and_left]

/-- A binding can be bound exactly if its disk has a handle and the provider has a class for its
volume. -/
theorem exists_bindOne_iff :
    (∃ bound, job.bindOne binding = .ok bound) ↔
      Text.isBlankText binding.disk.handle = false ∧
        ∃ volume, job.target.app.volume? binding.volume = some volume ∧ job.Provides volume := by
  simp only [bindOne_eq_ok, BoundVolume.ofBinding_eq_ok]
  constructor
  · rintro ⟨bound, volume, c, hvolume, hhandle, hclass, -, -, hdriver, -⟩
    exact ⟨hhandle, volume, hvolume, c, hclass, hdriver⟩
  · rintro ⟨hhandle, volume, hvolume, c, hclass, hdriver⟩
    exact ⟨_, volume, c, hvolume, hhandle, hclass, volume,
      VolumeBinding.volumeIn_eq_ok.2 ⟨hvolume, hhandle⟩, hdriver, rfl⟩

/-- All bindings can be bound exactly if there is one for each volume and each can be bound. -/
theorem exists_bindAll_iff :
    (∃ bound, job.bindAll bindings = .ok bound) ↔
      checkOneEach job.target.app.volumes bindings = .ok () ∧
        ∀ binding ∈ bindings, ∃ bound, job.bindOne binding = .ok bound := by
  rw [← Except.exists_mapM_eq_ok]
  unfold bindAll
  simp only [Except.bind_eq_ok, Except.mapError_eq_ok]
  exact ⟨fun ⟨bound, ⟨⟩, hcheck, hall⟩ => ⟨hcheck, bound, hall⟩,
    fun ⟨hcheck, bound, hall⟩ => ⟨bound, (), hcheck, hall⟩⟩

/-- What bindings need of the provider is needed of the volumes. -/
theorem exists_bindAll_iff_provides :
    (∃ bound, job.bindAll bindings = .ok bound) ↔
      bindings.length = job.target.app.volumes.length ∧
      (∀ pair ∈ bindings.zip job.target.app.volumes, pair.1.volume = pair.2.name) ∧
      (∀ binding ∈ bindings, Text.isBlankText binding.disk.handle = false) ∧
      ∀ declared ∈ job.target.app.volumes, ∃ volume,
        job.target.app.volume? declared.name = some volume ∧ job.Provides volume := by
  rw [exists_bindAll_iff, checkOneEach_eq_ok, and_assoc]
  refine and_congr_right fun hlength => and_congr_right fun hnames => ?_
  have hsame := forall_volume_iff_of_checkOneEach (checkOneEach_eq_ok.2 ⟨hlength, hnames⟩)
    fun name => ∃ volume, job.target.app.volume? name = some volume ∧ job.Provides volume
  simp only [exists_bindOne_iff, forall_and]
  exact and_congr_right fun _ => hsame

/-- What volumes are bound to comes in the order of the volumes. -/
theorem names_of_bindAll (h : job.bindAll bindings = .ok allBound) :
    List.Forall₂ (fun declared bound => bound.binding.volume = declared.name)
      job.target.app.volumes allBound := by
  obtain ⟨hnames, hbinds⟩ := binds_of_bindAll h
  have hbound : job.target.app.volumes.map (·.name) = allBound.map (·.binding.volume) :=
    hnames.symm.trans (map_eq_of_forall₂ hbinds fun _ _ hpair => hpair.1.symm)
  rw [← List.forall₂_eq_eq_eq, List.forall₂_map_left_iff, List.forall₂_map_right_iff] at hbound
  exact hbound.imp fun _ _ => Eq.symm

/-- What volumes are bound to belongs together, and has the size of the disk or else of the
volume. -/
theorem pairs_of_bindAll (h : job.bindAll bindings = .ok allBound) :
    List.Forall₂ (fun binding bound => ∃ volume,
      job.target.app.volume? binding.volume = some volume ∧
        bound.IsPair job.identity.nameSpace
          (if 0 < binding.disk.size then binding.disk.size else volume.size))
      bindings allBound := by
  obtain ⟨⟨⟩, -, hall⟩ := Except.bind_eq_ok.1 h
  refine (Except.mapM_eq_ok.1 hall).imp fun binding bound hone => ?_
  obtain ⟨volume, c, -, -, -, hmade⟩ := bindOne_eq_ok.1 hone
  exact (BoundVolume.isPair_of_ofBinding hmade).2

/-- Volumes are bound exactly if there are as many bindings as volumes and each is for the volume at
its place, all disks have handles, and the provider has a class with a driver for the first volume
of each name; it is not asked about another volume of that name.

What volumes are bound to comes in their order, and it is a persistent volume and a claim that
belong together, of the size of the disk or else of the first volume with the name. -/
theorem volumes_bound_one_to_one (job : Job) (bindings : List VolumeBinding) :
    let app := job.target.app
    ((∃ bound, job.bindAll bindings = .ok bound) ↔
      bindings.length = app.volumes.length ∧
      (∀ pair ∈ bindings.zip app.volumes, pair.1.volume = pair.2.name) ∧
      (∀ binding ∈ bindings, Text.isBlankText binding.disk.handle = false) ∧
      ∀ declared ∈ app.volumes, ∃ volume,
        app.volume? declared.name = some volume ∧ job.Provides volume) ∧
    ∀ bound, job.bindAll bindings = .ok bound →
      List.Forall₂ (fun declared bound => bound.binding.volume = declared.name) app.volumes bound ∧
      List.Forall₂ (fun binding bound => ∃ volume, app.volume? binding.volume = some volume ∧
        bound.IsPair job.identity.nameSpace
          (if 0 < binding.disk.size then binding.disk.size else volume.size)) bindings bound := by
  dsimp only
  refine ⟨exists_bindAll_iff_provides, ?pairs⟩
  case pairs =>
    intro bound hbound
    exact ⟨names_of_bindAll hbound, pairs_of_bindAll hbound⟩

/-- A volume of the largest size and one of none, with disks that leave the size open. -/
def archiveJob : Job :=
  Progress.smallJob [⟨"data", 9223372036854775807⟩, ⟨"logs", -1⟩]
    "services:\n  web:\n    image: nginx\n"

def archiveBindings : List VolumeBinding :=
  [⟨"data", ⟨" disk-1 ", 0⟩, none⟩, ⟨"logs", ⟨"disk-2", -1⟩, some "logs"⟩]

/-- The largest size and none are bound as they are. -/
theorem volumes_bound_one_to_one_in_archive :
    ∃ data logs, archiveJob.bindAll archiveBindings = .ok [data, logs] ∧
      data.binding.volume = "data" ∧ logs.binding.volume = "logs" ∧
      data.IsPair archiveJob.identity.nameSpace 9223372036854775807 ∧
      logs.IsPair archiveJob.identity.nameSpace (-1) := by
  obtain ⟨haccepted, hpairs⟩ := volumes_bound_one_to_one archiveJob archiveBindings
  have hprovides (volume : AppVolume) : archiveJob.Provides volume :=
    ⟨{ VolumeClass.blank with driver := "disk" }, rfl, by decide⟩
  have hnamed : ∀ declared ∈ archiveJob.target.app.volumes, ∃ volume,
      archiveJob.target.app.volume? declared.name = some volume ∧ archiveJob.Provides volume := by
    intro declared hdeclared
    obtain ⟨volume, -, hvolume, -⟩ := App.exists_volume? hdeclared
    exact ⟨volume, hvolume, hprovides volume⟩
  obtain ⟨bound, hbound⟩ := haccepted.2 ⟨rfl, by decide, by decide, hnamed⟩
  obtain ⟨hnames, hmade⟩ := hpairs bound hbound
  obtain ⟨data, _, ⟨first, hfirst, hdata⟩, hrest, rfl⟩ := List.forall₂_cons_left_iff.1 hmade
  obtain ⟨logs, _, ⟨second, hsecond, hlogs⟩, hlast, rfl⟩ := List.forall₂_cons_left_iff.1 hrest
  obtain rfl := List.forall₂_nil_left_iff.1 hlast
  cases hfirst
  cases hsecond
  obtain ⟨hdataName, hnames⟩ := List.forall₂_cons.1 hnames
  exact ⟨data, logs, hbound, hdataName, (List.forall₂_cons.1 hnames).1, hdata, hlogs⟩

/-- Two volumes of one name, for the second of which the provider has no class. -/
def doubleJob : Job :=
  { Progress.smallJob [⟨"data", 1048576⟩, ⟨"data", 2097152⟩]
      "services:\n  web:\n    image: nginx\n" with
    resolver := fun _ _ volume =>
      if volume.size = 1048576 then .ok { VolumeClass.blank with driver := "disk" }
      else .error (.volumeClass volume.name) }

/-- The volumes are bound, since the provider is never asked about the second one. -/
theorem volumes_bound_without_class_of_second :
    (∃ bound, doubleJob.bindAll [⟨"data", ⟨"disk-1", 0⟩, none⟩, ⟨"data", ⟨"disk-2", 0⟩, none⟩] =
        .ok bound) ∧
      ∃ declared ∈ doubleJob.target.app.volumes, ¬doubleJob.Provides declared := by
  refine ⟨⟨_, rfl⟩, ⟨"data", 2097152⟩, by decide, ?_⟩
  rintro ⟨c, hclass, -⟩
  cases hclass

end Job

end ComposeCluster

import ComposeCluster.Proofs.Content.Reference
import Mathlib.Data.String.Basic

/-!
# What the hash of a pod does not depend on

The hash of a pod follows the names that the pod refers to, in an order that comes from the names
of its containers and not from their places (`names_ofSpec`). Under each of these names it finds
one secret and one config map at most, wherever these stand in their lists
(`get?_indexObjects_congr`). So neither the order of anything nor an object that the pod does not
refer to has an influence on it (`pod_hash_ignores_order`).
-/

set_option autoImplicit false

namespace ComposeCluster

/-- The names in the environment sources of a container. -/
def Container.contentNames (container : Container) : List String :=
  container.envFrom.flatMap fun source =>
    (source.secret?.map (·.name)).toList ++ (source.configMap?.map (·.name)).toList

/-- The name of the object that a volume shows, if it shows one. -/
def Volume.contentNames (volume : Volume) : List String :=
  (volume.secret?.map (·.object)).toList ++ (volume.configMap?.map (·.object)).toList

namespace Content

/-! ## Names -/

/-- Containers by ascending name. -/
def sortedByName (containers : List Container) : List Container :=
  containers.mergeSort fun a b => (compare a.name b.name).isLE

/-- Containers that are sorted by name are the same containers. -/
theorem sortedByName_perm (containers : List Container) :
    (sortedByName containers).Perm containers :=
  List.mergeSort_perm _ _

/-- Sorted containers with different names are strictly in the order of these. -/
theorem pairwise_sortedByName {containers : List Container}
    (h : (containers.map (·.name)).Nodup) :
    (sortedByName containers).Pairwise fun a b => a.name < b.name := by
  have hsorted := pairwise_mergeSort_key Container.name containers
  have hne := List.pairwise_map.1 (((sortedByName_perm containers).map (·.name)).nodup_iff.2 h)
  refine (hsorted.and hne).imp fun {a b} ⟨hle, hne⟩ => compare_lt_iff_lt.1 ?_
  cases hcompare : compare a.name b.name with
  | lt => rfl
  | eq => exact absurd (Std.LawfulEqCmp.eq_of_compare hcompare) hne
  | gt =>
    rw [hcompare] at hle
    cases hle

/-- The names that a hash covers are those for images, those in containers by name, and those in
volumes. -/
theorem names_ofSpec (spec : PodSpec) :
    (Refs.ofSpec spec).names =
      (spec.pullSecrets ++ (sortedByName spec.containers).flatMap Container.contentNames ++
        spec.volumes.flatMap Volume.contentNames).filter (· ≠ "") := by
  -- Sorting the references of containers is sorting the containers.
  let ref (container : Container) : String × List String :=
    (container.name, container.contentNames)
  have hsort : (Refs.ofSpec spec).containers.mergeSort (fun a b => (compare a.1 b.1).isLE) =
      (sortedByName spec.containers).map ref :=
    (List.map_mergeSort (f := ref) fun _ _ _ _ => rfl).symm
  have hempty (name : String) : (!name.isEmpty) = decide (name ≠ "") := by
    rw [Bool.eq_iff_iff]
    simp
  rw [Refs.names, hsort, List.flatMap_map]
  simp only [hempty]
  rfl

/-- The names are the same for containers in another order. -/
theorem names_eq_of_perm {spec : PodSpec} {containers : List Container}
    (hnames : (spec.containers.map (·.name)).Nodup) (h : containers.Perm spec.containers) :
    (Refs.ofSpec { spec with containers }).names = (Refs.ofSpec spec).names := by
  have hsort : sortedByName spec.containers = sortedByName containers :=
    mergeSort_key_eq_of_perm hnames h.symm
  rw [names_ofSpec, names_ofSpec, hsort]

/-! ## Objects -/

section Objects

variable {secrets others : List Secret} {configMaps others' : List ConfigMap} {names : List String}

/-- A look-up under a name finds the same digest where the objects of that name are the same. -/
theorem get?_indexObjects_congr (hsecrets : (secrets.map (·.metadata.name)).Nodup)
    (hothers : (others.map (·.metadata.name)).Nodup)
    (hconfigMaps : (configMaps.map (·.metadata.name)).Nodup)
    (hothers' : (others'.map (·.metadata.name)).Nodup) {name : String}
    (hsame : ∀ secret, secret.metadata.name = name → (secret ∈ secrets ↔ secret ∈ others))
    (hsame' : ∀ configMap, configMap.metadata.name = name →
      (configMap ∈ configMaps ↔ configMap ∈ others')) :
    (indexObjects secrets configMaps).get? name = (indexObjects others others').get? name := by
  have hapart {α : Type} {name : α → String} {objects : List α} (h : (objects.map name).Nodup) :
      objects.Pairwise fun a b => some (name a) ≠ some (name b) :=
    (List.pairwise_map.1 h).imp fun hne heq => hne (Option.some.inj heq)
  have hsecretEntries {objects : List Secret} (h : (objects.map (·.metadata.name)).Nodup) :=
    distinct_entries (fun _ _ => name_of_secretEntry?) (hapart h)
  have hconfigMapEntries {objects : List ConfigMap} (h : (objects.map (·.metadata.name)).Nodup) :=
    distinct_entries (fun _ _ => name_of_configMapEntry?) (hapart h)
  rw [indexObjects, indexObjects,
    get?_index (hsecretEntries hsecrets) (hconfigMapEntries hconfigMaps),
    get?_index (hsecretEntries hothers) (hconfigMapEntries hothers'),
    findEntry_filterMap_congr (fun _ _ => name_of_secretEntry?) (hapart hsecrets) (hapart hothers)
      fun secret h => hsame secret (Option.some.inj h),
    findEntry_filterMap_congr (fun _ _ => name_of_configMapEntry?) (hapart hconfigMaps)
      (hapart hothers') fun configMap h => hsame' configMap (Option.some.inj h)]

end Objects

/-- The hash depends on what is found under the names alone. -/
theorem Refs.hash?_congr {names : List String} {digests others : TextMap}
    (h : ∀ name ∈ names, digests.get? name = others.get? name) :
    hash? names digests = hash? names others := by
  have hinput : hashInput names digests = hashInput names others := by
    rw [hashInput, hashInput, List.map_congr_left fun name hmem => by rw [h name hmem]]
  rw [hash?, hash?, hinput]

/-! ## Pods -/

/-- The names that a pod refers to come in one order: those for its images, those of its containers
by ascending name of the container, those of its volumes; empty names are left out. The hash stays
the same when containers, secrets or config maps come in another order, and when objects are added,
taken away or changed to which the pod does not refer: only the objects under its names count. -/
theorem pod_hash_ignores_order (spec : PodSpec)
    (hcontainers : (spec.containers.map (·.name)).Nodup) :
    (∃ ordered : List Container, ordered.Perm spec.containers ∧
      ordered.Pairwise (fun a b => a.name < b.name) ∧
      (Refs.ofSpec spec).names =
        (spec.pullSecrets ++ ordered.flatMap Container.contentNames ++
          spec.volumes.flatMap Volume.contentNames).filter (· ≠ "")) ∧
    ∀ (containers : List Container) (secrets others : List Secret)
      (configMaps others' : List ConfigMap),
      containers.Perm spec.containers →
      (secrets.map (·.metadata.name)).Nodup → (others.map (·.metadata.name)).Nodup →
      (configMaps.map (·.metadata.name)).Nodup → (others'.map (·.metadata.name)).Nodup →
      (∀ secret, secret.metadata.name ∈ (Refs.ofSpec spec).names →
        (secret ∈ secrets ↔ secret ∈ others)) →
      (∀ configMap, configMap.metadata.name ∈ (Refs.ofSpec spec).names →
        (configMap ∈ configMaps ↔ configMap ∈ others')) →
        podHash? { spec with containers } others others' = podHash? spec secrets configMaps := by
  refine ⟨⟨sortedByName spec.containers, sortedByName_perm _, pairwise_sortedByName hcontainers,
    names_ofSpec spec⟩, ?_⟩
  intro containers secrets others configMaps others' hperm hsecrets hothers hconfigMaps hothers'
    hsame hsame'
  rw [podHash?, podHash?, names_eq_of_perm hcontainers hperm]
  refine (Refs.hash?_congr fun name hmem => ?_).symm
  exact get?_indexObjects_congr hsecrets hothers hconfigMaps hothers'
    (fun secret hname => hsame secret (hname ▸ hmem))
    (fun configMap hname => hsame' configMap (hname ▸ hmem))

section Shop

/-- A pod whose container `api` takes its environment from a config map, and `web` from a secret. -/
def apiAndWeb : PodSpec :=
  { shopPod [] [] with
    containers :=
      [{ Container.ofImage "api" "node" with envFrom := [⟨some ⟨"settings", none⟩, none⟩] },
       { Container.ofImage "web" "nginx" with envFrom := [⟨none, some ⟨"env", none⟩⟩] }] }

/-- The containers are exchanged, a secret without a reference is added, and a config map is taken
away. -/
theorem pod_hash_same_for_apiAndWeb :
    let pod := apiAndWeb
    let secret := shopSecret "env" "aaaaaa"
    let configMap := shopConfigMap "settings" "bbbbbb"
    (Refs.ofSpec pod).names = ["settings", "env"] ∧
    podHash? { pod with containers := pod.containers.reverse }
        [shopSecret "other" "cccccc", secret] [configMap] =
      podHash? pod [secret] [configMap, shopConfigMap "gone" "dddddd"] := by
  intro pod secret configMap
  have hsorted : sortedByName pod.containers = pod.containers :=
    List.mergeSort_of_pairwise (by decide)
  have hnames : (Refs.ofSpec pod).names = ["settings", "env"] := by
    rw [names_ofSpec, hsorted]
    decide
  refine ⟨hnames, (pod_hash_ignores_order pod (by decide)).2 _ _ _ _ _ (List.reverse_perm _)
    (by decide) (by decide) (by decide) (by decide) ?_ ?_⟩
  · intro object hmem
    have hother : object ≠ shopSecret "other" "cccccc" := by
      rintro rfl
      exact absurd hmem (by rw [hnames]; decide)
    simp [hother, secret]
  · intro object hmem
    have hgone : object ≠ shopConfigMap "gone" "dddddd" := by
      rintro rfl
      exact absurd hmem (by rw [hnames]; decide)
    simp [hgone, configMap]

end Shop

end Content

end ComposeCluster

import ComposeCluster.Content.Reference
import ComposeCluster.SortedMap.Lemmas
import Mathlib.Data.List.Nodup

/-!
# What the hash of a pod tells apart

The hash of a pod is taken of the digests behind its references, written one after the other. As
all digests are equally long, the text determines the digests that were found, in their order
(`hashed_eq_iff`). It does not say which references they were found for, and of a secret and a
config map with one name it holds the digest of the config map only. Apart from these two cases a
change of any object that the pod refers to is a change of the text
(`hashed_changes_with_object`).
-/

set_option autoImplicit false

namespace ComposeCluster

namespace Text

/-- Texts with the same bytes are the same. -/
theorem utf8_inj {text other : String} : utf8 text = utf8 other ↔ text = other := by
  constructor
  · intro h
    apply String.toByteArray_inj.1
    apply ByteArray.ext
    exact Array.toList_inj.1 h
  · intro h
    rw [h]

/-- Blocks of one width make a text of as many times this width. -/
theorem length_join_of_width {width : Nat} {blocks : List String}
    (hwidth : ∀ block ∈ blocks, block.length = width) :
    (String.join blocks).length = blocks.length * width := by
  induction blocks with
  | nil => simp
  | cons block rest ih =>
    have hblock := hwidth block List.mem_cons_self
    have hrest := ih fun block hmem => hwidth block (List.mem_cons_of_mem _ hmem)
    rw [String.join_cons, String.length_append, hblock, hrest, List.length_cons, Nat.succ_mul]
    omega

/-- Blocks of one width can be told apart after they have been joined. -/
theorem join_inj_of_width {width : Nat} (hpos : 0 < width) {blocks others : List String}
    (hblocks : ∀ block ∈ blocks, block.length = width)
    (hothers : ∀ block ∈ others, block.length = width)
    (h : String.join blocks = String.join others) : blocks = others := by
  -- The length of the text determines the number of blocks, so that one cannot be the start of
  -- the other.
  have hlength : blocks.length = others.length := by
    have hjoined := congrArg String.length h
    rw [length_join_of_width hblocks, length_join_of_width hothers] at hjoined
    exact Nat.eq_of_mul_eq_mul_right hpos hjoined
  induction blocks generalizing others with
  | nil => exact (List.length_eq_zero_iff.1 hlength.symm).symm
  | cons block rest ih =>
    cases others with
    | nil => cases hlength
    | cons other rest' =>
      have hblock := hblocks block List.mem_cons_self
      have hother := hothers other List.mem_cons_self
      rw [String.join_cons, String.join_cons, ← String.toList_inj, String.toList_append,
        String.toList_append] at h
      have hwidth : block.toList.length = other.toList.length := by
        rw [String.length_toList, hblock, String.length_toList, hother]
      obtain ⟨hhead, htail⟩ := List.append_inj h hwidth
      have hrest : rest = rest' := by
        apply ih
        · exact fun block hmem => hblocks block (List.mem_cons_of_mem _ hmem)
        · exact fun block hmem => hothers block (List.mem_cons_of_mem _ hmem)
        · exact String.toList_inj.1 htail
        · exact Nat.succ.inj hlength
      rw [String.toList_inj.1 hhead, hrest]

end Text

namespace Content

/-! ## References by kind -/

/-- The kinds of objects that pods take content from. -/
inductive DataKind where
  | secret
  | configMap
  deriving DecidableEq

/-- A reference to an object by its kind and its name. -/
structure DataRef where
  kind : DataKind
  name : String
  deriving DecidableEq

namespace DataRef

/-- The references in an environment source, or behind a volume. -/
def ofNames (secret? configMap? : Option String) : List DataRef :=
  secret?.toList.map (⟨.secret, ·⟩) ++ configMap?.toList.map (⟨.configMap, ·⟩)

/-- The objects that a pod refers to. -/
def ofSpec (spec : PodSpec) : List DataRef :=
  spec.pullSecrets.map (⟨.secret, ·⟩) ++
    (spec.containers.flatMap fun container => container.envFrom.flatMap fun source =>
      ofNames (source.secret?.map (·.name)) (source.configMap?.map (·.name))) ++
    spec.volumes.flatMap fun volume =>
      ofNames (volume.secret?.map (·.object)) (volume.configMap?.map (·.object))

def ofLive (pod : LivePod) : List DataRef :=
  pod.pullSecrets.map (⟨.secret, ·⟩) ++
    (pod.containers.flatMap fun container => container.envFrom.flatMap fun source =>
      ofNames source.secret? source.configMap?) ++
    pod.volumes.flatMap fun volume => ofNames volume.secret? volume.configMap?

/-- The names of references are the names that they were made of. -/
theorem map_name_ofNames (secret? configMap? : Option String) :
    (ofNames secret? configMap?).map (·.name) = Refs.envNames secret? configMap? := by
  simp [ofNames, Refs.envNames, Function.comp_def]

/-- References to secrets for images have the names of these secrets. -/
theorem map_name_pullSecrets (names : List String) :
    (names.map (DataRef.mk .secret)).map (·.name) = names := by
  simp [Function.comp_def]

end DataRef

/-- The names in references in the order in which the pod has them. -/
def Refs.unsorted (refs : Refs) : List String :=
  refs.pullSecrets ++ refs.containers.flatMap (·.2) ++ refs.volumes

/-- The names that a hash covers are the names in references that are not empty. -/
theorem Refs.mem_names {refs : Refs} {name : String} :
    name ∈ refs.names ↔ name ∈ refs.unsorted ∧ name ≠ "" := by
  -- Sorting containers by name changes the order of the hash and not what it is taken of.
  have hsort : name ∈ (refs.containers.mergeSort fun a b => (compare a.1 b.1).isLE).flatMap
      (·.2) ↔ name ∈ refs.containers.flatMap (·.2) := by
    simp only [List.mem_flatMap, List.mem_mergeSort]
  rw [names, List.mem_filter, List.mem_append, List.mem_append, hsort, unsorted, List.mem_append,
    List.mem_append]
  simp

namespace DataRef

/-- The references of a pod have the names that a hash looks for in it. -/
theorem map_name_ofSpec (spec : PodSpec) :
    (ofSpec spec).map (·.name) = (Refs.ofSpec spec).unsorted := by
  simp only [ofSpec, Refs.ofSpec, Refs.unsorted, List.map_append, map_name_pullSecrets,
    List.map_flatMap, map_name_ofNames, List.flatMap_map]

/-- The references of a live pod have the names that a hash looks for in it. -/
theorem map_name_ofLive (pod : LivePod) :
    (ofLive pod).map (·.name) = (Refs.ofLive pod).unsorted := by
  simp only [ofLive, Refs.ofLive, Refs.unsorted, List.map_append, map_name_pullSecrets,
    List.map_flatMap, map_name_ofNames, List.flatMap_map]

/-- A reference with a name is among those that the hash is taken of. -/
theorem mem_names {list : List DataRef} {refs : Refs} (hlist : list.map (·.name) = refs.unsorted)
    {ref : DataRef} (hmem : ref ∈ list) (hname : ref.name ≠ "") : ref.name ∈ refs.names := by
  refine Refs.mem_names.2 ⟨?_, hname⟩
  rw [← hlist]
  exact List.mem_map_of_mem hmem

end DataRef

/-! ## Digests by kind -/

/-- Where names differ within each kind, a look-up asks the config maps and then the secrets. -/
theorem get?_index {secrets configMaps : List DigestEntry}
    (hsecrets : secrets.Pairwise fun a b => a.1 ≠ b.1)
    (hconfigMaps : configMaps.Pairwise fun a b => a.1 ≠ b.1) (name : String) :
    (index secrets configMaps).get? name =
      (findEntry name configMaps).or (findEntry name secrets) := by
  rw [index, SortedMap.get?_ofList, List.reverse_append, findEntry_append,
    findEntry_reverse hconfigMaps, findEntry_reverse hsecrets]

/-- The digests that the objects around a pod carry. -/
structure Digests where
  secrets : List DigestEntry
  configMaps : List DigestEntry

namespace Digests

/-- The digests of generated objects. -/
def ofObjects (secrets : List Secret) (configMaps : List ConfigMap) : Digests :=
  ⟨secrets.filterMap secretEntry?, configMaps.filterMap configMapEntry?⟩

/-- The digests of live objects. -/
def ofLive (secrets configMaps : List LiveMeta) : Digests :=
  ⟨secrets.filterMap liveEntry?, configMaps.filterMap liveEntry?⟩

def entries (digests : Digests) : DataKind → List DigestEntry
  | .secret => digests.secrets
  | .configMap => digests.configMaps

/-- The digest that an object carries. -/
def carried? (digests : Digests) (ref : DataRef) : Option String :=
  findEntry ref.name (digests.entries ref.kind)

/-- The digests by name, as the hash looks them up. -/
def byName (digests : Digests) : TextMap :=
  index digests.secrets digests.configMaps

/-- Within each kind the objects have different names, and their digests have the length of
digests. -/
structure Valid (digests : Digests) : Prop where
  distinct : ∀ kind, (digests.entries kind).Pairwise fun a b => a.1 ≠ b.1
  length : ∀ kind, ∀ entry ∈ digests.entries kind, entry.2.length = digestLength

/-- What is found under the name of an object is what this object carries, and not what an object
of the other kind carries under the same name. -/
def Shows (digests : Digests) (ref : DataRef) : Prop :=
  digests.byName.get? ref.name = digests.carried? ref

/-- Each of the names in references that has a digest has one in another state as well. -/
def KeptIn (before after : Digests) (refs : Refs) : Prop :=
  ∀ name ∈ refs.names, (before.byName.get? name).isSome → (after.byName.get? name).isSome

/-- What the hash of a pod with the references is taken of. -/
def hashed (digests : Digests) (refs : Refs) : Bytes :=
  Text.utf8 (Refs.hashInput refs.names digests.byName)

/-- A pod without references has no hash; otherwise it has that of the digests it refers to. -/
theorem hash?_eq (digests : Digests) (refs : Refs) :
    Refs.hash? refs.names digests.byName =
      if refs.names.isEmpty then none else some (shortHashOf (digests.hashed refs) digestLength) :=
  rfl

variable {digests before after : Digests}

/-- The digest of a config map goes before that of a secret. -/
theorem get?_byName (hvalid : digests.Valid) (name : String) :
    digests.byName.get? name =
      (digests.carried? ⟨.configMap, name⟩).or (digests.carried? ⟨.secret, name⟩) :=
  get?_index (hvalid.distinct .secret) (hvalid.distinct .configMap) name

/-- A digest that is found by name has the length of digests. -/
theorem length_of_get?_byName (hvalid : digests.Valid) {name digest : String}
    (h : digests.byName.get? name = some digest) : digest.length = digestLength := by
  rw [get?_byName hvalid, Option.or_eq_some_iff] at h
  rcases h with hconfig | ⟨-, hsecret⟩
  · exact hvalid.length .configMap _ (mem_of_findEntry hconfig)
  · exact hvalid.length .secret _ (mem_of_findEntry hsecret)

end Digests

section Valid

/-- Entries of objects with different names have different names. -/
theorem distinct_entries {α : Type} {view : α → Option DigestEntry} {name? : α → Option String}
    (hname : ∀ object entry, view object = some entry → name? object = some entry.1)
    {objects : List α} (h : objects.Pairwise fun a b => name? a ≠ name? b) :
    (objects.filterMap view).Pairwise fun a b => a.1 ≠ b.1 := by
  rw [List.pairwise_filterMap]
  refine h.imp fun hne entry hentry entry' hentry' heq => hne ?_
  rw [hname _ _ hentry, hname _ _ hentry', heq]

/-- The entry of a live object has its name. -/
theorem name_of_liveEntry? {data : LiveMeta} {entry : DigestEntry}
    (h : liveEntry? data = some entry) : data.name? = some entry.1 := by
  unfold liveEntry? at h
  obtain ⟨name, hname, hrest⟩ := Option.bind_eq_some_iff.1 h
  obtain ⟨annotations, -, hrest⟩ := Option.bind_eq_some_iff.1 hrest
  obtain ⟨digest, -, hentry⟩ := Option.bind_eq_some_iff.1 hrest
  cases hentry
  exact (Option.filter_eq_some_iff.1 hname).1

/-- The entry of a secret has its name. -/
theorem name_of_secretEntry? {object : Secret} {entry : DigestEntry}
    (h : secretEntry? object = some entry) : some object.metadata.name = some entry.1 := by
  obtain ⟨digest, -, rfl⟩ := Option.map_eq_some_iff.1 h
  rfl

/-- The entry of a config map has its name. -/
theorem name_of_configMapEntry? {object : ConfigMap} {entry : DigestEntry}
    (h : configMapEntry? object = some entry) : some object.metadata.name = some entry.1 := by
  obtain ⟨digest, -, rfl⟩ := Option.map_eq_some_iff.1 h
  rfl

/-- Digests of live objects are valid if the names differ within each kind and each digest has the
right length. -/
theorem Digests.valid_ofLive {secrets configMaps : List LiveMeta}
    (hsecrets : secrets.Pairwise fun a b => a.name? ≠ b.name?)
    (hconfigMaps : configMaps.Pairwise fun a b => a.name? ≠ b.name?)
    (hlength : ∀ object ∈ secrets ++ configMaps, ∀ entry, liveEntry? object = some entry →
      entry.2.length = digestLength) : (Digests.ofLive secrets configMaps).Valid := by
  refine ⟨fun kind => ?_, fun kind entry hmem => ?_⟩
  · cases kind with
    | secret => exact distinct_entries (fun _ _ => name_of_liveEntry?) hsecrets
    | configMap => exact distinct_entries (fun _ _ => name_of_liveEntry?) hconfigMaps
  · cases kind with
    | secret =>
      obtain ⟨object, hobject, hentry⟩ := List.mem_filterMap.1 hmem
      exact hlength object (List.mem_append_left _ hobject) entry hentry
    | configMap =>
      obtain ⟨object, hobject, hentry⟩ := List.mem_filterMap.1 hmem
      exact hlength object (List.mem_append_right _ hobject) entry hentry

/-- Digests of generated objects are valid if the names differ within each kind and each digest has
the right length. -/
theorem Digests.valid_ofObjects {secrets : List Secret} {configMaps : List ConfigMap}
    (hsecrets : secrets.Pairwise fun a b => a.metadata.name ≠ b.metadata.name)
    (hconfigMaps : configMaps.Pairwise fun a b => a.metadata.name ≠ b.metadata.name)
    (hlength : ∀ digest, digest ∈ secrets.filterMap (·.contentHash?) ++
      configMaps.filterMap (·.contentHash?) → digest.length = digestLength) :
    (Digests.ofObjects secrets configMaps).Valid := by
  refine ⟨fun kind => ?_, fun kind entry hmem => ?_⟩
  · cases kind with
    | secret =>
      exact distinct_entries (fun _ _ => name_of_secretEntry?)
        (hsecrets.imp fun hne h => hne (Option.some.inj h))
    | configMap =>
      exact distinct_entries (fun _ _ => name_of_configMapEntry?)
        (hconfigMaps.imp fun hne h => hne (Option.some.inj h))
  · apply hlength
    cases kind with
    | secret =>
      obtain ⟨object, hobject, hentry⟩ := List.mem_filterMap.1 hmem
      obtain ⟨digest, hdigest, rfl⟩ := Option.map_eq_some_iff.1 hentry
      exact List.mem_append_left _ (List.mem_filterMap.2 ⟨object, hobject, hdigest⟩)
    | configMap =>
      obtain ⟨object, hobject, hentry⟩ := List.mem_filterMap.1 hmem
      obtain ⟨digest, hdigest, rfl⟩ := Option.map_eq_some_iff.1 hentry
      exact List.mem_append_right _ (List.mem_filterMap.2 ⟨object, hobject, hdigest⟩)

end Valid

section Order

/-- Under a name that no two objects of a list share, only the object of that name counts. -/
theorem findEntry_filterMap_congr {α : Type} {view : α → Option DigestEntry}
    {name? : α → Option String}
    (hname : ∀ object entry, view object = some entry → name? object = some entry.1)
    {objects others : List α} (hobjects : objects.Pairwise fun a b => name? a ≠ name? b)
    (hothers : others.Pairwise fun a b => name? a ≠ name? b) {name : String}
    (hsame : ∀ object, name? object = some name → (object ∈ objects ↔ object ∈ others)) :
    findEntry name (objects.filterMap view) = findEntry name (others.filterMap view) := by
  refine Option.ext fun digest => ?_
  rw [findEntry_eq_some (distinct_entries hname hobjects),
    findEntry_eq_some (distinct_entries hname hothers), List.mem_filterMap, List.mem_filterMap]
  refine exists_congr fun object => and_congr_left fun hentry => ?_
  exact hsame object (hname object _ hentry)

/-! Sorting by a key, which is how containers and entries are brought into one order. -/

variable {α : Type} {key : α → String} {items others : List α}

/-- Items that were sorted by a key are in the order of this key. -/
theorem pairwise_mergeSort_key (key : α → String) (items : List α) :
    (items.mergeSort fun a b => (compare (key a) (key b)).isLE).Pairwise
      fun a b => (compare (key a) (key b)).isLE = true := by
  apply List.pairwise_mergeSort
  · intro a b c
    exact Std.TransCmp.isLE_trans
  · intro a b
    have hswap : compare (key b) (key a) = (compare (key a) (key b)).swap :=
      Std.OrientedCmp.eq_swap
    rw [Bool.or_eq_true, hswap]
    cases compare (key a) (key b) <;> simp

/-- Items with different keys have one order. -/
theorem mergeSort_key_eq_of_perm (hkeys : (items.map key).Nodup) (h : items.Perm others) :
    (items.mergeSort fun a b => (compare (key a) (key b)).isLE) =
      others.mergeSort fun a b => (compare (key a) (key b)).isLE := by
  have hfirst := List.mergeSort_perm items fun a b => (compare (key a) (key b)).isLE
  have hsecond := List.mergeSort_perm others fun a b => (compare (key a) (key b)).isLE
  refine List.Perm.eq_of_pairwise ?_ (pairwise_mergeSort_key key items)
    (pairwise_mergeSort_key key others) (hfirst.trans (h.trans hsecond.symm))
  intro a b ha hb hab hba
  have hkey := Std.LawfulEqCmp.eq_of_compare (Std.OrientedCmp.isLE_antisymm hab hba)
  exact List.inj_on_of_nodup_map hkeys (hfirst.mem_iff.1 ha)
    (h.mem_iff.2 (hsecond.mem_iff.1 hb)) hkey

end Order

/-! ## What the hash is taken of -/

variable {before after : Digests}

/-- Names without a digest leave no trace in the text. -/
theorem Refs.hashInput_eq_join (names : List String) (digests : TextMap) :
    hashInput names digests = String.join (names.filterMap digests.get?) := by
  rw [hashInput]
  induction names with
  | nil => rfl
  | cons name rest ih =>
    rw [List.map_cons, String.join_cons, ih, List.filterMap_cons]
    cases digests.get? name with
    | none => exact String.empty_append
    | some digest => rw [String.join_cons]; rfl

section FilterMap

variable {α β : Type} {find find' : α → Option β} {items : List α}

/-- Where more is found for each item, there are at least as many finds. -/
theorem length_filterMap_le_of_isSome
    (hkeeps : ∀ item ∈ items, (find item).isSome → (find' item).isSome) :
    (items.filterMap find).length ≤ (items.filterMap find').length := by
  induction items with
  | nil => exact Nat.le_refl 0
  | cons item rest ih =>
    have hrest := ih fun item hmem => hkeeps item (List.mem_cons_of_mem _ hmem)
    have hitem := hkeeps item List.mem_cons_self
    rw [List.filterMap_cons, List.filterMap_cons]
    cases hfind : find item with
    | none =>
      cases find' item with
      | none => exact hrest
      | some value => exact Nat.le_succ_of_le hrest
    | some value =>
      rw [hfind] at hitem
      obtain ⟨value', hvalue'⟩ := Option.isSome_iff_exists.1 (hitem rfl)
      rw [hvalue']
      exact Nat.succ_le_succ hrest

/-- Two searches that give one list, the second of which finds something wherever the first does,
find the same things. -/
theorem find_eq_of_filterMap_eq
    (hkeeps : ∀ item ∈ items, (find item).isSome → (find' item).isSome)
    (h : items.filterMap find = items.filterMap find') :
    ∀ item ∈ items, find item = find' item := by
  induction items with
  | nil => exact fun item hmem => by cases hmem
  | cons item rest ih =>
    have hkeepsRest : ∀ item ∈ rest, (find item).isSome → (find' item).isSome :=
      fun item hmem => hkeeps item (List.mem_cons_of_mem _ hmem)
    have hle := length_filterMap_le_of_isSome hkeepsRest
    have hitem := hkeeps item List.mem_cons_self
    rw [List.filterMap_cons, List.filterMap_cons] at h
    have hboth : find item = find' item ∧ rest.filterMap find = rest.filterMap find' := by
      cases hfind : find item with
      | none =>
        rw [hfind] at h
        cases hfind' : find' item with
        | none =>
          rw [hfind'] at h
          exact ⟨rfl, h⟩
        | some value =>
          -- One more thing would be found here, and none can be missing behind it.
          rw [hfind'] at h
          have hlength : (rest.filterMap find).length = (rest.filterMap find').length + 1 :=
            congrArg List.length h
          omega
      | some value =>
        rw [hfind] at h hitem
        obtain ⟨value', hvalue'⟩ := Option.isSome_iff_exists.1 (hitem rfl)
        rw [hvalue'] at h
        obtain ⟨hvalue, hrest⟩ := List.cons.inj h
        exact ⟨by rw [hvalue', hvalue], hrest⟩
    intro other hmem
    rcases List.mem_cons.1 hmem with rfl | hmem
    · exact hboth.1
    · exact ih hkeepsRest hboth.2 other hmem

end FilterMap

/-- The bytes determine the digests that are found behind the names, in their order. -/
theorem hashed_eq_iff (hbefore : before.Valid) (hafter : after.Valid) (refs : Refs) :
    before.hashed refs = after.hashed refs ↔
      refs.names.filterMap before.byName.get? = refs.names.filterMap after.byName.get? := by
  rw [Digests.hashed, Digests.hashed, Text.utf8_inj, Refs.hashInput_eq_join,
    Refs.hashInput_eq_join]
  refine ⟨Text.join_inj_of_width (show 0 < digestLength by decide) ?_ ?_, fun h => by rw [h]⟩
  · intro digest hmem
    obtain ⟨name, -, hname⟩ := List.mem_filterMap.1 hmem
    exact Digests.length_of_get?_byName hbefore hname
  · intro digest hmem
    obtain ⟨name, -, hname⟩ := List.mem_filterMap.1 hmem
    exact Digests.length_of_get?_byName hafter hname

/-- A change that shows under one of the names is a change of the bytes, unless one name loses
its digest while another one gets one. -/
theorem hashed_ne_of_get?_ne (hbefore : before.Valid) (hafter : after.Valid) {refs : Refs}
    {name : String} (hmem : name ∈ refs.names)
    (hchanged : before.byName.get? name ≠ after.byName.get? name)
    (hkept : before.KeptIn after refs ∨ after.KeptIn before refs) :
    before.hashed refs ≠ after.hashed refs := by
  intro h
  rw [hashed_eq_iff hbefore hafter] at h
  rcases hkept with hkept | hkept
  · exact hchanged (find_eq_of_filterMap_eq hkept h name hmem)
  · exact hchanged (find_eq_of_filterMap_eq hkept h.symm name hmem).symm

/-- For two states of the objects around a pod, the hash is taken of the same bytes exactly if the
same digests are found behind the names in their order. A change of an object that the pod refers
to changes the bytes if this object is what is found under its name, and if not one name loses its
digest while another one gets one. -/
theorem hashed_changes_with_object (hbefore : before.Valid) (hafter : after.Valid) :
    (∀ refs : Refs, before.hashed refs = after.hashed refs ↔
      refs.names.filterMap before.byName.get? = refs.names.filterMap after.byName.get?) ∧
    ∀ ref : DataRef, ref.name ≠ "" → before.carried? ref ≠ after.carried? ref →
      before.Shows ref → after.Shows ref →
      (∀ spec, ref ∈ DataRef.ofSpec spec →
        before.KeptIn after (.ofSpec spec) ∨ after.KeptIn before (.ofSpec spec) →
        before.hashed (.ofSpec spec) ≠ after.hashed (.ofSpec spec)) ∧
      (∀ pod, ref ∈ DataRef.ofLive pod →
        before.KeptIn after (.ofLive pod) ∨ after.KeptIn before (.ofLive pod) →
        before.hashed (.ofLive pod) ≠ after.hashed (.ofLive pod)) := by
  refine ⟨hashed_eq_iff hbefore hafter, ?_⟩
  intro ref hname hchanged hshowsBefore hshowsAfter
  have hfound : before.byName.get? ref.name ≠ after.byName.get? ref.name := by
    rw [hshowsBefore, hshowsAfter]
    exact hchanged
  constructor
  · intro spec hmem hkept
    have hnames := DataRef.mem_names (DataRef.map_name_ofSpec spec) hmem hname
    exact hashed_ne_of_get?_ne hbefore hafter hnames hfound hkept
  · intro pod hmem hkept
    have hnames := DataRef.mem_names (DataRef.map_name_ofLive pod) hmem hname
    exact hashed_ne_of_get?_ne hbefore hafter hnames hfound hkept

section Shop

def shopSecret (name digest : String) : Secret :=
  { Secret.create name "shop" with
    metadata := (Meta.namespaced name "shop").annotate Key.contentHash digest }

def shopConfigMap (name digest : String) : ConfigMap :=
  { ConfigMap.create name "shop" with
    metadata := (Meta.namespaced name "shop").annotate Key.contentHash digest }

/-- A pod with one container that takes its environment from secrets and config maps. -/
def shopPod (secrets configMaps : List String) : PodSpec where
  pullSecrets := []
  initContainers := []
  containers :=
    [{ Container.ofImage "web" "nginx" with
       envFrom := secrets.map (fun name => ⟨none, some ⟨name, none⟩⟩) ++
         configMaps.map fun name => ⟨some ⟨name, none⟩, none⟩ }]
  volumes := []
  nodeSelector := .empty

/-- Another digest of the secret changes what the hash of the pod is taken of. -/
theorem hashed_changes_with_shopSecret :
    (Digests.ofObjects [shopSecret "env" "aaaaaa"] []).hashed (.ofSpec (shopPod ["env"] [])) ≠
      (Digests.ofObjects [shopSecret "env" "bbbbbb"] []).hashed (.ofSpec (shopPod ["env"] [])) := by
  have hbefore : (Digests.ofObjects [shopSecret "env" "aaaaaa"] []).Valid :=
    ⟨fun kind => by cases kind <;> decide, fun kind => by cases kind <;> decide +kernel⟩
  have hafter : (Digests.ofObjects [shopSecret "env" "bbbbbb"] []).Valid :=
    ⟨fun kind => by cases kind <;> decide, fun kind => by cases kind <;> decide +kernel⟩
  have hchanges := (hashed_changes_with_object hbefore hafter).2 ⟨.secret, "env"⟩ (by decide)
    (by decide +kernel) (by unfold Digests.Shows; decide +kernel)
    (by unfold Digests.Shows; decide +kernel)
  refine hchanges.1 _ (by decide) (.inl ?_)
  unfold Digests.KeptIn
  decide +kernel

/-- Two changes that leave the bytes as they are: that of a secret beside a config map with its
name, and that of a digest that one secret loses while another one gets it. -/
theorem hashed_same_with_changed_object :
    (let before := Digests.ofObjects [shopSecret "x" "aaaaaa"] [shopConfigMap "x" "cccccc"]
    let after := Digests.ofObjects [shopSecret "x" "bbbbbb"] [shopConfigMap "x" "cccccc"]
    before.Valid ∧ after.Valid ∧ ⟨.secret, "x"⟩ ∈ DataRef.ofSpec (shopPod ["x"] ["x"]) ∧
      before.carried? ⟨.secret, "x"⟩ ≠ after.carried? ⟨.secret, "x"⟩ ∧
      before.hashed (.ofSpec (shopPod ["x"] ["x"])) =
        after.hashed (.ofSpec (shopPod ["x"] ["x"]))) ∧
    (let before := Digests.ofObjects [shopSecret "x" "aaaaaa"] []
    let after := Digests.ofObjects [shopSecret "y" "aaaaaa"] []
    before.Valid ∧ after.Valid ∧ ⟨.secret, "x"⟩ ∈ DataRef.ofSpec (shopPod ["x", "y"] []) ∧
      before.carried? ⟨.secret, "x"⟩ ≠ after.carried? ⟨.secret, "x"⟩ ∧
      before.hashed (.ofSpec (shopPod ["x", "y"] [])) =
        after.hashed (.ofSpec (shopPod ["x", "y"] []))) := by
  refine ⟨⟨?_, ?_, by decide, by decide +kernel, by decide +kernel⟩,
    ⟨?_, ?_, by decide, by decide +kernel, by decide +kernel⟩⟩
  all_goals
    exact ⟨fun kind => by cases kind <;> decide, fun kind => by cases kind <;> decide +kernel⟩

end Shop

end Content

end ComposeCluster

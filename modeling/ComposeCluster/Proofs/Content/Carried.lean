import ComposeCluster.Proofs.Content.Objects
import ComposeCluster.Proofs.Content.Reference

/-!
# Digests that objects carry

Each generated object carries the digest of its data, in all of which there are as many characters
(`Objects.valid_digests`). So of two states in which there are the same objects the hash of a pod
tells whether they carry the same digests, as far as the pod refers to them
(`Digests.hashed_eq_iff_of_kept`), provided that no secret is called like a config map
(`Digests.get?_byName_eq_iff`).
-/

set_option autoImplicit false

namespace ComposeCluster

/-! ## Digests of generated objects -/

/-- An annotation that was set is found. -/
theorem Meta.annotation?_annotate (data : Meta) (key value : String) :
    (data.annotate key value).annotation? key = some value := by
  simp [annotate, annotation?]

/-- An annotation under another key does not change what is found. -/
theorem Meta.annotation?_annotate_of_ne {key other : String} (hne : key ≠ other) (data : Meta)
    (value : String) : (data.annotate other value).annotation? key = data.annotation? key := by
  simp [annotate, annotation?, hne]

namespace Content

/-- A digest has the length of digests. -/
theorem length_digest (entries : List (String × Bytes)) :
    (digest entries).length = digestLength := by
  have hclamp : ShortHash.clampLength digestLength = digestLength := by decide
  rw [digest, length_shortHashOf, hclamp]

/-- The kind of the objects for definitions of a kind. -/
def dataKind : SourceKind → DataKind
  | .config => .configMap
  | .secret => .secret

namespace Objects

/-- The names of all objects of a kind. -/
def names (objects : Objects) : DataKind → List String
  | .secret => objects.secrets.map (·.metadata.name)
  | .configMap => objects.configMaps.map (·.metadata.name)

/-- The digests that the objects carry. -/
def digests (objects : Objects) : Digests := .ofObjects objects.secrets objects.configMaps

variable {scope : Scope} {normal : Compose.Normal} {credentials? : Option String}
  {objects : Objects}

/-- The secrets are those for images, those of the document and those with environments, in this
order. -/
theorem names_secret (h : ofNormal scope normal credentials? = .ok objects) :
    objects.names .secret =
      credentials?.toList.map (fun _ => scope.component.pullSecret) ++
        (normal.stored .secret).map (fun entry => scope.component.configSecret entry.1) ++
        (normal.envData.map (·.service)).map scope.component.envSecret := by
  obtain ⟨hpull, -, hconfigSecrets, henvSecrets⟩ := of_ofNormal h
  rw [names, secrets, hpull, hconfigSecrets, henvSecrets]
  simp only [List.map_append, List.map_map, Option.toList_map, Compose.Normal.stored]
  rfl

/-- The config maps are those of the document. -/
theorem names_configMap (h : ofNormal scope normal credentials? = .ok objects) :
    objects.names .configMap =
      (normal.stored .config).map fun entry => scope.component.configMap entry.1 := by
  rw [names, (of_ofNormal h).2.1]
  simp only [List.map_map, Compose.Normal.stored]
  rfl

/-- The object for stored content is among those of its kind. -/
theorem objectName_mem_names (h : ofNormal scope normal credentials? = .ok objects)
    {kind : SourceKind} {name key : String} (hstored : (name, key) ∈ normal.stored kind) :
    Compose.FileUse.objectName scope.component kind name ∈ objects.names (dataKind kind) := by
  cases kind with
  | config =>
    rw [dataKind, names_configMap h]
    exact List.mem_map.2 ⟨_, hstored, rfl⟩
  | secret =>
    rw [dataKind, names_secret h]
    exact List.mem_append_left _ (List.mem_append_right _ (List.mem_map.2 ⟨_, hstored, rfl⟩))

/-- Every secret carries a digest. -/
theorem contentHash?_of_mem_secrets (h : ofNormal scope normal credentials? = .ok objects)
    {object : Secret} (hmem : object ∈ objects.secrets) :
    ∃ entries, object.contentHash? = some (digest entries) := by
  have hfirst (name type : String) (entries : List (String × Bytes)) :
      (scope.secret name type entries).contentHash? = some (digest entries) :=
    Meta.annotation?_annotate _ _ _
  rcases mem_secrets h hmem with hpull | ⟨content, rfl⟩ | ⟨env, rfl⟩
  · rw [(of_ofNormal h).1, Option.mem_toList, Option.map_eq_some_iff] at hpull
    obtain ⟨credentials, -, rfl⟩ := hpull
    exact ⟨_, hfirst _ _ _⟩
  · exact ⟨_, hfirst _ _ _⟩
  · have hne : Key.contentHash ≠ Key.secretHash := by decide
    refine ⟨Scope.envEntries env, ?_⟩
    exact (Meta.annotation?_annotate_of_ne hne _ _).trans (hfirst _ _ _)

/-- Every config map carries a digest. -/
theorem contentHash?_of_mem_configMaps (h : ofNormal scope normal credentials? = .ok objects)
    {object : ConfigMap} (hmem : object ∈ objects.configMaps) :
    ∃ entries, object.contentHash? = some (digest entries) := by
  rw [(of_ofNormal h).2.1, List.mem_map] at hmem
  obtain ⟨config, -, rfl⟩ := hmem
  exact ⟨_, Meta.annotation?_annotate _ _ _⟩

/-- If each object has a digest, the entries have the names of all objects. -/
theorem map_fst_filterMap {α : Type} {objects : List α} {name : α → String}
    {digest? : α → Option String} (hdigest : ∀ object ∈ objects, (digest? object).isSome) :
    (objects.filterMap fun object => (digest? object).map (name object, ·)).map (·.1) =
      objects.map name := by
  induction objects with
  | nil => rfl
  | cons object rest ih =>
    have hrest := ih fun object hmem => hdigest object (List.mem_cons_of_mem _ hmem)
    obtain ⟨digest, hobject⟩ := Option.isSome_iff_exists.1 (hdigest object List.mem_cons_self)
    simp [hobject, hrest]

/-- Every object carries a digest. -/
theorem map_fst_entries (h : ofNormal scope normal credentials? = .ok objects) (kind : DataKind) :
    (objects.digests.entries kind).map (·.1) = objects.names kind := by
  cases kind with
  | secret =>
    apply map_fst_filterMap
    intro object hmem
    obtain ⟨entries, hdigest⟩ := contentHash?_of_mem_secrets h hmem
    rw [hdigest]
    rfl
  | configMap =>
    apply map_fst_filterMap
    intro object hmem
    obtain ⟨entries, hdigest⟩ := contentHash?_of_mem_configMaps h hmem
    rw [hdigest]
    rfl

/-- An object carries a digest exactly if it is among the objects. -/
theorem isSome_carried? (h : ofNormal scope normal credentials? = .ok objects) (ref : DataRef) :
    (objects.digests.carried? ref).isSome = true ↔ ref.name ∈ objects.names ref.kind := by
  rw [Digests.carried?, findEntry_isSome_iff, map_fst_entries h]

/-- What an object with a name of its own carries is what is found for it. -/
theorem carried?_of_mem_secrets (h : ofNormal scope normal credentials? = .ok objects)
    (hvalid : objects.digests.Valid) {object : Secret} (hmem : object ∈ objects.secrets) :
    objects.digests.carried? ⟨.secret, object.metadata.name⟩ = object.contentHash? := by
  obtain ⟨entries, hdigest⟩ := contentHash?_of_mem_secrets h hmem
  rw [hdigest]
  apply (findEntry_eq_some (hvalid.distinct .secret)).2
  apply List.mem_filterMap.2
  refine ⟨object, hmem, ?_⟩
  unfold secretEntry?
  rw [hdigest]
  rfl

/-- Digests of objects with different names are valid. -/
theorem valid_digests (h : ofNormal scope normal credentials? = .ok objects)
    (hnames : ∀ kind, (objects.names kind).Nodup) : objects.digests.Valid := by
  apply Digests.valid_ofObjects
  · exact List.pairwise_map.1 (hnames .secret)
  · exact List.pairwise_map.1 (hnames .configMap)
  · intro found hmem
    rcases List.mem_append.1 hmem with hmem | hmem
    · obtain ⟨object, hobject, hfound⟩ := List.mem_filterMap.1 hmem
      obtain ⟨entries, hdigest⟩ := contentHash?_of_mem_secrets h hobject
      obtain rfl := Option.some_inj.1 (hdigest.symm.trans hfound)
      exact length_digest entries
    · obtain ⟨object, hobject, hfound⟩ := List.mem_filterMap.1 hmem
      obtain ⟨entries, hdigest⟩ := contentHash?_of_mem_configMaps h hobject
      obtain rfl := Option.some_inj.1 (hdigest.symm.trans hfound)
      exact length_digest entries

end Objects

/-! ## Two states of the objects -/

namespace Digests

variable {before after : Digests}

/-- Where the same names have digests, the bytes are the same exactly if the digests are. -/
theorem hashed_eq_iff_of_kept (hbefore : before.Valid) (hafter : after.Valid) {refs : Refs}
    (hkept : ∀ ref, (before.carried? ref).isSome = (after.carried? ref).isSome) :
    before.hashed refs = after.hashed refs ↔
      ∀ name ∈ refs.names, before.byName.get? name = after.byName.get? name := by
  -- No digest disappears, so equal sequences of digests are equal place by place.
  have hfound : before.KeptIn after refs := by
    intro name _ hsome
    rw [get?_byName hbefore, Option.isSome_or, hkept, hkept, ← Option.isSome_or] at hsome
    rwa [get?_byName hafter]
  rw [hashed_eq_iff hbefore hafter]
  constructor
  · intro h
    exact find_eq_of_filterMap_eq hfound h
  · intro h
    exact List.filterMap_congr h

/-- What carries no digest before carries none after, if as much is kept. -/
theorem carried?_eq_none_of_kept {ref : DataRef}
    (hkept : (before.carried? ref).isSome = (after.carried? ref).isSome)
    (hnone : before.carried? ref = none) : after.carried? ref = none := by
  rw [hnone] at hkept
  exact Option.isNone_iff_eq_none.1 (by simpa using hkept.symm)

/-- Where objects of different kinds have different names, what is found under a name tells what
is carried. -/
theorem get?_byName_eq_iff (hbefore : before.Valid) (hafter : after.Valid) {name : String}
    (hkept : ∀ ref, (before.carried? ref).isSome = (after.carried? ref).isSome)
    (hone : before.carried? ⟨.configMap, name⟩ = none ∨ before.carried? ⟨.secret, name⟩ = none) :
    before.byName.get? name = after.byName.get? name ↔
      ∀ kind, before.carried? ⟨kind, name⟩ = after.carried? ⟨kind, name⟩ := by
  rw [get?_byName hbefore, get?_byName hafter]
  constructor
  · intro h kind
    rcases hone with hnone | hnone
    · have hnone' := carried?_eq_none_of_kept (hkept _) hnone
      rw [hnone, hnone', Option.none_or, Option.none_or] at h
      cases kind with
      | secret => exact h
      | configMap => rw [hnone, hnone']
    · have hnone' := carried?_eq_none_of_kept (hkept _) hnone
      rw [hnone, hnone', Option.or_none, Option.or_none] at h
      cases kind with
      | secret => rw [hnone, hnone']
      | configMap => exact h
  · intro h
    rw [h .configMap, h .secret]

end Digests

end Content

end ComposeCluster

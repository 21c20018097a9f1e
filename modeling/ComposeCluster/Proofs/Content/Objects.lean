import ComposeCluster.Content.Objects
import ComposeCluster.Proofs.Compose.Normal
import ComposeCluster.Proofs.Naming.Component

/-!
# Content objects and the project they come from

Which objects a normal form gives, what their names and their keys are, and which volumes of the pod
show them. `Objects.holds_iff_mem_stored` traces the keys of an object back to its definition, and
`Objects.mem_volumes` traces a volume back to the definition that it shows.
-/

set_option autoImplicit false

namespace ComposeCluster

namespace Content

namespace Objects

/-! ## Names -/

variable {scope : Scope} {normal : Compose.Normal} {credentials? : Option String}
  {objects : Objects}

/-- The objects are made of the credentials and of the content in the normal form, one each. -/
theorem of_ofNormal (h : ofNormal scope normal credentials? = .ok objects) :
    objects.pullSecret? = credentials?.map scope.pullSecret ∧
      objects.configMaps = normal.configs.map scope.configMap ∧
      objects.configSecrets = normal.secrets.map scope.configSecret ∧
      objects.envSecrets = normal.envData.map scope.envSecret := by
  obtain ⟨-, -, h⟩ := Except.bind_eq_ok.1 h
  cases h
  exact ⟨rfl, rfl, rfl, rfl⟩

/-- A secret is that for images, one of the document, or one with an environment. -/
theorem mem_secrets (h : ofNormal scope normal credentials? = .ok objects) {object : Secret}
    (hmem : object ∈ objects.secrets) :
    object ∈ objects.pullSecret?.toList ∨ (∃ content, object = scope.configSecret content) ∨
      ∃ env, object = scope.envSecret env := by
  obtain ⟨-, -, hconfig, henv⟩ := of_ofNormal h
  rw [secrets, List.mem_append, List.mem_append, hconfig, henv, List.mem_map, List.mem_map,
    or_assoc] at hmem
  rcases hmem with hpull | ⟨content, -, rfl⟩ | ⟨env, -, rfl⟩
  · exact .inl hpull
  · exact .inr (.inl ⟨content, rfl⟩)
  · exact .inr (.inr ⟨env, rfl⟩)

/-- The secret for images has the name that pods ask for. -/
theorem name_of_mem_pullSecret? (h : ofNormal scope normal credentials? = .ok objects)
    {object : Secret} (hmem : object ∈ objects.pullSecret?.toList) :
    object.metadata.name = scope.component.pullSecret := by
  rw [(of_ofNormal h).1, Option.mem_toList, Option.map_eq_some_iff] at hmem
  obtain ⟨credentials, -, rfl⟩ := hmem
  rfl

/-- Every secret has a name. -/
theorem secrets_have_names (h : ofNormal scope normal credentials? = .ok objects) :
    ∀ object ∈ objects.secrets, object.metadata.name ≠ "" := by
  intro object hmem
  rcases mem_secrets h hmem with hpull | ⟨content, rfl⟩ | ⟨env, rfl⟩
  · rw [name_of_mem_pullSecret? h hpull]
    simp [Component.pullSecret]
  · show scope.component.configSecret content.name ≠ ""
    simp [Component.configSecret]
  · show scope.component.envSecret env.service ≠ ""
    simp [Component.envSecret]

/-- Every config map has a name. -/
theorem configMaps_have_names (h : ofNormal scope normal credentials? = .ok objects) :
    ∀ object ∈ objects.configMaps, object.metadata.name ≠ "" := by
  intro object hmem
  rw [(of_ofNormal h).2.1, List.mem_map] at hmem
  obtain ⟨config, -, rfl⟩ := hmem
  show scope.component.configMap config.name ≠ ""
  simp [Component.configMap]

/-- The secret of the credentials is the only one with its name. -/
theorem any_isPullSecret (h : ofNormal scope normal credentials? = .ok objects) :
    (objects.secrets.any fun object => object.metadata.name == scope.component.pullSecret) =
      objects.pullSecret?.isSome := by
  rw [Bool.eq_iff_iff, List.any_eq_true]
  constructor
  · rintro ⟨object, hmem, hname⟩
    have hname := beq_iff_eq.1 hname
    rcases mem_secrets h hmem with hpull | ⟨content, rfl⟩ | ⟨env, rfl⟩
    · exact Option.isSome_of_mem (Option.mem_toList.1 hpull)
    · exact absurd hname (scope.component.configSecret_ne_pullSecret content.name)
    · exact absurd hname (scope.component.envSecret_ne_pullSecret env.service)
  · intro hsome
    obtain ⟨object, hobject⟩ := Option.isSome_iff_exists.1 hsome
    have hmem : object ∈ objects.pullSecret?.toList := Option.mem_toList.2 hobject
    refine ⟨object, ?_, beq_iff_eq.2 (name_of_mem_pullSecret? h hmem)⟩
    exact List.mem_append_left _ (List.mem_append_left _ hmem)

/-- The volumes are those of the mounted files. -/
theorem volumes_of_ofNormal (h : ofNormal scope normal credentials? = .ok objects) :
    objects.volumes = volumesOfFiles normal.configMounts normal.secretMounts := by
  obtain ⟨-, -, h⟩ := Except.bind_eq_ok.1 h
  cases h
  rfl

/-! ## Keys -/

/-- Whether the object of a kind with a name, generated for a definition, holds a key. -/
def Holds (objects : Objects) (kind : SourceKind) (name key : String) : Prop :=
  match kind with
  | .config => ∃ object ∈ objects.configMaps,
      object.metadata.name = name ∧ object.data.contains key = true
  | .secret => ∃ object ∈ objects.configSecrets,
      object.metadata.name = name ∧ object.data.contains key = true

/-- A config map holds its one key. -/
theorem contains_configMap (scope : Scope) (config : Compose.ConfigText) (key : String) :
    (scope.configMap config).data.contains key = true ↔ key = config.key := by
  show ((SortedMap.singleton config.key config.text).get? key).isSome = true ↔ _
  rw [SortedMap.get?_singleton]
  split <;> simp [*]

/-- A secret of the document holds its one key. -/
theorem contains_configSecret (scope : Scope) (content : Compose.SecretContent) (key : String) :
    (scope.configSecret content).data.contains key = true ↔ key = content.key := by
  show ((SortedMap.ofList [(content.key, Base64.encode content.bytes)]).get? key).isSome = true ↔ _
  rw [SortedMap.get?_ofList, List.reverse_singleton, findEntry_isSome_iff, List.map_singleton,
    List.mem_singleton]

/-- An object holds the one key under which the content of its definition is stored. -/
theorem holds_iff_mem_stored (h : ofNormal scope normal credentials? = .ok objects)
    {kind : SourceKind} {name key : String} :
    objects.Holds kind (Compose.FileUse.objectName scope.component kind name) key ↔
      (name, key) ∈ normal.stored kind := by
  obtain ⟨-, hconfigMaps, hconfigSecrets, -⟩ := of_ofNormal h
  cases kind with
  | config =>
    have hname (config : Compose.ConfigText) :
        (scope.configMap config).metadata.name = scope.component.configMap name ↔
          config.name = name := scope.component.configMap_inj
    simp only [Holds, Compose.FileUse.objectName, Compose.Normal.stored, hconfigMaps, List.mem_map,
      exists_exists_and_eq_and, hname, contains_configMap, Prod.mk.injEq, eq_comm (a := key)]
  | secret =>
    have hname (content : Compose.SecretContent) :
        (scope.configSecret content).metadata.name = scope.component.configSecret name ↔
          content.name = name := scope.component.configSecret_inj
    simp only [Holds, Compose.FileUse.objectName, Compose.Normal.stored, hconfigSecrets,
      List.mem_map, exists_exists_and_eq_and, hname, contains_configSecret, Prod.mk.injEq,
      eq_comm (a := key)]

/-! ## Volumes -/

/-- The volume of the pod that shows a mounted file. -/
def fileVolume (kind : SourceKind) (name : String) (file : Compose.MountedFile) : Volume :=
  match kind with
  | .config => .ofConfigMap (Component.configVolume name) file.object (projectedFile file)
  | .secret => .ofSecret (Component.secretVolume name) file.object (projectedFile file)

/-- The volume of a mounted file has the name that containers mount. -/
theorem name_fileVolume (kind : SourceKind) (name : String) (file : Compose.MountedFile) :
    (fileVolume kind name file).name = Compose.FileUse.volumeName kind name := by
  cases kind <;> rfl

/-- The volumes show the mounted files, each one. -/
theorem mem_volumes (h : ofNormal scope normal credentials? = .ok objects) {volume : Volume} :
    volume ∈ objects.volumes ↔ ∃ kind name file,
      (normal.shared.mounts kind).get? name = some file ∧ volume = fileVolume kind name file := by
  rw [volumes_of_ofNormal h, volumesOfFiles, List.mem_append, List.mem_map, List.mem_map]
  constructor
  · rintro (⟨⟨name, file⟩, hmem, rfl⟩ | ⟨⟨name, file⟩, hmem, rfl⟩)
    · exact ⟨.config, name, file, SortedMap.get?_eq_some.2 hmem, rfl⟩
    · exact ⟨.secret, name, file, SortedMap.get?_eq_some.2 hmem, rfl⟩
  · rintro ⟨kind, name, file, hget, rfl⟩
    cases kind with
    | config => exact .inl ⟨(name, file), SortedMap.get?_eq_some.1 hget, rfl⟩
    | secret => exact .inr ⟨(name, file), SortedMap.get?_eq_some.1 hget, rfl⟩

end Objects

end Content

end ComposeCluster

import ComposeCluster.Compose.Normal
import ComposeCluster.Proofs.Compose.VolumeRef
import ComposeCluster.SortedMap.Lemmas

/-!
# What a normal form says about its project

The definitions of a project are looked at twice: once to read what they hold (`Stores`), and once
for each service that refers to them (`FileUse.Fits`). `Normal.IsOf` says how the results of both,
and the containers, are related to the project; `Normal.isOf_ofProject` says that they always are.
What `containerOf` makes of one service is said once (`makesContainer`). The services go through it
one after the other, so what one more of them preserves holds of all (`containersOf_induction`); the
part about what they share is such an invariant (`Shared.Reflects.containerOf`).
-/

set_option autoImplicit false

namespace ComposeCluster

/-- A definition has no content of its own exactly when its object already exists. -/
theorem Definition.isNone_of_resolve {definition : Definition} {tree : SourceTree} {name : String}
    {kind : SourceKind} {content? : Option Content}
    (h : definition.resolve tree name kind = .ok content?) :
    content?.isNone = definition.isExisting := by
  unfold resolve at h
  split at h
  · rename_i hexisting
    cases h
    exact hexisting.symm
  · rename_i hexisting
    rw [Bool.not_eq_true] at hexisting
    rw [hexisting]
    split at h
    · obtain ⟨bytes, -, rfl⟩ := Except.map_eq_ok.1 h
      rfl
    · split at h
      · cases h
      · cases h
        rfl
    · cases h

namespace Compose

/-! ## Projects -/

namespace Project

variable {project : Project} {kind : SourceKind} {name : String} {definition : Definition}

/-- A definition of the project for which an object is generated. -/
def Generates (project : Project) (kind : SourceKind) (name : String) (definition : Definition) :
    Prop :=
  (project.definitions kind).get? name = some definition ∧ definition.isExisting = false

/-- A definition of that kind to which a service refers. -/
def Mounts (project : Project) (service : Service) (kind : SourceKind) (name : String)
    (definition : Definition) : Prop :=
  (∃ ref ∈ service.files kind, ref.source = name) ∧ project.Generates kind name definition

/-- The definitions of a kind for which objects are generated, by ascending name. -/
def generated (project : Project) (kind : SourceKind) : List (String × Definition) :=
  (project.definitions kind).entries.filter fun entry => !entry.2.isExisting

/-- The generated definitions are those for which an object is generated. -/
theorem mem_generated : (name, definition) ∈ project.generated kind ↔
    project.Generates kind name definition := by
  rw [generated, List.mem_filter, Generates, SortedMap.get?_eq_some, Bool.not_eq_true']

/-- No two definitions of one kind have the same name. -/
theorem Generates.unique {other : Definition} (h : project.Generates kind name definition)
    (hother : project.Generates kind name other) : definition = other :=
  Option.some_inj.1 (h.1.symm.trans hother.1)

end Project

/-! ## What is read -/

/-- Each service that has environment files gets what they are merged to. -/
theorem merged_readEnvironments {tree : SourceTree} {services : List Service}
    {data : List EnvData} {warnings : List String}
    (h : readEnvironments tree services = .ok (data, warnings)) :
    List.Forall₂ (fun service env => ∃ merged,
        mergeEnv tree service.name service.envFiles = .ok merged ∧
          env = ⟨service.name, merged.data⟩)
      (services.filter fun service => !service.envFiles.isEmpty) data := by
  induction services generalizing data warnings with
  | nil =>
    cases h
    exact .nil
  | cons service rest ih =>
    rw [readEnvironments] at h
    split at h
    · rename_i hempty
      rw [List.filter_cons_of_neg (by simp [hempty])]
      exact ih h
    · rename_i hsome
      obtain ⟨merged, hmerged, h⟩ := Except.bind_eq_ok.1 h
      obtain ⟨⟨later, laterWarnings⟩, hlater, h⟩ := Except.bind_eq_ok.1 h
      cases h
      rw [List.filter_cons_of_pos (by simp [hsome])]
      exact .cons ⟨merged, hmerged, rfl⟩ (ih hlater)

/-- The names of the services that have environment files stay, in their order. -/
theorem map_service_readEnvironments {tree : SourceTree} {services : List Service}
    {data : List EnvData} {warnings : List String}
    (h : readEnvironments tree services = .ok (data, warnings)) :
    data.map (·.service) =
      (services.filter fun service => !service.envFiles.isEmpty).map (·.name) :=
  (map_eq_of_forall₂ (merged_readEnvironments h) fun _ _ ⟨_, _, henv⟩ => by rw [henv]).symm

/-- A definition with content of its own, and the name and the key under which it is stored. -/
def Stores (tree : SourceTree) (kind : SourceKind) (entry : String × Definition)
    (stored : String × String) : Prop :=
  ∃ content, entry.2.resolve tree entry.1 kind = .ok (some content) ∧
    stored = (entry.1, content.key)

/-- Content that was read for a definition is what the definition resolves to. -/
theorem resolve_of_readDefinition {tree : SourceTree} {kind : SourceKind} {name : String}
    {definition : Definition} {content? : Option Content}
    (h : readDefinition tree kind name definition = .ok content?) :
    definition.resolve tree name kind = .ok content? := by
  obtain ⟨-, -, h⟩ := Except.bind_eq_ok.1 h
  exact Except.mapError_eq_ok.1 h

section Entries

variable {tree : SourceTree} {entry : String × Definition} {entries : List (String × Definition)}

/-- A config is skipped if its object already exists; else its content is a text. -/
theorem readConfigs_cons_eq_ok {configs : List ConfigText} :
    readConfigs tree (entry :: entries) = .ok configs ↔
      (readDefinition tree .config entry.1 entry.2 = .ok none ∧
        readConfigs tree entries = .ok configs) ∨
      ∃ content text later, readDefinition tree .config entry.1 entry.2 = .ok (some content) ∧
        Text.ofUtf8? content.bytes = some text ∧ readConfigs tree entries = .ok later ∧
        configs = ⟨entry.1, content.key, text⟩ :: later := by
  obtain ⟨name, definition⟩ := entry
  rw [readConfigs, Except.bind_eq_ok]
  constructor
  · rintro ⟨content?, hread, h⟩
    cases content? with
    | none => exact .inl ⟨hread, h⟩
    | some content =>
      dsimp only at h
      split at h
      · cases h
      · rename_i text htext
        obtain ⟨later, hlater, h⟩ := Except.bind_eq_ok.1 h
        cases h
        exact .inr ⟨content, text, later, hread, htext, hlater, rfl⟩
  · rintro (⟨hread, h⟩ | ⟨content, text, later, hread, htext, hlater, rfl⟩)
    · exact ⟨none, hread, h⟩
    · refine ⟨some content, hread, ?_⟩
      simp only [htext, hlater]
      rfl

/-- A secret is skipped if its object already exists. -/
theorem readSecrets_cons_eq_ok {secrets : List SecretContent} :
    readSecrets tree (entry :: entries) = .ok secrets ↔
      (readDefinition tree .secret entry.1 entry.2 = .ok none ∧
        readSecrets tree entries = .ok secrets) ∨
      ∃ content later, readDefinition tree .secret entry.1 entry.2 = .ok (some content) ∧
        readSecrets tree entries = .ok later ∧
        secrets = ⟨entry.1, content.key, content.bytes⟩ :: later := by
  obtain ⟨name, definition⟩ := entry
  rw [readSecrets, Except.bind_eq_ok]
  constructor
  · rintro ⟨content?, hread, h⟩
    cases content? with
    | none => exact .inl ⟨hread, h⟩
    | some content =>
      obtain ⟨later, hlater, h⟩ := Except.bind_eq_ok.1 h
      cases h
      exact .inr ⟨content, later, hread, hlater, rfl⟩
  · rintro (⟨hread, h⟩ | ⟨content, later, hread, hlater, rfl⟩)
    · exact ⟨none, hread, h⟩
    · exact ⟨some content, hread, Except.bind_eq_ok.2 ⟨later, hlater, rfl⟩⟩

/-- One more definition is stored in front of the others, unless its object already exists. -/
theorem stores_cons {kind : SourceKind} {content? : Option Content}
    {stored : List (String × String)}
    (hread : readDefinition tree kind entry.1 entry.2 = .ok content?)
    (hrest : List.Forall₂ (Stores tree kind) (entries.filter fun entry => !entry.2.isExisting)
      stored) :
    List.Forall₂ (Stores tree kind)
      ((entry :: entries).filter fun entry => !entry.2.isExisting)
      ((content?.map fun content => (entry.1, content.key)).toList ++ stored) := by
  have hresolve := resolve_of_readDefinition hread
  have hexisting := Definition.isNone_of_resolve hresolve
  cases content? with
  | none =>
    rw [List.filter_cons_of_neg (by simp [← hexisting])]
    exact hrest
  | some content =>
    rw [List.filter_cons_of_pos (by simp [← hexisting])]
    exact .cons ⟨content, hresolve, rfl⟩ hrest

/-- Each config with content of its own is read, in the order of the definitions. -/
theorem stores_readConfigs {configs : List ConfigText}
    (h : readConfigs tree entries = .ok configs) :
    List.Forall₂ (Stores tree .config) (entries.filter fun entry => !entry.2.isExisting)
      (configs.map fun config => (config.name, config.key)) := by
  induction entries generalizing configs with
  | nil =>
    cases h
    exact .nil
  | cons entry rest ih =>
    rcases readConfigs_cons_eq_ok.1 h with
      ⟨hread, hrest⟩ | ⟨content, text, later, hread, -, hrest, rfl⟩
    · exact stores_cons hread (ih hrest)
    · exact stores_cons hread (ih hrest)

/-- Each secret with content of its own is read, in the order of the definitions. -/
theorem stores_readSecrets {secrets : List SecretContent}
    (h : readSecrets tree entries = .ok secrets) :
    List.Forall₂ (Stores tree .secret) (entries.filter fun entry => !entry.2.isExisting)
      (secrets.map fun secret => (secret.name, secret.key)) := by
  induction entries generalizing secrets with
  | nil =>
    cases h
    exact .nil
  | cons entry rest ih =>
    rcases readSecrets_cons_eq_ok.1 h with ⟨hread, hrest⟩ | ⟨content, later, hread, hrest, rfl⟩
    · exact stores_cons hread (ih hrest)
    · exact stores_cons hread (ih hrest)

end Entries

/-! ## Uses of definitions -/

namespace FileUse

variable {component : Component} {project : Project} {service : Service} {kind : SourceKind}
  {uses : List FileUse}

/-- A use that a service makes of a definition: it mounts one entry of the generated object, under
the key that the definition gives it. -/
def Fits (component : Component) (project : Project) (service : Service) (use : FileUse) : Prop :=
  ∃ definition path, project.Mounts service use.kind use.name definition ∧
    use.file.object = objectName component use.kind use.name ∧
    use.file.key = definition.key use.name ∧
    use.mount = .file (volumeName use.kind use.name) path (definition.key use.name)

/-- A reference is a use unless the object already exists. -/
theorem of_ofRef {ref : FileRef} {use? : Option FileUse} (hmem : ref ∈ service.files kind)
    (h : ofRef component project service.name kind ref = .ok use?) :
    ∃ definition, (project.definitions kind).get? ref.source = some definition ∧
      (definition.isExisting = false → use?.isSome) ∧
      ∀ use, use? = some use →
        use.kind = kind ∧ use.name = ref.source ∧ use.Fits component project service := by
  unfold ofRef at h
  split at h
  · cases h
  · rename_i definition hdefinition
    refine ⟨definition, hdefinition, ?_⟩
    split at h
    · rename_i hexisting
      cases h
      exact ⟨fun hnot => absurd (hexisting.symm.trans hnot) nofun, nofun⟩
    · rename_i hexisting
      rw [Bool.not_eq_true] at hexisting
      cases h
      refine ⟨fun _ => rfl, fun use huse => ?_⟩
      cases huse
      exact ⟨rfl, rfl, definition, _, ⟨⟨ref, hmem, rfl⟩, hdefinition, hexisting⟩, rfl, rfl, rfl⟩

/-- Uses that were made of references fit the definitions of the project. -/
theorem fits_of_mem_ofRefs (h : ofRefs component project service kind = .ok uses) {use : FileUse}
    (hmem : use ∈ uses) : use.Fits component project service := by
  obtain ⟨uses?, hall, rfl⟩ := Except.map_eq_ok.1 h
  obtain ⟨use?, huse?, huse⟩ := List.mem_filterMap.1 hmem
  obtain ⟨ref, href, hof⟩ := exists_left_of_forall₂ (Except.mapM_eq_ok.1 hall) huse?
  obtain ⟨-, -, -, hfits⟩ := of_ofRef href hof
  exact (hfits use huse).2.2

/-- A reference to a definition with an object makes a use of it. -/
theorem exists_mem_ofRefs (h : ofRefs component project service kind = .ok uses) {name : String}
    {definition : Definition} (hmounts : project.Mounts service kind name definition) :
    ∃ use ∈ uses, use.kind = kind ∧ use.name = name := by
  obtain ⟨⟨ref, href, rfl⟩, hgenerates⟩ := hmounts
  obtain ⟨uses?, hall, rfl⟩ := Except.map_eq_ok.1 h
  obtain ⟨use?, huse?, hof⟩ := exists_right_of_forall₂ (Except.mapM_eq_ok.1 hall) href
  obtain ⟨found, hfound, hsome, hfits⟩ := of_ofRef href hof
  obtain rfl := Option.some_inj.1 (hfound.symm.trans hgenerates.1)
  obtain ⟨use, rfl⟩ := Option.isSome_iff_exists.1 (hsome hgenerates.2)
  obtain ⟨hkind, hname, -⟩ := hfits use rfl
  exact ⟨use, List.mem_filterMap.2 ⟨some use, huse?, rfl⟩, hkind, hname⟩

end FileUse

/-! ## What services share -/

namespace Shared

def mounts (shared : Shared) : SourceKind → SortedMap String MountedFile
  | .config => shared.configMounts
  | .secret => shared.secretMounts

def addUses (shared : Shared) (uses : List FileUse) : Shared :=
  uses.foldl (fun shared use => shared.addFile use.kind use.name use.file) shared

/-- A file that was there keeps its place when another one is added under its name. -/
theorem get?_mounts_addFile (shared : Shared) (kind asked : SourceKind) (name key : String)
    (file : MountedFile) :
    ((shared.addFile kind name file).mounts asked).get? key =
      ((shared.mounts asked).get? key).or
        (if asked = kind ∧ key = name then some file else none) := by
  have hadd (mounts : SortedMap String MountedFile) :
      (if mounts.contains name then mounts else mounts.insert name file).get? key =
        (mounts.get? key).or (if key = name then some file else none) := by
    by_cases hkey : key = name
    · subst hkey
      cases hget : mounts.get? key <;> simp [SortedMap.contains, hget]
    · cases hcontains : mounts.contains name <;> simp [hkey]
  cases kind <;> cases asked <;> simp [addFile, mounts, hadd]

/-- The first note about a definition stays. -/
theorem get?_mounts_addUses (shared : Shared) (uses : List FileUse) (kind : SourceKind)
    (name : String) :
    ((shared.addUses uses).mounts kind).get? name =
      ((shared.mounts kind).get? name).or
        ((uses.find? fun use => use.kind = kind ∧ use.name = name).map (·.file)) := by
  induction uses generalizing shared with
  | nil => simp [addUses]
  | cons use rest ih =>
    refine (ih (shared.addFile use.kind use.name use.file)).trans ?_
    rw [get?_mounts_addFile, Option.or_assoc, List.find?_cons]
    by_cases huse : use.kind = kind ∧ use.name = name
    · rw [if_pos ⟨huse.1.symm, huse.2.symm⟩, decide_eq_true huse]
      rfl
    · rw [if_neg fun h => huse ⟨h.1.symm, h.2.symm⟩, decide_eq_false huse, Option.none_or]

/-- Uses of files leave alone what a note about one file leaves alone. -/
theorem apply_addUses {γ : Type} (part : Shared → γ)
    (hkeeps : ∀ shared kind name file, part (addFile shared kind name file) = part shared)
    (shared : Shared) (uses : List FileUse) : part (shared.addUses uses) = part shared := by
  induction uses generalizing shared with
  | nil => rfl
  | cons use rest ih =>
    exact (ih (shared.addFile use.kind use.name use.file)).trans (hkeeps _ _ _ _)

/-- Uses of definitions leave the directories as they are. -/
theorem subPaths_addUses (shared : Shared) (uses : List FileUse) :
    (shared.addUses uses).subPaths = shared.subPaths :=
  apply_addUses Shared.subPaths (fun _ kind _ _ => by cases kind <;> rfl) shared uses

/-- Uses of definitions leave the warnings as they are. -/
theorem warnings_addUses (shared : Shared) (uses : List FileUse) :
    (shared.addUses uses).warnings = shared.warnings :=
  apply_addUses Shared.warnings (fun _ kind _ _ => by cases kind <;> rfl) shared uses

end Shared

/-- Directories are planned in volumes that had some before or that are mounted. -/
theorem DirectoryPlan.mem_keys_foldl_add {plan : DirectoryPlan} {mounts : List Mount}
    {volume : String} (h : volume ∈ (mounts.foldl DirectoryPlan.add plan).keys) :
    volume ∈ plan.keys ∨ ∃ mount ∈ mounts, mount.volume = volume := by
  induction mounts generalizing plan with
  | nil => exact .inl h
  | cons mount rest ih =>
    rcases ih h with hadd | ⟨later, hmem, hvolume⟩
    · unfold add at hadd
      split at hadd
      · exact .inl hadd
      · by_cases hvolume : volume = mount.volume
        · exact .inr ⟨mount, List.mem_cons_self, hvolume.symm⟩
        · rw [SortedMap.mem_keys, SortedMap.contains, SortedMap.get?_insert, if_neg hvolume,
            ← SortedMap.contains, ← SortedMap.mem_keys] at hadd
          exact .inl hadd
    · exact .inr ⟨later, List.mem_cons_of_mem _ hmem, hvolume⟩

/-! ## Services one after the other -/

/-- The container of a service and what the services share after it, by all that the two are put
together from. -/
inductive MakesContainer (context : Context) (project : Project) (service : Service)
    (shared : Shared) : Container → Shared → Prop where
  | of {ports : List Port} {table : PublishedPorts} {mounts : List Mount}
      {configs secrets : List FileUse} {check : TargetFindings}
      (hports : publishAll service.name shared.ports [] service.ports = .ok (ports, table))
      (hmounts : service.volumes.mapM (fun spec =>
        Mount.resolve service.name spec context.volumes context.tree) = .ok mounts)
      (hconfigs : FileUse.ofRefs context.component project service .config = .ok configs)
      (hsecrets : FileUse.ofRefs context.component project service .secret = .ok secrets)
      (hcheck : checkTargets service.name (mountedTargets service mounts (configs ++ secrets)) =
        .ok check) :
    MakesContainer context project service shared
      { bareContainer context.component service with
        ports
        mounts := (mounts.filter fun mount => !check.shadowed.contains mount.target).map
            (fun mount => .directory mount.volume mount.target mount.subPath?) ++
          (configs ++ secrets).map (·.mount) }
      { shared.addUses (configs ++ secrets) with
        ports := table
        subPaths := (mounts.filter fun mount => !check.shadowed.contains mount.target).foldl
          DirectoryPlan.add shared.subPaths
        warnings := shared.warnings ++ check.warnings }

section Services

variable {context : Context} {project : Project} {service : Service} {services : List Service}
  {shared after : Shared} {container : Container} {containers : List Container}

/-- A container that was made was made in one of the ways that there are. -/
theorem makesContainer (h : containerOf context project service shared = .ok (container, after)) :
    MakesContainer context project service shared container after := by
  obtain ⟨⟨ports, table⟩, hports, h⟩ := Except.bind_eq_ok.1 h
  obtain ⟨mounts, hmounts, h⟩ := Except.bind_eq_ok.1 h
  obtain ⟨configs, hconfigs, h⟩ := Except.bind_eq_ok.1 h
  obtain ⟨secrets, hsecrets, h⟩ := Except.bind_eq_ok.1 h
  obtain ⟨check, hcheck, h⟩ := Except.bind_eq_ok.1 h
  cases h
  have hmade : MakesContainer context project service shared _ _ :=
    .of hports hmounts hconfigs hsecrets hcheck
  rw [← shared.subPaths_addUses (configs ++ secrets),
    ← shared.warnings_addUses (configs ++ secrets)] at hmade
  exact hmade

/-- Containers of several services are made one after another, each from what the one before it
left. -/
theorem containersOf_cons
    (h : containersOf context project (service :: services) shared = .ok (containers, after)) :
    ∃ container next later, containerOf context project service shared = .ok (container, next) ∧
      containersOf context project services next = .ok (later, after) ∧
      containers = container :: later := by
  obtain ⟨⟨container, next⟩, hfirst, h⟩ := Except.bind_eq_ok.1 h
  obtain ⟨⟨later, last⟩, hrest, h⟩ := Except.bind_eq_ok.1 h
  cases h
  exact ⟨container, next, later, hfirst, hrest, rfl⟩

/-- What one more service preserves, with its container, holds of all services in the end. -/
theorem containersOf_induction {motive : List Service → List Container → Shared → Prop}
    (hstep : ∀ {done made service shared container after}, motive done made shared →
      containerOf context project service shared = .ok (container, after) →
      motive (done ++ [service]) (made ++ [container]) after)
    (hstart : motive [] [] shared)
    (h : containersOf context project services shared = .ok (containers, after)) :
    motive services containers after := by
  -- The services before `service` move from the list that is left to `done`.
  have hrun : ∀ done made, motive done made shared →
      motive (done ++ services) (made ++ containers) after := by
    clear hstart
    induction services generalizing shared containers with
    | nil =>
      cases h
      intro done made hdone
      rwa [List.append_nil, List.append_nil]
    | cons service rest ih =>
      obtain ⟨container, next, later, hfirst, hrest, rfl⟩ := containersOf_cons h
      intro done made hdone
      rw [List.append_cons done, List.append_cons made]
      exact ih hrest _ _ (hstep hdone hfirst)
  exact hrun [] [] hstart

end Services

/-! ## Containers -/

/-- What the container of a service takes from its surroundings: variables from secrets that need
not exist, directories of the volumes of the app, and entries of generated objects. -/
structure IsContainerOf (context : Context) (project : Project) (service : Service)
    (container : Container) : Prop where
  name_eq : container.name = service.name
  envFrom_eq : container.envFrom =
    [.optionalSecret (context.component.envSecret service.name),
     .optionalSecret (context.component.envOverrideSecret service.name)]
  mounts : ∀ mount ∈ container.mounts,
    (mount.volume ∈ context.volumes.map (·.name) ∧ mount.readOnly? = none) ∨
      ∃ kind name definition path, project.Mounts service kind name definition ∧
        mount = .file (FileUse.volumeName kind name) path (definition.key name)

section Services

variable {context : Context} {project : Project} {service : Service} {shared after : Shared}
  {container : Container}

/-- What a container takes from its surroundings, and what it leaves to the services after it. -/
theorem of_containerOf (h : containerOf context project service shared = .ok (container, after)) :
    IsContainerOf context project service container ∧
      ∃ (kept : List Mount) (uses : List FileUse),
        (∀ mount ∈ kept, mount.volume ∈ context.volumes.map (·.name)) ∧
        (∀ use ∈ uses, use.Fits context.component project service) ∧
        (∀ kind name definition, project.Mounts service kind name definition →
          ∃ use ∈ uses, use.kind = kind ∧ use.name = name) ∧
        (∀ kind, after.mounts kind = (shared.addUses uses).mounts kind) ∧
        after.subPaths = kept.foldl DirectoryPlan.add shared.subPaths := by
  obtain @⟨ports, table, mounts, configs, secrets, check, -, hmounts, hconfigs, hsecrets, -⟩ :=
    makesContainer h
  have hkept : ∀ mount ∈ mounts.filter fun mount => !check.shadowed.contains mount.target,
      mount.volume ∈ context.volumes.map (·.name) := fun mount hmem => by
    obtain ⟨spec, -, hresolve⟩ :=
      exists_left_of_forall₂ (Except.mapM_eq_ok.1 hmounts) (List.mem_of_mem_filter hmem)
    exact Mount.volume_mem_of_resolve hresolve
  have hfits : ∀ use ∈ configs ++ secrets, use.Fits context.component project service :=
    fun use hmem => (List.mem_append.1 hmem).elim (FileUse.fits_of_mem_ofRefs hconfigs)
      (FileUse.fits_of_mem_ofRefs hsecrets)
  have hall : ∀ kind name definition, project.Mounts service kind name definition →
      ∃ use ∈ configs ++ secrets, use.kind = kind ∧ use.name = name := by
    intro kind name definition hmounts
    cases kind with
    | config =>
      obtain ⟨use, hmem, huse⟩ := FileUse.exists_mem_ofRefs hconfigs hmounts
      exact ⟨use, List.mem_append_left _ hmem, huse⟩
    | secret =>
      obtain ⟨use, hmem, huse⟩ := FileUse.exists_mem_ofRefs hsecrets hmounts
      exact ⟨use, List.mem_append_right _ hmem, huse⟩
  refine ⟨⟨rfl, rfl, fun mount hmem => ?_⟩, _, _, hkept, hfits, hall, fun kind => ?_, rfl⟩
  · rcases List.mem_append.1 hmem with hdirectory | hfile
    · obtain ⟨part, hpart, rfl⟩ := List.mem_map.1 hdirectory
      exact .inl ⟨hkept part hpart, rfl⟩
    · obtain ⟨use, huse, rfl⟩ := List.mem_map.1 hfile
      obtain ⟨definition, path, hmounts, -, -, hmount⟩ := hfits use huse
      exact .inr ⟨use.kind, use.name, definition, path, hmounts, hmount⟩
  · cases kind <;> rfl

/-- What services share after some of them: of each definition that these mount, and of no other,
the object and the key; and directories of volumes of the app only. -/
structure Shared.Reflects (context : Context) (project : Project) (done : List Service)
    (shared : Shared) : Prop where
  shown : ∀ kind name file, (shared.mounts kind).get? name = some file →
    ∃ service ∈ done, ∃ definition, project.Mounts service kind name definition ∧
      file.object = FileUse.objectName context.component kind name ∧
      file.key = definition.key name
  complete : ∀ service ∈ done, ∀ kind name definition,
    project.Mounts service kind name definition → (shared.mounts kind).contains name = true
  prepared : ∀ volume ∈ shared.subPaths.keys, volume ∈ context.volumes.map (·.name)

namespace Shared.Reflects

variable {done services : List Service} {containers : List Container} {warnings : List String}

/-- At first nothing is shared, which reflects no services. -/
theorem start (context : Context) (project : Project) (warnings : List String) :
    (Shared.start warnings).Reflects context project [] where
  shown kind name file h := by cases kind <;> cases h
  complete service h := by cases h
  prepared volume h := by cases h

/-- After another container, what is shared reflects its service as well. -/
theorem containerOf (hshared : shared.Reflects context project done)
    (h : Compose.containerOf context project service shared = .ok (container, after)) :
    after.Reflects context project (done ++ [service]) := by
  obtain ⟨-, kept, uses, hkept, hfits, hall, hmounts, hsubPaths⟩ := of_containerOf h
  refine ⟨?shown, ?complete, ?prepared⟩
  case shown =>
    intro kind name file hget
    -- The service adds a note only where none was before, and then for its first use.
    rw [hmounts, Shared.get?_mounts_addUses, Option.or_eq_some_iff] at hget
    rcases hget with hearlier | ⟨-, hfirst⟩
    · obtain ⟨other, hmem, hshown⟩ := hshared.shown kind name file hearlier
      exact ⟨other, List.mem_append_left _ hmem, hshown⟩
    · obtain ⟨use, hfind, rfl⟩ := Option.map_eq_some_iff.1 hfirst
      have hfound := List.find?_some hfind
      obtain ⟨rfl, rfl⟩ := of_decide_eq_true hfound
      obtain ⟨definition, path, hmount, hobject, hkey, -⟩ :=
        hfits use (List.mem_of_find?_eq_some hfind)
      exact ⟨service, List.mem_append_right _ List.mem_cons_self, definition, hmount, hobject, hkey⟩
  case complete =>
    intro other hmem kind name definition hmount
    rw [hmounts, SortedMap.contains, Shared.get?_mounts_addUses, Option.isSome_or,
      Bool.or_eq_true]
    rcases List.mem_append.1 hmem with hearlier | hlast
    · exact .inl (hshared.complete other hearlier kind name definition hmount)
    · obtain rfl := List.mem_singleton.1 hlast
      obtain ⟨use, huse, hkind, hname⟩ := hall kind name definition hmount
      have hfind : (uses.find? fun use => use.kind = kind ∧ use.name = name).isSome :=
        List.find?_isSome.2 ⟨use, huse, decide_eq_true ⟨hkind, hname⟩⟩
      exact .inr (Option.isSome_map.trans hfind)
  case prepared =>
    intro volume hmem
    rw [hsubPaths] at hmem
    rcases DirectoryPlan.mem_keys_foldl_add hmem with hearlier | ⟨mount, hmount, rfl⟩
    · exact hshared.prepared volume hearlier
    · exact hkept mount hmount

/-- After all containers, what is shared reflects all services, and each container is of its
service. -/
theorem containersOf
    (h : Compose.containersOf context project services (.start warnings) =
      .ok (containers, after)) :
    after.Reflects context project services ∧
      List.Forall₂ (IsContainerOf context project) services containers := by
  refine containersOf_induction (motive := fun done made shared =>
    shared.Reflects context project done ∧ List.Forall₂ (IsContainerOf context project) done made)
    ?_ ⟨start context project warnings, .nil⟩ h
  rintro done made service shared container after ⟨hshared, hmade⟩ hcontainer
  exact ⟨hshared.containerOf hcontainer,
    List.rel_append hmade (.cons (of_containerOf hcontainer).1 .nil)⟩

end Shared.Reflects

end Services

/-! ## Normal forms -/

namespace Normal

/-- What the services share in the end. -/
def shared (normal : Normal) : Shared :=
  ⟨normal.ports, normal.subPaths, normal.configMounts, normal.secretMounts, normal.warnings⟩

/-- The names and keys under which content of a kind is stored. -/
def stored (normal : Normal) : SourceKind → List (String × String)
  | .config => normal.configs.map fun config => (config.name, config.key)
  | .secret => normal.secrets.map fun secret => (secret.name, secret.key)

/-- What the parts of a normal form say about the project. -/
structure IsOf (context : Context) (project : Project) (normal : Normal) : Prop where
  containers : List.Forall₂ (IsContainerOf context project) project.services normal.containers
  environments : normal.envData.map (·.service) =
    (project.services.filter fun service => !service.envFiles.isEmpty).map (·.name)
  stored : ∀ kind,
    List.Forall₂ (Stores context.tree kind) (project.generated kind) (normal.stored kind)
  shared : normal.shared.Reflects context project project.services

variable {context : Context} {project : Project} {normal : Normal}

/-- The parts of a normal form and what each is computed from. -/
theorem ofProject_eq_ok (h : ofProject context project = .ok normal) :
    ∃ warnings,
      readEnvironments context.tree project.services = .ok (normal.envData, warnings) ∧
      readConfigs context.tree project.configs.entries = .ok normal.configs ∧
      readSecrets context.tree project.secrets.entries = .ok normal.secrets ∧
      containersOf context project project.services (.start (project.warnings ++ warnings)) =
        .ok (normal.containers, normal.shared) := by
  obtain ⟨-, -, h⟩ := Except.bind_eq_ok.1 h
  obtain ⟨⟨envData, warnings⟩, henv, h⟩ := Except.bind_eq_ok.1 h
  obtain ⟨configs, hconfigs, h⟩ := Except.bind_eq_ok.1 h
  obtain ⟨secrets, hsecrets, h⟩ := Except.bind_eq_ok.1 h
  obtain ⟨⟨containers, shared⟩, hcontainers, h⟩ := Except.bind_eq_ok.1 h
  cases h
  exact ⟨warnings, henv, hconfigs, hsecrets, hcontainers⟩

/-- What a project is brought to says of each of its parts what it is made of. -/
theorem isOf_ofProject (h : ofProject context project = .ok normal) :
    normal.IsOf context project := by
  obtain ⟨warnings, henv, hconfigs, hsecrets, hcontainers⟩ := ofProject_eq_ok h
  obtain ⟨hshared, hall⟩ := Shared.Reflects.containersOf hcontainers
  refine ⟨hall, map_service_readEnvironments henv, fun kind => ?_, hshared⟩
  cases kind with
  | config => exact stores_readConfigs hconfigs
  | secret => exact stores_readSecrets hsecrets

namespace IsOf

variable {kind : SourceKind} {name key : String} {definition : Definition}

/-- The services of the normal form are those of the project. -/
theorem serviceNames_eq (h : normal.IsOf context project) :
    normal.serviceNames = project.services.map (·.name) :=
  (map_eq_of_forall₂ h.containers fun _ _ hcontainer => hcontainer.name_eq.symm).symm

/-- Content is stored under a name and a key for each definition with an object. -/
theorem exists_stored (h : normal.IsOf context project)
    (hgenerates : project.Generates kind name definition) :
    ∃ content, definition.resolve context.tree name kind = .ok (some content) ∧
      (name, content.key) ∈ normal.stored kind := by
  obtain ⟨stored, hmem, content, hresolve, rfl⟩ :=
    exists_right_of_forall₂ (h.stored kind) (Project.mem_generated.2 hgenerates)
  exact ⟨content, hresolve, hmem⟩

/-- Stored content is that of a definition with an object. -/
theorem of_mem_stored (h : normal.IsOf context project) (hmem : (name, key) ∈ normal.stored kind) :
    ∃ definition content, project.Generates kind name definition ∧
      definition.resolve context.tree name kind = .ok (some content) ∧ content.key = key := by
  obtain ⟨⟨_, definition⟩, hgenerated, content, hresolve, heq⟩ :=
    exists_left_of_forall₂ (h.stored kind) hmem
  cases heq
  exact ⟨definition, content, Project.mem_generated.1 hgenerated, hresolve, rfl⟩

/-- Content is stored once under each name. -/
theorem nodup_names (h : normal.IsOf context project) :
    ((normal.stored kind).map (·.1)).Nodup := by
  have hnames : (project.generated kind).map (·.1) = (normal.stored kind).map (·.1) :=
    map_eq_of_forall₂ (h.stored kind) fun entry stored ⟨content, _, heq⟩ => by rw [heq]
  rw [← hnames]
  exact (project.definitions kind).nodup_keys.sublist (List.filter_sublist.map _)

end IsOf

end Normal

end Compose

end ComposeCluster

import ComposeCluster.Proofs.Content.Objects

/-!
# Keys that are mounted

The key of a definition is found twice: `Definition.resolve` gives it with the content that is
stored, and `Definition.key` gives it for the mounts, without reading anything. The first prefers
the text of a definition to its file, the second the file to the text. So the two agree exactly when
a definition that has both names its file like itself (`Definition.HasOneKey`), and only then is
what a container mounts there (`Content.MountedKeysExist`).
-/

set_option autoImplicit false

namespace ComposeCluster

namespace Definition

variable {definition : Definition} {tree : SourceTree} {name : String} {kind : SourceKind}
  {content : Content}

/-- A definition that gives a file beside a text gives the file its own name. -/
def HasOneKey (definition : Definition) (name : String) : Prop :=
  ∀ file text, definition.file? = some file → definition.content? = some text →
    pathBaseName file = name

/-- The mounted key is the stored one exactly if the definition has one key. -/
theorem key_eq_iff (h : definition.resolve tree name kind = .ok (some content)) :
    definition.key name = content.key ↔ definition.HasOneKey name := by
  unfold resolve at h
  split at h
  · cases h
  · split at h
    · rename_i text htext
      obtain ⟨bytes, -, hcontent⟩ := Except.map_eq_ok.1 h
      cases hcontent
      cases hfile : definition.file? with
      | none => simp [key, HasOneKey, hfile]
      | some file => simp [key, HasOneKey, hfile, htext]
    · rename_i file htext hfile
      split at h
      · cases h
      · cases h
        simp [key, HasOneKey, hfile, htext]
    · cases h

/-- A definition that gives a file beside a text. -/
def appConf : Definition := ⟨some "./app.conf", some "hello", none, false⟩

def appTree : SourceTree := ⟨["srv"], [(["srv", "app.conf"], .file (Text.utf8 "x"))]⟩

/-- Its content is stored under one key and mounted under another. -/
theorem key_appConf_ne : ∃ content, appConf.resolve appTree "app" .config = .ok (some content) ∧
    content.key = "app" ∧ appConf.key "app" = "app.conf" :=
  ⟨⟨"app", Text.utf8 "hello"⟩, by decide +kernel⟩

end Definition

/-- The files that a volume shows of an object of a kind. -/
def Volume.source? (volume : Volume) : SourceKind → Option DataSource
  | .config => volume.configMap?
  | .secret => volume.secret?

namespace Content

open Compose (Normal FileUse)

/-- Every key of a generated object that the pod names is there: those of its volumes, and those of
the single files that its containers mount. -/
structure MountedKeysExist (component : Component) (normal : Normal) (objects : Objects) :
    Prop where
  items : ∀ volume ∈ objects.volumes, ∃ kind name source,
    volume.name = FileUse.volumeName kind name ∧ volume.source? kind = some source ∧
      source.object = FileUse.objectName component kind name ∧
      ∀ file ∈ source.files, objects.Holds kind source.object file.key
  -- Directories are mounted to be written to, single files are not.
  mounts : ∀ container ∈ normal.containers, ∀ mount ∈ container.mounts,
    mount.readOnly? = some true → ∃ kind name key,
      mount.volume = FileUse.volumeName kind name ∧ mount.subPath? = some key ∧
      objects.Holds kind (FileUse.objectName component kind name) key

namespace Objects

variable {scope : Scope} {context : Compose.Context} {project : Compose.Project} {normal : Normal}
  {credentials? : Option String} {objects : Objects} {kind : SourceKind} {name : String}
  {definition : Definition}

/-- The volume of a mounted file shows its object and its key, as the source of its kind. -/
theorem source?_fileVolume (kind asked : SourceKind) (name : String) (file : Compose.MountedFile) :
    (fileVolume kind name file).source? asked =
      if asked = kind then some ⟨file.object, [projectedFile file]⟩ else none := by
  cases kind <;> cases asked <;> rfl

/-- The key that the mounts of a definition name is there exactly when there is only one. -/
theorem holds_key_iff (hnormal : normal.IsOf context project)
    (hobjects : ofNormal scope normal credentials? = .ok objects)
    (hgenerates : project.Generates kind name definition) :
    objects.Holds kind (FileUse.objectName scope.component kind name) (definition.key name) ↔
      definition.HasOneKey name := by
  obtain ⟨content, hresolve, hstored⟩ := hnormal.exists_stored hgenerates
  rw [holds_iff_mem_stored hobjects, ← Definition.key_eq_iff hresolve]
  constructor
  · intro hmem
    obtain ⟨other, found, hother, hfound, hkey⟩ := hnormal.of_mem_stored hmem
    obtain rfl := hother.unique hgenerates
    obtain rfl : found = content := by
      rw [hresolve] at hfound
      cases hfound
      rfl
    exact hkey.symm
  · intro hkey
    rwa [hkey]

/-- What a service mounts is a volume of the pod, and the item of the volume names the key. -/
theorem hasOneKey_of_mounts (hnormal : normal.IsOf context project)
    (hobjects : ofNormal scope normal credentials? = .ok objects)
    (hscope : scope.component = context.component)
    (hexist : MountedKeysExist scope.component normal objects) {service : Compose.Service}
    (hservice : service ∈ project.services)
    (hmounts : project.Mounts service kind name definition) : definition.HasOneKey name := by
  have hcontains := hnormal.shared.complete service hservice kind name definition hmounts
  obtain ⟨file, hfile⟩ := Option.isSome_iff_exists.1 hcontains
  obtain ⟨_, _, other, hother, hobject, hkey⟩ := hnormal.shared.shown kind name file hfile
  obtain rfl := hother.2.unique hmounts.2
  obtain ⟨shown, -, source, -, hsource, -, hitems⟩ :=
    hexist.items _ ((mem_volumes hobjects).2 ⟨kind, name, file, hfile, rfl⟩)
  rw [source?_fileVolume] at hsource
  split at hsource
  · rename_i hkind
    cases hsource
    subst hkind
    have hholds := hitems (projectedFile file) List.mem_cons_self
    rw [← holds_key_iff hnormal hobjects hmounts.2, hscope, ← hobject, ← hkey]
    exact hholds
  · cases hsource

/-- Mounted keys exist if each mounted definition has one key. -/
theorem mountedKeysExist_of_hasOneKey (hnormal : normal.IsOf context project)
    (hobjects : ofNormal scope normal credentials? = .ok objects)
    (hscope : scope.component = context.component)
    (hkeys : ∀ service ∈ project.services, ∀ kind name definition,
      project.Mounts service kind name definition → definition.HasOneKey name) :
    MountedKeysExist scope.component normal objects := by
  have hholds {service : Compose.Service} (hservice : service ∈ project.services)
      {kind : SourceKind} {name : String} {definition : Definition}
      (hmounts : project.Mounts service kind name definition) :
      objects.Holds kind (FileUse.objectName scope.component kind name) (definition.key name) :=
    (holds_key_iff hnormal hobjects hmounts.2).2
      (hkeys service hservice kind name definition hmounts)
  refine ⟨fun volume hmem => ?_, fun container hcontainer mount hmem hfile => ?_⟩
  · obtain ⟨kind, name, file, hfile, rfl⟩ := (mem_volumes hobjects).1 hmem
    obtain ⟨service, hservice, definition, hmounts, hobject, hkey⟩ :=
      hnormal.shared.shown kind name file hfile
    rw [← hscope] at hobject
    refine ⟨kind, name, ⟨file.object, [projectedFile file]⟩, name_fileVolume kind name file,
      by rw [source?_fileVolume, if_pos rfl], hobject, fun item hitem => ?_⟩
    obtain rfl := List.mem_singleton.1 hitem
    show objects.Holds kind file.object file.key
    rw [hobject, hkey]
    exact hholds hservice hmounts
  · obtain ⟨service, hservice, hof⟩ := exists_left_of_forall₂ hnormal.containers hcontainer
    rcases hof.mounts mount hmem with ⟨-, hdirectory⟩ | ⟨kind, name, definition, path, hmounts, rfl⟩
    · rw [hdirectory] at hfile
      cases hfile
    · exact ⟨kind, name, definition.key name, rfl, rfl, hholds hservice hmounts⟩

/-- Mounted keys exist exactly if each mounted definition has one key. -/
theorem mountedKeysExist_iff (hnormal : normal.IsOf context project)
    (hobjects : ofNormal scope normal credentials? = .ok objects)
    (hscope : scope.component = context.component) :
    MountedKeysExist scope.component normal objects ↔
      ∀ service ∈ project.services, ∀ kind name definition,
        project.Mounts service kind name definition → definition.HasOneKey name :=
  ⟨fun hexist _ hservice _ _ _ => hasOneKey_of_mounts hnormal hobjects hscope hexist hservice,
    mountedKeysExist_of_hasOneKey hnormal hobjects hscope⟩

end Objects

/-- The key of the content of a definition and the key that its mounts name are the same exactly
when the definition has one key; and every key that the pod of a project names is there exactly when
each definition that a service mounts has one. -/
theorem mounted_keys_exist_iff (definition : Definition) (name : String)
    (context : Compose.Context) (project : Compose.Project) (nameSpace : String)
    (labels : TextMap) (credentials? : Option String) :
    (∀ tree kind content, definition.resolve tree name kind = .ok (some content) →
      (definition.key name = content.key ↔ definition.HasOneKey name)) ∧
    ∀ normal objects, Normal.ofProject context project = .ok normal →
      Objects.ofNormal ⟨context.component, nameSpace, labels⟩ normal credentials? = .ok objects →
      (MountedKeysExist context.component normal objects ↔
        ∀ service ∈ project.services, ∀ kind name definition,
          project.Mounts service kind name definition → definition.HasOneKey name) :=
  ⟨fun _ _ _ hresolve => Definition.key_eq_iff hresolve,
    fun _ _ hnormal hobjects =>
      Objects.mountedKeysExist_iff (Normal.isOf_ofProject hnormal) hobjects rfl⟩

/-- A service that mounts the definition with two keys. -/
def webService : Compose.Service where
  name := "web"
  image := "nginx"
  entrypoint := []
  command := []
  environment := .empty
  envFiles := []
  ports := []
  volumes := []
  configs := [⟨"app", none, none⟩]
  secrets := []
  resources? := none

def appProject : Compose.Project :=
  ⟨[webService], .singleton "app" Definition.appConf, .empty, []⟩

def appContext : Compose.Context := ⟨⟨"shop", "app"⟩, Definition.appTree, []⟩

/-- The key that the service mounts is not the one under which the text is stored. -/
theorem not_mountedKeysExist_of_app : ∃ normal objects,
    Normal.ofProject appContext appProject = .ok normal ∧
      Objects.ofNormal ⟨appContext.component, "shop", .empty⟩ normal none = .ok objects ∧
      ¬ MountedKeysExist appContext.component normal objects := by
  have hok : (Normal.ofProject appContext appProject).toBool = true := by decide +kernel
  cases hnormal : Normal.ofProject appContext appProject with
  | error refusal =>
    rw [hnormal] at hok
    cases hok
  | ok normal =>
    have hiff := (mounted_keys_exist_iff Definition.appConf "app" appContext appProject "shop"
      .empty none).2 normal _ hnormal rfl
    refine ⟨normal, _, rfl, rfl, fun hexist => ?_⟩
    have hmounts : appProject.Mounts webService .config "app" Definition.appConf :=
      ⟨⟨⟨"app", none, none⟩, List.mem_cons_self, rfl⟩, rfl, rfl⟩
    have hone := hiff.1 hexist _ List.mem_cons_self .config "app" _ hmounts
    exact absurd (hone "./app.conf" "hello" rfl rfl) (by decide)

end Content

end ComposeCluster

import ComposeCluster.Proofs.App.FreshRollout
import ComposeCluster.Proofs.App.TwoTrees
import ComposeCluster.Proofs.Source.Confined

/-!
# Secret content stays in secrets

What a file holds that no config reads is seen in the data of secrets and in digests, and nowhere
else among the objects of an app. `Manifest.redact` takes out just that: the data and the two
digests of a secret, and the hash on the pods of a deployment. Over two trees of files that differ
in such files only the objects are the same after that (`Job.secrets_keep_content`).
-/

set_option autoImplicit false

namespace ComposeCluster

/-! ## Files that no config reads -/

/-- Two trees with the same entries below the base directory, but for the content of some files. -/
def SourceTree.DifferOnlyIn (hidden : List String → Prop) (tree other : SourceTree) : Prop :=
  ∀ names, tree.entry? names = other.entry? names ∨
    hidden names ∧ ∃ content found,
      tree.entry? names = some (.file content) ∧ other.entry? names = some (.file found)

/-- Whether the content of a definition is that of the file with these names on the way to it. -/
def Definition.ReadsFile (definition : Definition) (names : List String) : Prop :=
  definition.isExisting = false ∧ definition.content? = none ∧
    ∃ path, definition.file? = some path ∧ pathNames path = names

/-- Whether a config reads the file with these names on the way to it. -/
def Compose.Project.ReadsForConfig (project : Project) (names : List String) : Prop :=
  ∃ entry ∈ project.configs.entries, entry.2.ReadsFile names

section Read

variable {hidden : List String → Prop} {tree other : SourceTree} {path name : String}
  {bytes : Bytes} {kind : SourceKind} {definition : Definition} {content? : Option Content}

/-- A hidden file is not on the way to another one, so it has no say in what is read. -/
theorem SourceTree.read_of_differOnlyIn (htrees : tree.DifferOnlyIn hidden other)
    (hshown : ¬hidden (pathNames path)) (h : tree.read path = .ok bytes) :
    tree.read path = other.read path := by
  obtain ⟨-, -, hdirectories, -⟩ := read_eq_ok h
  apply read_congr
  intro front hfront
  rcases htrees front with hsame | ⟨hhidden, content, found, hfile, -⟩
  · exact hsame
  · have hne : front ≠ pathNames path := by
      rintro rfl
      exact hshown hhidden
    rw [hdirectories front hfront hne] at hfile
    cases hfile

/-- Content that is not hidden is read the same from both trees. -/
theorem SourceTree.readContent_of_differOnlyIn (htrees : tree.DifferOnlyIn hidden other)
    (hshown : ¬hidden (pathNames path)) (h : tree.readContent path kind = .ok bytes) :
    other.readContent path kind = .ok bytes := by
  obtain ⟨hread, -⟩ := readContent_eq_ok h
  have hsame := read_of_differOnlyIn htrees hshown hread
  unfold readContent at h ⊢
  rwa [← hsame]

/-- A definition that reads no hidden file resolves to the same in both trees. -/
theorem Definition.resolve_of_differOnlyIn (htrees : tree.DifferOnlyIn hidden other)
    (hshown : ∀ names, definition.ReadsFile names → ¬hidden names)
    (h : definition.resolve tree name kind = .ok content?) :
    definition.resolve other name kind = .ok content? := by
  unfold resolve at h ⊢
  split at h
  case isTrue hexisting => rwa [if_pos hexisting]
  case isFalse hexisting =>
    rw [if_neg hexisting]
    cases htext : definition.content? with
    | some text => simpa only [htext] using h
    | none =>
      cases hfile : definition.file? with
      | none => simp [htext, hfile] at h
      | some file =>
        simp only [htext, hfile] at h
        have hreads : definition.ReadsFile (pathNames file) :=
          ⟨by simpa using hexisting, htext, file, hfile, rfl⟩
        split at h
        · cases h
        case h_2 bytes hbytes =>
          have hother :=
            SourceTree.readContent_of_differOnlyIn htrees (hshown _ hreads) hbytes
          simpa only [hother] using h

open Compose in
/-- A definition that reads no hidden file is read alike. -/
theorem readDefinition_of_differOnlyIn {definition : Definition} {kind : SourceKind} {name : String}
    {content? : Option Content} (htrees : tree.DifferOnlyIn hidden other)
    (hshown : ∀ names, definition.ReadsFile names → ¬hidden names)
    (h : readDefinition tree kind name definition = .ok content?) :
    readDefinition other kind name definition = .ok content? := by
  have hresolve :=
    Definition.resolve_of_differOnlyIn htrees hshown (resolve_of_readDefinition h)
  obtain ⟨⟨⟩, hname, -⟩ := Except.bind_eq_ok.1 h
  exact Except.bind_eq_ok.2 ⟨(), hname, Except.mapError_eq_ok.2 hresolve⟩

open Compose in
/-- Configs hold the same texts where none of them reads a hidden file. -/
theorem readConfigs_of_differOnlyIn {entries : List (String × Definition)}
    {configs : List ConfigText} (htrees : tree.DifferOnlyIn hidden other)
    (hshown : ∀ entry ∈ entries, ∀ names, entry.2.ReadsFile names → ¬hidden names)
    (h : readConfigs tree entries = .ok configs) : readConfigs other entries = .ok configs := by
  induction entries generalizing configs with
  | nil => exact h
  | cons entry rest ih =>
    obtain ⟨hfirst, hlater⟩ := List.forall_mem_cons.1 hshown
    rw [readConfigs_cons_eq_ok] at h ⊢
    rcases h with ⟨hread, hrest⟩ | ⟨content, text, later, hread, htext, hrest, rfl⟩
    · exact .inl ⟨readDefinition_of_differOnlyIn htrees hfirst hread, ih hlater hrest⟩
    · exact .inr ⟨content, text, later, readDefinition_of_differOnlyIn htrees hfirst hread, htext,
        ih hlater hrest, rfl⟩

end Read

/-! ## Objects without what they hold of secrets -/

/-- A map in which a key has no value any more, if it is there. -/
def hideValue (key : String) (map : TextMap) : TextMap :=
  if map.contains key then map.insert key "" else map

/-- A value that is put under a hidden key is not seen. -/
theorem hideValue_insert (key value : String) (map : TextMap) :
    hideValue key (map.insert key value) = map.insert key "" := by
  have hcontains : (map.insert key value).contains key = true := by
    simp [SortedMap.contains]
  rw [hideValue, if_pos hcontains]
  apply SortedMap.ext_get?
  intro other
  by_cases h : other = key <;> simp [h]

/-- A value that is put under another key is seen. -/
theorem hideValue_insert_of_ne {key other : String} (hne : key ≠ other) (value : String)
    (map : TextMap) :
    hideValue key (map.insert other value) = (hideValue key map).insert other value := by
  have hcontains : (map.insert other value).contains key = map.contains key := by
    simp [SortedMap.contains, hne]
  unfold hideValue
  rw [hcontains]
  split
  · apply SortedMap.ext_get?
    intro asked
    by_cases hkey : asked = key
    · subst hkey
      simp [hne]
    · simp [hkey]
  · rfl

/-- A secret without its data and its digests. -/
def Secret.redact (object : Secret) : Secret :=
  { object with
    data := .empty
    metadata :=
      { object.metadata with
        annotations :=
          hideValue Key.contentHash (hideValue Key.secretHash object.metadata.annotations) } }

/-- A deployment without the hash on its pods. -/
def Deployment.redact (object : Deployment) : Deployment :=
  { object with
    spec :=
      { object.spec with
        template :=
          { object.spec.template with
            metadata :=
              { object.spec.template.metadata with
                annotations :=
                  hideValue Key.contentHash object.spec.template.metadata.annotations } } } }

/-- An object without what it holds of secrets: the data and the digests of a secret, and the hash
on the pods of a deployment. -/
def Manifest.redact : Manifest → Manifest
  | .secret object => .secret object.redact
  | .deployment object => .deployment object.redact
  | manifest => manifest

namespace Content.Scope

variable (scope : Scope)

/-- Secrets of one name and type look the same whatever their data is. -/
theorem redact_secret (name type : String) (entries others : List (String × Bytes)) :
    (scope.secret name type entries).redact = (scope.secret name type others).redact := by
  -- The digest is the only annotation that depends on the entries.
  have hne : Key.secretHash ≠ Key.contentHash := by decide
  simp only [Secret.redact, secret, metadata, Meta.annotate, Meta.withLabels, Meta.namespaced,
    Meta.clusterScoped, Header.of, hideValue_insert_of_ne hne, hideValue_insert]

/-- Secrets of the document look the same if they have the same name. -/
theorem redact_configSecret {content found : Compose.SecretContent}
    (hname : content.name = found.name) :
    (scope.configSecret content).redact = (scope.configSecret found).redact := by
  rw [configSecret, configSecret, hname]
  exact scope.redact_secret _ _ _ _

/-- Environments look the same if they are for the same service. -/
theorem redact_envSecret {env found : Compose.EnvData} (hservice : env.service = found.service) :
    (scope.envSecret env).redact = (scope.envSecret found).redact := by
  have hne : Key.contentHash ≠ Key.secretHash := by decide
  simp only [Secret.redact, envSecret, secret, metadata, Meta.annotate, Meta.withLabels,
    Meta.namespaced, Meta.clusterScoped, Header.of, hservice, hideValue_insert_of_ne hne,
    hideValue_insert]

end Content.Scope

/-- Nothing but the hash tells deployments of one pod apart. -/
theorem AppScope.redact_deployment (scope : AppScope) {pod found : HashedPod}
    (hspec : pod.spec = found.spec) (hhash : pod.hash?.isSome = found.hash?.isSome) :
    (scope.deployment pod).redact = (scope.deployment found).redact := by
  obtain ⟨spec, hash?⟩ := pod
  obtain ⟨_, hash'?⟩ := found
  obtain rfl := hspec
  have hhidden (hash : String) :
      hideValue Key.contentHash (SortedMap.singleton Key.contentHash hash) =
        SortedMap.singleton Key.contentHash "" := hideValue_insert Key.contentHash hash .empty
  cases hash? <;> cases hash'? <;> simp_all [Deployment.redact, deployment]

namespace Job

variable {job : Job} {tree other : SourceTree} {bindings : List VolumeBinding}
  {manifests copies : ManifestSet} {project : Compose.Project} {conversion found : Conversion}

namespace Twins

variable (h : job.Twins tree other bindings project conversion found manifests copies)
include h

/-- The deployments look the same. -/
theorem redact_deployment :
    manifests.deployment.redact = copies.deployment.redact := by
  have hspec := h.spec_eq
  rw [h.first.deployment, h.second.deployment] at hspec ⊢
  apply AppScope.redact_deployment
  · exact hspec
  · -- Whether there is a hash depends on the names that the pod refers to.
    have hnames : (Content.Refs.ofSpec (HashedPod.of conversion.project manifests.content
        manifests.bound job.podSetting).spec).names = (Content.Refs.ofSpec (HashedPod.of
          found.project copies.content copies.bound job.podSetting).spec).names :=
      congrArg (fun spec => (Content.Refs.ofSpec spec).names) hspec
    have hisSome (names : List String) (digests : TextMap) :
        (Content.Refs.hash? names digests).isSome = !names.isEmpty := by
      unfold Content.Refs.hash?
      cases names.isEmpty <;> rfl
    exact (hisSome _ _).trans ((congrArg (fun names => !names.isEmpty) hnames).trans
      (hisSome _ _).symm)

/-- The secrets of the document look the same, one by one. -/
theorem redact_configSecrets :
    manifests.content.configSecrets.map Secret.redact =
      copies.content.configSecrets.map Secret.redact := by
  obtain ⟨-, -, hsecrets, -⟩ := Content.Objects.of_ofNormal h.first.content
  obtain ⟨-, -, hsecrets', -⟩ := Content.Objects.of_ofNormal h.second.content
  have hnames : conversion.project.secrets.map (·.name) = found.project.secrets.map (·.name) := by
    have hstored := congrArg (List.map (·.1)) (h.alike.stored .secret)
    simpa only [Compose.Normal.stored, List.map_map, Function.comp_def] using hstored
  rw [hsecrets, hsecrets', List.map_map, List.map_map]
  exact map_eq_of_keys (fun _ _ => job.contentScope.redact_configSecret) hnames

/-- The secrets with environments look the same, one by one. -/
theorem redact_envSecrets :
    manifests.content.envSecrets.map Secret.redact =
      copies.content.envSecrets.map Secret.redact := by
  obtain ⟨-, -, -, hsecrets⟩ := Content.Objects.of_ofNormal h.first.content
  obtain ⟨-, -, -, hsecrets'⟩ := Content.Objects.of_ofNormal h.second.content
  rw [hsecrets, hsecrets', List.map_map, List.map_map]
  exact map_eq_of_keys (fun _ _ => job.contentScope.redact_envSecret) h.alike.environments

/-- The config maps are the same if the trees differ only in files that no config reads. -/
theorem configMaps_eq
    (htrees : tree.DifferOnlyIn (fun names => ¬project.ReadsForConfig names) other) :
    manifests.content.configMaps = copies.content.configMaps := by
  have hshown : ∀ entry ∈ project.configs.entries, ∀ names, entry.2.ReadsFile names →
      ¬¬project.ReadsForConfig names :=
    fun entry hmem names hreads hhidden => hhidden ⟨entry, hmem, hreads⟩
  have hconfigs := readConfigs_of_differOnlyIn htrees hshown h.firstConfigs
  have hsame : conversion.project.configs = found.project.configs :=
    Except.ok.inj (hconfigs.symm.trans h.secondConfigs)
  rw [(Content.Objects.of_ofNormal h.first.content).2.1,
    (Content.Objects.of_ofNormal h.second.content).2.1, hsame]

/-- The content objects look the same if the config maps are the same. -/
theorem redact_contentObjects
    (hconfigMaps : manifests.content.configMaps = copies.content.configMaps) :
    (ManifestSet.contentObjects manifests.content).map Manifest.redact =
      (ManifestSet.contentObjects copies.content).map Manifest.redact := by
  have hsecrets (secrets : List Secret) : (secrets.map Manifest.secret).map Manifest.redact =
      (secrets.map Secret.redact).map Manifest.secret := by
    rw [List.map_map, List.map_map]
    rfl
  simp only [ManifestSet.contentObjects, List.map_append, hsecrets, h.pullSecret_eq, hconfigMaps,
    h.redact_configSecrets, h.redact_envSecrets]

/-- All objects look the same if the config maps are the same. -/
theorem redact_objects (hconfigMaps : manifests.content.configMaps = copies.content.configMaps) :
    manifests.objects.map Manifest.redact = copies.objects.map Manifest.redact := by
  have hnameSpace : manifests.nameSpace = copies.nameSpace := by
    rw [h.first.nameSpace, h.second.nameSpace]
  have hpolicies : manifests.policies? = copies.policies? := by
    rw [h.first.policies, h.second.policies]
  have hdeployment : [Manifest.deployment manifests.deployment].map Manifest.redact =
      [Manifest.deployment copies.deployment].map Manifest.redact := by
    simp only [List.map_cons, List.map_nil, Manifest.redact, h.redact_deployment]
  simp only [ManifestSet.objects, List.map_append, hnameSpace, hpolicies, h.bound,
    h.redact_contentObjects hconfigMaps, hdeployment, h.service_eq, h.headless_eq, h.ingresses_eq]

end Twins

/-- What files hold that no config reads is not seen in the objects of an app but for the data and
the digests of secrets and for the hash on the pods. -/
theorem secrets_keep_content {delivery copy : Delivery}
    (h : job.run tree bindings = .ok delivery) (hother : job.run other bindings = .ok copy)
    (htrees : ∀ project, Compose.Project.parse job.target.app.compose = .ok project →
      tree.DifferOnlyIn (fun names => ¬project.ReadsForConfig names) other) :
    delivery.manifests.objects.map Manifest.redact =
      copy.manifests.objects.map Manifest.redact := by
  obtain ⟨project, conversion, found, hparse, htwins⟩ :=
    (makes_of_run h).exists_twins (makes_of_run hother)
  exact htwins.redact_objects (htwins.configMaps_eq (htrees project hparse))

/-- The file that the service of `Progress.shopJob` takes its environment from. -/
def shopTree (text : String) : SourceTree :=
  ⟨["srv"], [(["srv", "web.env"], .file (Text.utf8 text))]⟩

/-- The trees of the shop differ in its environment file only. -/
theorem differOnlyIn_shopTree {hidden : List String → Prop} (hweb : hidden ["web.env"])
    (text found : String) : (shopTree text).DifferOnlyIn hidden (shopTree found) := by
  intro names
  by_cases h : names = ["web.env"]
  · subst h
    exact .inr ⟨hweb, _, _, rfl, rfl⟩
  · have hlookup : (names == ["web.env"]) = false := by simpa using h
    left
    simp [shopTree, SourceTree.entry?_eq, SourceTree.entryAt?, List.lookup_cons, hlookup]

/-- Two environments of the shop make objects that differ, and look the same. -/
theorem secrets_keep_content_of_shop :
    ∃ delivery copy, Progress.shopJob.run (shopTree "A=1") [] = .ok delivery ∧
      Progress.shopJob.run (shopTree "A=2") [] = .ok copy ∧
      delivery.manifests.objects ≠ copy.manifests.objects ∧
      delivery.manifests.objects.map Manifest.redact =
        copy.manifests.objects.map Manifest.redact := by
  have hok : ((Progress.shopJob.run (shopTree "A=1") []).toOption.any fun delivery =>
      (Progress.shopJob.run (shopTree "A=2") []).toOption.any fun copy =>
        delivery.manifests.objects ≠ copy.manifests.objects) = true := by
    decide +kernel
  have hconfigs : ((Compose.Project.parse Progress.shopJob.target.app.compose).toOption.all
      fun project => project.configs.entries.isEmpty) = true := by
    decide +kernel
  obtain ⟨delivery, hrun, hok⟩ := Except.exists_of_any hok
  obtain ⟨copy, hrun', hne⟩ := Except.exists_of_any hok
  refine ⟨delivery, copy, hrun, hrun', of_decide_eq_true hne, ?_⟩
  apply secrets_keep_content hrun hrun'
  intro project hparse
  apply differOnlyIn_shopTree
  rintro ⟨entry, hmem, -⟩
  have hempty := Except.of_all hconfigs hparse
  rw [List.isEmpty_iff.1 hempty] at hmem
  cases hmem

end Job

end ComposeCluster

import ComposeCluster.Proofs.App.BuildSucceeds
import ComposeCluster.Proofs.App.DistinctObjects
import ComposeCluster.Proofs.Content.Carried
import ComposeCluster.Proofs.Digest.Base64
import ComposeCluster.Proofs.Json.Ordered
import ComposeCluster.Proofs.Kube.Generated

/-!
# What objects store

A secret stores bytes as Base64 and a config map stores text. What is read from a secret is what it
was made of, and the digest that an object carries is the digest of what is read from it
(`Secret.Keeps`, `ConfigMap.Keeps`). That the data of a secret is a map costs nothing, because the
entries that it is made of ascend by key. The container of a service looks for its environment under
a name that no other container has (`Compose.IsContainerOf.refersTo_iff`).
-/

set_option autoImplicit false

namespace ComposeCluster

/-! ## Stored data -/

/-- The bytes that a secret stores, if every entry is Base64. -/
def Secret.decodedEntries? (object : Secret) : Option (List (String × Bytes)) :=
  object.data.entries.mapM fun entry => (Base64.decode? entry.2).map (entry.1, ·)

/-- A secret with a name stores entries and carries the digest of them. -/
structure Secret.Keeps (object : Secret) (name : String) (entries : List (String × Bytes)) :
    Prop where
  name_eq : object.metadata.name = name
  stored : object.decodedEntries? = some entries
  digest_eq : object.contentHash? = some (Content.digest entries)

/-- A config map with a name stores one text and carries the digest of what it stores. -/
structure ConfigMap.Keeps (object : ConfigMap) (name key text : String) : Prop where
  name_eq : object.metadata.name = name
  stored : object.data.entries = [(key, text)]
  digest_eq : object.contentHash? = some (Content.textDigest object.data.entries)

namespace Content

namespace Scope

variable (scope : Scope)

/-- A secret keeps the entries that it was made of. -/
theorem keeps_secret (name type : String) {entries : List (String × Bytes)}
    (h : SortedEntries entries) : (scope.secret name type entries).Keeps name entries := by
  refine ⟨rfl, ?stored, Meta.annotation?_annotate _ _ _⟩
  case stored =>
    have hsorted : SortedEntries (entries.map fun entry => (entry.1, Base64.encode entry.2)) :=
      h.of_keys (by simp)
    have hread (entry : String × Bytes) :
        (Base64.decode? (Base64.encode entry.2)).map (entry.1, ·) = some (id entry) := by
      rw [Base64.decode?_encode]
      rfl
    show (sortEntries (entries.map fun entry => (entry.1, Base64.encode entry.2))).mapM _ = _
    rw [hsorted.sortEntries_eq]
    exact (Json.mapM_map_of_read hread entries).trans (congrArg some (List.map_id entries))

/-- A secret of the document keeps its content under its key. -/
theorem keeps_configSecret (content : Compose.SecretContent) :
    (scope.configSecret content).Keeps (scope.component.configSecret content.name)
      [(content.key, content.bytes)] :=
  scope.keeps_secret _ _ (List.pairwise_singleton _ _)

/-- The secret for images keeps the credentials. -/
theorem keeps_pullSecret (credentials : String) :
    (scope.pullSecret credentials).Keeps scope.component.pullSecret
      [(credentialsKey, Text.utf8 credentials)] :=
  scope.keeps_secret _ _ (List.pairwise_singleton _ _)

/-- A secret with an environment keeps the keys and values of this environment. -/
theorem keeps_envSecret (env : Compose.EnvData) :
    (scope.envSecret env).Keeps (scope.component.envSecret env.service) (envEntries env) := by
  have hsorted : SortedEntries (envEntries env) :=
    SortedEntries.of_keys env.data.sorted (by simp [envEntries])
  have hplain := scope.keeps_secret (scope.component.envSecret env.service) Secret.opaqueType
    hsorted
  -- The second annotation leaves the first one as it is.
  have hne : Key.contentHash ≠ Key.secretHash := by decide
  exact ⟨rfl, hplain.stored, (Meta.annotation?_annotate_of_ne hne _ _).trans hplain.digest_eq⟩

/-- A config map keeps its text under its key. -/
theorem keeps_configMap (config : Compose.ConfigText) :
    (scope.configMap config).Keeps (scope.component.configMap config.name) config.key
      config.text :=
  ⟨rfl, rfl, Meta.annotation?_annotate _ _ _⟩

/-- What the secrets of a project are called and what they are made of: the credentials, the secrets
of the compose document, and the environments. -/
def secretData (normal : Compose.Normal) (credentials? : Option String) :
    List (String × List (String × Bytes)) :=
  credentials?.toList.map (fun credentials =>
      (scope.component.pullSecret, [(credentialsKey, Text.utf8 credentials)])) ++
    normal.secrets.map (fun content =>
      (scope.component.configSecret content.name, [(content.key, content.bytes)])) ++
    normal.envData.map fun env => (scope.component.envSecret env.service, envEntries env)

end Scope

namespace Objects

variable {scope : Scope} {normal : Compose.Normal} {credentials? : Option String}
  {objects : Objects}

/-- All secrets keep what they were made of, in their order. -/
theorem keeps_secrets (h : ofNormal scope normal credentials? = .ok objects) :
    List.Forall₂ (fun object data => object.Keeps data.1 data.2) objects.secrets
      (scope.secretData normal credentials?) := by
  obtain ⟨hpull, -, hconfigSecrets, henvSecrets⟩ := of_ofNormal h
  rw [secrets, hpull, hconfigSecrets, henvSecrets, Option.toList_map, Scope.secretData]
  refine List.rel_append (List.rel_append ?_ ?_) ?_
  all_goals
    rw [List.forall₂_map_left_iff, List.forall₂_map_right_iff, List.forall₂_same]
  · exact fun credentials _ => scope.keeps_pullSecret credentials
  · exact fun content _ => scope.keeps_configSecret content
  · exact fun env _ => scope.keeps_envSecret env

/-- All config maps keep what they were made of, in their order. -/
theorem keeps_configMaps (h : ofNormal scope normal credentials? = .ok objects) :
    List.Forall₂ (fun object config =>
      object.Keeps (scope.component.configMap config.name) config.key config.text)
      objects.configMaps normal.configs := by
  rw [(of_ofNormal h).2.1, List.forall₂_map_left_iff, List.forall₂_same]
  exact fun config _ => scope.keeps_configMap config

/-- The secrets with environments are named for their services. -/
theorem map_name_envSecrets (h : ofNormal scope normal credentials? = .ok objects) :
    objects.envSecrets.map (·.metadata.name) =
      (normal.envData.map (·.service)).map scope.component.envSecret := by
  rw [(of_ofNormal h).2.2.2, List.map_map, List.map_map]
  rfl

end Objects

end Content

/-! ## Environments of containers -/

/-- A container may take its environment from a secret with a name. -/
def Container.RefersTo (container : Container) (name : String) : Prop :=
  ∃ source ∈ container.envFrom, source.secret?.map (·.name) = some name

namespace Compose

variable {context : Context} {project : Project} {service : Service} {container : Container}

/-- Environments of different services are called differently, and no override is called like an
environment. -/
theorem IsContainerOf.refersTo_iff (h : IsContainerOf context project service container)
    (other : String) :
    container.RefersTo (context.component.envSecret other) ↔ container.name = other := by
  have hoverride := (context.component.envSecret_ne_envOverrideSecret other service.name).symm
  simp only [Container.RefersTo, h.envFrom_eq, EnvSource.optionalSecret, List.mem_cons,
    List.not_mem_nil, or_false, exists_eq_or_imp, exists_eq_left, Option.map_some,
    Option.some_inj, hoverride, h.name_eq]
  exact context.component.envSecret_inj

/-- Exactly the container of a service refers to the secret with its environment, and it does so
first. -/
theorem Normal.IsOf.refersTo_envSecret {normal : Normal} (h : normal.IsOf context project)
    (hservice : service ∈ project.services) :
    (∃ container ∈ normal.containers, container.name = service.name ∧
      container.envFrom.head? =
        some (.optionalSecret (context.component.envSecret service.name))) ∧
    ∀ container ∈ normal.containers,
      (container.RefersTo (context.component.envSecret service.name) ↔
        container.name = service.name) := by
  constructor
  · obtain ⟨container, hmem, hof⟩ := exists_right_of_forall₂ h.containers hservice
    refine ⟨container, hmem, hof.name_eq, ?_⟩
    rw [hof.envFrom_eq]
    rfl
  · intro container hmem
    obtain ⟨_, -, hof⟩ := exists_left_of_forall₂ h.containers hmem
    exact hof.refersTo_iff service.name

end Compose

/-! ## Projects -/

open Compose in
/-- From every project and all valid credentials objects are made, and they store what the project
was found to hold: each secret stores bytes that are read back as they were, each config map stores
its text, and each object carries the digest of what is read from it. The services with environment
files have one environment secret each, in their order. In the component that the project was looked
at for, the container of a service looks for its environment under the name of this secret first,
and no container of another service refers to it. A project that was read from a document has no two
services of one name. -/
theorem objects_keep_data {context : Context} {project : Project} {normal : Normal}
    (hnormal : Normal.ofProject context project = .ok normal) (scope : Content.Scope)
    {credentials? : Option String}
    (hvalid : ∀ credentials ∈ credentials?, Content.checkCredentials credentials = .ok ()) :
    ∃ objects, Content.Objects.ofNormal scope normal credentials? = .ok objects ∧
      List.Forall₂ (fun object data => object.Keeps data.1 data.2) objects.secrets
        (scope.secretData normal credentials?) ∧
      List.Forall₂ (fun object config =>
          object.Keeps (scope.component.configMap config.name) config.key config.text)
        objects.configMaps normal.configs ∧
      objects.envSecrets.map (·.metadata.name) =
        (project.services.filter fun service => !service.envFiles.isEmpty).map
          (scope.component.envSecret ·.name) ∧
      (scope.component = context.component → ∀ service ∈ project.services,
        (∃ container ∈ normal.containers, container.name = service.name ∧
          container.envFrom.head? =
            some (.optionalSecret (scope.component.envSecret service.name))) ∧
        ∀ container ∈ normal.containers,
          (container.RefersTo (scope.component.envSecret service.name) ↔
            container.name = service.name)) ∧
      ∀ text, Project.parse text = .ok project →
        normal.serviceNames.Nodup ∧ (objects.envSecrets.map (·.metadata.name)).Nodup := by
  have hof := Normal.isOf_ofProject hnormal
  have hcredentials : credentials?.toList.forM Content.checkCredentials = .ok () :=
    Except.forM_eq_ok.2 fun credentials hmem => hvalid credentials (Option.mem_toList.1 hmem)
  obtain ⟨objects, hobjects⟩ := Content.Objects.exists_ofNormal scope normal hcredentials
  have hnames := Content.Objects.map_name_envSecrets hobjects
  rw [hof.environments] at hnames
  refine ⟨objects, hobjects, Content.Objects.keeps_secrets hobjects,
    Content.Objects.keeps_configMaps hobjects, ?names, ?references, ?distinct⟩
  case names => rw [hnames, List.map_map]; rfl
  case references =>
    intro hscope service hservice
    rw [hscope]
    exact hof.refersTo_envSecret hservice
  case distinct =>
    intro text hparse
    have hservices := Project.nodup_names_of_parse hparse
    refine ⟨hof.serviceNames_eq ▸ hservices, ?_⟩
    rw [hnames]
    refine List.Nodup.map (fun name other => scope.component.envSecret_inj.1) ?_
    exact hservices.sublist (List.filter_sublist.map _)

/-- A service without environment files, one with a file, and a secret that is not text. -/
def keyedText : String :=
  "services:\n  db:\n    image: postgres\n  web:\n    image: nginx\n    env_file: web.env\n" ++
    "secrets:\n  key:\n    file: key.bin\n"

def keyedContext : Compose.Context where
  component := ⟨"shop", "app"⟩
  tree := ⟨["srv"], [(["srv", "web.env"], .file (Text.utf8 "B=2\nA=\n")),
    (["srv", "key.bin"], .file [0, 255])]⟩
  volumes := []

def keyedScope : Content.Scope := ⟨⟨"shop", "app"⟩, "apps", .empty⟩

def keyedCredentials : String := "\x7b\"auths\":1\x7d"

/-- Credentials, bytes that are no text, and an environment are decoded as they were. -/
theorem objects_keep_data_of_keyed :
    ∃ project normal objects, Compose.Project.parse keyedText = .ok project ∧
      Compose.Normal.ofProject keyedContext project = .ok normal ∧
      Content.Objects.ofNormal keyedScope normal (some keyedCredentials) = .ok objects ∧
      objects.secrets.map Secret.decodedEntries? =
        [some [(".dockerconfigjson", Text.utf8 keyedCredentials)],
         some [("key.bin", [0, 255])],
         some [("A", []), ("B", Text.utf8 "2")]] ∧
      normal.serviceNames = ["db", "web"] ∧
      ∀ container ∈ normal.containers,
        (container.RefersTo "shop-app-web-base" ↔ container.name = "web") := by
  have hok : ((Compose.Project.parse keyedText).toOption.any fun project =>
      (Compose.Normal.ofProject keyedContext project).toOption.any fun normal =>
        (keyedScope.secretData normal (some keyedCredentials)).map (fun data => some data.2) =
          [some [(".dockerconfigjson", Text.utf8 keyedCredentials)],
           some [("key.bin", [0, 255])],
           some [("A", []), ("B", Text.utf8 "2")]] ∧
        normal.serviceNames = ["db", "web"] ∧ project.services.map (·.name) = ["db", "web"]) =
      true := by
    decide +kernel
  have hvalid : ∀ credentials ∈ some keyedCredentials,
      Content.checkCredentials credentials = .ok () := by
    intro credentials hmem
    obtain rfl := Option.some_inj.1 hmem
    decide +kernel
  obtain ⟨project, hparse, hok⟩ := Except.exists_of_any hok
  obtain ⟨normal, hnormal, hok⟩ := Except.exists_of_any hok
  obtain ⟨hdata, hnames, hservices⟩ := of_decide_eq_true hok
  obtain ⟨objects, hobjects, hkeeps, -, -, hreferences, -⟩ :=
    objects_keep_data hnormal keyedScope hvalid
  refine ⟨project, normal, objects, hparse, hnormal, hobjects, ?_, hnames, ?_⟩
  · exact (map_eq_of_forall₂ hkeeps fun _ _ hkeep => hkeep.stored).trans hdata
  · have hweb : "web" ∈ project.services.map (·.name) := by rw [hservices]; decide
    obtain ⟨service, hservice, hname⟩ := List.mem_map.1 hweb
    have hrefers := (hreferences rfl service hservice).2
    rwa [hname] at hrefers

def otherScope : Content.Scope := ⟨⟨"shop", "other"⟩, "apps", .empty⟩

/-- In another component than the one that the project was looked at for, the secret with the
environment has another name than the one that containers refer to. -/
theorem environments_unused_in_other_component :
    ∃ project normal objects, Compose.Project.parse keyedText = .ok project ∧
      Compose.Normal.ofProject keyedContext project = .ok normal ∧
      Content.Objects.ofNormal otherScope normal none = .ok objects ∧
      objects.envSecrets.map (·.metadata.name) = ["shop-other-web-base"] ∧
      ∀ container ∈ normal.containers, ¬container.RefersTo "shop-other-web-base" := by
  have hok : ((Compose.Project.parse keyedText).toOption.any fun project =>
      (Compose.Normal.ofProject keyedContext project).toOption.any fun normal =>
        (Content.Objects.ofNormal otherScope normal none).toOption.any fun objects =>
          objects.envSecrets.map (·.metadata.name) = ["shop-other-web-base"] ∧
          ∀ container ∈ normal.containers, ∀ source ∈ container.envFrom,
            source.secret?.map (·.name) ≠ some "shop-other-web-base") = true := by
    decide +kernel
  obtain ⟨project, hparse, hok⟩ := Except.exists_of_any hok
  obtain ⟨normal, hnormal, hok⟩ := Except.exists_of_any hok
  obtain ⟨objects, hobjects, hok⟩ := Except.exists_of_any hok
  obtain ⟨hnames, hsources⟩ := of_decide_eq_true hok
  refine ⟨project, normal, objects, hparse, hnormal, hobjects, hnames, ?_⟩
  rintro container hmem ⟨source, hsource, hname⟩
  exact hsources container hmem source hsource hname

end ComposeCluster

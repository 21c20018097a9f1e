import ComposeCluster.Proofs.App.StoredData
import ComposeCluster.Proofs.Env.Data
import ComposeCluster.Proofs.Env.Merge

/-!
# What environment secrets hold

The environment files of a service may be of several formats and set a key more than once. Whatever
they are merged to is checked before it becomes the data of a secret, and no other way leads into
such a secret. So each environment secret holds what the files of its service are merged to, and
that is data that a secret may hold (`Objects.merged_envSecrets`).
-/

set_option autoImplicit false

namespace ComposeCluster.Content

namespace Objects

variable {context : Compose.Context} {project : Compose.Project} {normal : Compose.Normal}
  {scope : Scope} {credentials? : Option String} {objects : Objects}

/-- There is one environment secret for each service with environment files. It holds what these are
merged to, and that was checked. -/
theorem merged_envSecrets (hnormal : Compose.Normal.ofProject context project = .ok normal)
    (hobjects : ofNormal scope normal credentials? = .ok objects) :
    List.Forall₂ (fun service object => ∃ merged,
        Compose.mergeEnv context.tree service.name service.envFiles = .ok merged ∧
          object.Keeps (scope.component.envSecret service.name)
            (merged.data.entries.map fun entry => (entry.1, Text.utf8 entry.2)) ∧
          Env.checkData merged.data = .ok ())
      (project.services.filter fun service => !service.envFiles.isEmpty) objects.envSecrets := by
  obtain ⟨warnings, henvironments, -⟩ := Compose.Normal.ofProject_eq_ok hnormal
  rw [(of_ofNormal hobjects).2.2.2, List.forall₂_map_right_iff]
  refine (Compose.merged_readEnvironments henvironments).imp ?_
  rintro service env ⟨merged, hmerged, rfl⟩
  obtain ⟨-, hchecked⟩ := Compose.mergeEnv_eq_ok hmerged
  exact ⟨merged, hmerged, scope.keeps_envSecret ⟨service.name, merged.data⟩, hchecked⟩

end Objects

/-- Data pass the check exactly if the keys are names, no value has a control character, and keys
and values have at most a million bytes in all. The environment secrets that are made for a project
hold such data only: one secret for each service with environment files, with the keys and the
values that its files are merged to, in whatever format and order they come. -/
theorem secret_data_checked :
    (∀ data : Variables, Env.checkData data = .ok () ↔ Env.IsSecretData data.entries) ∧
    ∀ context project normal, Compose.Normal.ofProject context project = .ok normal →
      ∀ scope credentials? objects, Objects.ofNormal scope normal credentials? = .ok objects →
        List.Forall₂ (fun service object => ∃ merged,
            Compose.mergeEnv context.tree service.name service.envFiles = .ok merged ∧
              object.Keeps (scope.component.envSecret service.name)
                (merged.data.entries.map fun entry => (entry.1, Text.utf8 entry.2)) ∧
              Env.IsSecretData merged.data.entries)
          (project.services.filter fun service => !service.envFiles.isEmpty)
          objects.envSecrets := by
  refine ⟨fun data => Env.checkData_eq_ok, ?_⟩
  intro context project normal hnormal scope credentials? objects hobjects
  refine (Objects.merged_envSecrets hnormal hobjects).imp ?_
  rintro service object ⟨merged, hmerged, hkeeps, hchecked⟩
  exact ⟨merged, hmerged, hkeeps, Env.checkData_eq_ok.1 hchecked⟩

/-- A service with environment files of two formats, which set one key in common. -/
def mixedText : String :=
  "services:\n  web:\n    image: nginx\n    env_file: [web.env, web.json]\n"

def mixedContext : Compose.Context where
  component := ⟨"shop", "app"⟩
  tree := ⟨["srv"], [(["srv", "web.env"], .file (Text.utf8 "C=x\nB=2\n")),
    (["srv", "web.json"], .file (Text.utf8 "\x7b\"B\":3,\"A\":true\x7d"))]⟩
  volumes := []

def mixedScope : Scope := ⟨⟨"shop", "app"⟩, "apps", .empty⟩

/-- A control character is refused, and the merged environment is stored as it is. -/
theorem secret_data_checked_of_mixed :
    Env.checkData (.singleton "A" "\x07") ≠ .ok () ∧
    ∃ project normal objects, Compose.Project.parse mixedText = .ok project ∧
      Compose.Normal.ofProject mixedContext project = .ok normal ∧
      Objects.ofNormal mixedScope normal none = .ok objects ∧
      objects.envSecrets.map Secret.decodedEntries? =
        [some [("A", Text.utf8 "true"), ("B", Text.utf8 "3"), ("C", Text.utf8 "x")]] ∧
      Env.IsSecretData [("A", "true"), ("B", "3"), ("C", "x")] := by
  obtain ⟨hexact, hsecrets⟩ := secret_data_checked
  refine ⟨fun hbell => ?_, ?_⟩
  · have hvalues := ((hexact _).1 hbell).values ("A", "\x07") List.mem_cons_self
    exact hvalues '\x07' (by decide) (.inl (by decide))
  let merged (service : Compose.Service) : Option (List (String × String)) :=
    (Compose.mergeEnv mixedContext.tree service.name service.envFiles).toOption.map
      (·.data.entries)
  have hok : ((Compose.Project.parse mixedText).toOption.any fun project =>
      (Compose.Normal.ofProject mixedContext project).toOption.any fun normal =>
        (Objects.ofNormal mixedScope normal none).toOption.any fun _ =>
          (project.services.filter fun service => !service.envFiles.isEmpty).map merged =
            [some [("A", "true"), ("B", "3"), ("C", "x")]]) = true := by
    decide +kernel
  obtain ⟨project, hparse, hok⟩ := Except.exists_of_any hok
  obtain ⟨normal, hnormal, hok⟩ := Except.exists_of_any hok
  obtain ⟨objects, hobjects, hok⟩ := Except.exists_of_any hok
  obtain ⟨service, hservices, hentries⟩ := List.map_eq_singleton_iff.1 (of_decide_eq_true hok)
  have hall := hsecrets _ _ _ hnormal _ _ _ hobjects
  rw [hservices, List.forall₂_cons_left_iff] at hall
  obtain ⟨object, others, ⟨result, hresult, hkeeps, hdata⟩, hothers, hobject⟩ := hall
  cases hothers
  have hresult : result.data.entries = [("A", "true"), ("B", "3"), ("C", "x")] := by
    simpa [merged, hresult, Except.toOption] using hentries
  refine ⟨project, normal, objects, hparse, hnormal, hobjects, ?_, hresult ▸ hdata⟩
  rw [hobject, List.map_singleton, hkeeps.stored, hresult]
  rfl

end ComposeCluster.Content

import ComposeCluster.Proofs.Compose.Normal

/-!
# One project over two trees of files

Whether a project is accepted depends on its files, but what it becomes depends on them in three
places only: the environment of services, and the content of configs and of secrets. For two trees
over which a project is accepted the containers are the same, and so is all that services share but
the warnings (`containersOf_alike`). As to content, the names and the keys are the same
(`Normal.alike_of_ofProject`).
-/

set_option autoImplicit false

namespace ComposeCluster

/-- Content is stored under one key, whatever it is. -/
theorem Definition.key_eq_of_resolve {definition : Definition} {tree other : SourceTree}
    {name : String} {kind : SourceKind} {content found : Content}
    (h : definition.resolve tree name kind = .ok (some content))
    (hother : definition.resolve other name kind = .ok (some found)) :
    content.key = found.key := by
  unfold resolve at h hother
  split at h
  · cases h
  case isFalse hexisting =>
    rw [if_neg hexisting] at hother
    cases htext : definition.content? with
    | some text =>
      simp only [htext] at h hother
      obtain ⟨_, -, h⟩ := Except.map_eq_ok.1 h
      obtain ⟨_, -, hother⟩ := Except.map_eq_ok.1 hother
      cases h
      cases hother
      rfl
    | none =>
      cases hfile : definition.file? with
      | none => simp [htext, hfile] at h
      | some file =>
        simp only [htext, hfile] at h hother
        split at h
        · cases h
        · split at hother
          · cases hother
          · cases h
            cases hother
            rfl

namespace Compose

variable {tree other : SourceTree}

/-! ## Volumes -/

section Mounts

variable {service : String} {spec : ServiceVolume} {volumes : List AppVolume}
  {mount found : Mount}

/-- What a service volume designates does not depend on the files. -/
theorem ServiceVolume.Designates.eq (h : spec.Designates volumes tree mount)
    (hother : spec.Designates volumes other found) : mount = found := by
  cases h with
  | below first hfirst h =>
    cases hother with
    | below last hlast _ =>
      obtain rfl := Option.some_inj.1 (hfirst.symm.trans hlast)
      rfl
    | named name rest hnamed => cases h.kind_eq.symm.trans hnamed.kind_eq
  | named name rest h =>
    cases hother with
    | below first hfirst hbelow => cases h.kind_eq.symm.trans hbelow.kind_eq
    | named later others hnamed =>
      obtain ⟨rfl, rfl⟩ := h.splits.unique hnamed.splits
      rfl

/-- The files only decide whether a volume is refused. -/
theorem Mount.eq_of_resolve (h : resolve service spec volumes tree = .ok mount)
    (hother : resolve service spec volumes other = .ok found) : mount = found :=
  (resolve_eq_ok.1 h).2.eq (resolve_eq_ok.1 hother).2

end Mounts

/-! ## Containers -/

/-- What services share over two trees: nothing differs but the warnings. -/
structure Shared.Alike (shared found : Shared) : Prop where
  ports : shared.ports = found.ports
  subPaths : shared.subPaths = found.subPaths
  configMounts : shared.configMounts = found.configMounts
  secretMounts : shared.secretMounts = found.secretMounts

/-- One more file leaves what is shared over two trees alike. -/
theorem Shared.Alike.addFile {shared found : Shared} (h : shared.Alike found) (kind : SourceKind)
    (name : String) (file : MountedFile) :
    (shared.addFile kind name file).Alike (found.addFile kind name file) := by
  obtain ⟨hports, hsubPaths, hconfigs, hsecrets⟩ := h
  cases kind with
  | config => exact ⟨hports, hsubPaths, by simp [Shared.addFile, hconfigs], hsecrets⟩
  | secret => exact ⟨hports, hsubPaths, hconfigs, by simp [Shared.addFile, hsecrets]⟩

/-- Uses of definitions leave what is shared over two trees alike. -/
theorem Shared.Alike.addUses {shared found : Shared} (h : shared.Alike found)
    (uses : List FileUse) : (shared.addUses uses).Alike (found.addUses uses) := by
  induction uses generalizing shared found with
  | nil => exact h
  | cons use rest ih =>
    have hfirst := h.addFile use.kind use.name use.file
    exact ih hfirst

section Services

variable {component : Component} {volumes : List AppVolume} {project : Project}
  {service : Service} {services : List Service} {shared found after foundAfter : Shared}
  {container other' : Container} {containers others : List Container}

/-- A service has the same container over two trees, and what is shared stays alike. -/
theorem containerOf_alike (hshared : shared.Alike found)
    (h : containerOf ⟨component, tree, volumes⟩ project service shared = .ok (container, after))
    (hother : containerOf ⟨component, other, volumes⟩ project service found =
      .ok (other', foundAfter)) :
    container = other' ∧ after.Alike foundAfter := by
  obtain ⟨hports, hmounts, hconfigs, hsecrets, hcheck⟩ := makesContainer h
  obtain ⟨hports', hmounts', hconfigs', hsecrets', hcheck'⟩ := makesContainer hother
  -- Only the mounts are asked of the files; what follows is computed from equal things.
  obtain rfl := right_eq_of_forall₂ (Except.mapM_eq_ok.1 hmounts) (Except.mapM_eq_ok.1 hmounts')
    fun _ _ _ => Mount.eq_of_resolve
  obtain rfl := Except.ok.inj (hconfigs.symm.trans hconfigs')
  obtain rfl := Except.ok.inj (hsecrets.symm.trans hsecrets')
  obtain rfl := Except.ok.inj (hcheck.symm.trans hcheck')
  rw [hshared.ports, hports'] at hports
  cases hports
  obtain ⟨-, -, hconfigMounts, hsecretMounts⟩ := hshared.addUses _
  exact ⟨rfl, rfl, congrArg (fun plan => List.foldl DirectoryPlan.add plan _) hshared.subPaths,
    hconfigMounts, hsecretMounts⟩

/-- Services have the same containers over two trees, and what is shared stays alike. -/
theorem containersOf_alike (hshared : shared.Alike found)
    (h : containersOf ⟨component, tree, volumes⟩ project services shared =
      .ok (containers, after))
    (hother : containersOf ⟨component, other, volumes⟩ project services found =
      .ok (others, foundAfter)) :
    containers = others ∧ after.Alike foundAfter := by
  induction services generalizing shared found containers others with
  | nil =>
    cases h
    cases hother
    exact ⟨rfl, hshared⟩
  | cons service rest ih =>
    obtain ⟨container, next, later, hfirst, hrest, rfl⟩ := containersOf_cons h
    obtain ⟨container', next', later', hfirst', hrest', rfl⟩ := containersOf_cons hother
    obtain ⟨rfl, hnext⟩ := containerOf_alike hshared hfirst hfirst'
    obtain ⟨rfl, hlast⟩ := ih hnext hrest hrest'
    exact ⟨rfl, hlast⟩

end Services

/-! ## Normal forms -/

namespace Normal

/-- Two normal forms that differ in the content of their environments, configs and secrets only,
and in their warnings. -/
structure Alike (normal found : Normal) : Prop where
  containers : normal.containers = found.containers
  shared : normal.shared.Alike found.shared
  environments : normal.envData.map (·.service) = found.envData.map (·.service)
  stored : ∀ kind, normal.stored kind = found.stored kind

variable {component : Component} {volumes : List AppVolume} {project : Project}
  {normal found : Normal}

/-- Content is stored under the same names and keys over two trees. -/
theorem stored_eq_of_isOf (h : normal.IsOf ⟨component, tree, volumes⟩ project)
    (hother : found.IsOf ⟨component, other, volumes⟩ project) (kind : SourceKind) :
    normal.stored kind = found.stored kind := by
  apply right_eq_of_forall₂ (h.stored kind) (hother.stored kind)
  rintro entry _ _ ⟨content, hresolve, rfl⟩ ⟨content', hresolve', rfl⟩
  rw [Definition.key_eq_of_resolve hresolve hresolve']

/-- A project is brought to normal forms that are alike over two trees. -/
theorem alike_of_ofProject (h : ofProject ⟨component, tree, volumes⟩ project = .ok normal)
    (hother : ofProject ⟨component, other, volumes⟩ project = .ok found) :
    normal.Alike found := by
  have hof := isOf_ofProject h
  have hof' := isOf_ofProject hother
  obtain ⟨warnings, -, -, -, hcontainers⟩ := ofProject_eq_ok h
  obtain ⟨warnings', -, -, -, hcontainers'⟩ := ofProject_eq_ok hother
  have hstart : (Shared.start (project.warnings ++ warnings)).Alike
      (Shared.start (project.warnings ++ warnings')) := ⟨rfl, rfl, rfl, rfl⟩
  obtain ⟨hsame, hshared⟩ := containersOf_alike hstart hcontainers hcontainers'
  exact ⟨hsame, hshared, hof.environments.trans hof'.environments.symm, stored_eq_of_isOf hof hof'⟩

end Normal

end Compose

end ComposeCluster

import ComposeCluster.Proofs.App.Turns
import ComposeCluster.Proofs.Compose.Warnings
import ComposeCluster.Proofs.Content.Objects

/-!
# What objects are put together from

`Job.Assembles` says for each part of the objects of an app where it comes from: the project as it
was checked, the bindings, or the job alone. All objects that a job makes come from such parts
(`Job.Makes.exists_parts`), and every statement about them starts here.
-/

set_option autoImplicit false

namespace ComposeCluster

/-! ## Bindings -/

/-- Bindings that are in order, and as many as volumes, are for the volumes one by one. -/
theorem map_volume_of_checkOrderFrom {index : Nat} {volumes : List AppVolume}
    {bindings : List VolumeBinding} (hlength : bindings.length = volumes.length)
    (h : checkOrderFrom index volumes bindings = .ok ()) :
    bindings.map (·.volume) = volumes.map (·.name) := by
  induction volumes generalizing index bindings with
  | nil => rw [List.length_eq_zero_iff.1 hlength, List.map_nil, List.map_nil]
  | cons volume rest ih =>
    cases bindings with
    | nil => cases hlength
    | cons binding later =>
      unfold checkOrderFrom at h
      split at h
      · rename_i hvolume
        rw [List.map_cons, List.map_cons, hvolume, ih (Nat.succ.inj hlength) h]
      · cases h

/-- Bindings that pass the check are for the volumes one by one. -/
theorem map_volume_of_checkOneEach {volumes : List AppVolume} {bindings : List VolumeBinding}
    (h : checkOneEach volumes bindings = .ok ()) :
    bindings.map (·.volume) = volumes.map (·.name) := by
  unfold checkOneEach at h
  split at h
  · rename_i hlength
    exact map_volume_of_checkOrderFrom hlength h
  · cases h

/-- The volume of a binding is one of the volumes. -/
theorem mem_of_volumeIn {binding : VolumeBinding} {volumes : List AppVolume} {volume : AppVolume}
    (h : binding.volumeIn volumes = .ok volume) : volume ∈ volumes := by
  unfold VolumeBinding.volumeIn at h
  split at h
  · cases h
  case h_2 found hfound =>
    split at h
    · cases h
    · cases h
      exact List.mem_of_find?_eq_some hfound

/-- A binding is made into objects exactly if it has a volume and its class has a driver. -/
theorem BoundVolume.ofBinding_eq_ok {scope : BindingScope} {volumes : List AppVolume}
    {binding : VolumeBinding} {c : VolumeClass} {bound : BoundVolume} :
    BoundVolume.ofBinding scope volumes binding c = .ok bound ↔
      ∃ volume, binding.volumeIn volumes = .ok volume ∧ Text.isBlankText c.driver = false ∧
        bound =
          { binding := { binding with resource? := some (binding.objectName scope.identity) }
            volume := BoundVolume.volumeOf scope c (binding.objectName scope.identity)
              (Text.trim binding.disk.handle) (binding.capacity volume)
            claim := BoundVolume.claimOf scope c (binding.objectName scope.identity)
              (binding.capacity volume) } := by
  unfold BoundVolume.ofBinding
  rw [Except.bind_eq_ok]
  refine exists_congr fun volume => and_congr_right fun _ => ?_
  cases Text.isBlankText c.driver with
  | true => simp [bind, Except.bind]
  | false => exact ⟨fun h => ⟨rfl, (Except.ok.inj h).symm⟩, fun h => h.2 ▸ rfl⟩

namespace Job

variable {job : Job} {tree : SourceTree} {bindings : List VolumeBinding} {manifests : ManifestSet}

/-- The objects for a binding: a volume and a claim of one name, for the volume of the binding. -/
def Binds (job : Job) (binding : VolumeBinding) (bound : BoundVolume) : Prop :=
  bound.binding.volume = binding.volume ∧ ∃ volumeClass handle size,
    bound.volume = BoundVolume.volumeOf job.bindingScope volumeClass
      (binding.objectName job.identity) handle size ∧
    bound.claim = BoundVolume.claimOf job.bindingScope volumeClass
      (binding.objectName job.identity) size

/-- What one binding is bound to belongs to it. -/
theorem binds_of_bindOne {binding : VolumeBinding} {bound : BoundVolume}
    (h : job.bindOne binding = .ok bound) : job.Binds binding bound := by
  obtain ⟨volume, -, h⟩ := Except.bind_eq_ok.1 h
  obtain ⟨volumeClass, -, h⟩ := Except.bind_eq_ok.1 h
  obtain ⟨declared, -, -, rfl⟩ := BoundVolume.ofBinding_eq_ok.1 (Except.mapError_eq_ok.1 h)
  exact ⟨rfl, volumeClass, _, _, rfl, rfl⟩

/-- What all bindings are bound to belongs to them one by one, and they are for the volumes one by
one. -/
theorem binds_of_bindAll {volumes : List BoundVolume} (h : job.bindAll bindings = .ok volumes) :
    bindings.map (·.volume) = job.target.app.volumes.map (·.name) ∧
      List.Forall₂ job.Binds bindings volumes := by
  obtain ⟨⟨⟩, hcheck, hall⟩ := Except.bind_eq_ok.1 h
  have hnames := map_volume_of_checkOneEach (Except.mapError_eq_ok.1 hcheck)
  exact ⟨hnames, (Except.mapM_eq_ok.1 hall).imp fun _ _ => binds_of_bindOne⟩

/-! ## Parts -/

/-- What the project of a job is looked at with. -/
def context (job : Job) (tree : SourceTree) : Compose.Context :=
  ⟨job.component, tree, job.target.app.volumes⟩

/-- The parts that objects are put together from. -/
structure Assembles (job : Job) (tree : SourceTree) (bindings : List VolumeBinding)
    (project : Compose.Project) (conversion : Conversion) (manifests : ManifestSet) : Prop where
  normal : conversion.project.IsOf (job.context tree) project
  unreserved : checkNoneReserved job.target.app.name conversion.project.serviceNames = .ok ()
  volumes : bindings.map (·.volume) = job.target.app.volumes.map (·.name)
  bound : List.Forall₂ job.Binds bindings manifests.bound
  content :
    Content.Objects.ofNormal job.contentScope conversion.project job.credentials? =
      .ok manifests.content
  nameSpace : manifests.nameSpace =
    job.scope.nameSpaceObject job.target.placement job.target.driver
  policies : manifests.policies? = job.policies?
  deployment : manifests.deployment = job.scope.deployment
    (.of conversion.project manifests.content manifests.bound job.podSetting)
  service : manifests.service? = job.scope.service? conversion.routes conversion.project.ports
  headless : manifests.headlessServices =
    if job.settings.headlessServices then
      conversion.project.serviceNames.map job.scope.headlessService
    else []
  ingresses : job.ingresses manifests.service? conversion.routes = .ok manifests.ingresses

/-- A check that succeeds keeps the normal form without its warnings, and the routes. -/
theorem of_check {project : Compose.Project} {conversion : Conversion} {warnings : List String}
    (h : job.check tree project = .ok (conversion, warnings)) :
    ∃ normal, job.normalize tree project = .ok normal ∧
      checkNoneReserved job.target.app.name normal.serviceNames = .ok () ∧
      Route.resolve normal.ports job.target.cluster.ingressDomain?
        job.target.app.ingress.rules = .ok conversion.routes ∧
      job.credentials?.toList.forM Content.checkCredentials = .ok () ∧
      conversion.project = { normal with warnings := [] } ∧ warnings = normal.warnings := by
  obtain ⟨normal, hnormal, h⟩ := Except.bind_eq_ok.1 h
  obtain ⟨⟨⟩, hunreserved, h⟩ := Except.bind_eq_ok.1 h
  obtain ⟨routes, hroutes, h⟩ := Except.bind_eq_ok.1 h
  obtain ⟨⟨⟩, hcredentials, h⟩ := Except.bind_eq_ok.1 h
  cases h
  exact ⟨normal, hnormal, hunreserved, hroutes, hcredentials, rfl, rfl⟩

/-- The warnings that a check gives back are those that the project gives reason for. -/
theorem givesReason_of_check {project : Compose.Project} {conversion : Conversion}
    {warnings : List String} (h : job.check tree project = .ok (conversion, warnings)) :
    project.GivesReason tree warnings := by
  obtain ⟨normal, hnormal, -, -, -, -, rfl⟩ := of_check h
  -- The context of the normal form is known from `hnormal`, not from the tree of the statement.
  have hreason := Compose.Normal.givesReason_of_ofProject hnormal
  exact hreason

/-- The warnings about the document come first, so whoever records them before the check and skips
them after it records each warning once. -/
theorem warnings_split_of_check {project : Compose.Project} {conversion : Conversion}
    {warnings : List String} (h : job.check tree project = .ok (conversion, warnings)) :
    project.warnings ++ warnings.drop project.warnings.length = warnings :=
  (givesReason_of_check h).split

/-- A checked project is the normal form of the project, except for its warnings. -/
theorem isOf_of_check {project : Compose.Project} {conversion : Conversion}
    {warnings : List String} (h : job.check tree project = .ok (conversion, warnings)) :
    conversion.project.IsOf (job.context tree) project ∧
      checkNoneReserved job.target.app.name conversion.project.serviceNames = .ok () := by
  obtain ⟨normal, hnormal, hunreserved, -, -, hproject, -⟩ := of_check h
  have hof := Compose.Normal.isOf_ofProject hnormal
  rw [hproject]
  have hmounts (kind : SourceKind) :
      ({ normal with warnings := [] } : Compose.Normal).shared.mounts kind =
        normal.shared.mounts kind := by cases kind <;> rfl
  have hstored (kind : SourceKind) :
      ({ normal with warnings := [] } : Compose.Normal).stored kind = normal.stored kind := by
    cases kind <;> rfl
  refine ⟨⟨hof.containers, hof.environments, fun kind => ?_, ⟨fun kind => ?_, ?_, ?_⟩⟩,
    hunreserved⟩
  · rw [hstored]
    exact hof.stored kind
  · rw [hmounts]
    exact hof.shared.shown kind
  · intro service hmem kind
    rw [hmounts]
    exact hof.shared.complete service hmem kind
  · exact hof.shared.prepared

/-- The bound volumes are among the objects as they were. -/
theorem bound_of_assemble {conversion : Conversion} {volumes : List BoundVolume}
    (h : job.assemble conversion volumes = .ok manifests) : manifests.bound = volumes := by
  obtain ⟨content, -, h⟩ := Except.bind_eq_ok.1 h
  obtain ⟨ingresses, -, h⟩ := Except.bind_eq_ok.1 h
  cases h
  rfl

/-- What the phases find, one after the other, is put together to the objects. -/
theorem assembles_of_assemble {project : Compose.Project} {conversion : Conversion}
    {warnings : List String} {volumes : List BoundVolume}
    (hcheck : job.check tree project = .ok (conversion, warnings))
    (hbind : job.bindAll bindings = .ok volumes)
    (hassemble : job.assemble conversion volumes = .ok manifests) :
    job.Assembles tree bindings project conversion manifests := by
  obtain ⟨hnormal, hunreserved⟩ := isOf_of_check hcheck
  obtain ⟨hvolumes, hbound⟩ := binds_of_bindAll hbind
  obtain ⟨content, hcontent, hassemble⟩ := Except.bind_eq_ok.1 hassemble
  obtain ⟨ingresses, hingresses, hassemble⟩ := Except.bind_eq_ok.1 hassemble
  cases hassemble
  exact ⟨hnormal, hunreserved, hvolumes, hbound, hcontent, rfl, rfl, rfl, rfl, rfl, hingresses⟩

/-- All objects that a job makes are put together from such parts. -/
theorem Makes.exists_parts (h : job.Makes tree bindings manifests) :
    ∃ project conversion, Compose.Project.parse job.target.app.compose = .ok project ∧
      job.Assembles tree bindings project conversion manifests := by
  obtain ⟨project, conversion, warnings, volumes, hparse, hcheck, hbind, hassemble⟩ := h
  exact ⟨project, conversion, hparse, assembles_of_assemble hcheck hbind hassemble⟩

end Job

end ComposeCluster

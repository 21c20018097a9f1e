import ComposeCluster.Proofs.App.Assembly
import ComposeCluster.Proofs.Compose.TwoTrees

/-!
# One app over two trees of files

What is made of an app over two trees of files, with the same bindings. The parts that do not hold
the content of files are the same in both (`Job.Twins`), in particular the pod (`Twins.spec_eq`) and
the objects that it can be reached through.
-/

set_option autoImplicit false

namespace ComposeCluster

namespace Job

variable {job : Job} {tree other : SourceTree} {bindings : List VolumeBinding}
  {manifests copies : ManifestSet} {project : Compose.Project} {conversion found : Conversion}

/-- A run succeeds exactly if each of its steps does. -/
theorem run_eq_ok {delivery : Delivery} :
    job.run tree bindings = .ok delivery ↔
      ∃ project conversion volumes, Compose.Project.parse job.target.app.compose = .ok project ∧
        job.check tree project = .ok (conversion, delivery.warnings) ∧
        job.bindAll bindings = .ok volumes ∧
        job.assemble conversion volumes = .ok delivery.manifests := by
  constructor
  · intro h
    unfold run Progress.convert Progress.start at h
    dsimp only at h
    split at h
    · cases h
    case h_2 project hparse =>
      split at h
      · cases h
      case h_2 conversion warnings hcheck =>
        cases hbind : job.bindAll bindings with
        | error error => simp [Progress.bind, hbind, bind, Except.bind] at h
        | ok volumes =>
          cases hassemble : job.assemble conversion volumes with
          | error refusal =>
            simp [Progress.bind, Progress.build, hbind, hassemble, bind, Except.bind] at h
          | ok manifests =>
            have hdelivery : delivery = ⟨manifests, warnings⟩ := by
              simpa [Progress.bind, Progress.build, Progress.record, hbind, hassemble, bind,
                Except.bind, warnings_split_of_check hcheck] using h.symm
            rw [hdelivery]
            exact ⟨project, conversion, volumes, hparse, hcheck, rfl, hassemble⟩
  · rintro ⟨project, conversion, volumes, hparse, hcheck, hbind, hassemble⟩
    simp [run, Progress.convert, Progress.start, Progress.bind, Progress.build, Progress.record,
      hparse, hcheck, hbind, hassemble, bind, Except.bind, warnings_split_of_check hcheck]

/-- A run makes the objects that its phases find. -/
theorem makes_of_run {delivery : Delivery} (h : job.run tree bindings = .ok delivery) :
    job.Makes tree bindings delivery.manifests := by
  obtain ⟨project, conversion, volumes, hparse, hcheck, hbind, hassemble⟩ := run_eq_ok.1 h
  exact ⟨project, conversion, _, volumes, hparse, hcheck, hbind, hassemble⟩

/-- What is made over two trees of files: the parts it is put together from, and what the parts
have in common. -/
structure Twins (job : Job) (tree other : SourceTree) (bindings : List VolumeBinding)
    (project : Compose.Project) (conversion found : Conversion) (manifests copies : ManifestSet) :
    Prop where
  first : job.Assembles tree bindings project conversion manifests
  second : job.Assembles other bindings project found copies
  alike : conversion.project.Alike found.project
  routes : conversion.routes = found.routes
  bound : manifests.bound = copies.bound
  firstConfigs :
    Compose.readConfigs tree project.configs.entries = .ok conversion.project.configs
  secondConfigs :
    Compose.readConfigs other project.configs.entries = .ok found.project.configs

/-- Two checks of one project find normal forms that are alike, and the same routes. -/
theorem alike_of_check {warnings foundWarnings : List String}
    (h : job.check tree project = .ok (conversion, warnings))
    (hother : job.check other project = .ok (found, foundWarnings)) :
    conversion.project.Alike found.project ∧ conversion.routes = found.routes ∧
      Compose.readConfigs tree project.configs.entries = .ok conversion.project.configs ∧
      Compose.readConfigs other project.configs.entries = .ok found.project.configs := by
  obtain ⟨normal, hnormal, -, hroutes, -, hproject, -⟩ := of_check h
  obtain ⟨normal', hnormal', -, hroutes', -, hproject', -⟩ := of_check hother
  have halike := Compose.Normal.alike_of_ofProject hnormal hnormal'
  obtain ⟨-, -, hconfigs, -⟩ := Compose.Normal.ofProject_eq_ok hnormal
  obtain ⟨-, -, hconfigs', -⟩ := Compose.Normal.ofProject_eq_ok hnormal'
  have hports : normal.ports = normal'.ports := halike.shared.ports
  rw [hports, hroutes'] at hroutes
  rw [hproject, hproject']
  refine ⟨⟨halike.containers, ?_, halike.environments, fun kind => ?_⟩,
    (Except.ok.inj hroutes).symm, hconfigs, hconfigs'⟩
  · obtain ⟨hports, hsubPaths, hconfigMounts, hsecretMounts⟩ := halike.shared
    exact ⟨hports, hsubPaths, hconfigMounts, hsecretMounts⟩
  · have hstored := halike.stored kind
    cases kind <;> exact hstored

/-- What is made over two trees comes from one document, and its parts have much in common. -/
theorem Makes.exists_twins (h : job.Makes tree bindings manifests)
    (hother : job.Makes other bindings copies) :
    ∃ project conversion found, Compose.Project.parse job.target.app.compose = .ok project ∧
      job.Twins tree other bindings project conversion found manifests copies := by
  obtain ⟨project, conversion, warnings, volumes, hparse, hcheck, hbind, hassemble⟩ := h
  obtain ⟨project', found, warnings', volumes', hparse', hcheck', hbind', hassemble'⟩ := hother
  obtain rfl : project = project' := Except.ok.inj (hparse.symm.trans hparse')
  obtain rfl : volumes = volumes' := Except.ok.inj (hbind.symm.trans hbind')
  have hfirst := assembles_of_assemble hcheck hbind hassemble
  have hsecond := assembles_of_assemble hcheck' hbind' hassemble'
  have hbound : manifests.bound = copies.bound := by
    rw [bound_of_assemble hassemble, bound_of_assemble hassemble']
  obtain ⟨halike, hroutes, hconfigs, hconfigs'⟩ := alike_of_check hcheck hcheck'
  exact ⟨project, conversion, found, hparse, hfirst, hsecond, halike, hroutes, hbound, hconfigs,
    hconfigs'⟩

/-! ## What stays the same -/

namespace Twins

variable (h : job.Twins tree other bindings project conversion found manifests copies)
include h

/-- The services have the same names over both trees. -/
theorem serviceNames_eq : conversion.project.serviceNames = found.project.serviceNames := by
  rw [Compose.Normal.serviceNames, h.alike.containers]
  rfl

/-- The secret for images is the same over both trees. -/
theorem pullSecret_eq : manifests.content.pullSecret? = copies.content.pullSecret? := by
  rw [(Content.Objects.of_ofNormal h.first.content).1,
    (Content.Objects.of_ofNormal h.second.content).1]

/-- The volumes for content are the same over both trees. -/
theorem volumes_eq : manifests.content.volumes = copies.content.volumes := by
  have hconfigs : conversion.project.configMounts = found.project.configMounts :=
    h.alike.shared.configMounts
  have hsecrets : conversion.project.secretMounts = found.project.secretMounts :=
    h.alike.shared.secretMounts
  rw [Content.Objects.volumes_of_ofNormal h.first.content,
    Content.Objects.volumes_of_ofNormal h.second.content, hconfigs, hsecrets]

/-- The pod is the same over both trees, the hash left aside. -/
theorem spec_eq :
    manifests.deployment.spec.template.spec = copies.deployment.spec.template.spec := by
  have hsubPaths : conversion.project.subPaths = found.project.subPaths :=
    h.alike.shared.subPaths
  rw [h.first.deployment, h.second.deployment]
  show HashedPod.specOf conversion.project manifests.content manifests.bound job.podSetting =
    HashedPod.specOf found.project copies.content copies.bound job.podSetting
  simp only [HashedPod.specOf, h.pullSecret_eq, h.volumes_eq, h.bound, h.alike.containers,
    hsubPaths]

/-- The service is the same over both trees. -/
theorem service_eq : manifests.service? = copies.service? := by
  have hports : conversion.project.ports = found.project.ports := h.alike.shared.ports
  rw [h.first.service, h.second.service, h.routes, hports]

/-- The services without an address are the same over both trees. -/
theorem headless_eq : manifests.headlessServices = copies.headlessServices := by
  rw [h.first.headless, h.second.headless, h.serviceNames_eq]

/-- The ingresses are the same over both trees. -/
theorem ingresses_eq : manifests.ingresses = copies.ingresses := by
  have hingresses := h.first.ingresses
  rw [h.service_eq, h.routes, h.second.ingresses] at hingresses
  exact (Except.ok.inj hingresses).symm

end Twins

end Job

end ComposeCluster

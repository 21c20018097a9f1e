import ComposeCluster.Proofs.App.PodVolumes
import ComposeCluster.Proofs.App.RuleSet
import ComposeCluster.Proofs.App.ServicePort
import ComposeCluster.Proofs.Storage.Preparation

/-!
# Names where they are used

Names are checked as they are written and used in another form. The volume of the pod for a config
or a secret has its name behind four more characters, so it is a label of the domain name system
only if these still fit. A port of the service has the name of a rule, which need not end like a
label. `Job.names_are_labels_iff` says which names remain labels within the limits of volumes and
of ports.
-/

set_option autoImplicit false

namespace ComposeCluster

open Naming (IsLabel isLabel_iff isLabelText)

/-! ## Names of definitions -/

namespace Compose

variable {tree : SourceTree} {entries : List (String × Definition)} {name : String}

/-- A definition that was read has a valid name. -/
theorem checkSourceName_of_readDefinition {kind : SourceKind} {definition : Definition}
    {content? : Option Content} (h : readDefinition tree kind name definition = .ok content?) :
    Naming.checkSourceName name = .ok () := by
  obtain ⟨⟨⟩, hname, -⟩ := Except.bind_eq_ok.1 h
  exact Except.mapError_eq_ok.1 hname

/-- Every definition is read, also one whose object already exists. -/
theorem readDefinition_of_readConfigs {configs : List ConfigText}
    (h : readConfigs tree entries = .ok configs) :
    ∀ entry ∈ entries, ∃ content?, readDefinition tree .config entry.1 entry.2 = .ok content? := by
  induction entries generalizing configs with
  | nil => nofun
  | cons entry rest ih =>
    rcases readConfigs_cons_eq_ok.1 h with
      ⟨hread, hrest⟩ | ⟨content, text, later, hread, -, hrest, -⟩
    · exact List.forall_mem_cons.2 ⟨⟨none, hread⟩, ih hrest⟩
    · exact List.forall_mem_cons.2 ⟨⟨some content, hread⟩, ih hrest⟩

/-- Each secret of the document was read. -/
theorem readDefinition_of_readSecrets {secrets : List SecretContent}
    (h : readSecrets tree entries = .ok secrets) :
    ∀ entry ∈ entries, ∃ content?, readDefinition tree .secret entry.1 entry.2 = .ok content? := by
  induction entries generalizing secrets with
  | nil => nofun
  | cons entry rest ih =>
    rcases readSecrets_cons_eq_ok.1 h with ⟨hread, hrest⟩ | ⟨content, later, hread, hrest, -⟩
    · exact List.forall_mem_cons.2 ⟨⟨none, hread⟩, ih hrest⟩
    · exact List.forall_mem_cons.2 ⟨⟨some content, hread⟩, ih hrest⟩

/-- Each definition of a normalized project was read. -/
theorem Normal.readDefinition_of_ofProject {context : Context} {project : Project}
    {normal : Normal} (h : ofProject context project = .ok normal) {kind : SourceKind}
    {definition : Definition} (hget : (project.definitions kind).get? name = some definition) :
    ∃ content?, readDefinition context.tree kind name definition = .ok content? := by
  obtain ⟨-, -, hconfigs, hsecrets, -⟩ := ofProject_eq_ok h
  have hentry := SortedMap.get?_eq_some.1 hget
  cases kind with
  | config => exact readDefinition_of_readConfigs hconfigs _ hentry
  | secret => exact readDefinition_of_readSecrets hsecrets _ hentry

/-- A definition that is mounted has a label for its name. -/
theorem Normal.isLabel_of_mounts {context : Context} {project : Project} {normal : Normal}
    (h : ofProject context project = .ok normal) {service : Service} {kind : SourceKind}
    {definition : Definition} (hmounts : project.Mounts service kind name definition) :
    IsLabel Naming.maxLabelLength name := by
  obtain ⟨content?, hread⟩ := readDefinition_of_ofProject h hmounts.2.1
  exact Naming.isLabel_of_checkLabel (checkSourceName_of_readDefinition hread)

/-- The name of the volume for a definition is a label if that of the definition is four bytes
shorter than the limit. -/
theorem FileUse.isLabel_volumeName_iff {kind : SourceKind} {maxLength limit : Nat}
    (h : IsLabel maxLength name) :
    IsLabel limit (volumeName kind name) ↔ name.utf8ByteSize + 4 ≤ limit := by
  rw [Nat.add_comm]
  cases kind with
  | config => exact Naming.isLabel_append_iff (by decide) (by decide) h
  | secret => exact Naming.isLabel_append_iff (by decide) (by decide) h

end Compose

/-! ## Volumes of the pod -/

namespace HashedPod

variable {scope : Content.Scope} {context : Compose.Context} {project : Compose.Project}
  {normal : Compose.Normal} {credentials? : Option String} {objects : Content.Objects}
  {bound : List BoundVolume} {setting : Setting} {limit : Nat}

/-- A limit that volumes of the app keep anyway is kept by all volumes exactly if it leaves room
for what stands before the names of configs and secrets. -/
theorem isLabel_volumes_iff (hnormal : Compose.Normal.ofProject context project = .ok normal)
    (hobjects : Content.Objects.ofNormal scope normal credentials? = .ok objects)
    (hbound : bound.map (·.binding.volume) = context.volumes.map (·.name))
    (hlimit : Naming.maxVolumeNameLength ≤ limit) :
    (∀ volume ∈ (specOf normal objects bound setting).volumes, IsLabel limit volume.name) ↔
      ∀ service ∈ project.services, ∀ kind name definition,
        project.Mounts service kind name definition → name.utf8ByteSize + 4 ≤ limit := by
  have hof := Compose.Normal.isOf_ofProject hnormal
  have happ : ∀ name ∈ context.volumes.map (·.name), IsLabel limit name := fun name hmem =>
    (Naming.isLabel_of_checkLabel
      (Compose.Normal.checkVolumeName_of_ofProject hnormal hmem)).mono hlimit
  have hnames : (∀ volume ∈ (specOf normal objects bound setting).volumes,
      IsLabel limit volume.name) ↔
      ∀ name ∈ (specOf normal objects bound setting).volumes.map (·.name), IsLabel limit name :=
    List.forall_mem_map.symm
  rw [hnames, map_name_volumes, hbound, List.forall_mem_append, and_iff_right happ]
  constructor
  · intro hfiles service hservice kind name definition hmounts
    have hshown := (Content.Objects.mem_names_volumes hof hobjects).2
      ⟨service, hservice, kind, name, definition, hmounts, rfl⟩
    exact (Compose.FileUse.isLabel_volumeName_iff
      (Compose.Normal.isLabel_of_mounts hnormal hmounts)).1 (hfiles _ hshown)
  · intro hroom volume hmem
    obtain ⟨service, hservice, kind, name, definition, hmounts, rfl⟩ :=
      (Content.Objects.mem_names_volumes hof hobjects).1 hmem
    exact (Compose.FileUse.isLabel_volumeName_iff
      (Compose.Normal.isLabel_of_mounts hnormal hmounts)).2
        (hroom service hservice kind name definition hmounts)

end HashedPod

/-! ## Ports of the service -/

namespace Route

variable {name : String}

/-- A label that is short enough is the name of a port if it begins with a letter. -/
theorem isName_of_isLabel (h : IsLabel maxNameLength name)
    (hfirst : name.toList.head?.any isLower = true) : isName name = true := by
  obtain ⟨hsize, hlabel⟩ := isLabel_iff.1 h
  simp only [isLabelText, Bool.and_eq_true] at hlabel
  simp only [isName, Bool.and_eq_true, decide_eq_true_eq]
  exact ⟨⟨hsize, hfirst⟩, hlabel.1.1⟩

/-- To be a label, the name of a port lacks at most a letter or a digit at its end. -/
theorem isLabel_iff_of_isName (h : isName name = true) :
    IsLabel maxNameLength name ↔ name.toList.getLast? ≠ some '-' := by
  simp only [isName, Bool.and_eq_true, decide_eq_true_eq] at h
  obtain ⟨⟨hsize, hfirst⟩, hall⟩ := h
  have hfront : name.toList.head?.any Naming.isLowerOrDigit = true := by
    obtain ⟨first, hfirst, hlower⟩ := (Option.any_eq_true _ _).1 hfirst
    rw [hfirst, Option.any_some, Naming.isLowerOrDigit, Bool.or_eq_true]
    exact .inl hlower
  rw [isLabel_iff, and_iff_right hsize]
  exact Naming.isLabelText_iff_getLast? hall hfront

/-- A name that is made from the number of a port is a label. -/
theorem isLabel_number (port : Port) : IsLabel maxNameLength ("p" ++ toString port.toNat) := by
  have hdigits : isLabelText (toString port.toNat).toList = true := by
    rw [Nat.toString_eq_ofList_toDigits, String.toList_ofList]
    exact Naming.isLabelText_digits port.toNat
  have hlength : (toString port.toNat).length ≤ 5 := by
    rw [Nat.toString_eq_ofList_toDigits, String.length_ofList]
    exact Nat.toDigits_length 10 _ 5 (by decide) (port.toNat_lt.trans (by decide))
  have hsize : (toString port.toNat).utf8ByteSize ≤ 5 := by
    rwa [Naming.utf8ByteSize_of_isLabelText hdigits]
  have hlabel : IsLabel 5 (toString port.toNat) := isLabel_iff.2 ⟨hsize, hdigits⟩
  apply (Naming.isLabel_append_iff (by decide) (by decide) hlabel).2
  exact (Nat.add_le_add_left hsize _).trans (by decide)

/-- The name that is made of a port number is the name of a port. -/
theorem isName_number (port : Port) : isName ("p" ++ toString port.toNat) = true := by
  apply isName_of_isLabel (isLabel_number port)
  rw [String.toList_append]
  rfl

end Route

namespace AppScope

variable {ports : Compose.PublishedPorts} {domain? : Option String} {rules : List AppRule}
  {routes : List Route}

/-- Each port of a service has the name of a port. -/
theorem isName_servicePorts (h : Route.resolve ports domain? rules = .ok routes) :
    ∀ port ∈ servicePorts routes ports, Route.isName port.name = true := by
  intro port hport
  by_cases hroutes : routes = []
  · subst hroutes
    obtain ⟨mapping, -, rfl⟩ := List.mem_map.1 hport
    exact Route.isName_number mapping.1
  · rw [servicePorts_of_ne_nil hroutes] at hport
    obtain ⟨route, hroute, rfl⟩ := List.mem_map.1 hport
    obtain ⟨rule, -, hof⟩ := exists_left_of_forall₂ (Route.resolve_eq_ok.1 h).1 hroute
    rw [hof.name_eq]
    exact hof.isName

/-- The names of ports are labels exactly if no rule has a name that ends in a hyphen. -/
theorem isLabel_servicePorts_iff (h : Route.resolve ports domain? rules = .ok routes) :
    (∀ port ∈ servicePorts routes ports, IsLabel Route.maxNameLength port.name) ↔
      ∀ rule ∈ rules, rule.name.toList.getLast? ≠ some '-' := by
  by_cases hroutes : routes = []
  · subst hroutes
    have hrules : rules = [] := List.map_eq_nil_iff.1 (Route.map_name_of_resolve h).symm
    subst hrules
    refine iff_of_true (fun port hport => ?_) nofun
    obtain ⟨mapping, -, rfl⟩ := List.mem_map.1 hport
    exact Route.isLabel_number mapping.1
  · have hnames := map_name_servicePorts h hroutes
    calc (∀ port ∈ servicePorts routes ports, IsLabel Route.maxNameLength port.name)
      _ ↔ ∀ port ∈ servicePorts routes ports, port.name.toList.getLast? ≠ some '-' :=
        forall₂_congr fun port hport =>
          Route.isLabel_iff_of_isName (isName_servicePorts h port hport)
      _ ↔ ∀ name ∈ rules.map (·.name), name.toList.getLast? ≠ some '-' := by
        rw [← hnames, List.forall_mem_map]
      _ ↔ ∀ rule ∈ rules, rule.name.toList.getLast? ≠ some '-' := List.forall_mem_map

end AppScope

/-! ## All names -/

namespace Job

variable {job : Job} {tree : SourceTree} {project : Compose.Project} {normal : Compose.Normal}
  {bindings : List VolumeBinding} {bound : List BoundVolume} {scope : Content.Scope}
  {credentials? : Option String} {objects : Content.Objects} {domain? : Option String}
  {rules : List AppRule} {routes : List Route}

/-- The volumes of a pod are labels of at most 67 characters, and of at most 63 exactly if no config
or secret that a service mounts has a name of more than 59. The ports of the service have names of
ports, and these are labels of at most 15 characters exactly if no rule has a name that ends with a
hyphen. -/
theorem names_are_labels_iff (setting : HashedPod.Setting)
    (hnormal : job.normalize tree project = .ok normal) (hbound : job.bindAll bindings = .ok bound)
    (hobjects : Content.Objects.ofNormal scope normal credentials? = .ok objects)
    (hroutes : Route.resolve normal.ports domain? rules = .ok routes) :
    let pod := HashedPod.specOf normal objects bound setting
    (∀ volume ∈ pod.volumes, IsLabel 67 volume.name) ∧
    ((∀ volume ∈ pod.volumes, IsLabel 63 volume.name) ↔
      ∀ service ∈ project.services, ∀ kind name definition,
        project.Mounts service kind name definition → name.utf8ByteSize ≤ 59) ∧
    ∀ (front : AppScope) service, front.service? routes normal.ports = some service →
      (∀ port ∈ service.spec.ports, Route.IsPortName port.name) ∧
      ((∀ port ∈ service.spec.ports, IsLabel 15 port.name) ↔
        ∀ rule ∈ rules, rule.name.toList.getLast? ≠ some '-') := by
  obtain ⟨hvolumes, hbinds⟩ := binds_of_bindAll hbound
  have hnames : bound.map (·.binding.volume) = (job.context tree).volumes.map (·.name) :=
    map_volume_of_binds hvolumes hbinds
  refine ⟨?_, ?_, ?_⟩
  · apply (HashedPod.isLabel_volumes_iff hnormal hobjects hnames (by decide)).2
    intro service hservice kind name definition hmounts
    have hlabel := Compose.Normal.isLabel_of_mounts hnormal hmounts
    exact Nat.add_le_add_right (isLabel_iff.1 hlabel).1 4
  · rw [HashedPod.isLabel_volumes_iff hnormal hobjects hnames (by decide)]
    simp only [← Nat.le_sub_iff_add_le (show 4 ≤ 63 by decide), Nat.reduceSub]
  · intro front service hservice
    rw [AppScope.ports_of_service? hservice]
    exact ⟨fun port hport => Route.isName_iff.1 (AppScope.isName_servicePorts hroutes port hport),
      AppScope.isLabel_servicePorts_iff hroutes⟩

/-- A service that publishes a port and mounts a config. -/
def configJob (config : String) : Job :=
  Progress.smallJob [⟨"data", 1048576⟩]
    ("services:\n  web:\n    image: nginx\n    ports: ['8080:80']\n    configs: [" ++ config ++
      "]\nconfigs:\n  " ++ config ++ ":\n    content: hello\n")

/-- The pod of `configJob`, and its service with a rule for the published port. -/
def configPodAndService? (config rule : String) : Option (PodSpec × Service) := do
  let job := configJob config
  let project ← (Compose.Project.parse job.target.app.compose).toOption
  let normal ← (job.normalize .empty project).toOption
  let bound ← (job.bindAll [⟨"data", ⟨"disk-1", 0⟩, none⟩]).toOption
  let objects ← (Content.Objects.ofNormal job.contentScope normal none).toOption
  let routes ← (Route.resolve normal.ports none [⟨rule, 8080, []⟩]).toOption
  let service ← job.scope.service? routes normal.ports
  return (HashedPod.specOf normal objects bound ⟨"", .empty⟩, service)

/-- A name of 60 characters. -/
def longName : String := "aaaaaaaaaaaaaaaaaaaaaaaaaaaaaaaaaaaaaaaaaaaaaaaaaaaaaaaaaaaa"

/-- A name of 60 characters and one that ends in a hyphen lead to names that are no labels. -/
theorem names_are_no_labels_for_longName :
    ∃ pod service, configPodAndService? longName "web-" = some (pod, service) ∧
      (¬ ∀ volume ∈ pod.volumes, IsLabel 63 volume.name) ∧
      ¬ ∀ port ∈ service.spec.ports, IsLabel 15 port.name := by
  have hok : ((configPodAndService? longName "web-").any fun made =>
      (¬ ∀ volume ∈ made.1.volumes, IsLabel 63 volume.name) ∧
        ¬ ∀ port ∈ made.2.spec.ports, IsLabel 15 port.name) = true := by
    decide +kernel
  obtain ⟨⟨pod, service⟩, hmade, hnames⟩ := (Option.any_eq_true _ _).1 hok
  exact ⟨pod, service, hmade, of_decide_eq_true hnames⟩

/-- The names that site and web lead to are labels. -/
theorem names_are_labels_for_site :
    ∃ pod service, configPodAndService? "site" "web" = some (pod, service) ∧
      pod.volumes.map (·.name) = ["data", "cfg-site"] ∧
      service.spec.ports.map (·.name) = ["web"] ∧
      (∀ volume ∈ pod.volumes, IsLabel 67 volume.name) ∧
      ∀ port ∈ service.spec.ports, IsLabel 15 port.name := by
  have hok : ((configPodAndService? "site" "web").any fun made =>
      made.1.volumes.map (·.name) = ["data", "cfg-site"] ∧
        made.2.spec.ports.map (·.name) = ["web"]) = true := by
    decide +kernel
  obtain ⟨⟨pod, service⟩, hmade, hnames⟩ := (Option.any_eq_true _ _).1 hok
  obtain ⟨hvolumes, hports⟩ := of_decide_eq_true hnames
  have hsteps := hmade
  unfold configPodAndService? at hsteps
  obtain ⟨project, hproject, hsteps⟩ := Option.bind_eq_some_iff.1 hsteps
  obtain ⟨normal, hnormal, hsteps⟩ := Option.bind_eq_some_iff.1 hsteps
  obtain ⟨bound, hbound, hsteps⟩ := Option.bind_eq_some_iff.1 hsteps
  obtain ⟨objects, hobjects, hsteps⟩ := Option.bind_eq_some_iff.1 hsteps
  obtain ⟨routes, hroutes, hsteps⟩ := Option.bind_eq_some_iff.1 hsteps
  obtain ⟨made, hservice, hsteps⟩ := Option.bind_eq_some_iff.1 hsteps
  cases hsteps
  obtain ⟨hlabels, -, hservices⟩ := names_are_labels_iff ⟨"", .empty⟩
    (Except.toOption_eq_some.1 hnormal) (Except.toOption_eq_some.1 hbound)
    (Except.toOption_eq_some.1 hobjects) (Except.toOption_eq_some.1 hroutes)
  have hrules : ∀ rule ∈ [(⟨"web", 8080, []⟩ : AppRule)],
      rule.name.toList.getLast? ≠ some '-' := by decide
  exact ⟨_, _, hmade, hvolumes, hports, hlabels, (hservices _ _ hservice).2.2 hrules⟩

end Job

end ComposeCluster

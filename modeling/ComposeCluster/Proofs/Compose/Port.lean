import ComposeCluster.Proofs.Compose.Normal
import Mathlib.Data.List.Nodup

/-!
# Ports that services publish

All services of a project write into one table of published ports, and each of them into the list
of ports of its own container. `PublishedPorts.Records` says that the table holds exactly what was
asked for so far; a mapping that is accepted preserves it (`Records.publish`), and so do the
mappings of a service (`Records.publishAll`) and of all services (`Records.containersOf`). Hence a
host port leads to one container port, a container port belongs to one service, and it is listed
once in the whole pod (`Normal.HasPortsOf.nodup_ports`).
-/

set_option autoImplicit false

namespace ComposeCluster.Compose

/-- A mapping and the name of the service that asks for it. -/
abbrev Publication := String × PortMapping

/-- Some service of a name asks for a host port to lead to a container port. -/
def Asks (publications : List Publication) (service : String) (host target : Port) : Prop :=
  ∃ mapping, (service, mapping) ∈ publications ∧
    PublishedPorts.portsOf service mapping = .ok (host, target)

/-- What is asked for in two lists is asked for in one of them. -/
theorem asks_append {front back : List Publication} {service : String} {host target : Port} :
    Asks (front ++ back) service host target ↔
      Asks front service host target ∨ Asks back service host target := by
  simp only [Asks, List.mem_append, or_and_right, exists_or]

/-- A single publication asks for the ports of its mapping. -/
theorem asks_singleton {asking service : String} {mapping : PortMapping} {host target : Port} :
    Asks [(asking, mapping)] service host target ↔
      service = asking ∧ PublishedPorts.portsOf asking mapping = .ok (host, target) := by
  constructor
  · rintro ⟨other, hmem, hports⟩
    obtain ⟨rfl, rfl⟩ := Prod.mk.inj (List.mem_singleton.1 hmem)
    exact ⟨rfl, hports⟩
  · rintro ⟨rfl, hports⟩
    exact ⟨mapping, List.mem_singleton_self _, hports⟩

namespace Service

/-- A service has a mapping from a host port to a container port. -/
def Publishes (service : Service) (host target : Port) : Prop :=
  ∃ mapping ∈ service.ports, PublishedPorts.portsOf service.name mapping = .ok (host, target)

def publications (service : Service) : List Publication :=
  service.ports.map fun mapping => (service.name, mapping)

/-- Services ask for what one of them publishes. -/
theorem asks_publications {services : List Service} {name : String} {host target : Port} :
    Asks (services.flatMap publications) name host target ↔
      ∃ service ∈ services, service.name = name ∧ service.Publishes host target := by
  constructor
  · rintro ⟨mapping, hmem, hports⟩
    obtain ⟨service, hservice, hmem⟩ := List.mem_flatMap.1 hmem
    obtain ⟨other, hother, heq⟩ := List.mem_map.1 hmem
    obtain ⟨rfl, rfl⟩ := Prod.mk.inj heq
    exact ⟨service, hservice, rfl, other, hother, hports⟩
  · rintro ⟨service, hservice, rfl, mapping, hmapping, hports⟩
    have hmem : (service.name, mapping) ∈ service.publications := List.mem_map_of_mem hmapping
    exact ⟨mapping, List.mem_flatMap.2 ⟨service, hservice, hmem⟩, hports⟩

end Service

namespace PublishedPorts

variable {table after : PublishedPorts} {service : String} {mapping : PortMapping} {target : Port}
  {publications : List Publication}

/-- A mapping is accepted exactly if it contradicts neither of the two maps. -/
theorem publish_eq_ok : table.publish service mapping = .ok (target, after) ↔
    ∃ host, portsOf service mapping = .ok (host, target) ∧
      (∀ owner, table.owners.get? target = some owner → owner = service) ∧
      (∀ previous, table.hosts.get? host = some previous → previous = target) ∧
      after = ⟨table.hosts.insert host target, table.owners.insert target service⟩ := by
  have hfilter {α : Type} [DecidableEq α] (found : Option α) (expected : α) :
      found.filter (· != expected) = none ↔ ∀ value, found = some value → value = expected := by
    cases found <;> simp
  unfold publish
  constructor
  · intro h
    split at h
    · cases h
    · rename_i host container hports
      split at h
      · cases h
      · rename_i howner
        split at h
        · cases h
        · rename_i hprevious
          cases h
          exact ⟨host, hports, (hfilter _ _).1 howner, (hfilter _ _).1 hprevious, rfl⟩
  · rintro ⟨host, hports, howner, hprevious, rfl⟩
    rw [hports]
    dsimp only
    rw [(hfilter _ _).2 howner, (hfilter _ _).2 hprevious]

/-- A table holds what was asked for, and nothing else. -/
structure Records (publications : List Publication) (table : PublishedPorts) : Prop where
  hosts : ∀ host target, table.hosts.get? host = some target ↔
    ∃ service, Asks publications service host target
  owners : ∀ target service, table.owners.get? target = some service ↔
    ∃ host, Asks publications service host target

namespace Records

/-- An empty table holds what nobody asked for. -/
theorem empty : Records [] PublishedPorts.empty where
  hosts _ _ := ⟨nofun, fun ⟨_, _, hmem, _⟩ => nomatch hmem⟩
  owners _ _ := ⟨nofun, fun ⟨_, _, hmem, _⟩ => nomatch hmem⟩

/-- After a mapping was published the table holds it as well. -/
theorem publish (hrecords : Records publications table)
    (h : table.publish service mapping = .ok (target, after)) :
    Records (publications ++ [(service, mapping)]) after := by
  obtain ⟨host, hports, howner, hhost, rfl⟩ := publish_eq_ok.1 h
  have hasks (name : String) (asked container : Port) :
      Asks (publications ++ [(service, mapping)]) name asked container ↔
        Asks publications name asked container ∨ name = service ∧ asked = host ∧
          container = target := by
    rw [asks_append, asks_singleton, hports, Except.ok.injEq, Prod.mk.injEq, eq_comm (a := host),
      eq_comm (a := target)]
  refine ⟨fun asked container => ?_, fun container name => ?_⟩
  · simp only [hasks, SortedMap.get?_insert, exists_or, ← hrecords.hosts]
    by_cases hasked : asked = host
    · subst hasked
      simp only [if_true, true_and, exists_eq_left, Option.some.injEq]
      constructor
      · intro heq
        exact .inr heq.symm
      · rintro (hbefore | rfl)
        · exact (hhost container hbefore).symm
        · rfl
    · simp [hasked]
  · simp only [hasks, SortedMap.get?_insert, exists_or, ← hrecords.owners]
    by_cases hcontainer : container = target
    · subst hcontainer
      simp only [if_true, and_true, exists_eq_right, Option.some.injEq]
      constructor
      · intro heq
        exact .inr heq.symm
      · rintro (hbefore | rfl)
        · exact (howner name hbefore).symm
        · rfl
    · simp [hcontainer]

/-- The mappings of a service are recorded one after the other. -/
theorem publishAll {mappings : List PortMapping} {ports listed : List Port}
    (hrecords : Records publications table)
    (h : Compose.publishAll service table ports mappings = .ok (listed, after)) :
    Records (publications ++ mappings.map fun mapping => (service, mapping)) after := by
  induction mappings generalizing publications table ports with
  | nil =>
    cases h
    rwa [List.map_nil, List.append_nil]
  | cons mapping rest ih =>
    rw [Compose.publishAll] at h
    split at h
    · cases h
    · rename_i port next hpublish
      have hrest := ih (hrecords.publish hpublish) h
      rwa [List.append_assoc] at hrest

end Records

end PublishedPorts

/-! ## Ports of a container -/

section Listed

variable {table after : PublishedPorts} {service : String} {mappings : List PortMapping}
  {ports listed : List Port}

/-- A port is in the list after it was added, or was before. -/
theorem mem_addPort {port added : Port} :
    port ∈ addPort ports added ↔ port ∈ ports ∨ port = added := by
  unfold addPort
  split
  · rename_i hcontains
    rw [List.contains_iff_mem] at hcontains
    exact ⟨.inl, fun h => h.elim id fun heq => heq ▸ hcontains⟩
  · rw [List.mem_append, List.mem_singleton]

/-- No port is listed twice. -/
theorem nodup_addPort {added : Port} (h : ports.Nodup) : (addPort ports added).Nodup := by
  unfold addPort
  split
  · exact h
  · rename_i hcontains
    rw [List.contains_iff_mem] at hcontains
    rw [List.nodup_append]
    refine ⟨h, List.nodup_singleton _, fun port hmem other hother heq => ?_⟩
    obtain rfl := List.mem_singleton.1 hother
    exact hcontains (heq ▸ hmem)

/-- A container lists the container ports of its mappings, each once. -/
theorem listed_of_publishAll (hnodup : ports.Nodup)
    (h : publishAll service table ports mappings = .ok (listed, after)) :
    listed.Nodup ∧ ∀ port, port ∈ listed ↔ port ∈ ports ∨
      ∃ mapping ∈ mappings, ∃ host, PublishedPorts.portsOf service mapping = .ok (host, port) := by
  induction mappings generalizing table ports with
  | nil =>
    cases h
    exact ⟨hnodup, fun port => by simp⟩
  | cons mapping rest ih =>
    rw [publishAll] at h
    split at h
    · cases h
    · rename_i target next hpublish
      obtain ⟨host, hports, -⟩ := PublishedPorts.publish_eq_ok.1 hpublish
      obtain ⟨hlisted, hmem⟩ := ih (nodup_addPort hnodup) h
      refine ⟨hlisted, fun port => ?_⟩
      have hfirst : (∃ asked, PublishedPorts.portsOf service mapping = .ok (asked, port)) ↔
          port = target := by
        rw [hports]
        simp [eq_comm]
      rw [hmem, mem_addPort, List.exists_mem_cons_iff, hfirst, or_assoc]

end Listed

/-- The ports of the container of a service are those that it publishes. -/
structure ListsPortsOf (service : Service) (container : Container) : Prop where
  name_eq : container.name = service.name
  nodup : container.ports.Nodup
  mem_iff : ∀ target, target ∈ container.ports ↔ ∃ host, service.Publishes host target

section Containers

variable {context : Context} {project : Project} {service : Service} {services : List Service}
  {shared after : Shared} {container : Container} {containers : List Container}
  {publications : List Publication}

/-- A container has the name of its service and the ports that were published for it. -/
theorem ports_of_containerOf
    (h : containerOf context project service shared = .ok (container, after)) :
    container.name = service.name ∧
      publishAll service.name shared.ports [] service.ports =
        .ok (container.ports, after.ports) := by
  obtain ⟨hports, -, -, -, -⟩ := makesContainer h
  exact ⟨rfl, hports⟩

/-- A container lists the ports of its service. -/
theorem listsPortsOf_of_containerOf
    (h : containerOf context project service shared = .ok (container, after)) :
    ListsPortsOf service container := by
  obtain ⟨hname, hpublish⟩ := ports_of_containerOf h
  obtain ⟨hnodup, hmem⟩ := listed_of_publishAll List.nodup_nil hpublish
  refine ⟨hname, hnodup, fun target => ?_⟩
  simp only [hmem, List.not_mem_nil, false_or, Service.Publishes]
  constructor
  · rintro ⟨mapping, hmapping, host, hports⟩
    exact ⟨host, mapping, hmapping, hports⟩
  · rintro ⟨host, mapping, hmapping, hports⟩
    exact ⟨mapping, hmapping, host, hports⟩

/-- The table records what all services publish. -/
theorem PublishedPorts.Records.containersOf (hrecords : shared.ports.Records publications)
    (h : Compose.containersOf context project services shared = .ok (containers, after)) :
    after.ports.Records (publications ++ services.flatMap Service.publications) ∧
      List.Forall₂ ListsPortsOf services containers := by
  refine containersOf_induction (motive := fun done made shared =>
    shared.ports.Records (publications ++ done.flatMap Service.publications) ∧
      List.Forall₂ ListsPortsOf done made) ?_ ⟨?_, .nil⟩ h
  · rintro done made service shared container after ⟨hrecords, hmade⟩ hcontainer
    obtain ⟨-, hpublish⟩ := ports_of_containerOf hcontainer
    refine ⟨?_, List.rel_append hmade (.cons (listsPortsOf_of_containerOf hcontainer) .nil)⟩
    rw [List.flatMap_append, List.flatMap_singleton, ← List.append_assoc]
    exact hrecords.publishAll hpublish
  · rwa [List.flatMap_nil, List.append_nil]

end Containers

/-! ## Ports of a pod -/

/-- The published ports of a normal form and those of its containers come from the services. -/
structure Normal.HasPortsOf (normal : Normal) (project : Project) : Prop where
  table : normal.ports.Records (project.services.flatMap Service.publications)
  containers : List.Forall₂ ListsPortsOf project.services normal.containers

namespace Normal

variable {context : Context} {project : Project} {normal : Normal} {service other : Service}
  {container : Container} {host target : Port}

/-- The ports of a normalized project come from its services. -/
theorem hasPortsOf_ofProject (h : ofProject context project = .ok normal) :
    normal.HasPortsOf project := by
  obtain ⟨warnings, -, -, -, hcontainers⟩ := ofProject_eq_ok h
  obtain ⟨htable, hlists⟩ := PublishedPorts.Records.empty.containersOf hcontainers
  exact ⟨htable, hlists⟩

namespace HasPortsOf

/-- A host port leads to a container port exactly if a service publishes it so. -/
theorem targetOf?_eq_some (h : normal.HasPortsOf project) :
    normal.ports.targetOf? host = some target ↔
      ∃ service ∈ project.services, service.Publishes host target := by
  rw [PublishedPorts.targetOf?, h.table.hosts]
  simp only [Service.asks_publications]
  constructor
  · rintro ⟨name, service, hservice, -, hpublishes⟩
    exact ⟨service, hservice, hpublishes⟩
  · rintro ⟨service, hservice, hpublishes⟩
    exact ⟨service.name, service, hservice, rfl, hpublishes⟩

/-- The owner of a published container port is the service that publishes it. -/
theorem owner_eq (h : normal.HasPortsOf project) (hservice : service ∈ project.services)
    (hpublishes : service.Publishes host target) :
    normal.ports.owners.get? target = some service.name :=
  (h.table.owners _ _).2 ⟨host, Service.asks_publications.2 ⟨service, hservice, rfl, hpublishes⟩⟩

/-- The owner of a port of a container is the service of this container. -/
theorem owner_of_mem_ports (h : normal.HasPortsOf project)
    (hcontainer : container ∈ normal.containers) (hmem : target ∈ container.ports) :
    normal.ports.owners.get? target = some container.name := by
  obtain ⟨service, hservice, hlists⟩ := exists_left_of_forall₂ h.containers hcontainer
  obtain ⟨host, hpublishes⟩ := (hlists.mem_iff target).1 hmem
  rw [hlists.name_eq]
  exact h.owner_eq hservice hpublishes

/-- No two containers list one port, and none lists a port twice. -/
theorem nodup_ports (h : normal.HasPortsOf project)
    (hnames : (project.services.map (·.name)).Nodup) :
    (normal.containers.flatMap (·.ports)).Nodup := by
  have hsame : project.services.map (·.name) = normal.containers.map (·.name) :=
    map_eq_of_forall₂ h.containers fun _ _ hlists => hlists.name_eq.symm
  have hapart : normal.containers.Pairwise fun first second => first.name ≠ second.name := by
    rw [hsame] at hnames
    exact List.pairwise_map.1 hnames
  rw [List.nodup_flatMap]
  refine ⟨fun container hmem => ?_, hapart.imp_of_mem ?_⟩
  · obtain ⟨service, -, hlists⟩ := exists_left_of_forall₂ h.containers hmem
    exact hlists.nodup
  · intro first second hfirst hsecond hne port hport hother
    have howner := h.owner_of_mem_ports hfirst hport
    rw [h.owner_of_mem_ports hsecond hother] at howner
    exact hne (Option.some.inj howner).symm

/-- A host port is published by one service. -/
theorem publisher_unique (h : normal.HasPortsOf project)
    (hnames : (project.services.map (·.name)).Nodup) (hservice : service ∈ project.services)
    (hother : other ∈ project.services) {asked : Port} (hpublishes : service.Publishes host target)
    (hasked : other.Publishes host asked) : other = service := by
  have htarget := h.targetOf?_eq_some.2 ⟨service, hservice, hpublishes⟩
  rw [h.targetOf?_eq_some.2 ⟨other, hother, hasked⟩] at htarget
  obtain rfl := Option.some.inj htarget
  have howner := h.owner_eq hservice hpublishes
  rw [h.owner_eq hother hasked] at howner
  exact List.inj_on_of_nodup_map hnames hother hservice (Option.some.inj howner)

end HasPortsOf

end Normal

end ComposeCluster.Compose

import ComposeCluster.App.Workload
import ComposeCluster.Proofs.App.Ingresses
import ComposeCluster.SortedMap.Lemmas

/-!
# Where backends lead

An ingress leads to a port of the service by the name of the port, and the name is that of the rule.
Rules may share a name: those for one container port have to. So a backend may name several ports of
the service, and it does not matter which of them it finds as long as rules that share a name are
for one container port (`AppIngresses.backends_lead_to_targets`).
-/

set_option autoImplicit false

namespace ComposeCluster

/-- The mappings of a table are those that it finds by their host ports. -/
theorem Compose.PublishedPorts.mem_mappings {ports : PublishedPorts} {host target : Port} :
    (host, target) ∈ ports.mappings ↔ ports.targetOf? host = some target :=
  SortedMap.get?_eq_some.symm

/-! ## Ports of the service -/

namespace AppScope

variable {scope : AppScope} {ports : Compose.PublishedPorts} {domain? : Option String}
  {rules : List AppRule} {routes : List Route} {port : ServicePort}

/-- With routes, a service has a port for each of them. -/
theorem servicePorts_of_ne_nil (hroutes : routes ≠ []) :
    servicePorts routes ports = routes.map fun route =>
      ⟨route.name, route.port, route.targetPort⟩ :=
  if_neg (by rwa [List.isEmpty_iff])

/-- Without routes, a service has a port for each published one, named for its number. -/
theorem servicePorts_nil :
    servicePorts [] ports = ports.mappings.map fun mapping =>
      ⟨"p" ++ toString mapping.1.toNat, mapping.1, mapping.2⟩ := rfl

/-- Each port of a service leads to the container port behind the published one. -/
theorem targetOf?_of_mem_servicePorts (h : Route.resolve ports domain? rules = .ok routes)
    (hmem : port ∈ servicePorts routes ports) :
    ports.targetOf? port.port = some port.targetPort := by
  by_cases hroutes : routes = []
  · subst hroutes
    obtain ⟨⟨host, target⟩, hmapping, rfl⟩ := List.mem_map.1 hmem
    exact Compose.PublishedPorts.mem_mappings.1 hmapping
  · rw [servicePorts_of_ne_nil hroutes] at hmem
    obtain ⟨route, hroute, rfl⟩ := List.mem_map.1 hmem
    exact Route.targetOf?_of_resolve h hroute

/-- No two ports of a service have one number. -/
theorem nodup_ports_servicePorts (h : Route.resolve ports domain? rules = .ok routes) :
    ((servicePorts routes ports).map (·.port)).Nodup := by
  by_cases hroutes : routes = []
  · subst hroutes
    rw [servicePorts_nil, List.map_map]
    exact ports.hosts.nodup_keys
  · rw [servicePorts_of_ne_nil hroutes, List.map_map]
    exact Route.nodup_ports_of_resolve h

/-- With rules the names of ports are those of the rules. -/
theorem map_name_servicePorts (h : Route.resolve ports domain? rules = .ok routes)
    (hroutes : routes ≠ []) :
    (servicePorts routes ports).map (·.name) = rules.map (·.name) := by
  rw [servicePorts_of_ne_nil hroutes, List.map_map, ← Route.map_name_of_resolve h]
  rfl

/-- Without rules the names of ports are made from their numbers. -/
theorem nodup_names_servicePorts_iff (h : Route.resolve ports domain? rules = .ok routes) :
    ((servicePorts routes ports).map (·.name)).Nodup ↔ (rules.map (·.name)).Nodup := by
  by_cases hroutes : routes = []
  · subst hroutes
    rw [← Route.map_name_of_resolve h]
    refine iff_of_true ?_ List.nodup_nil
    have hnames := ports.hosts.nodup_keys.map (f := fun host => "p" ++ toString host.toNat)
      fun _ _ heq => Port.toString_toNat_inj.1 ((String.append_right_inj _).1 heq)
    rw [SortedMap.keys, List.map_map] at hnames
    rw [servicePorts_nil, List.map_map]
    exact hnames
  · rw [map_name_servicePorts h hroutes]

/-- With routes, as many ports of a service have a name as rules do. -/
theorem countP_servicePorts (h : Route.resolve ports domain? rules = .ok routes)
    (hroutes : routes ≠ []) (name : String) :
    (servicePorts routes ports).countP (·.name == name) = rules.countP (·.name == name) := by
  have hcount := congrArg (List.countP (· == name)) (map_name_servicePorts h hroutes)
  rwa [List.countP_map, List.countP_map] at hcount

/-- A service has the ports that its routes make. -/
theorem ports_of_service? {service : Service} (h : scope.service? routes ports = some service) :
    service.spec.ports = servicePorts routes ports := by
  unfold service? at h
  dsimp only at h
  split at h
  · cases h
  · cases h
    rfl

/-- With routes there is a service. -/
theorem exists_service? (scope : AppScope) (hroutes : routes ≠ []) :
    ∃ service, scope.service? routes ports = some service ∧
      service.metadata.name = scope.component.resource ∧
      service.spec.ports = servicePorts routes ports := by
  have hports : ¬ (servicePorts routes ports).isEmpty = true := by
    rw [servicePorts_of_ne_nil hroutes, List.isEmpty_iff, List.map_eq_nil_iff]
    exact hroutes
  unfold service?
  dsimp only
  rw [if_neg hports]
  exact ⟨_, rfl, rfl, rfl⟩

end AppScope

/-! ## Backends -/

namespace AppIngresses

open AppScope (servicePorts)

variable {ports : Compose.PublishedPorts} {domain? : Option String} {rules : List AppRule}
  {routes : List Route}

/-- Where rules that share a name are for one container port, so are their routes. -/
theorem targetPort_eq_of_name_eq (h : Route.resolve ports domain? rules = .ok routes)
    (hagree : ∀ first ∈ rules, ∀ second ∈ rules, first.name = second.name →
      ports.targetOf? first.port = ports.targetOf? second.port)
    {route other : Route} (hroute : route ∈ routes) (hother : other ∈ routes)
    (hname : other.name = route.name) : other.targetPort = route.targetPort := by
  have hroutes := (Route.resolve_eq_ok.1 h).1
  obtain ⟨rule, hrule, hof⟩ := exists_left_of_forall₂ hroutes hroute
  obtain ⟨otherRule, hotherRule, hotherOf⟩ := exists_left_of_forall₂ hroutes hother
  have hnames : otherRule.name = rule.name := by rw [← hotherOf.name_eq, hname, hof.name_eq]
  have htargets := hagree otherRule hotherRule rule hrule hnames
  rw [hotherOf.target, hof.target] at htargets
  exact Option.some.inj htargets

/-- The names of the ports of the service are different exactly if those of the rules are. Where
rules that share a name are for one container port, each backend names as many ports as there are
rules of its name, and all of them lead where its own rule does. -/
theorem backends_lead_to_targets (h : Route.resolve ports domain? rules = .ok routes)
    (hagree : ∀ first ∈ rules, ∀ second ∈ rules, first.name = second.name →
      ports.targetOf? first.port = ports.targetOf? second.port) :
    (((servicePorts routes ports).map (·.name)).Nodup ↔ (rules.map (·.name)).Nodup) ∧
    ∀ scope setting ingresses, ofRoutes scope setting routes = .ok ingresses →
      ∀ ingress ∈ ingresses.toList, ∀ rule ∈ ingress.spec.rules, ∀ path ∈ rule.paths,
        ∃ route ∈ routes, Serves setting route rule.host ∧
          (∀ other ∈ routes, Serves setting other rule.host → other = route) ∧
          ports.targetOf? route.port = some route.targetPort ∧
          path.backend.port = route.name ∧
          ∃ service, scope.service? routes ports = some service ∧
            service.metadata.name = path.backend.service ∧
            service.spec.ports.countP (·.name == path.backend.port) =
              rules.countP (·.name == path.backend.port) ∧
            0 < rules.countP (·.name == path.backend.port) ∧
            ((rules.map (·.name)).Nodup → rules.countP (·.name == path.backend.port) = 1) ∧
            ∀ port ∈ service.spec.ports, port.name = path.backend.port →
              port.targetPort = route.targetPort := by
  refine ⟨AppScope.nodup_names_servicePorts_iff h, ?_⟩
  intro scope setting ingresses hmade ingress hingress rule hrule path hpath
  obtain ⟨route, hroute, host, hserves, rfl⟩ := exists_serves_of_mem_rules hmade hingress hrule
  obtain rfl := List.mem_singleton.1 hpath
  have hroutes : routes ≠ [] := List.ne_nil_of_mem hroute
  obtain ⟨service, hservice, hname, hports⟩ := AppScope.exists_service? scope hroutes
  have hmem : route.name ∈ rules.map (·.name) := by
    rw [← Route.map_name_of_resolve h]
    exact List.mem_map_of_mem hroute
  have hcount : rules.countP (·.name == route.name) =
      (rules.map (·.name)).count route.name := by
    rw [List.count_eq_countP, List.countP_map]
    rfl
  refine ⟨route, hroute, hserves, fun other hother => eq_of_serves h hmade hroute hother hserves,
    Route.targetOf?_of_resolve h hroute, rfl, service, hservice, hname, ?_, ?_, ?_, ?_⟩
  · rw [hports]
    exact AppScope.countP_servicePorts h hroutes route.name
  · show 0 < rules.countP (·.name == route.name)
    rw [hcount]
    exact List.count_pos_iff.2 hmem
  · intro hnodup
    show rules.countP (·.name == route.name) = 1
    rw [hcount]
    exact List.count_eq_one_of_mem hnodup hmem
  · rw [hports, AppScope.servicePorts_of_ne_nil hroutes]
    intro port hport hnamed
    obtain ⟨other, hother, rfl⟩ := List.mem_map.1 hport
    exact targetPort_eq_of_name_eq h hagree hroute hother hnamed

/-- Two host ports for one container port, and a rule for each of them. -/
def webPorts : Compose.PublishedPorts := ⟨.ofList [(8080, 80), (8081, 80)], .singleton 80 "web"⟩

def webRules : List AppRule := [⟨"web", 8080, ["a.example.com"]⟩, ⟨"web", 8081, []⟩]

/-- Two rules of one name for one container port make two ports of this name. -/
theorem port_names_repeat_for_web :
    ∃ routes, Route.resolve webPorts Option.none webRules = .ok routes ∧
      ¬ ((servicePorts routes webPorts).map (·.name)).Nodup ∧
      (servicePorts routes webPorts).countP (·.name == "web") = 2 :=
  ⟨[⟨"web", 8080, 80, ["a.example.com"]⟩, ⟨"web", 8081, 80, []⟩], by rfl, by decide, by decide⟩

/-- Both ports that the backends name lead to the container port of the rules. -/
theorem backends_lead_to_targets_for_web :
    ∃ routes, Route.resolve webPorts Option.none webRules = .ok routes ∧
      ∀ scope setting ingresses, ofRoutes scope setting routes = .ok ingresses →
        ∀ ingress ∈ ingresses.toList, ∀ rule ∈ ingress.spec.rules, ∀ path ∈ rule.paths,
          ∃ service, scope.service? routes webPorts = some service ∧
            ∀ port ∈ service.spec.ports, port.name = path.backend.port → port.targetPort = 80 := by
  have hresolve : Route.resolve webPorts Option.none webRules =
      .ok [⟨"web", 8080, 80, ["a.example.com"]⟩, ⟨"web", 8081, 80, []⟩] := by rfl
  refine ⟨_, hresolve, ?_⟩
  intro scope setting ingresses hmade ingress hingress rule hrule path hpath
  obtain ⟨route, hroute, -, -, -, -, service, hservice, -, -, -, -, hall⟩ :=
    (backends_lead_to_targets hresolve (by decide)).2 scope setting ingresses hmade ingress hingress
      rule hrule path hpath
  have htarget : route.targetPort = 80 := by
    simp only [List.mem_cons, List.not_mem_nil, or_false] at hroute
    rcases hroute with rfl | rfl <;> rfl
  exact ⟨service, hservice, fun port hport hname => (hall port hport hname).trans htarget⟩

end AppIngresses

end ComposeCluster

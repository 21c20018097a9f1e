import ComposeCluster.App.Route
import ComposeCluster.Proofs.Control
import Mathlib.Data.List.Nodup
import Mathlib.Data.List.Pairwise

/-!
# Routes that are resolved together

Rules are checked one after the other, each against the routes of the earlier ones. What this comes
to is said without an order: each route is that of its rule (`Route.IsRouteOf`), and any two of them
are apart (`Route.Apart`). `Route.resolve_eq_ok` says that rules are resolved exactly if there are
such routes, and that these are the result.
-/

set_option autoImplicit false

namespace ComposeCluster.Route

/-- A host is not among those that the cluster generates. -/
def Outside (domain? : Option String) (host : String) : Prop :=
  ∀ domain, domain? = some domain → isUnder domain host = false

/-- Two routes for different ports and different hosts, which agree on the name of a container port
if they lead to one. -/
structure Apart (first second : Route) : Prop where
  port_ne : first.port ≠ second.port
  name_eq : first.targetPort = second.targetPort → first.name = second.name
  hosts : first.hosts.Disjoint second.hosts

instance : Std.Symm Apart where
  symm _ _ h := ⟨h.port_ne.symm, fun heq => (h.name_eq heq.symm).symm, List.disjoint_symm h.hosts⟩

/-- The route of a rule by itself. -/
structure IsRouteOf (ports : Compose.PublishedPorts) (domain? : Option String) (rule : AppRule)
    (route : Route) : Prop where
  isName : isName rule.name = true
  outside : ∀ host ∈ hostsOf rule, Outside domain? host
  nodup_hosts : (hostsOf rule).Nodup
  target : ports.targetOf? rule.port = some route.targetPort
  name_eq : route.name = rule.name
  port_eq : route.port = rule.port
  hosts_eq : route.hosts = hostsOf rule

variable {ports : Compose.PublishedPorts} {domain? : Option String} {earlier routes : List Route}
  {rule : AppRule} {rules : List AppRule} {route after : Route} {host : String}

/-! ## Hosts -/

/-- No route is found for a host exactly if no route has it. -/
theorem ofHost?_eq_none : ofHost? routes host = none ↔ ∀ other ∈ routes, host ∉ other.hosts := by
  simp [ofHost?, List.find?_eq_none]

/-- A host is added if it is outside of the domain and no route has it yet, the one at hand
included. -/
theorem addHost_eq_ok : addHost domain? earlier route host = .ok after ↔
    Outside domain? host ∧ (∀ other ∈ earlier, host ∉ other.hosts) ∧ host ∉ route.hosts ∧
      after = { route with hosts := route.hosts ++ [host] } := by
  have houtside : domain?.filter (isUnder · host) = none ↔ Outside domain? host := by
    simp [Outside, Option.filter_eq_none_iff]
  have hfree : ofHost? (earlier ++ [route]) host = none ↔
      (∀ other ∈ earlier, host ∉ other.hosts) ∧ host ∉ route.hosts := by
    rw [ofHost?_eq_none, List.forall_mem_append, List.forall_mem_singleton]
  unfold addHost
  rw [← houtside, ← and_assoc (b := host ∉ route.hosts), ← hfree]
  constructor
  · intro h
    split at h
    · cases h
    · rename_i hfilter
      split at h
      · cases h
      · rename_i hnone
        cases h
        exact ⟨hfilter, hnone, rfl⟩
  · rintro ⟨hfilter, hnone, rfl⟩
    rw [hfilter]
    dsimp only
    rw [hnone]

/-- Hosts are added if each can be and they differ from each other. -/
theorem addHosts_eq_ok {hosts : List String} :
    hosts.foldlM (addHost domain? earlier) route = .ok after ↔
      (∀ host ∈ hosts, Outside domain? host) ∧
      (∀ other ∈ earlier, other.hosts.Disjoint hosts) ∧ route.hosts.Disjoint hosts ∧
      hosts.Nodup ∧ after = { route with hosts := route.hosts ++ hosts } := by
  induction hosts generalizing route with
  | nil =>
    rw [List.foldlM_nil]
    constructor
    · intro h
      cases h
      simp
    · rintro ⟨-, -, -, -, rfl⟩
      rw [List.append_nil]
      rfl
  | cons host rest ih =>
    have happend : (route.hosts ++ [host]).Disjoint rest ↔
        host ∉ rest ∧ route.hosts.Disjoint rest := by
      rw [List.disjoint_append_left, List.singleton_disjoint, and_comm]
    rw [List.foldlM_cons, Except.bind_eq_ok]
    simp only [addHost_eq_ok, ih, List.forall_mem_cons, List.nodup_cons,
      List.disjoint_cons_right, forall_and]
    constructor
    · rintro ⟨_, ⟨houtside, hfree, hnew, rfl⟩, hrest, hapart, hroute, hnodup, rfl⟩
      obtain ⟨hhost, hroute⟩ := happend.1 hroute
      exact ⟨⟨houtside, hrest⟩, ⟨hfree, hapart⟩, ⟨hnew, hroute⟩, ⟨hhost, hnodup⟩,
        by rw [List.append_assoc, List.singleton_append]⟩
    · rintro ⟨⟨houtside, hrest⟩, ⟨hfree, hapart⟩, ⟨hnew, hroute⟩, ⟨hhost, hnodup⟩, rfl⟩
      exact ⟨_, ⟨houtside, hfree, hnew, rfl⟩, hrest, hapart, happend.2 ⟨hhost, hroute⟩, hnodup,
        by rw [List.append_assoc, List.singleton_append]⟩

/-! ## One rule -/

/-- A rule has a route, hosts left aside, if its name is one, its port is new and published, and the
first route for the container port has its name. -/
theorem withoutHosts_eq_ok : withoutHosts ports earlier rule = .ok route ↔
    isName rule.name = true ∧ (∀ other ∈ earlier, other.port ≠ rule.port) ∧
      ∃ target, ports.targetOf? rule.port = some target ∧
        (∀ first, earlier.find? (·.targetPort == target) = some first → first.name = rule.name) ∧
        route = ⟨rule.name, rule.port, target, []⟩ := by
  have hport : earlier.any (·.port == rule.port) = true ↔
      ¬ ∀ other ∈ earlier, other.port ≠ rule.port := by
    simp
  have hfilter (found : Option Route) : found.filter (·.name != rule.name) = none ↔
      ∀ first, found = some first → first.name = rule.name := by
    cases found <;> simp
  unfold withoutHosts checkName
  constructor
  · intro h
    obtain ⟨_, hname, h⟩ := Except.bind_eq_ok.1 h
    split at hname
    case isFalse => cases hname
    rename_i hisName
    by_cases hany : earlier.any (·.port == rule.port) = true
    · rw [hany] at h
      cases h
    rw [if_neg hany] at h
    rw [hport, not_not] at hany
    dsimp only at h
    split at h
    case h_1 => cases h
    rename_i target htarget
    split at h
    case h_1 => cases h
    rename_i hfirst
    cases h
    exact ⟨hisName, hany, target, htarget, (hfilter _).1 hfirst, rfl⟩
  · rintro ⟨hisName, hany, target, htarget, hfirst, rfl⟩
    rw [if_pos hisName, if_neg (by rwa [hport, not_not]), htarget]
    dsimp only [bind, Except.bind]
    rw [(hfilter _).2 hfirst]
    rfl

/-- Where earlier routes agree on names, the first one for a container port speaks for all. -/
theorem forall_find?_iff {target : Port} {name : String} (hearlier : earlier.Pairwise Apart) :
    (∀ first, earlier.find? (·.targetPort == target) = some first → first.name = name) ↔
      ∀ other ∈ earlier, other.targetPort = target → other.name = name := by
  have hagree : ∀ first ∈ earlier, ∀ other ∈ earlier,
      first.targetPort = other.targetPort → first.name = other.name := by
    intro first hfirst other hother heq
    by_cases hsame : first = other
    · rw [hsame]
    · exact (hearlier.forall hfirst hother hsame).name_eq heq
  constructor
  · intro hfirst other hmem htarget
    cases hfind : earlier.find? (·.targetPort == target) with
    | none => exact absurd htarget (by simpa using List.find?_eq_none.1 hfind other hmem)
    | some first =>
      have hsame : first.targetPort = target := by simpa using List.find?_some hfind
      rw [← hfirst first hfind]
      exact hagree other hmem first (List.mem_of_find?_eq_some hfind) (htarget.trans hsame.symm)
  · intro hall first hfind
    exact hall first (List.mem_of_find?_eq_some hfind) (by simpa using List.find?_some hfind)

/-- A rule has a route if it has one by itself that is apart from all earlier ones. -/
theorem ofRule_eq_ok (hearlier : earlier.Pairwise Apart) :
    ofRule ports domain? earlier rule = .ok route ↔
      IsRouteOf ports domain? rule route ∧ ∀ other ∈ earlier, Apart other route := by
  unfold ofRule
  rw [Except.bind_eq_ok]
  constructor
  · rintro ⟨start, hstart, hhosts⟩
    obtain ⟨hname, hports, target, htarget, hfirst, rfl⟩ := withoutHosts_eq_ok.1 hstart
    obtain ⟨houtside, hfree, -, hnodup, rfl⟩ := addHosts_eq_ok.1 hhosts
    rw [forall_find?_iff hearlier] at hfirst
    exact ⟨⟨hname, houtside, hnodup, htarget, rfl, rfl, rfl⟩,
      fun other hmem => ⟨hports other hmem, hfirst other hmem, hfree other hmem⟩⟩
  · obtain ⟨name, port, target, hosts⟩ := route
    rintro ⟨⟨hname, houtside, hnodup, htarget, rfl, rfl, rfl⟩, hapart⟩
    refine ⟨⟨rule.name, rule.port, target, []⟩, withoutHosts_eq_ok.2 ⟨hname,
      fun other hmem => (hapart other hmem).port_ne, target, htarget,
      (forall_find?_iff hearlier).2 fun other hmem => (hapart other hmem).name_eq, rfl⟩,
      addHosts_eq_ok.2 ⟨houtside, fun other hmem => (hapart other hmem).hosts,
        List.disjoint_nil_left _, hnodup, rfl⟩⟩

/-! ## All rules -/

/-- Routes stay apart from each other if the new one is apart from all earlier ones. -/
theorem pairwise_apart_concat : (earlier ++ [route]).Pairwise Apart ↔
    earlier.Pairwise Apart ∧ ∀ other ∈ earlier, Apart other route := by
  simp [List.pairwise_append]

/-- Rules that are checked after others add their routes behind the earlier ones. -/
theorem foldlM_ofRule_eq_ok (hearlier : earlier.Pairwise Apart) :
    rules.foldlM (fun earlier rule => return earlier ++ [← ofRule ports domain? earlier rule])
        earlier = Except.ok routes ↔
      ∃ later, routes = earlier ++ later ∧ List.Forall₂ (IsRouteOf ports domain?) rules later ∧
        routes.Pairwise Apart := by
  induction rules generalizing earlier with
  | nil =>
    rw [List.foldlM_nil]
    constructor
    · intro h
      cases h
      exact ⟨[], (List.append_nil _).symm, .nil, hearlier⟩
    · rintro ⟨later, rfl, hlater, -⟩
      cases hlater
      rw [List.append_nil]
      rfl
  | cons rule rest ih =>
    rw [List.foldlM_cons, Except.bind_eq_ok]
    constructor
    · rintro ⟨next, hstep, h⟩
      obtain ⟨route, hroute, hstep⟩ := Except.bind_eq_ok.1 hstep
      cases hstep
      obtain ⟨hof, hapart⟩ := (ofRule_eq_ok hearlier).1 hroute
      obtain ⟨later, rfl, hlater, hall⟩ := (ih (pairwise_apart_concat.2 ⟨hearlier, hapart⟩)).1 h
      exact ⟨route :: later, (List.append_cons ..).symm, .cons hof hlater, hall⟩
    · rintro ⟨_, rfl, hlater, hall⟩
      obtain ⟨route, later, hof, hrest, rfl⟩ := List.forall₂_cons_left_iff.1 hlater
      rw [List.append_cons] at hall
      have hnext := (List.pairwise_append.1 hall).1
      have hroute := (ofRule_eq_ok hearlier).2 ⟨hof, (pairwise_apart_concat.1 hnext).2⟩
      refine ⟨earlier ++ [route], ?_, (ih hnext).2 ⟨later, List.append_cons .., hrest, ?_⟩⟩
      · rw [hroute]
        rfl
      · rwa [List.append_cons]

/-- Rules are resolved exactly to their own routes, if these are apart from each other. -/
theorem resolve_eq_ok : resolve ports domain? rules = .ok routes ↔
    List.Forall₂ (IsRouteOf ports domain?) rules routes ∧ routes.Pairwise Apart := by
  unfold resolve
  rw [foldlM_ofRule_eq_ok .nil]
  constructor
  · rintro ⟨later, rfl, hlater, hall⟩
    exact ⟨hlater, hall⟩
  · rintro ⟨hroutes, hall⟩
    exact ⟨routes, rfl, hroutes, hall⟩

section Resolved

variable (h : resolve ports domain? rules = .ok routes)
include h

/-- The routes have the names of the rules. -/
theorem map_name_of_resolve : routes.map (·.name) = rules.map (·.name) :=
  (map_eq_of_forall₂ (resolve_eq_ok.1 h).1 fun _ _ hof => hof.name_eq.symm).symm

/-- The routes have the ports of the rules. -/
theorem map_port_of_resolve : routes.map (·.port) = rules.map (·.port) :=
  (map_eq_of_forall₂ (resolve_eq_ok.1 h).1 fun _ _ hof => hof.port_eq.symm).symm

/-- The routes have the hosts of the rules. -/
theorem hosts_of_resolve : routes.flatMap (·.hosts) = rules.flatMap hostsOf := by
  rw [List.flatMap_def, List.flatMap_def, map_eq_of_forall₂ (resolve_eq_ok.1 h).1
    fun _ _ hof => hof.hosts_eq.symm]

/-- Each route leads to the container port behind its published port. -/
theorem targetOf?_of_resolve (hmem : route ∈ routes) :
    ports.targetOf? route.port = some route.targetPort := by
  obtain ⟨rule, -, hof⟩ := exists_left_of_forall₂ (resolve_eq_ok.1 h).1 hmem
  rw [hof.port_eq, hof.target]

/-- Any two routes of the rules are apart from each other. -/
theorem apart_of_resolve {other : Route} (hroute : route ∈ routes) (hother : other ∈ routes)
    (hne : route ≠ other) : Apart route other :=
  (resolve_eq_ok.1 h).2.forall hroute hother hne

/-- No two routes have one port. -/
theorem nodup_ports_of_resolve : (routes.map (·.port)).Nodup := by
  have hapart := (resolve_eq_ok.1 h).2
  exact List.pairwise_map.2 (hapart.imp Apart.port_ne)

/-- No host stands twice in the routes. -/
theorem nodup_hosts_of_resolve : (routes.flatMap (·.hosts)).Nodup := by
  obtain ⟨hroutes, hapart⟩ := resolve_eq_ok.1 h
  refine List.nodup_flatMap.2 ⟨fun route hmem => ?_, hapart.imp Apart.hosts⟩
  obtain ⟨rule, -, hof⟩ := exists_left_of_forall₂ hroutes hmem
  rw [hof.hosts_eq]
  exact hof.nodup_hosts

/-- All hosts of the routes are outside of the domain. -/
theorem outside_of_resolve (hmem : host ∈ routes.flatMap (·.hosts)) : Outside domain? host := by
  obtain ⟨route, hroute, hhost⟩ := List.mem_flatMap.1 hmem
  obtain ⟨rule, -, hof⟩ := exists_left_of_forall₂ (resolve_eq_ok.1 h).1 hroute
  rw [hof.hosts_eq] at hhost
  exact hof.outside host hhost

end Resolved

end ComposeCluster.Route

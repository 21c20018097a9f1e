import ComposeCluster.App.Ingresses
import ComposeCluster.Proofs.App.Route

/-!
# Hosts of ingresses

The custom ingress has a rule for each host of the routes, and the default one a rule for each
generated host; `AppIngresses.ofRoutes_eq_ok` says what stands in the way of the second. Nothing
does where the routes were resolved below the same domain (`AppIngresses.exists_ofRoutes`): the
ports of routes differ, so their generated hosts do, and a generated host is below the domain, where
no host of a route is.
-/

set_option autoImplicit false

namespace ComposeCluster

/-! ## Generated hosts -/

section Host

variable {hostStart domain : String} {port other : Port}

/-- Ports with the same digits are the same. -/
theorem Port.toString_toNat_inj : toString port.toNat = toString other.toNat ↔ port = other := by
  constructor
  · intro h
    have hdigits : Nat.toDigits 10 port.toNat = Nat.toDigits 10 other.toNat := by
      rwa [Nat.toString_eq_ofList_toDigits, Nat.toString_eq_ofList_toDigits,
        String.ofList_inj] at h
    apply UInt16.toNat_inj.1
    rw [← Nat.ofDigitChars_ten_toDigits (n := port.toNat), hdigits,
      Nat.ofDigitChars_ten_toDigits]
  · rintro rfl
    rfl

/-- Different ports have different generated hosts. -/
theorem AppIngresses.defaultHost_inj :
    defaultHost hostStart port domain = defaultHost hostStart other domain ↔ port = other := by
  rw [defaultHost, defaultHost, String.append_left_inj, String.append_left_inj,
    String.append_right_inj, Port.toString_toNat_inj]

/-- A generated host is below the domain, whatever it starts with. -/
theorem AppIngresses.isUnder_defaultHost :
    Route.isUnder domain (defaultHost hostStart port domain) = true := by
  have hdot : Text.asciiLower "." = "." := by decide
  simp only [Route.isUnder, defaultHost, Text.asciiLower_append, hdot, Bool.or_eq_true]
  right
  rw [String.append_assoc, Text.endsWith_append]

end Host

namespace AppIngresses

variable {scope : AppScope} {setting : IngressSetting} {routes : List Route} {domain : String}
  {customHosts : List String} {rules after : List IngressRule} {route : Route} {ingress : Ingress}
  {ingresses : AppIngresses}

def generatedHosts (setting : IngressSetting) (routes : List Route) (domain : String) :
    List String :=
  routes.map fun route => defaultHost setting.hostStart route.port domain

def defaultRules (scope : AppScope) (setting : IngressSetting) (routes : List Route)
    (domain : String) : List IngressRule :=
  routes.map fun route => ruleFor scope route (defaultHost setting.hostStart route.port domain)

/-- The default rules are for the generated hosts. -/
theorem map_host_defaultRules :
    (defaultRules scope setting routes domain).map (·.host) =
      generatedHosts setting routes domain := by
  rw [defaultRules, List.map_map]
  rfl

/-- The custom rules are for the hosts of the routes. -/
theorem map_host_customRules :
    (customRules scope routes).map (·.host) = routes.flatMap (·.hosts) := by
  rw [customRules, List.map_flatMap]
  congr 1
  funext route
  rw [List.map_map]
  exact List.map_id _

/-! ## The default ingress -/

/-- A default rule is added if its host is new and none of the custom hosts. -/
theorem addDefaultRule_eq_ok :
    addDefaultRule scope setting domain customHosts rules route = .ok after ↔
      let host := defaultHost setting.hostStart route.port domain
      host ∉ rules.map (·.host) ∧ host ∉ customHosts ∧
        after = rules ++ [ruleFor scope route host] := by
  have htaken (host : String) :
      rules.any (·.host == host) = true ↔ host ∈ rules.map (·.host) := by
    simp
  unfold addDefaultRule
  dsimp only
  rw [← htaken, ← List.contains_iff_mem]
  constructor
  · intro h
    split at h
    · cases h
    · rename_i hfree
      split at h
      · cases h
      · rename_i hcustom
        cases h
        exact ⟨hfree, hcustom, rfl⟩
  · rintro ⟨hfree, hcustom, rfl⟩
    rw [if_neg hfree, if_neg hcustom]

/-- Default rules are added if the generated hosts differ from each other, from the hosts that are
there and from the custom ones. -/
theorem addDefaultRules_eq_ok :
    routes.foldlM (addDefaultRule scope setting domain customHosts) rules = .ok after ↔
      (generatedHosts setting routes domain).Nodup ∧
      (rules.map (·.host)).Disjoint (generatedHosts setting routes domain) ∧
      customHosts.Disjoint (generatedHosts setting routes domain) ∧
      after = rules ++ defaultRules scope setting routes domain := by
  -- the host of a route is a host taken by the time the later ones are added
  induction routes generalizing rules with
  | nil =>
    rw [List.foldlM_nil]
    constructor
    · intro h
      cases h
      simp [generatedHosts, defaultRules]
    · rintro ⟨-, -, -, rfl⟩
      rw [defaultRules, List.map_nil, List.append_nil]
      rfl
  | cons route rest ih =>
    have hhosts : generatedHosts setting (route :: rest) domain =
      defaultHost setting.hostStart route.port domain :: generatedHosts setting rest domain := rfl
    have hrules : defaultRules scope setting (route :: rest) domain =
      ruleFor scope route (defaultHost setting.hostStart route.port domain) ::
        defaultRules scope setting rest domain := rfl
    have happend (host : String) : ((rules ++ [ruleFor scope route host]).map (·.host)).Disjoint
          (generatedHosts setting rest domain) ↔
        (rules.map (·.host)).Disjoint (generatedHosts setting rest domain) ∧
          host ∉ generatedHosts setting rest domain := by
      rw [List.map_append, List.disjoint_append_left]
      exact and_congr_right fun _ => List.singleton_disjoint
    rw [List.foldlM_cons, Except.bind_eq_ok, hhosts, hrules]
    simp only [addDefaultRule_eq_ok, ih, List.nodup_cons, List.disjoint_cons_right]
    constructor
    · rintro ⟨_, ⟨hfree, hcustom, rfl⟩, hnodup, hrest, hcustoms, rfl⟩
      obtain ⟨hrest, hnew⟩ := (happend _).1 hrest
      exact ⟨⟨hnew, hnodup⟩, ⟨hfree, hrest⟩, ⟨hcustom, hcustoms⟩,
        by rw [List.append_assoc, List.singleton_append]⟩
    · rintro ⟨⟨hnew, hnodup⟩, ⟨hfree, hrest⟩, ⟨hcustom, hcustoms⟩, rfl⟩
      exact ⟨_, ⟨hfree, hcustom, rfl⟩, hnodup, (happend _).2 ⟨hrest, hnew⟩, hcustoms,
        by rw [List.append_assoc, List.singleton_append]⟩

/-- The default ingress with a rule for every route. -/
def defaultIngressOf (scope : AppScope) (setting : IngressSetting) (routes : List Route)
    (domain : String) : Ingress where
  toHeader := .of .ingress (metadata scope "default")
  spec := ⟨setting.className, defaultRules scope setting routes domain⟩

/-- The generated hosts differ from each other and from the hosts of the routes. -/
def KeepsHostsApart (setting : IngressSetting) (routes : List Route) (domain : String) : Prop :=
  (generatedHosts setting routes domain).Nodup ∧
    (routes.flatMap (·.hosts)).Disjoint (generatedHosts setting routes domain)

/-- The default ingress can be built exactly if hosts are kept apart, and it has a rule for each
route. -/
theorem defaultIngress_eq_ok : defaultIngress scope setting routes domain = .ok ingress ↔
    KeepsHostsApart setting routes domain ∧
      ingress = defaultIngressOf scope setting routes domain := by
  unfold defaultIngress
  dsimp only
  rw [Except.bind_eq_ok]
  simp only [addDefaultRules_eq_ok]
  constructor
  · rintro ⟨_, ⟨hnodup, -, hapart, rfl⟩, h⟩
    cases h
    exact ⟨⟨hnodup, hapart⟩, rfl⟩
  · rintro ⟨⟨hnodup, hapart⟩, rfl⟩
    exact ⟨_, ⟨hnodup, List.disjoint_nil_left _, hapart, rfl⟩, rfl⟩

/-! ## Both ingresses -/

/-- The default ingress, if there are routes and a domain. -/
def defaultIngress? (scope : AppScope) (setting : IngressSetting) (routes : List Route) :
    Option Ingress :=
  if routes = [] then Option.none else
    setting.domain?.map (defaultIngressOf scope setting routes)

/-- Both ingresses can be built exactly if hosts are kept apart where a domain is set. -/
theorem ofRoutes_eq_ok : ofRoutes scope setting routes = .ok ingresses ↔
    (routes ≠ [] → ∀ domain, setting.domain? = some domain →
      KeepsHostsApart setting routes domain) ∧
      ingresses = ⟨defaultIngress? scope setting routes, customIngress? scope setting routes⟩ := by
  unfold ofRoutes defaultIngress?
  cases routes with
  | nil =>
    constructor
    · intro h
      cases h
      exact ⟨nofun, rfl⟩
    · rintro ⟨-, rfl⟩
      rfl
  | cons route rest =>
    rw [if_neg (by simp), Except.bind_eq_ok, if_neg (List.cons_ne_nil _ _)]
    cases hdomain : setting.domain? with
    | none =>
      constructor
      · rintro ⟨_, hnone, h⟩
        cases hnone
        cases h
        exact ⟨nofun, rfl⟩
      · rintro ⟨-, rfl⟩
        exact ⟨_, rfl, rfl⟩
    | some domain =>
      constructor
      · rintro ⟨_, hsome, h⟩
        cases h
        obtain ⟨ingress, hmade, heq⟩ := Except.map_eq_ok.1 hsome
        obtain ⟨hapart, rfl⟩ := defaultIngress_eq_ok.1 hmade
        cases heq
        exact ⟨fun _ _ heq => Option.some.inj heq ▸ hapart, rfl⟩
      · rintro ⟨hapart, rfl⟩
        have hmade : defaultIngress scope setting (route :: rest) domain = .ok _ :=
          defaultIngress_eq_ok.2 ⟨hapart (List.cons_ne_nil _ _) domain rfl, rfl⟩
        exact ⟨_, Except.map_eq_ok.2 ⟨_, hmade, rfl⟩, rfl⟩

/-- A default ingress is there for a domain only. -/
theorem of_defaultIngress? (h : defaultIngress? scope setting routes = some ingress) :
    ∃ domain, setting.domain? = some domain ∧
      ingress = defaultIngressOf scope setting routes domain := by
  unfold defaultIngress? at h
  split at h
  · cases h
  · obtain ⟨domain, hdomain, rfl⟩ := Option.map_eq_some_iff.1 h
    exact ⟨domain, hdomain, rfl⟩

/-- A custom ingress has the rules for the hosts of the routes. -/
theorem of_customIngress? (h : customIngress? scope setting routes = some ingress) :
    ingress.toHeader = .of .ingress (customMetadata scope setting.certResolver?) ∧
      ingress.spec.rules = customRules scope routes := by
  unfold customIngress? at h
  dsimp only at h
  split at h
  · cases h
  · cases h
    exact ⟨rfl, rfl⟩

/-- A host leads to a route: it is one of its own, or the one that is generated for it. -/
def Serves (setting : IngressSetting) (route : Route) (host : String) : Prop :=
  host ∈ route.hosts ∨ ∃ domain, setting.domain? = some domain ∧
    host = defaultHost setting.hostStart route.port domain

/-- Each rule of the ingresses is for a host that leads to a route, and it serves this route. -/
theorem exists_serves_of_mem_rules (h : ofRoutes scope setting routes = .ok ingresses)
    {rule : IngressRule} (hingress : ingress ∈ ingresses.toList)
    (hrule : rule ∈ ingress.spec.rules) :
    ∃ route ∈ routes, ∃ host, Serves setting route host ∧ rule = ruleFor scope route host := by
  obtain ⟨-, rfl⟩ := ofRoutes_eq_ok.1 h
  rcases List.mem_append.1 hingress with hdefault | hcustom
  · obtain ⟨domain, hdomain, rfl⟩ := of_defaultIngress? (Option.mem_toList.1 hdefault)
    obtain ⟨route, hroute, rfl⟩ := List.mem_map.1 hrule
    exact ⟨route, hroute, _, .inr ⟨domain, hdomain, rfl⟩, rfl⟩
  · rw [(of_customIngress? (Option.mem_toList.1 hcustom)).2] at hrule
    obtain ⟨route, hroute, hrule⟩ := List.mem_flatMap.1 hrule
    obtain ⟨host, hhost, rfl⟩ := List.mem_map.1 hrule
    exact ⟨route, hroute, host, .inl hhost, rfl⟩

/-- The hosts of the default ingress are the generated ones. -/
theorem flatMap_hosts_default :
    (defaultIngress? scope setting routes).toList.flatMap Ingress.hosts =
      setting.domain?.toList.flatMap (generatedHosts setting routes) := by
  unfold defaultIngress?
  cases setting.domain? with
  | none =>
    rw [Option.map_none, ite_self]
    rfl
  | some domain =>
    split
    · rename_i hempty
      rw [hempty]
      rfl
    · show (defaultRules scope setting routes domain).map (·.host) ++ [] = _ ++ []
      rw [map_host_defaultRules]

/-- The hosts of the custom ingress are those of the routes. -/
theorem flatMap_hosts_custom :
    (customIngress? scope setting routes).toList.flatMap Ingress.hosts =
      routes.flatMap (·.hosts) := by
  have hhosts : (customRules scope routes).map (·.host) = _ := map_host_customRules
  rw [← hhosts]
  unfold customIngress?
  dsimp only
  split
  · rename_i hempty
    rw [List.isEmpty_iff.1 hempty]
    rfl
  · exact List.append_nil _

/-! ## Routes that were resolved -/

section Resolved

variable {ports : Compose.PublishedPorts} {domain? : Option String} {appRules : List AppRule}

/-- A host of the ingresses leads to one route. -/
theorem eq_of_serves (hresolve : Route.resolve ports domain? appRules = .ok routes)
    (h : ofRoutes scope setting routes = .ok ingresses) {other : Route} {host : String}
    (hroute : route ∈ routes) (hother : other ∈ routes) (hserves : Serves setting route host)
    (hserved : Serves setting other host) : other = route := by
  have happart := (ofRoutes_eq_ok.1 h).1 (List.ne_nil_of_mem hroute)
  -- No host of a route is a generated one.
  have hcross : ∀ owner ∈ routes, ∀ generated ∈ routes, host ∈ owner.hosts →
      ∀ domain, setting.domain? = some domain →
        host ≠ defaultHost setting.hostStart generated.port domain := by
    rintro owner howner generated hgenerated hhost domain hdomain rfl
    exact (happart domain hdomain).2 (List.mem_flatMap.2 ⟨owner, howner, hhost⟩)
      (List.mem_map_of_mem hgenerated)
  by_contra hne
  have hother_apart := Route.apart_of_resolve hresolve hother hroute hne
  rcases hserves with hown | ⟨domain, hdomain, rfl⟩
  · rcases hserved with hotherOwn | ⟨domain, hdomain, heq⟩
    · exact hother_apart.hosts hotherOwn hown
    · exact hcross route hroute other hother hown domain hdomain heq
  · rcases hserved with hotherOwn | ⟨otherDomain, hotherDomain, heq⟩
    · exact hcross other hother route hroute hotherOwn domain hdomain rfl
    · rw [hdomain] at hotherDomain
      cases hotherDomain
      exact hother_apart.port_ne (defaultHost_inj.1 heq).symm

/-- Resolved routes keep hosts apart: their own ones are outside of the domain, and their ports
differ. -/
theorem keepsHostsApart_of_resolve
    (h : Route.resolve ports setting.domain? appRules = .ok routes)
    (hdomain : setting.domain? = some domain) : KeepsHostsApart setting routes domain := by
  constructor
  · have hports := Route.nodup_ports_of_resolve h
    have hhosts := hports.map (f := fun port => defaultHost setting.hostStart port domain)
      fun _ _ => defaultHost_inj.1
    rwa [List.map_map] at hhosts
  · intro host hcustom hgenerated
    obtain ⟨route, -, rfl⟩ := List.mem_map.1 hgenerated
    have houtside := Route.outside_of_resolve h hcustom domain hdomain
    rw [isUnder_defaultHost] at houtside
    cases houtside

/-- Nothing stands in the way of the ingresses for routes that were resolved below their domain.
They list the hosts of the rules and the generated ones, each once. -/
theorem exists_ofRoutes (scope : AppScope) (setting : IngressSetting)
    (h : Route.resolve ports setting.domain? appRules = .ok routes) :
    ∃ ingresses, ofRoutes scope setting routes = .ok ingresses ∧
      ingresses.custom?.toList.flatMap Ingress.hosts = appRules.flatMap Route.hostsOf ∧
      ingresses.default?.toList.flatMap Ingress.hosts =
        (setting.domain?.toList.flatMap fun domain =>
          appRules.map fun rule => defaultHost setting.hostStart rule.port domain) ∧
      (ingresses.toList.flatMap Ingress.hosts).Nodup := by
  have hapart (domain : String) (hdomain : setting.domain? = some domain) :=
    keepsHostsApart_of_resolve h hdomain
  have hgenerated (domain : String) : generatedHosts setting routes domain =
      appRules.map fun rule => defaultHost setting.hostStart rule.port domain := by
    have hports := congrArg (List.map fun port => defaultHost setting.hostStart port domain)
      (Route.map_port_of_resolve h)
    rwa [List.map_map, List.map_map] at hports
  refine ⟨_, ofRoutes_eq_ok.2 ⟨fun _ => hapart, rfl⟩, ?custom, ?default, ?nodup⟩
  case custom => rw [flatMap_hosts_custom, Route.hosts_of_resolve h]
  case default =>
    rw [flatMap_hosts_default]
    exact congrArg (List.flatMap · _) (funext hgenerated)
  case nodup =>
    rw [toList, List.flatMap_append, flatMap_hosts_default, flatMap_hosts_custom]
    have hhosts := Route.nodup_hosts_of_resolve h
    cases hdomain : setting.domain? with
    | none => exact hhosts
    | some domain =>
      obtain ⟨hnodup, hdisjoint⟩ := hapart domain hdomain
      rw [Option.toList_some, List.flatMap_singleton]
      exact hnodup.append hhosts (List.disjoint_symm hdisjoint)

end Resolved

end AppIngresses

end ComposeCluster

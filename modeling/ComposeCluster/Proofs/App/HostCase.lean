import ComposeCluster.Proofs.App.RuleSet

/-!
# Hosts that differ in capitals

To those who look a host up, capitals and small letters are the same, and so they are where hosts
are kept out of the domain of the cluster. Rules, though, may name one host in two spellings
(`Route.hosts_repeat_for_shop`). It is enough to write hosts in small letters: this changes nothing
else about rules (`AppRule.hostsOf_lowered`, `Route.isUnder_asciiLower`), and rules in small letters
are resolved just where no two hosts are the same up to capitals (`Route.consistent_lowered_iff`).
-/

set_option autoImplicit false

namespace ComposeCluster

/-- The rule with its hosts in small letters. -/
def AppRule.lowered (rule : AppRule) : AppRule :=
  { rule with hosts := rule.hosts.map Text.asciiLower }

namespace Route

variable {ports : Compose.PublishedPorts} {domain? : Option String} {rules : List AppRule}
  {routes : List Route}

/-- The hosts of a rule in small letters are its hosts in small letters. -/
theorem hostsOf_lowered (rule : AppRule) :
    hostsOf rule.lowered = (hostsOf rule).map Text.asciiLower := by
  have htrim : Text.trim ∘ Text.asciiLower = Text.asciiLower ∘ Text.trim :=
    funext Text.trim_asciiLower
  rw [hostsOf, hostsOf, AppRule.lowered, List.map_map, htrim, ← List.map_map, List.filter_map]
  congr 2
  funext host
  rw [Function.comp_apply, Text.isEmpty_asciiLower]

/-- The hosts of rules in small letters are their hosts in small letters. -/
theorem flatMap_hostsOf_lowered (rules : List AppRule) :
    (rules.map AppRule.lowered).flatMap hostsOf =
      (rules.flatMap hostsOf).map Text.asciiLower := by
  rw [List.flatMap_map, List.map_flatMap]
  congr 1
  funext rule
  exact hostsOf_lowered rule

/-- Whether a host is under a domain does not depend on capitals. -/
theorem isUnder_asciiLower (domain host : String) :
    isUnder domain (Text.asciiLower host) = isUnder domain host := by
  rw [isUnder, isUnder, Text.asciiLower_asciiLower]

/-- Whether a host is within a domain does not depend on capitals. -/
theorem isWithin_asciiLower {domain host : String} :
    IsWithin domain (Text.asciiLower host) ↔ IsWithin domain host := by
  rw [← isUnder_iff, isUnder_asciiLower, isUnder_iff]

/-- Hosts in small letters are all different exactly if no two of them have the same letters. -/
theorem nodup_map_asciiLower {hosts : List String} :
    (hosts.map Text.asciiLower).Nodup ↔
      hosts.Pairwise fun first second => ¬ Text.SameLetters first second :=
  List.pairwise_map

/-- In small letters, rules are consistent if no two hosts are the same up to capitals. -/
theorem consistent_lowered_iff :
    Consistent ports domain? (rules.map AppRule.lowered) ↔
      Consistent ports domain? rules ∧
        (rules.flatMap hostsOf).Pairwise fun first second => ¬ Text.SameLetters first second := by
  have hports : (rules.map AppRule.lowered).map (·.port) = rules.map (·.port) := by
    rw [List.map_map]
    rfl
  constructor
  · intro h
    have hhosts := h.nodup_hosts
    rw [flatMap_hostsOf_lowered] at hhosts
    refine ⟨⟨?isPortName, ?nodup_ports, ?published, ?agree, hhosts.of_map _, ?outside⟩,
      nodup_map_asciiLower.1 hhosts⟩
    case isPortName =>
      exact fun rule hmem => h.isPortName rule.lowered (List.mem_map_of_mem hmem)
    case nodup_ports => exact hports ▸ h.nodup_ports
    case published =>
      exact fun rule hmem => h.published rule.lowered (List.mem_map_of_mem hmem)
    case agree =>
      exact fun first hfirst second hsecond =>
        h.agree first.lowered (List.mem_map_of_mem hfirst) second.lowered
          (List.mem_map_of_mem hsecond)
    case outside =>
      intro domain hdomain host hmem hwithin
      refine h.outside domain hdomain _ ?_ (isWithin_asciiLower.2 hwithin)
      rw [flatMap_hostsOf_lowered]
      exact List.mem_map_of_mem hmem
  · rintro ⟨h, hletters⟩
    refine ⟨?isPortName, hports ▸ h.nodup_ports, ?published, ?agree, ?nodup_hosts, ?outside⟩
    case isPortName => exact List.forall_mem_map.2 h.isPortName
    case published => exact List.forall_mem_map.2 h.published
    case agree =>
      exact List.forall_mem_map.2 fun first hfirst =>
        List.forall_mem_map.2 fun second hsecond => h.agree first hfirst second hsecond
    case nodup_hosts =>
      rw [flatMap_hostsOf_lowered]
      exact nodup_map_asciiLower.2 hletters
    case outside =>
      intro domain hdomain
      rw [flatMap_hostsOf_lowered]
      exact List.forall_mem_map.2 fun host hmem hwithin =>
        h.outside domain hdomain host hmem (isWithin_asciiLower.1 hwithin)

/-- No host of resolved rules repeats in the same spelling. None repeats in another spelling just
where the rules can also be resolved with their hosts in small letters. -/
theorem hosts_distinct_iff_lowered (h : resolve ports domain? rules = .ok routes) :
    (routes.flatMap (·.hosts)).Nodup ∧
      (((routes.flatMap (·.hosts)).Pairwise fun first second => ¬ Text.SameLetters first second) ↔
        ∃ others, resolve ports domain? (rules.map AppRule.lowered) = .ok others) := by
  refine ⟨nodup_hosts_of_resolve h, ?_⟩
  rw [exists_resolve_iff, consistent_lowered_iff, hosts_of_resolve h]
  exact (and_iff_right (consistent_of_resolve h)).symm

/-- Two published ports, with rules that name one host in two spellings. -/
def shopPorts : Compose.PublishedPorts :=
  ⟨.ofList [(8080, 80), (9090, 90)], .ofList [(80, "web"), (90, "web")]⟩

def shopRules : List AppRule :=
  [⟨"main", 8080, ["Shop.example"]⟩, ⟨"admin", 9090, ["shop.example"]⟩]

/-- Both spellings of a host are accepted for the shop. -/
theorem hosts_repeat_for_shop :
    ∃ routes, resolve shopPorts none shopRules = .ok routes ∧
      ¬ (routes.flatMap (·.hosts)).Pairwise fun first second => ¬ Text.SameLetters first second :=
  ⟨[⟨"main", 8080, 80, ["Shop.example"]⟩, ⟨"admin", 9090, 90, ["shop.example"]⟩],
    by rfl, by decide⟩

/-- In small letters the rules of the shop are refused. -/
theorem lowered_refused_for_shop :
    (∃ routes, resolve shopPorts none shopRules = .ok routes) ∧
      ¬ ∃ others, resolve shopPorts none (shopRules.map AppRule.lowered) = .ok others := by
  have h : resolve shopPorts none shopRules =
      .ok [⟨"main", 8080, 80, ["Shop.example"]⟩, ⟨"admin", 9090, 90, ["shop.example"]⟩] := by rfl
  exact ⟨⟨_, h⟩, (hosts_distinct_iff_lowered h).2.not.1 (by decide)⟩

end Route

end ComposeCluster

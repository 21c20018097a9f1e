import ComposeCluster.Proofs.App.Route
import ComposeCluster.Proofs.Text.Case

/-!
# Rules that can be resolved

Whether rules are resolved is a matter of the rules as a set: each of them by itself, and any two of
them together (`Route.Consistent`). The routes are then those that the rules ask for, one for each
(`Route.Answers`). Both follow from what is known of the routes one by one
(`Route.resolve_eq_ok`); the routes to be found are the ones that the published ports suggest
(`Route.suggested`).
-/

set_option autoImplicit false

namespace ComposeCluster.Route

/-- A name of a port: 1 to 15 bytes of small letters, digits and hyphens, the first of them a
letter. -/
structure IsPortName (name : String) : Prop where
  size : 1 ≤ name.utf8ByteSize ∧ name.utf8ByteSize ≤ 15
  start : ∃ first rest, name.toList = first :: rest ∧ 'a' ≤ first ∧ first ≤ 'z'
  chars : ∀ c ∈ name.toList, ('a' ≤ c ∧ c ≤ 'z') ∨ ('0' ≤ c ∧ c ≤ '9') ∨ c = '-'

/-- A host is a domain or ends with it after a dot, capitals or not. -/
def IsWithin (domain host : String) : Prop :=
  Text.SameLetters host domain ∨
    ∃ front back, host = front ++ back ∧ Text.SameLetters back ("." ++ domain)

/-- Rules that are valid each by itself and agree with each other. -/
structure Consistent (ports : Compose.PublishedPorts) (domain? : Option String)
    (rules : List AppRule) : Prop where
  isPortName : ∀ rule ∈ rules, IsPortName rule.name
  nodup_ports : (rules.map (·.port)).Nodup
  published : ∀ rule ∈ rules, ∃ target, ports.targetOf? rule.port = some target
  agree : ∀ first ∈ rules, ∀ second ∈ rules, ∀ target,
    ports.targetOf? first.port = some target → ports.targetOf? second.port = some target →
      first.name = second.name
  nodup_hosts : (rules.flatMap hostsOf).Nodup
  outside : ∀ domain, domain? = some domain → ∀ host ∈ rules.flatMap hostsOf, ¬ IsWithin domain host

/-- A route is what a rule asks for. -/
structure Answers (ports : Compose.PublishedPorts) (rule : AppRule) (route : Route) : Prop where
  name_eq : route.name = rule.name
  port_eq : route.port = rule.port
  target : ports.targetOf? rule.port = some route.targetPort
  hosts_eq : route.hosts = hostsOf rule

variable {ports : Compose.PublishedPorts} {domain? : Option String} {routes : List Route}
  {rule : AppRule} {rules : List AppRule} {route : Route}

/-! ## Names and hosts -/

/-- The characters of a name are small letters, digits and hyphens. -/
theorem isNameChar_iff {c : Char} :
    isNameChar c = true ↔ ('a' ≤ c ∧ c ≤ 'z') ∨ ('0' ≤ c ∧ c ≤ '9') ∨ c = '-' := by
  simp [isNameChar, isLower, or_assoc]

/-- A text passes as a name exactly if it is the name of a port. -/
theorem isName_iff {name : String} : isName name = true ↔ IsPortName name := by
  have hstart : name.toList.head?.any isLower = true ↔
      ∃ first rest, name.toList = first :: rest ∧ 'a' ≤ first ∧ first ≤ 'z' := by
    cases name.toList <;> simp [isLower]
  have hchars : name.toList.all isNameChar = true ↔
      ∀ c ∈ name.toList, ('a' ≤ c ∧ c ≤ 'z') ∨ ('0' ≤ c ∧ c ≤ '9') ∨ c = '-' := by
    simp only [List.all_eq_true, isNameChar_iff]
  rw [isName, Bool.and_eq_true, Bool.and_eq_true, decide_eq_true_eq, hstart, hchars]
  constructor
  · rintro ⟨⟨hsize, hfirst⟩, hall⟩
    refine ⟨⟨?_, hsize⟩, hfirst, hall⟩
    -- A name that starts with a letter is not empty.
    obtain ⟨first, rest, hlist, -⟩ := hfirst
    rw [Nat.one_le_iff_ne_zero, ne_eq, String.utf8ByteSize_eq_zero_iff]
    rintro rfl
    cases hlist
  · rintro ⟨⟨-, hsize⟩, hfirst, hall⟩
    exact ⟨⟨hsize, hfirst⟩, hall⟩

/-- A host is under a domain exactly if it is within it. -/
theorem isUnder_iff {domain host : String} : isUnder domain host = true ↔ IsWithin domain host := by
  have hdot : Text.asciiLower "." = "." := by decide
  unfold isUnder
  rw [Bool.or_eq_true, beq_iff_eq, Text.endsWith_asciiLower, ← hdot, ← Text.asciiLower_append]
  rfl

/-- A host is outside of the domain, if there is one, exactly if it is not within it. -/
theorem outside_iff {host : String} :
    Outside domain? host ↔ ∀ domain, domain? = some domain → ¬ IsWithin domain host := by
  simp only [Outside, ← isUnder_iff, Bool.not_eq_true]

/-! ## Resolving -/

/-- The route of a rule by itself is what the rule asks for. -/
theorem IsRouteOf.answers (h : IsRouteOf ports domain? rule route) : Answers ports rule route :=
  ⟨h.name_eq, h.port_eq, h.target, h.hosts_eq⟩

/-- Each route is what its rule asks for. -/
theorem answers_of_resolve (h : resolve ports domain? rules = .ok routes) :
    List.Forall₂ (Answers ports) rules routes :=
  (resolve_eq_ok.1 h).1.imp fun _ _ => IsRouteOf.answers

/-- Rules that are resolved are consistent. -/
theorem consistent_of_resolve (h : resolve ports domain? rules = .ok routes) :
    Consistent ports domain? rules := by
  obtain ⟨hroutes, hapart⟩ := resolve_eq_ok.1 h
  have hroute : ∀ rule ∈ rules, ∃ route ∈ routes, IsRouteOf ports domain? rule route :=
    fun rule hmem => exists_right_of_forall₂ hroutes hmem
  constructor
  case isPortName =>
    intro rule hmem
    obtain ⟨route, -, hof⟩ := hroute rule hmem
    exact isName_iff.1 hof.isName
  case nodup_ports =>
    rw [← map_port_of_resolve h]
    exact nodup_ports_of_resolve h
  case published =>
    intro rule hmem
    obtain ⟨route, -, hof⟩ := hroute rule hmem
    exact ⟨_, hof.target⟩
  case agree =>
    intro first hfirst second hsecond target hfirstTarget hsecondTarget
    obtain ⟨route, hmem, hof⟩ := hroute first hfirst
    obtain ⟨other, hother, hof'⟩ := hroute second hsecond
    have htarget : route.targetPort = other.targetPort := by
      rw [← Option.some_inj, ← hof.target, ← hof'.target, hfirstTarget, hsecondTarget]
    rw [← hof.name_eq, ← hof'.name_eq]
    by_cases hsame : route = other
    · rw [hsame]
    · exact (hapart.forall hmem hother hsame).name_eq htarget
  case nodup_hosts =>
    rw [← hosts_of_resolve h]
    exact nodup_hosts_of_resolve h
  case outside =>
    intro domain hdomain host hmem
    rw [← hosts_of_resolve h] at hmem
    exact outside_iff.1 (outside_of_resolve h hmem) domain hdomain

/-- The route that a rule asks for where its port is published. -/
def suggested (ports : Compose.PublishedPorts) (rule : AppRule) : Route :=
  ⟨rule.name, rule.port, (ports.targetOf? rule.port).getD 0, hostsOf rule⟩

namespace Consistent

variable (h : Consistent ports domain? rules)
include h

/-- The port of a consistent rule leads to the container port of the suggested route. -/
theorem targetOf?_eq (hmem : rule ∈ rules) :
    ports.targetOf? rule.port = some (suggested ports rule).targetPort := by
  obtain ⟨target, htarget⟩ := h.published rule hmem
  rw [suggested, htarget]
  rfl

/-- The suggested route is the route of its rule by itself. -/
theorem isRouteOf_suggested (hmem : rule ∈ rules) :
    IsRouteOf ports domain? rule (suggested ports rule) where
  isName := isName_iff.2 (h.isPortName rule hmem)
  outside host hhost := outside_iff.2 fun domain hdomain =>
    h.outside domain hdomain host (List.mem_flatMap.2 ⟨rule, hmem, hhost⟩)
  nodup_hosts := (List.nodup_flatMap.1 h.nodup_hosts).1 rule hmem
  target := h.targetOf?_eq hmem
  name_eq := rfl
  port_eq := rfl
  hosts_eq := rfl

/-- The suggested routes of consistent rules are apart from each other. -/
theorem pairwise_suggested : (rules.map (suggested ports)).Pairwise Apart := by
  have hports : rules.Pairwise fun first second => first.port ≠ second.port :=
    List.pairwise_map.1 h.nodup_ports
  have hhosts := (List.nodup_flatMap.1 h.nodup_hosts).2
  refine List.pairwise_map.2 ((hports.and hhosts).imp_of_mem ?_)
  rintro first second hfirst hsecond ⟨hne, hdisjoint⟩
  refine ⟨hne, fun htarget => ?_, hdisjoint⟩
  exact h.agree first hfirst second hsecond _ (h.targetOf?_eq hfirst)
    (htarget ▸ h.targetOf?_eq hsecond)

/-- Consistent rules are resolved to the suggested routes. -/
theorem resolve_eq : resolve ports domain? rules = .ok (rules.map (suggested ports)) :=
  resolve_eq_ok.2 ⟨List.forall₂_map_right_iff.2
    (List.forall₂_same.2 fun _ hmem => h.isRouteOf_suggested hmem), h.pairwise_suggested⟩

end Consistent

/-- Rules are resolved exactly if they are consistent. -/
theorem exists_resolve_iff :
    (∃ routes, resolve ports domain? rules = .ok routes) ↔ Consistent ports domain? rules :=
  ⟨fun ⟨_, h⟩ => consistent_of_resolve h, fun h => ⟨_, h.resolve_eq⟩⟩

/-- Rules are resolved exactly if they are consistent, and then each has the route that it asks
for, in the order of the rules. -/
theorem resolved_iff_consistent (ports : Compose.PublishedPorts) (domain? : Option String)
    (rules : List AppRule) :
    ((∃ routes, resolve ports domain? rules = .ok routes) ↔ Consistent ports domain? rules) ∧
      ∀ routes, resolve ports domain? rules = .ok routes →
        List.Forall₂ (Answers ports) rules routes :=
  ⟨exists_resolve_iff, fun _ => answers_of_resolve⟩

end ComposeCluster.Route

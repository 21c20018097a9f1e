import ComposeCluster.Proofs.App.CreationOrder
import ComposeCluster.Proofs.App.Ingresses

/-!
# Nothing fails after the last check

Once volumes are bound, only two steps could still fail: the credentials are checked again, and a
generated host may not be taken. The conversion has checked the same credentials, and it has
resolved the routes below the same domain, so neither step fails.
-/

set_option autoImplicit false

namespace ComposeCluster

/-- Content objects can be made of a normal form if the credentials pass their check. -/
theorem Content.Objects.exists_ofNormal (scope : Scope) (normal : Compose.Normal)
    {credentials? : Option String} (h : credentials?.toList.forM checkCredentials = .ok ()) :
    ∃ objects, ofNormal scope normal credentials? = .ok objects := by
  unfold ofNormal
  rw [h]
  exact ⟨_, rfl⟩

namespace Job

variable {job : Job} {tree : SourceTree} {project : Compose.Project} {conversion : Conversion}
  {warnings : List String}

/-- Ingresses can be made of routes that passed the check. -/
theorem exists_ingresses (h : job.check tree project = .ok (conversion, warnings))
    (service? : Option Service) :
    ∃ ingresses, job.ingresses service? conversion.routes = .ok ingresses := by
  obtain ⟨normal, -, -, hroutes, -, -⟩ := of_check h
  cases service? with
  | none => exact ⟨.none, rfl⟩
  | some service =>
    obtain ⟨ingresses, hmade, -⟩ :=
      AppIngresses.exists_ofRoutes job.scope job.ingressSetting hroutes
    exact ⟨ingresses, hmade⟩

/-- Whatever the volumes are bound to, the objects of a checked project can be put together. -/
theorem exists_assemble (h : job.check tree project = .ok (conversion, warnings))
    (volumes : List BoundVolume) :
    ∃ manifests, job.assemble conversion volumes = .ok manifests := by
  obtain ⟨-, -, -, -, hcredentials, -⟩ := of_check h
  obtain ⟨content, hcontent⟩ :=
    Content.Objects.exists_ofNormal job.contentScope conversion.project hcredentials
  obtain ⟨ingresses, hingresses⟩ :=
    exists_ingresses h (job.scope.service? conversion.routes conversion.project.ports)
  unfold assemble
  dsimp only
  rw [hcontent]
  dsimp only [bind, Except.bind]
  rw [hingresses]
  exact ⟨_, rfl⟩

end Job

namespace Progress

variable {job : Job}

/-- A conversion that succeeded comes from a check that did. -/
theorem check_of_convert {tree : SourceTree} {before : Progress} {conversion : Conversion}
    {warnings : List String}
    (h : before.convert job tree = (⟨.converted conversion, warnings⟩, .ok ())) :
    ∃ project found, job.check tree project = .ok (conversion, found) := by
  have hstep := step_answer job before (.convert tree)
  rw [answer, h] at hstep
  cases hstep with
  | converted hphase hparse hcheck => exact ⟨_, _, hcheck⟩

/-- A build after volumes were bound delivers the objects. -/
theorem Step.exists_delivery {calls : List Call} {before after : Progress} {reply : Reply}
    (h : Step job before .build after reply) (hreached : before.phase.ReachedBy job calls)
    (hbound : before.phase.stage = .bound) : ∃ delivery, reply = .ok (some delivery) := by
  cases h with
  | outOfTurn herror =>
    rw [hbound] at herror
    cases herror
  | unassembled hphase hassemble =>
    rw [hphase] at hreached
    obtain ⟨_, _, _, _, -, -, hcheck, -⟩ := hreached.of_bound
    obtain ⟨manifests, hmanifests⟩ := Job.exists_assemble hcheck _
    rw [hmanifests] at hassemble
    cases hassemble
  | built hphase hassemble => exact ⟨_, rfl⟩

/-- Once volumes are bound, the objects can be put together: after every conversion that succeeded,
whatever the volumes are bound to, and in every sequence of calls. In particular the ingresses can
be made for every list of rules that was accepted below the same domain, whatever the generated
hosts start with; they list the hosts of the rules and one generated host for each rule, in their
order, and no host twice. -/
theorem build_succeeds_once_bound :
    (∀ (job : Job) (tree : SourceTree) (before : Progress) conversion warnings,
      before.convert job tree = (⟨.converted conversion, warnings⟩, .ok ()) →
        ∀ volumes warnings, ∃ delivery,
          (build job ⟨.bound conversion volumes, warnings⟩).2 = .ok delivery) ∧
    (∀ job calls, ∀ turn ∈ turns job calls start,
      turn.call = .build → turn.before.phase.stage = .bound →
        ∃ delivery, turn.reply = .ok (some delivery)) ∧
    ∀ ports domain? rules routes, Route.resolve ports domain? rules = .ok routes →
      ∀ scope (setting : IngressSetting), setting.domain? = domain? →
        ∃ ingresses, AppIngresses.ofRoutes scope setting routes = .ok ingresses ∧
          ingresses.custom?.toList.flatMap Ingress.hosts = rules.flatMap Route.hostsOf ∧
          ingresses.default?.toList.flatMap Ingress.hosts =
            (domain?.toList.flatMap fun domain => rules.map fun rule =>
              AppIngresses.defaultHost setting.hostStart rule.port domain) ∧
          (ingresses.toList.flatMap Ingress.hosts).Nodup := by
  refine ⟨?conversion, ?calls, ?ingresses⟩
  case conversion =>
    intro job tree before conversion _ hconvert volumes warnings
    obtain ⟨project, _, hcheck⟩ := check_of_convert hconvert
    obtain ⟨manifests, hassemble⟩ := Job.exists_assemble hcheck volumes
    refine ⟨⟨manifests, warnings⟩, ?_⟩
    simp only [build, hassemble]
  case calls =>
    intro job calls turn hturn hcall hbound
    have hstart : start.phase.ReachedBy job [] := .start
    obtain ⟨_, _, -, hreached, hstep⟩ := reachedBy_of_mem_turns hstart hturn
    rw [hcall] at hstep
    exact hstep.exists_delivery hreached hbound
  case ingresses =>
    rintro ports _ rules routes hroutes scope setting rfl
    exact AppIngresses.exists_ofRoutes scope setting hroutes

/-- Two rules below a domain, one of them with a host of its own. -/
def shopRules : List AppRule := [⟨"web", 80, ["shop.example.com"]⟩, ⟨"admin", 8080, []⟩]

/-- The build of the store succeeds, and so do the ingresses of two rules below one domain. -/
theorem build_succeeds_for_store :
    (∃ turn ∈ turns storeJob storeCalls start, turn.before.phase.stage = .bound ∧
      ∃ delivery, turn.reply = .ok (some delivery)) ∧
    ∃ routes, Route.resolve ⟨.ofList [(80, 8000), (8080, 8001)], .empty⟩ (some "example.org")
        shopRules = .ok routes ∧
      ∀ scope, ∃ ingresses,
        AppIngresses.ofRoutes scope ⟨"traefik", "shop", some "example.org", none⟩ routes =
          .ok ingresses ∧
        ingresses.custom?.toList.flatMap Ingress.hosts = ["shop.example.com"] ∧
        ingresses.default?.toList.flatMap Ingress.hosts =
          ["shop-80.example.org", "shop-8080.example.org"] := by
  obtain ⟨-, hcalls, hingresses⟩ := build_succeeds_once_bound
  constructor
  · have hbound : ((turns storeJob storeCalls start).any fun turn =>
        turn.call = .build ∧ turn.before.phase.stage = .bound) = true := by
      decide +kernel
    obtain ⟨turn, hturn, hstage⟩ := List.any_eq_true.1 hbound
    obtain ⟨hcall, hstage⟩ := of_decide_eq_true hstage
    exact ⟨turn, hturn, hstage, hcalls storeJob storeCalls turn hturn hcall hstage⟩
  · have hroutes : Route.resolve ⟨.ofList [(80, 8000), (8080, 8001)], .empty⟩ (some "example.org")
        shopRules = .ok [⟨"web", 80, 8000, ["shop.example.com"]⟩, ⟨"admin", 8080, 8001, []⟩] := by
      rfl
    refine ⟨_, hroutes, fun scope => ?_⟩
    obtain ⟨ingresses, hmade, hcustom, hdefault, -⟩ := hingresses _ _ _ _ hroutes scope
      ⟨"traefik", "shop", some "example.org", none⟩ rfl
    refine ⟨ingresses, hmade, hcustom.trans ?_, hdefault.trans ?_⟩
    · decide
    · decide

end Progress

end ComposeCluster

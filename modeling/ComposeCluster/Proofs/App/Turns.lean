import ComposeCluster.App.Conversion
import ComposeCluster.Proofs.Control

/-!
# Phases in turn

Whoever holds a conversion may ask for its phases in any order, any number of times, and with other
files and other bindings each time. `Progress.Step` says once all that can come of one call, and
`Progress.step_answer` that nothing else does. What has been found so far is the work of the calls
that succeeded so far (`Phase.ReachedBy`); one call preserves this (`Progress.Step.reachedBy`), and
so does every sequence of calls (`Progress.reachedBy_of_mem_turns`). Hence the calls that succeed
are the three phases in turn, up to one of them, and whatever is delivered was put together from
what they found (`Progress.makes_of_delivered`).
-/

set_option autoImplicit false

namespace ComposeCluster

/-! ## Calls -/

/-- How far a conversion has come, without what it has found. -/
inductive Stage where
  | created
  | converted
  | bound
  | built
  deriving DecidableEq

def Phase.stage : Phase → Stage
  | .created => .created
  | .converted _ => .converted
  | .bound _ _ => .bound
  | .built => .built

/-- A phase that a conversion is asked for, with the files that are there at the time, or with the
bindings. -/
inductive Call where
  | convert (tree : SourceTree)
  | bind (bindings : List VolumeBinding)
  | build
  deriving DecidableEq

/-- The error of a call at a stage where it is not its turn. -/
def Call.outOfTurn? : Call → Stage → Option ConversionError
  | .convert _, .created => none
  | .convert _, .converted => some .alreadyConverted
  | .convert _, .bound => some .alreadyConverted
  | .convert _, .built => some .alreadyBuilt
  | .bind _, .created => some .notConverted
  | .bind _, .converted => none
  | .bind _, .bound => some .alreadyBound
  | .bind _, .built => some .alreadyBuilt
  | .build, .created => some .notConverted
  | .build, .converted => some .notBound
  | .build, .bound => none
  | .build, .built => some .alreadyBuilt

/-- What a call gives back: an error, or success, with the objects once they are put together. -/
abbrev Reply := Except ConversionError (Option Delivery)

namespace Progress

variable {job : Job} {progress after : Progress} {call : Call} {reply : Reply}
  {error : ConversionError}

def answer (job : Job) (progress : Progress) : Call → Progress × Reply
  | .convert tree => (progress.convert job tree).map id (·.map fun () => none)
  | .bind bindings => (progress.bind job bindings).map id (·.map fun () => none)
  | .build => (progress.build job).map id (·.map some)

/-- All that can come of a call: it is not its turn, or one of its steps fails, or it succeeds. -/
inductive Step (job : Job) (progress : Progress) : Call → Progress → Reply → Prop
  | outOfTurn {call : Call} {error : ConversionError}
      (herror : call.outOfTurn? progress.phase.stage = some error) :
      Step job progress call progress (.error error)
  | unread {tree : SourceTree} {refusal : Refusal}
      (hphase : progress.phase = .created)
      (hparse : Compose.Project.parse job.target.app.compose = .error refusal) :
      Step job progress (.convert tree) ⟨.created, []⟩ (.error (.refused refusal))
  | unchecked {tree : SourceTree} {project : Compose.Project} {refusal : Refusal}
      (hphase : progress.phase = .created)
      (hparse : Compose.Project.parse job.target.app.compose = .ok project)
      (hcheck : job.check tree project = .error refusal) :
      Step job progress (.convert tree) ⟨.created, project.warnings⟩ (.error (.refused refusal))
  | converted {tree : SourceTree} {project : Compose.Project} {conversion : Conversion}
      {warnings : List String}
      (hphase : progress.phase = .created)
      (hparse : Compose.Project.parse job.target.app.compose = .ok project)
      (hcheck : job.check tree project = .ok (conversion, warnings)) :
      Step job progress (.convert tree)
        ⟨.converted conversion, project.warnings ++ warnings.drop project.warnings.length⟩
        (.ok none)
  | unbound {bindings : List VolumeBinding} {conversion : Conversion} {error : ConversionError}
      (hphase : progress.phase = .converted conversion)
      (hbind : job.bindAll bindings = .error error) :
      Step job progress (.bind bindings) progress (.error error)
  | bound {bindings : List VolumeBinding} {conversion : Conversion} {volumes : List BoundVolume}
      (hphase : progress.phase = .converted conversion)
      (hbind : job.bindAll bindings = .ok volumes) :
      Step job progress (.bind bindings) ⟨.bound conversion volumes, progress.warnings⟩ (.ok none)
  | unassembled {conversion : Conversion} {volumes : List BoundVolume} {refusal : Refusal}
      (hphase : progress.phase = .bound conversion volumes)
      (hassemble : job.assemble conversion volumes = .error refusal) :
      Step job progress .build progress (.error (.refused refusal))
  | built {conversion : Conversion} {volumes : List BoundVolume} {manifests : ManifestSet}
      (hphase : progress.phase = .bound conversion volumes)
      (hassemble : job.assemble conversion volumes = .ok manifests) :
      Step job progress .build ⟨.built, progress.warnings⟩
        (.ok (some ⟨manifests, progress.warnings⟩))

/-- Nothing else comes of a call. -/
theorem step_answer (job : Job) (progress : Progress) (call : Call) :
    Step job progress call (progress.answer job call).1 (progress.answer job call).2 := by
  obtain ⟨phase, warnings⟩ := progress
  -- The phase decides whether it is the turn of a call, and in its turn its steps decide the rest.
  cases call with
  | convert tree =>
    cases phase with
    | created =>
      cases hparse : Compose.Project.parse job.target.app.compose with
      | error refusal =>
        simp only [answer, convert, hparse, Prod.map, id]
        exact .unread rfl hparse
      | ok project =>
        cases hcheck : job.check tree project with
        | error refusal =>
          simp only [answer, convert, hparse, hcheck, Prod.map, id]
          exact .unchecked rfl hparse hcheck
        | ok result =>
          simp only [answer, convert, hparse, hcheck, Prod.map, id]
          exact .converted rfl hparse hcheck
    | converted conversion => exact .outOfTurn rfl
    | bound conversion volumes => exact .outOfTurn rfl
    | built => exact .outOfTurn rfl
  | bind bindings =>
    cases phase with
    | created => exact .outOfTurn rfl
    | converted conversion =>
      cases hbind : job.bindAll bindings with
      | error error =>
        simp only [answer, Progress.bind, hbind, Prod.map, id]
        exact .unbound rfl hbind
      | ok volumes =>
        simp only [answer, Progress.bind, hbind, Prod.map, id]
        exact .bound rfl hbind
    | bound conversion volumes => exact .outOfTurn rfl
    | built => exact .outOfTurn rfl
  | build =>
    cases phase with
    | created => exact .outOfTurn rfl
    | converted conversion => exact .outOfTurn rfl
    | bound conversion volumes =>
      cases hassemble : job.assemble conversion volumes with
      | error refusal =>
        simp only [answer, build, hassemble, Prod.map, id]
        exact .unassembled rfl hassemble
      | ok manifests =>
        simp only [answer, build, hassemble, Prod.map, id]
        exact .built rfl hassemble
    | built => exact .outOfTurn rfl

end Progress

/-! ## Errors -/

/-- A volume that cannot be bound is not a matter of turns. -/
theorem Job.isOutOfTurn_of_bindAll {job : Job} {bindings : List VolumeBinding}
    {error : ConversionError} (h : job.bindAll bindings = .error error) :
    error.isOutOfTurn = false := by
  rcases Except.bind_eq_error.1 h with hcount | ⟨-, -, hall⟩
  · obtain ⟨refusal, -, rfl⟩ := Except.mapError_eq_error.1 hcount
    rfl
  · obtain ⟨binding, -, hone⟩ := Except.exists_of_mapM_eq_error hall
    rcases Except.bind_eq_error.1 hone with hvolume | ⟨volume, -, hone⟩
    · obtain ⟨refusal, -, rfl⟩ := Except.mapError_eq_error.1 hvolume
      rfl
    · rcases Except.bind_eq_error.1 hone with hclass | ⟨volumeClass, -, hobjects⟩
      · obtain ⟨cause, -, rfl⟩ := Except.mapError_eq_error.1 hclass
        rfl
      · obtain ⟨refusal, -, rfl⟩ := Except.mapError_eq_error.1 hobjects
        rfl

/-- The error of a call that comes too early or too late says so. -/
theorem Call.isOutOfTurn_of_outOfTurn? {call : Call} {stage : Stage} {error : ConversionError}
    (h : call.outOfTurn? stage = some error) : error.isOutOfTurn = true := by
  cases call <;> cases stage <;> cases h <;> rfl

namespace Progress

variable {job : Job} {progress after : Progress} {call : Call} {reply : Reply}
  {error : ConversionError}

/-- The reply to a call that is out of turn is its error. -/
theorem Step.reply_of_outOfTurn? (h : Step job progress call after reply)
    (herror : call.outOfTurn? progress.phase.stage = some error) : reply = .error error := by
  cases h with
  | outOfTurn hsome =>
    rw [herror] at hsome
    cases hsome
    rfl
  | unread hphase | unchecked hphase | converted hphase | unbound hphase | bound hphase
  | unassembled hphase | built hphase =>
    rw [hphase] at herror
    cases herror

/-- An error says that it is not a call's turn exactly when it is not. -/
theorem Step.isOutOfTurn_iff (h : Step job progress call after (.error error)) :
    error.isOutOfTurn = true ↔ (call.outOfTurn? progress.phase.stage).isSome = true := by
  cases h with
  | outOfTurn herror =>
    rw [herror, Call.isOutOfTurn_of_outOfTurn? herror]
    rfl
  | unread hphase | unchecked hphase | unassembled hphase =>
    rw [hphase]
    exact ⟨nofun, nofun⟩
  | unbound hphase hbind =>
    rw [hphase, Job.isOutOfTurn_of_bindAll hbind]
    exact ⟨nofun, nofun⟩

/-- A call that fails leaves the phase as it was. -/
theorem Step.phase_eq (h : Step job progress call after (.error error)) :
    after.phase = progress.phase := by
  cases h with
  | unread hphase | unchecked hphase => exact hphase.symm
  | outOfTurn | unbound | unassembled => rfl

/-- Only an attempt to convert that fails in its turn changes the warnings. -/
theorem Step.warnings_eq (h : Step job progress call after (.error error))
    (hcall : (∀ tree, call ≠ .convert tree) ∨ error.isOutOfTurn = true) :
    after.warnings = progress.warnings := by
  cases h with
  | unread | unchecked =>
    rcases hcall with hcall | hcall
    · exact absurd rfl (hcall _)
    · cases hcall
  | outOfTurn | unbound | unassembled => rfl

/-- Objects are delivered when they are put together from bound volumes. -/
theorem Step.of_delivered {delivery : Delivery}
    (h : Step job progress call after (.ok (some delivery))) :
    call = .build ∧ ∃ conversion volumes, progress.phase = .bound conversion volumes ∧
      job.assemble conversion volumes = .ok delivery.manifests := by
  cases h with
  | built hphase hassemble => exact ⟨rfl, _, _, hphase, hassemble⟩

end Progress

/-! ## What has been found so far -/

/-- The phase that the calls that succeeded, and nothing else, have led to. -/
inductive Phase.ReachedBy (job : Job) : List Call → Phase → Prop
  | start : ReachedBy job [] .created
  | convert {tree : SourceTree} {project : Compose.Project} {conversion : Conversion}
      {warnings : List String}
      (hparse : Compose.Project.parse job.target.app.compose = .ok project)
      (hcheck : job.check tree project = .ok (conversion, warnings)) :
      ReachedBy job [.convert tree] (.converted conversion)
  | bind {tree : SourceTree} {bindings : List VolumeBinding} {conversion : Conversion}
      {volumes : List BoundVolume}
      (hconverted : ReachedBy job [.convert tree] (.converted conversion))
      (hbind : job.bindAll bindings = .ok volumes) :
      ReachedBy job [.convert tree, .bind bindings] (.bound conversion volumes)
  | build {tree : SourceTree} {bindings : List VolumeBinding} {conversion : Conversion}
      {volumes : List BoundVolume} {manifests : ManifestSet}
      (hbound : ReachedBy job [.convert tree, .bind bindings] (.bound conversion volumes))
      (hassemble : job.assemble conversion volumes = .ok manifests) :
      ReachedBy job [.convert tree, .bind bindings, .build] .built

/-- The objects that a job makes of files and bindings: those that are put together from what its
phases find, one after the other. -/
def Job.Makes (job : Job) (tree : SourceTree) (bindings : List VolumeBinding)
    (manifests : ManifestSet) : Prop :=
  ∃ project conversion warnings volumes,
    Compose.Project.parse job.target.app.compose = .ok project ∧
      job.check tree project = .ok (conversion, warnings) ∧
      job.bindAll bindings = .ok volumes ∧
      job.assemble conversion volumes = .ok manifests

namespace Phase.ReachedBy

variable {job : Job} {calls : List Call} {phase : Phase}

/-- The calls that succeed are the three phases in turn, up to one of them. -/
theorem isPrefix (h : ReachedBy job calls phase) :
    ∃ tree bindings, calls <+: [.convert tree, .bind bindings, .build] := by
  cases h with
  | start => exact ⟨.empty, [], List.nil_prefix⟩
  | @convert tree => exact ⟨tree, [], [.bind [], .build], rfl⟩
  | @bind tree bindings => exact ⟨tree, bindings, [.build], rfl⟩
  | @build tree bindings => exact ⟨tree, bindings, [], rfl⟩

/-- Volumes are bound after a conversion and a binding that succeeded, and no other calls. -/
theorem of_bound {conversion : Conversion} {volumes : List BoundVolume}
    (h : ReachedBy job calls (.bound conversion volumes)) :
    ∃ tree bindings project warnings, calls = [.convert tree, .bind bindings] ∧
      Compose.Project.parse job.target.app.compose = .ok project ∧
      job.check tree project = .ok (conversion, warnings) ∧
      job.bindAll bindings = .ok volumes := by
  cases h with
  | bind hconverted hbind =>
    cases hconverted with
    | convert hparse hcheck => exact ⟨_, _, _, _, rfl, hparse, hcheck, hbind⟩

end Phase.ReachedBy

/-! ## Sequences of calls -/

/-- A call with its answer, and the progress before and after it. -/
structure Turn where
  before : Progress
  call : Call
  after : Progress
  reply : Reply

namespace Turn

variable {turn : Turn}

def succeeded (turn : Turn) : Bool := turn.reply.isOk

/-- What a call delivered, if it delivered anything. -/
def delivery? (turn : Turn) : Option Delivery := turn.reply.toOption.join

/-- A call that delivered something replied with it. -/
theorem reply_of_delivery? {delivery : Delivery} (h : turn.delivery? = some delivery) :
    turn.reply = .ok (some delivery) := by
  unfold delivery? at h
  cases hreply : turn.reply with
  | error error =>
    rw [hreply] at h
    cases h
  | ok delivery? =>
    rw [hreply] at h
    exact congrArg _ h

/-- A delivery that passes a test, found by evaluation. -/
theorem exists_delivered {turns : List Turn} {test : Delivery → Bool}
    (h : (turns.any fun turn => turn.delivery?.any test) = true) :
    ∃ turn ∈ turns, ∃ delivery, turn.reply = .ok (some delivery) ∧ test delivery = true := by
  obtain ⟨turn, hturn, hany⟩ := List.any_eq_true.1 h
  obtain ⟨delivery, hdelivery, htest⟩ := (Option.any_eq_true _ _).1 hany
  exact ⟨turn, hturn, delivery, reply_of_delivery? hdelivery, htest⟩

def successes (turns : List Turn) : List Call := (turns.filter succeeded).map (·.call)

/-- Successes of two sequences are those of the first and those of the second. -/
theorem successes_append (earlier later : List Turn) :
    successes (earlier ++ later) = successes earlier ++ successes later := by
  rw [successes, List.filter_append, List.map_append]
  rfl

/-- A turn with a result is a success. -/
theorem successes_of_ok {delivery? : Option Delivery} (h : turn.reply = .ok delivery?) :
    successes [turn] = [turn.call] := by
  rw [successes, List.filter_cons_of_pos (by rw [succeeded, h]; rfl)]
  rfl

/-- A turn with an error is no success. -/
theorem successes_of_error {error : ConversionError} (h : turn.reply = .error error) :
    successes [turn] = [] := by
  rw [successes, List.filter_cons_of_neg (by rw [succeeded, h]; nofun)]
  rfl

end Turn

namespace Progress

open Turn (successes successes_append successes_of_ok successes_of_error)

variable {job : Job} {progress after : Progress} {call : Call} {reply : Reply}
  {calls done : List Call} {turn : Turn}

/-- The turns of a sequence of calls, each with the progress that the one before has left. -/
def turns (job : Job) : List Call → Progress → List Turn
  | [], _ => []
  | call :: rest, progress =>
    let answer := progress.answer job call
    ⟨progress, call, answer.1, answer.2⟩ :: turns job rest answer.1

/-- A call that succeeds leads to its own phase, and one that fails nowhere. -/
theorem Step.reachedBy (h : Step job progress call after reply)
    (hdone : progress.phase.ReachedBy job done) :
    after.phase.ReachedBy job (done ++ successes [⟨progress, call, after, reply⟩]) := by
  cases hreply : reply with
  | error error =>
    rw [hreply] at h
    rwa [successes_of_error rfl, List.append_nil, h.phase_eq]
  | ok delivery? =>
    rw [hreply] at h
    rw [successes_of_ok rfl]
    -- Only one phase is left by each call, and `hdone` says which calls have led to it.
    cases h with
    | converted hphase hparse hcheck =>
      rw [hphase] at hdone
      cases hdone
      exact .convert hparse hcheck
    | bound hphase hbind =>
      rw [hphase] at hdone
      cases hdone with
      | convert hparse hcheck => exact .bind (.convert hparse hcheck) hbind
    | built hphase hassemble =>
      rw [hphase] at hdone
      cases hdone with
      | bind hconverted hbind => exact .build (.bind hconverted hbind) hassemble

/-- A sequence of calls leads to the phase of those that succeed. -/
theorem exists_reachedBy_turns (calls : List Call) (hdone : progress.phase.ReachedBy job done) :
    ∃ phase : Phase, phase.ReachedBy job (done ++ successes (turns job calls progress)) := by
  induction calls generalizing progress done with
  | nil => exact ⟨_, by rwa [turns, successes, List.filter_nil, List.map_nil, List.append_nil]⟩
  | cons call rest ih =>
    obtain ⟨phase, hphase⟩ := ih ((step_answer job progress call).reachedBy hdone)
    rw [List.append_assoc, ← successes_append] at hphase
    exact ⟨phase, hphase⟩

/-- Each turn answers its call at the phase of the calls that succeeded before. -/
theorem reachedBy_of_mem_turns (hdone : progress.phase.ReachedBy job done)
    (hmem : turn ∈ turns job calls progress) :
    ∃ earlier later, turns job calls progress = earlier ++ turn :: later ∧
      turn.before.phase.ReachedBy job (done ++ successes earlier) ∧
      Step job turn.before turn.call turn.after turn.reply := by
  induction calls generalizing progress done with
  | nil => cases hmem
  | cons call rest ih =>
    have hstep := step_answer job progress call
    rcases List.mem_cons.1 hmem with rfl | hmem
    · refine ⟨[], _, rfl, ?_, hstep⟩
      rwa [successes, List.filter_nil, List.map_nil, List.append_nil]
    · obtain ⟨earlier, later, hturns, hbefore, hturn⟩ := ih (hstep.reachedBy hdone) hmem
      refine ⟨_ :: earlier, later, congrArg _ hturns, ?_, hturn⟩
      rwa [List.append_assoc, ← successes_append] at hbefore

/-- What is delivered was put together in the last of three calls that succeeded. -/
theorem makes_of_delivered {delivery : Delivery} (hmem : turn ∈ turns job calls start)
    (hreply : turn.reply = .ok (some delivery)) :
    ∃ tree bindings, job.Makes tree bindings delivery.manifests ∧
      successes (turns job calls start) = [.convert tree, .bind bindings, .build] := by
  have hstart : start.phase.ReachedBy job [] := .start
  obtain ⟨earlier, later, hturns, hbefore, hstep⟩ := reachedBy_of_mem_turns hstart hmem
  rw [hreply] at hstep
  obtain ⟨hcall, conversion, volumes, hphase, hassemble⟩ := hstep.of_delivered
  rw [hphase] at hbefore
  obtain ⟨tree, bindings, project, warnings, hearlier, hparse, hcheck, hbind⟩ := hbefore.of_bound
  refine ⟨tree, bindings,
    ⟨project, conversion, warnings, volumes, hparse, hcheck, hbind, hassemble⟩, ?_⟩
  have hall : successes (turns job calls start) =
      [.convert tree, .bind bindings, .build] ++ successes later := by
    rw [hturns, List.append_cons, successes_append, successes_append, successes_of_ok hreply,
      hcall]
    exact congrArg (· ++ [Call.build] ++ successes later) hearlier
  -- Nothing succeeds after the third call, or the calls would not be the phases in turn.
  obtain ⟨final, hfinal⟩ := exists_reachedBy_turns calls hstart
  obtain ⟨_, _, hprefix⟩ := hfinal.isPrefix
  have hlength := hprefix.length_le
  rw [List.nil_append, hall, List.length_append] at hlength
  have hlater : successes later = [] := List.length_eq_zero_iff.1 (by
    change 3 + _ ≤ 3 at hlength
    omega)
  rw [hall, hlater, List.append_nil]

/-- Whatever is asked for, in whatever order: the calls that succeed are the three phases in turn,
up to one of them; a call out of turn fails with the error for that, and no other error says that
it is not a call's turn; a call that fails leaves the phase, the project and the bound volumes as
they were, and the warnings as well unless it was an attempt to convert in its turn. -/
theorem phases_in_turn (job : Job) (calls : List Call) :
    (∃ tree bindings,
      successes (turns job calls start) <+: [.convert tree, .bind bindings, .build]) ∧
    ∀ turn ∈ turns job calls start,
      (∀ error, turn.call.outOfTurn? turn.before.phase.stage = some error →
        turn.reply = .error error) ∧
      ∀ error, turn.reply = .error error →
        (error.isOutOfTurn = true ↔
          (turn.call.outOfTurn? turn.before.phase.stage).isSome = true) ∧
        turn.after.phase = turn.before.phase ∧
        turn.after.project? = turn.before.project? ∧
        turn.after.bound? = turn.before.bound? ∧
        ((∀ tree, turn.call ≠ .convert tree) ∨ error.isOutOfTurn = true →
          turn.after.warnings = turn.before.warnings) := by
  have hstart : start.phase.ReachedBy job [] := .start
  refine ⟨?_, fun turn hmem => ?_⟩
  · obtain ⟨final, hfinal⟩ := exists_reachedBy_turns calls hstart
    exact hfinal.isPrefix
  · obtain ⟨-, -, -, -, hstep⟩ := reachedBy_of_mem_turns hstart hmem
    refine ⟨fun error => hstep.reply_of_outOfTurn?, fun error hreply => ?_⟩
    rw [hreply] at hstep
    have hphase := hstep.phase_eq
    refine ⟨hstep.isOutOfTurn_iff, hphase, ?_, ?_, hstep.warnings_eq⟩
    · rw [project?, hphase]
      rfl
    · rw [bound?, hphase]
      rfl

end Progress

end ComposeCluster

import ComposeCluster.Proofs.App.CreationOrder
import ComposeCluster.Proofs.Compose.Warnings

/-!
# Warnings

What a conversion warns about is a matter of its document and of the files that were there when it
succeeded (`Project.GivesReason`). The warnings about the document are recorded before the check and
the others after it; since the check gives back all of them, those about the document first, what is
recorded in the end is what the check gives back, with nothing twice
(`Job.warnings_split_of_check`). No later call changes what was recorded (`Step.keeps_warnings`).
-/

set_option autoImplicit false

namespace ComposeCluster

namespace Progress

variable {job : Job} {progress after : Progress} {call : Call} {calls : List Call} {reply : Reply}
  {turn : Turn} {earlier later : List Turn}

/-- After a conversion that succeeded, no call changes the warnings, and they are what is
delivered. -/
theorem Step.keeps_warnings (h : Step job progress call after reply)
    (hphase : progress.phase.stage ≠ .created) :
    after.phase.stage ≠ .created ∧ after.warnings = progress.warnings ∧
      ∀ delivery, reply = .ok (some delivery) → delivery.warnings = progress.warnings := by
  cases h with
  | outOfTurn | unbound | unassembled => exact ⟨hphase, rfl, fun _ hreply => by cases hreply⟩
  | unread hcreated | unchecked hcreated | converted hcreated =>
    rw [hcreated] at hphase
    exact absurd rfl hphase
  | bound => exact ⟨by simp [Phase.stage], rfl, fun _ hreply => by cases hreply⟩
  | built =>
    refine ⟨by simp [Phase.stage], rfl, fun delivery hreply => ?_⟩
    cases hreply
    rfl

/-- After a conversion the warnings do not change, and what is delivered carries them. -/
theorem warnings_of_mem_turns (hphase : progress.phase.stage ≠ .created)
    (hmem : turn ∈ turns job calls progress) :
    turn.after.warnings = progress.warnings ∧
      ∀ delivery, turn.reply = .ok (some delivery) → delivery.warnings = progress.warnings := by
  induction calls generalizing progress with
  | nil => cases hmem
  | cons call rest ih =>
    obtain ⟨hnext, hwarnings, hdelivery⟩ := (step_answer job progress call).keeps_warnings hphase
    rcases List.mem_cons.1 hmem with rfl | hmem
    · exact ⟨hwarnings, hdelivery⟩
    · rw [← hwarnings]
      exact ih hnext hmem

/-- What follows a turn is the sequence of the remaining calls, from where the turn has led. -/
theorem exists_turns_of_append (h : turns job calls progress = earlier ++ turn :: later) :
    Step job turn.before turn.call turn.after turn.reply ∧
      ∃ rest, later = turns job rest turn.after := by
  induction earlier generalizing calls progress with
  | nil =>
    cases calls with
    | nil => cases h
    | cons call rest =>
      cases h
      exact ⟨step_answer job progress call, rest, rfl⟩
  | cons first others ih =>
    cases calls with
    | nil => cases h
    | cons call rest => exact ih (List.cons.inj h).2

/-- Whatever was tried before: from the attempt to convert that succeeds on, through all later
calls and in what is delivered, the warnings are those that the document gives reason for with the
files of this one attempt. -/
theorem warnings_from_conversion_on {tree : SourceTree}
    (hturns : turns job calls start = earlier ++ turn :: later)
    (hcall : turn.call = .convert tree) (hreply : turn.reply = .ok none) :
    ∃ project, Compose.Project.parse job.target.app.compose = .ok project ∧
      project.GivesReason tree turn.after.warnings ∧
      ∀ next ∈ later, next.after.warnings = turn.after.warnings ∧
        ∀ delivery, next.reply = .ok (some delivery) →
          delivery.warnings = turn.after.warnings := by
  obtain ⟨hstep, rest, rfl⟩ := exists_turns_of_append hturns
  obtain ⟨before, _, after, _⟩ := turn
  obtain rfl := hcall
  obtain rfl := hreply
  cases hstep with
  | converted hphase hparse hcheck =>
    refine ⟨_, hparse, ?reason, fun next hmem => ?later⟩
    case reason =>
      dsimp only
      rw [Job.warnings_split_of_check hcheck]
      exact Job.givesReason_of_check hcheck
    case later => exact warnings_of_mem_turns (by simp [Phase.stage]) hmem

/-- An app that gives reason to warn about its document, its environment and its volume. -/
def clashJob : Job :=
  { storeJob with
    target :=
      { storeJob.target with
        app :=
          { storeJob.target.app with
            compose :=
              "version: '3'\nservices:\n  web:\n    image: nginx\n    ports: ['80:8080']\n" ++
              "    env_file: [base.env, web.env]\n    volumes: ['data:/site']\n" ++
              "    configs: [site]\nconfigs:\n  site:\n    content: hello\n" } } }

def clashTree : SourceTree :=
  ⟨["srv"], [(["srv", "base.env"], .file (Text.utf8 "A=1\nB=1\n")),
    (["srv", "web.env"], .file (Text.utf8 "A=2\nB=1\n"))]⟩

def clashWarnings : List String :=
  ["compose: \x60version\x60 is obsolete",
   "service web: env key A overridden by a later env_file",
   "service web: target path \"/site\" conflicts between config:site and volume:data; " ++
     "ignoring volume (use configs/secrets for single files)"]

/-- Of a sequence of calls the first two turns are made before the others. -/
theorem turns_cons_cons (job : Job) (progress : Progress) (first second : Call)
    (rest : List Call) :
    turns job (first :: second :: rest) progress =
      [⟨progress, first, (progress.answer job first).1, (progress.answer job first).2⟩] ++
        ⟨(progress.answer job first).1, second,
          ((progress.answer job first).1.answer job second).1,
          ((progress.answer job first).1.answer job second).2⟩ ::
        turns job rest ((progress.answer job first).1.answer job second).1 :=
  rfl

/-- Neither the attempt without files before nor the calls after it, two of which fail, change what
the attempt with files warns about. -/
theorem warnings_from_conversion_on_for_clash :
    ∃ earlier turn later,
      turns clashJob [.convert .empty, .convert clashTree, .bind [],
        .bind [⟨"data", ⟨"disk-1", 0⟩, none⟩], .convert .empty, .build] start =
          earlier ++ turn :: later ∧
      turn.call = .convert clashTree ∧ turn.reply = .ok none ∧
      turn.after.warnings = clashWarnings ∧
      (∀ next ∈ later, next.after.warnings = clashWarnings) ∧
      ∃ next ∈ later, ∃ delivery, next.reply = .ok (some delivery) ∧
        delivery.warnings = clashWarnings := by
  have hturns := turns_cons_cons clashJob start (.convert .empty) (.convert clashTree)
    [.bind [], .bind [⟨"data", ⟨"disk-1", 0⟩, none⟩], .convert .empty, .build]
  -- The answer gets a name so that it is evaluated once only.
  obtain ⟨clash, hanswer⟩ : ∃ clash, clash =
      (start.answer clashJob (.convert .empty)).1.answer clashJob (.convert clashTree) := ⟨_, rfl⟩
  rw [← hanswer] at hturns
  have hdecided : clash.2 = .ok none ∧ clash.1.warnings = clashWarnings ∧
      (turns clashJob [.bind [], .bind [⟨"data", ⟨"disk-1", 0⟩, none⟩], .convert .empty, .build]
        clash.1).any (·.delivery?.any fun _ => true) = true := by
    rw [hanswer]
    decide +kernel
  obtain ⟨hreply, hclash, hdelivered⟩ := hdecided
  obtain ⟨project, -, -, hlater⟩ := warnings_from_conversion_on hturns rfl hreply
  rw [hclash] at hlater
  refine ⟨_, _, _, hturns, rfl, hreply, hclash, fun next hnext => (hlater next hnext).1, ?_⟩
  obtain ⟨next, hnext, delivery, hreply, -⟩ := Turn.exists_delivered hdelivered
  exact ⟨next, hnext, delivery, hreply, (hlater next hnext).2 delivery hreply⟩

end Progress

end ComposeCluster

import Waywarden.Infra.RunRepository
import Waywarden.Infra.RunEventRepository

/-!
# `RunLifecycleService`

`waywarden.services.run_lifecycle`: the verbs `start`, `resume` and `cancel`.  Each of the two
later verbs reads the run's row, refuses a missing or terminal one, and appends one event; neither
writes the row.

The three rules at the end say everything a verb can leave behind: nothing, a bare `runs` row
(when the log of a new run is not empty or its event id is taken), or its one event.
-/

namespace Waywarden.RunLifecycleService

/-- `_VALID_RESUME_KINDS`. -/
def validResumeKinds : List String :=
  ["operator_resume", "scheduler_wakeup", "worker_recovery", "transport_rebind"]

/-- The id `start` gives the run of a task. -/
def runIdOf (task : Task) : Text := Text.append ⟨"run-", by decide⟩ task.id

/-- The `Run` that `start` builds. -/
def newRun (task : Task) (entrypoint : Entrypoint) (now : Timestamp) : Except PyError Run :=
  Run.new ("run-" ++ task.id.val) "inst-default" (some task.id.val) task.sessionId .ask
    ("manifest://" ++ task.id.val ++ "/default") entrypoint .created now now none none

/-- The `run.created` event of a run. -/
def createdEvent (run : Run) (now : Timestamp) : RunEvent where
  id := "evt-" ++ run.id.val ++ "-created"
  runId := run.id
  seq := 1
  type := .runCreated
  payload := [("instance_id", .str run.instanceId), ("profile", .str run.profile),
    ("policy_preset", .str run.policyPreset.name), ("manifest_ref", .str run.manifestRef),
    ("entrypoint", .str run.entrypoint.name)]
  timestamp := now
  causation := some (.ofAction "start_run")
  actor := some systemActor
  seq_pos := le_refl 1
  payload_ok := rfl

/-- The `run.resumed` event of a lifecycle resume. -/
def resumedEvent (runId resumeKind : String) (latest : ℕ) (now : Timestamp) : RunEvent where
  id := "evt-" ++ runId ++ "-resumed"
  runId := runId
  seq := latest + 1
  type := .runResumed
  payload := [("resume_kind", .str resumeKind), ("resumed_from_seq", .int latest)]
  timestamp := now
  causation := some (.ofAction resumeKind)
  actor := some systemActor
  seq_pos := Nat.succ_pos latest
  payload_ok := rfl

/-- The `run.cancelled` event of a lifecycle cancel. -/
def cancelledEvent (runId reason : String) (cancelledBy : Option String) (latest : ℕ)
    (now : Timestamp) : RunEvent where
  id := "evt-" ++ runId ++ "-cancelled"
  runId := runId
  seq := latest + 1
  type := .runCancelled
  payload := ("reason", .str reason) ::
    (cancelledBy.map fun who => ("cancelled_by", Value.str who)).toList
  timestamp := now
  causation := some (.ofAction "cancel_run")
  actor := some systemActor
  seq_pos := Nat.succ_pos latest
  payload_ok := rfl

/-- `start`. -/
def start (env : Env) (task : Task) (entrypoint : Entrypoint) : Session Run := do
  let now := env.now 0
  let run ← Effect.ofExcept (newRun task entrypoint now)
  let run ← RunRepository.create run
  let lastSeq ← RunEventRepository.latestSeq run.id
  if lastSeq ≠ 0 then
    Effect.raise ⟨.assertionError, "Expected seq=0 for new run, got %", [toString lastSeq]⟩
  else do
    let _ ← RunEventRepository.append (createdEvent run now)
    pure run

/-- The block `resume` and `cancel` share: load the run and refuse a missing or terminal one. -/
def requireOpen (runId : String) : Session Unit := do
  match ← RunRepository.get runId with
  | none => Effect.raise ⟨.fileNotFoundError, "run % not found", [runId]⟩
  | some existing =>
      if existing.state.isTerminal then
        Effect.raise ⟨.runAlreadyTerminalError, "run % is terminal (state=%)",
          [runId, existing.state.name]⟩
      else
        pure ()

/-- `resume`: the event returned is the one built here, not the one `append` stored. -/
def resume (env : Env) (runId resumeKind : String) : Session RunEvent := do
  if resumeKind ∉ validResumeKinds then
    Effect.raise ⟨.invalidResumeKindError,
      "resume_kind % is not supported by RunLifecycleService " ++
        "(approval-related kinds are owned by the ApprovalEngine)", [resumeKind]⟩
  else do
    requireOpen runId
    let latest ← RunEventRepository.latestSeq runId
    let event := resumedEvent runId resumeKind latest (env.now 0)
    let _ ← RunEventRepository.append event
    pure event

/-- `cancel`. -/
def cancel (env : Env) (runId reason : String) (cancelledBy : Option String) :
    Session RunEvent := do
  requireOpen runId
  let latest ← RunEventRepository.latestSeq runId
  let event := cancelledEvent runId reason cancelledBy latest (env.now 0)
  let _ ← RunEventRepository.append event
  pure event

/-! ## What the verbs do -/

variable {E : PyError → Store → Prop} {s : Store}

/-- The run built for a task has the id `run-<task id>` and is in the state `created`. -/
lemma fields_of_newRun {task : Task} {entrypoint : Entrypoint} {now : Timestamp} {run : Run}
    (h : newRun task entrypoint now = .ok run) :
    run.id = runIdOf task ∧ run.state = .created ∧ run.terminalSeq = none := by
  obtain ⟨hid, hstate, hseq⟩ := Run.fields_of_new h
  refine ⟨Subtype.ext ?_, hstate, hseq⟩
  rw [hid]
  exact (runIdOf task).property.1

lemma wp_requireOpen {runId : String} {Q : Unit → Store → Prop} (herr : ∀ e, E e s)
    (hok : ∀ run : Run, s.run? runId = some run.toRunRow → s.settled runId = false → Q () s) :
    Effect.wp (requireOpen runId) Q E s := by
  rw [requireOpen, Effect.wp_bind]
  refine RunRepository.wp_get (fun _ => (Effect.wp_raise _).mpr (herr _))
    (fun run hrun => ?_) herr
  cases hterm : run.state.isTerminal with
  | true =>
      simp only [hterm, if_true, Effect.wp_raise]
      exact herr _
  | false =>
      simp only [hterm, Bool.false_eq_true, if_false, Effect.wp_pure]
      exact hok run hrun (by simp [Store.settled, hrun, hterm])

/-- The row `start` adds is found, and it is not terminal. -/
lemma settled_addRun_created {run : Run} (hstate : run.state = .created)
    (hnone : s.run? run.id = none) : (s.addRun run.toRunRow).settled run.id = false := by
  rw [Store.settled, Store.run?_addRun_self s run.toRunRow hnone]
  simp [hstate, RunState.isTerminal]

/-- **What `start` does.**  It changes nothing, or adds the row alone (the log of the run is not
empty, or the event id is taken), or adds the row and the `run.created` event. -/
lemma wp_start {env : Env} {task : Task} {entrypoint : Entrypoint} {Q : Run → Store → Prop}
    (herr : ∀ e, E e s)
    (hrow : ∀ (run : Run) (e : PyError), run.id = runIdOf task → run.state = .created →
      run.terminalSeq = none → s.run? run.id = none →
      s.latestSeq run.id ≠ 0 ∨ s.hasEvent (createdEvent run (env.now 0)).id = true →
      E e (s.addRun run.toRunRow))
    (hok : ∀ run : Run, run.id = runIdOf task → run.state = .created → run.terminalSeq = none →
      s.run? run.id = none → s.latestSeq run.id = 0 →
      s.hasEvent (createdEvent run (env.now 0)).id = false →
      Q run ((s.addRun run.toRunRow).push (s.stamp (createdEvent run (env.now 0))))) :
    Effect.wp (start env task entrypoint) Q E s := by
  rw [start, Effect.wp_bind, Effect.wp_ofExcept]
  refine ⟨fun run hrun => ?_, fun e _ => herr e⟩
  obtain ⟨hid, hstate, hseq⟩ := fields_of_newRun hrun
  rw [Effect.wp_bind, RunRepository.wp_create]
  refine ⟨fun _ => herr _, fun hnone => ?_⟩
  rw [Effect.wp_bind, RunEventRepository.latestSeq, Effect.wp_gets, Store.latestSeq_addRun]
  by_cases hlatest : s.latestSeq run.id = 0
  · rw [if_neg (not_not.mpr hlatest), Effect.wp_bind]
    rcases RunEventRepository.append_cases (createdEvent run (env.now 0))
        (s.addRun run.toRunRow) with ⟨hsettled, -⟩ | ⟨-, htaken, h⟩ | ⟨-, hfresh, h⟩
    · exact absurd (hsettled.symm.trans (settled_addRun_created hstate hnone)) (by simp)
    · rw [Effect.wp_of_error h]
      exact hrow run _ hid hstate hseq hnone (Or.inr htaken)
    · rw [Effect.wp_of_ok h, Effect.wp_pure]
      exact hok run hid hstate hseq hnone hlatest hfresh
  · rw [if_pos hlatest, Effect.wp_raise]
    exact hrow run _ hid hstate hseq hnone (Or.inl hlatest)

/-- A new run is started when its row and its log are not there yet and its event's id is free. -/
lemma wp_start_of_fresh {env : Env} {task : Task} {entrypoint : Entrypoint} {run : Run}
    {Q : Run → Store → Prop} (hrun : newRun task entrypoint (env.now 0) = .ok run)
    (hnone : s.run? run.id = none) (hlatest : s.latestSeq run.id = 0)
    (hfresh : s.hasEvent (createdEvent run (env.now 0)).id = false) :
    Effect.wp (start env task entrypoint) Q E s ↔
      Q run ((s.addRun run.toRunRow).push (s.stamp (createdEvent run (env.now 0)))) := by
  have hstate : run.state = .created := (fields_of_newRun hrun).2.1
  have hopen := settled_addRun_created hstate hnone
  have hfree : (s.addRun run.toRunRow).hasEvent (createdEvent run (env.now 0)).id = false := hfresh
  simp only [start, hrun, Effect.wp_bind, Effect.wp_ofExcept_ok]
  rw [RunRepository.wp_create, hnone]
  simp only [Option.isSome_none, Bool.false_eq_true, false_implies, true_and, forall_const,
    RunEventRepository.latestSeq, Effect.wp_gets, Effect.wp_bind, Store.latestSeq_addRun, hlatest,
    ne_eq, not_true_eq_false, if_false]
  rw [RunEventRepository.wp_append_of_open hopen hfree, Effect.wp_pure]
  rfl

/-- **What `resume` does.**  It changes nothing, or appends its event to the log of a run whose
row can be read back and is not terminal. -/
lemma wp_resume {env : Env} {runId resumeKind : String} {Q : RunEvent → Store → Prop}
    (herr : ∀ e, E e s)
    (hok : ∀ run : Run, resumeKind ∈ validResumeKinds → s.run? runId = some run.toRunRow →
      s.settled runId = false → s.hasEvent ("evt-" ++ runId ++ "-resumed") = false →
      Q (resumedEvent runId resumeKind (s.latestSeq runId) (env.now 0))
        (s.push (s.stamp (resumedEvent runId resumeKind (s.latestSeq runId) (env.now 0))))) :
    Effect.wp (resume env runId resumeKind) Q E s := by
  rw [resume]
  by_cases hkind : resumeKind ∈ validResumeKinds
  · rw [if_neg (not_not.mpr hkind), Effect.wp_bind]
    refine wp_requireOpen herr fun run hrow hopen => ?_
    rw [Effect.wp_bind, RunEventRepository.latestSeq, Effect.wp_gets, Effect.wp_bind]
    refine RunEventRepository.wp_append herr fun _ hfresh => ?_
    exact (Effect.wp_pure _).mpr (hok run hkind hrow hopen hfresh)
  · rw [if_pos hkind, Effect.wp_raise]
    exact herr _

/-- **What `cancel` does.**  It changes nothing, or appends its event to the log of a run whose
row can be read back and is not terminal. -/
lemma wp_cancel {env : Env} {runId reason : String} {cancelledBy : Option String}
    {Q : RunEvent → Store → Prop} (herr : ∀ e, E e s)
    (hok : ∀ run : Run, s.run? runId = some run.toRunRow → s.settled runId = false →
      s.hasEvent ("evt-" ++ runId ++ "-cancelled") = false →
      Q (cancelledEvent runId reason cancelledBy (s.latestSeq runId) (env.now 0))
        (s.push (s.stamp
          (cancelledEvent runId reason cancelledBy (s.latestSeq runId) (env.now 0))))) :
    Effect.wp (cancel env runId reason cancelledBy) Q E s := by
  rw [cancel, Effect.wp_bind]
  refine wp_requireOpen herr fun run hrow hopen => ?_
  rw [Effect.wp_bind, RunEventRepository.latestSeq, Effect.wp_gets, Effect.wp_bind]
  refine RunEventRepository.wp_append herr fun _ hfresh => ?_
  exact (Effect.wp_pure _).mpr (hok run hrow hopen hfresh)

/-- A run that can be read back and is not terminal is cancelled. -/
lemma wp_cancel_of_open {env : Env} {runId reason : String} {cancelledBy : Option String}
    {Q : RunEvent → Store → Prop} {run : Run} (hrow : s.run? runId = some run.toRunRow)
    (hopen : s.settled runId = false)
    (hfresh : s.hasEvent ("evt-" ++ runId ++ "-cancelled") = false) :
    Effect.wp (cancel env runId reason cancelledBy) Q E s ↔
      Q (cancelledEvent runId reason cancelledBy (s.latestSeq runId) (env.now 0))
        (s.push (s.stamp
          (cancelledEvent runId reason cancelledBy (s.latestSeq runId) (env.now 0)))) := by
  have hgoes : run.state.isTerminal = false := by simpa [Store.settled, hrow] using hopen
  rw [cancel, Effect.wp_bind, requireOpen, Effect.wp_bind, RunRepository.wp_get_of_run hrow]
  simp only [hgoes, Bool.false_eq_true, if_false]
  rw [Effect.wp_pure, Effect.wp_bind, RunEventRepository.latestSeq, Effect.wp_gets,
    Effect.wp_bind, RunEventRepository.wp_append_of_open hopen hfresh, Effect.wp_pure]

/-- A run that can be read back and is not terminal is resumed when the event's id is free, and
the resume is refused by the primary key when it is not. -/
lemma wp_resume_of_open {env : Env} {runId resumeKind : String} {Q : RunEvent → Store → Prop}
    {run : Run} (hkind : resumeKind ∈ validResumeKinds) (hrow : s.run? runId = some run.toRunRow)
    (hopen : s.settled runId = false) :
    Effect.wp (resume env runId resumeKind) Q E s ↔
      (s.hasEvent ("evt-" ++ runId ++ "-resumed") = false →
        Q (resumedEvent runId resumeKind (s.latestSeq runId) (env.now 0))
          (s.push (s.stamp (resumedEvent runId resumeKind (s.latestSeq runId) (env.now 0))))) ∧
      (s.hasEvent ("evt-" ++ runId ++ "-resumed") = true →
        E ⟨.integrityError, "run_events_pkey", ["evt-" ++ runId ++ "-resumed"]⟩ s) := by
  have hgoes : run.state.isTerminal = false := by simpa [Store.settled, hrow] using hopen
  rw [resume, if_neg (not_not.mpr hkind), Effect.wp_bind, requireOpen, Effect.wp_bind,
    RunRepository.wp_get_of_run hrow]
  simp only [hgoes, Bool.false_eq_true, if_false]
  rw [Effect.wp_pure, Effect.wp_bind, RunEventRepository.latestSeq, Effect.wp_gets,
    Effect.wp_bind]
  rcases RunEventRepository.append_cases
      (resumedEvent runId resumeKind (s.latestSeq runId) (env.now 0)) s with
    ⟨hsettled, -⟩ | ⟨-, htaken, h⟩ | ⟨-, hfresh, h⟩
  · exact absurd (hsettled.symm.trans hopen) (by simp)
  · have htaken' : s.hasEvent ("evt-" ++ runId ++ "-resumed") = true := htaken
    rw [Effect.wp_of_error h, htaken']
    simp [resumedEvent]
  · have hfresh' : s.hasEvent ("evt-" ++ runId ++ "-resumed") = false := hfresh
    rw [Effect.wp_of_ok h, Effect.wp_pure, hfresh']
    simp

end Waywarden.RunLifecycleService

import Waywarden.Infra.RunRepository
import Waywarden.Infra.RunEventRepository
import Waywarden.Services.Milestones

/-!
# `OrchestrationService`

`waywarden.services.orchestration.service`: drive a run through intake, plan, execute, review and
handoff.  Each phase emits its milestones and then rewrites the state of the run's row; handoff
appends `run.completed` before it writes the state `completed`.

`wp_run` is the invariant rule of the service.  A property of the store holds however the pipeline
ends as soon as three kinds of write keep it: an event pushed on the log of an open run, a
non-terminal state written to an open run, and the closing pair of `run.completed` and the state
`completed`.
-/

namespace Waywarden.OrchestrationService

/-- The id of a milestone event. -/
def progressEventId (runId phase milestone : String) : String :=
  "evt-" ++ runId ++ "-" ++ phase ++ "-" ++ milestone

/-- The `run.progress` event of a milestone. -/
def progressEvent (run : Run) (phase milestone : String) (latest : ℕ) (now : Timestamp) :
    RunEvent where
  id := progressEventId run.id phase milestone
  runId := run.id
  seq := latest + 1
  type := .runProgress
  payload := [("phase", .str phase), ("milestone", .str milestone)]
  timestamp := now
  causation := some (.ofAction (phase ++ "." ++ milestone))
  actor := some systemActor
  seq_pos := Nat.succ_pos latest
  payload_ok := rfl

/-- The usage-summary `run.artifact_created` event. -/
def usageSummaryEvent (run : Run) (latest : ℕ) (now : Timestamp) : RunEvent where
  id := "evt-" ++ run.id.val ++ "-usage-summary"
  runId := run.id
  seq := latest + 1
  type := .runArtifactCreated
  payload := [("artifact_ref", .str ("artifact://runs/" ++ run.id.val ++ "/usage-summary")),
    ("artifact_kind", .str "usage-summary"), ("label", .str "usage-summary")]
  timestamp := now
  causation := some (.ofAction "terminal_usage_summary")
  actor := some systemActor
  seq_pos := Nat.succ_pos latest
  payload_ok := rfl

/-- The `run.completed` event. -/
def completedEvent (run : Run) (latest : ℕ) (now : Timestamp) : RunEvent where
  id := "evt-" ++ run.id.val ++ "-completed"
  runId := run.id
  seq := latest + 1
  type := .runCompleted
  payload := [("outcome", .str "success")]
  timestamp := now
  causation := some (.ofAction "terminal_completion")
  actor := some systemActor
  seq_pos := Nat.succ_pos latest
  payload_ok := rfl

/-- `_emit_progress`. -/
def emitProgress (run : Run) (phase milestone : String) (timestamp : Timestamp) :
    Session Unit := do
  if !isValidMilestone phase milestone then
    Effect.raise ⟨.valueError,
      "progress event phase=%, milestone=% is not in the milestone catalog", [phase, milestone]⟩
  else if run.state.isTerminal then
    Effect.raise ⟨.runtimeError,
      "attempted to emit progress after run % reached terminal state %",
      [run.id, run.state.name]⟩
  else do
    let lastSeq ← RunEventRepository.latestSeq run.id
    let _ ← RunEventRepository.append (progressEvent run phase milestone lastSeq timestamp)
    pure ()

/-- `_emit_usage_summary_artifact`. -/
def emitUsageSummaryArtifact (run : Run) (timestamp : Timestamp) : Session Unit := do
  let lastSeq ← RunEventRepository.latestSeq run.id
  let _ ← RunEventRepository.append (usageSummaryEvent run lastSeq timestamp)
  pure ()

/-- `_emit_completed`. -/
def emitCompleted (run : Run) (timestamp : Timestamp) : Session Unit := do
  let lastSeq ← RunEventRepository.latestSeq run.id
  let _ ← RunEventRepository.append (completedEvent run lastSeq timestamp)
  pure ()

/-- `_update_state`: the terminal sequence number is never set.  The repository takes its own
reading of the clock. -/
def updateState (now : Timestamp) (run : Run) (newState : RunState) : Session Run :=
  RunRepository.updateState now run.id newState none

/-- `_do_intake`. -/
def doIntake (env : Env) (run : Run) : Session Run := do
  emitProgress run "intake" "received" (env.now 0)
  emitProgress run "intake" "accepted" (env.now 0)
  updateState (env.now 1) run .planning

/-- `_do_plan`. -/
def doPlan (env : Env) (run : Run) : Session Run := do
  emitProgress run "plan" "drafted" (env.now 2)
  emitProgress run "plan" "approval_requested" (env.now 2)
  emitProgress run "plan" "ready" (env.now 2)
  updateState (env.now 3) run .planning

/-- `_do_execute`. -/
def doExecute (env : Env) (run : Run) : Session Run := do
  emitProgress run "execute" "tool_invoked" (env.now 4)
  emitProgress run "execute" "artifact_emitted" (env.now 4)
  emitProgress run "execute" "waiting_approval" (env.now 4)
  updateState (env.now 5) run .executing

/-- `_do_review`. -/
def doReview (env : Env) (run : Run) : Session Run := do
  emitProgress run "review" "findings_recorded" (env.now 6)
  updateState (env.now 7) run .planning

/-- `_do_handoff`. -/
def doHandoff (env : Env) (run : Run) : Session Run := do
  emitProgress run "handoff" "envelope_emitted" (env.now 8)
  emitUsageSummaryArtifact run (env.now 8)
  emitCompleted run (env.now 8)
  updateState (env.now 9) run .completed

/-- `run`. -/
def run (env : Env) (run : Run) : Session Run := do
  if run.state ≠ .created then
    Effect.raise ⟨.valueError,
      "run must be in 'created' state to start orchestration, got %", [run.state.name]⟩
  else do
    let nextRun ← doIntake env run
    let nextRun ← doPlan env nextRun
    let nextRun ← doExecute env nextRun
    let nextRun ← doReview env nextRun
    doHandoff env nextRun

/-! ## What the pipeline does -/

variable {E : PyError → Store → Prop} {s : Store}

lemma wp_emitProgress {r : Run} {phase milestone : String} {now : Timestamp}
    {Q : Unit → Store → Prop} (herr : ∀ e, E e s)
    (hok : s.settled r.id = false → s.hasEvent (progressEventId r.id phase milestone) = false →
      Q () (s.push (s.stamp (progressEvent r phase milestone (s.latestSeq r.id) now)))) :
    Effect.wp (emitProgress r phase milestone now) Q E s := by
  rw [emitProgress]
  split
  · exact (Effect.wp_raise _).mpr (herr _)
  · split
    · exact (Effect.wp_raise _).mpr (herr _)
    · rw [Effect.wp_bind, RunEventRepository.latestSeq, Effect.wp_gets, Effect.wp_bind]
      refine RunEventRepository.wp_append herr fun hopen hfresh => ?_
      exact (Effect.wp_pure ()).mpr (hok hopen hfresh)

lemma wp_emitUsageSummaryArtifact {r : Run} {now : Timestamp} {Q : Unit → Store → Prop}
    (herr : ∀ e, E e s)
    (hok : s.settled r.id = false →
      Q () (s.push (s.stamp (usageSummaryEvent r (s.latestSeq r.id) now)))) :
    Effect.wp (emitUsageSummaryArtifact r now) Q E s := by
  rw [emitUsageSummaryArtifact, Effect.wp_bind, RunEventRepository.latestSeq, Effect.wp_gets,
    Effect.wp_bind]
  exact RunEventRepository.wp_append herr fun hopen _ => (Effect.wp_pure ()).mpr (hok hopen)

lemma wp_emitCompleted {r : Run} {now : Timestamp} {Q : Unit → Store → Prop}
    (herr : ∀ e, E e s)
    (hok : s.settled r.id = false →
      Q () (s.push (s.stamp (completedEvent r (s.latestSeq r.id) now)))) :
    Effect.wp (emitCompleted r now) Q E s := by
  rw [emitCompleted, Effect.wp_bind, RunEventRepository.latestSeq, Effect.wp_gets, Effect.wp_bind]
  exact RunEventRepository.wp_append herr fun hopen _ => (Effect.wp_pure ()).mpr (hok hopen)

/-- The writes of the pipeline on behalf of one run keep a property of the store. -/
structure Keeps (runId : String) (P : Store → Prop) : Prop where
  /-- An event that ends nothing, pushed on the log of an open run. -/
  push : ∀ s e, P s → s.settled runId = false → e.runId = runId → e.type.isTerminal = false →
    P (s.push (s.stamp e))
  /-- A state that ends nothing, written to an open run. -/
  setState : ∀ s st now, P s → s.settled runId = false → st.isTerminal = false →
    P (s.setRunState runId st now none)
  /-- The completion of an open run: its event, then its state. -/
  complete : ∀ s e now, P s → s.settled runId = false → (s.run? runId).isSome = true →
    e.runId = runId → e.type = .runCompleted →
    P ((s.push (s.stamp e)).setRunState runId .completed now none)

section Rule

variable {runId : String} {P : Store → Prop}

/-- What a phase hands to the next one: the property, and a run whose row is stored. -/
def HandedOn (runId : String) (P : Store → Prop) (r : Run) (s : Store) : Prop :=
  P s ∧ r.id.val = runId ∧ (s.run? runId).isSome = true

/-- After a milestone the run is open, and its row is untouched. -/
lemma Keeps.wp_emit_then (hP : Keeps runId P) (hs : P s) {r : Run} (hr : r.id.val = runId)
    {phase milestone : String} {now : Timestamp} {α : Type} {f : Unit → Session α}
    {Q : α → Store → Prop}
    (hf : ∀ s', P s' → s'.settled runId = false → s'.run? runId = s.run? runId →
      Effect.wp (f ()) Q (fun _ => P) s') :
    Effect.wp (emitProgress r phase milestone now >>= f) Q (fun _ => P) s := by
  rw [Effect.wp_bind]
  refine wp_emitProgress (fun _ => hs) fun hopen _ => ?_
  rw [hr] at hopen
  exact hf _ (hP.push s _ hs hopen hr rfl) hopen rfl

lemma Keeps.wp_updateState (hP : Keeps runId P) (hs : P s) (hopen : s.settled runId = false)
    {r : Run} (hr : r.id.val = runId) {st : RunState} (hst : st.isTerminal = false)
    {now : Timestamp} :
    Effect.wp (updateState now r st) (HandedOn runId P) (fun _ => P) s := by
  rw [updateState, hr]
  have hkept : P (s.setRunState runId st now none) := hP.setState s st now hs hopen hst
  refine RunRepository.wp_updateState (fun r' hid _ hrow => ⟨hkept, hid, ?_⟩) fun _ => hkept
  rw [Store.run?_setRunState_self, Option.isSome_map]
  exact hrow

variable {env : Env} {r : Run}

lemma Keeps.wp_doIntake (hP : Keeps runId P) (hs : P s) (hr : r.id.val = runId) :
    Effect.wp (doIntake env r) (HandedOn runId P) (fun _ => P) s := by
  rw [doIntake]
  exact hP.wp_emit_then hs hr fun _ h₁ _ _ =>
    hP.wp_emit_then h₁ hr fun _ h₂ hopen _ => hP.wp_updateState h₂ hopen hr rfl

lemma Keeps.wp_doPlan (hP : Keeps runId P) (hs : P s) (hr : r.id.val = runId) :
    Effect.wp (doPlan env r) (HandedOn runId P) (fun _ => P) s := by
  rw [doPlan]
  exact hP.wp_emit_then hs hr fun _ h₁ _ _ =>
    hP.wp_emit_then h₁ hr fun _ h₂ _ _ =>
      hP.wp_emit_then h₂ hr fun _ h₃ hopen _ => hP.wp_updateState h₃ hopen hr rfl

lemma Keeps.wp_doExecute (hP : Keeps runId P) (hs : P s) (hr : r.id.val = runId) :
    Effect.wp (doExecute env r) (HandedOn runId P) (fun _ => P) s := by
  rw [doExecute]
  exact hP.wp_emit_then hs hr fun _ h₁ _ _ =>
    hP.wp_emit_then h₁ hr fun _ h₂ _ _ =>
      hP.wp_emit_then h₂ hr fun _ h₃ hopen _ => hP.wp_updateState h₃ hopen hr rfl

lemma Keeps.wp_doReview (hP : Keeps runId P) (hs : P s) (hr : r.id.val = runId) :
    Effect.wp (doReview env r) (HandedOn runId P) (fun _ => P) s := by
  rw [doReview]
  exact hP.wp_emit_then hs hr fun _ h₁ hopen _ => hP.wp_updateState h₁ hopen hr rfl

/-- The closing phase: once `run.completed` is appended, the state `completed` is written
whatever reading the row back does. -/
lemma Keeps.wp_doHandoff (hP : Keeps runId P) (hs : P s) (hr : r.id.val = runId)
    (hrow : (s.run? runId).isSome = true) :
    Effect.wp (doHandoff env r) (fun _ => P) (fun _ => P) s := by
  rw [doHandoff]
  refine hP.wp_emit_then hs hr fun s₁ h₁ hopen hsame => ?_
  rw [Effect.wp_bind]
  refine wp_emitUsageSummaryArtifact (fun _ => h₁) fun _ => ?_
  have h₂ := hP.push s₁ (usageSummaryEvent r (s₁.latestSeq r.id) (env.now 8)) h₁ hopen hr rfl
  rw [Effect.wp_bind]
  refine wp_emitCompleted (fun _ => h₂) fun _ => ?_
  rw [updateState, hr]
  have hrow₁ : (s₁.run? runId).isSome = true := by rw [hsame]; exact hrow
  exact RunRepository.wp_updateState
    (fun _ _ _ _ => hP.complete _ _ (env.now 9) h₂ hopen hrow₁ hr rfl)
    fun _ => hP.complete _ _ (env.now 9) h₂ hopen hrow₁ hr rfl

/-- **The rule of the pipeline.**  What its writes keep holds however it ends. -/
theorem Keeps.wp_run (hP : Keeps runId P) (hs : P s) (hr : r.id.val = runId) :
    Effect.wp (run env r) (fun _ => P) (fun _ => P) s := by
  rw [run]
  split
  · exact (Effect.wp_raise _).mpr hs
  · rw [Effect.wp_bind]
    refine (hP.wp_doIntake hs hr).mono (fun r₁ s₁ h₁ => ?_) (fun _ _ h => h)
    rw [Effect.wp_bind]
    refine (hP.wp_doPlan h₁.1 h₁.2.1).mono (fun r₂ s₂ h₂ => ?_) (fun _ _ h => h)
    rw [Effect.wp_bind]
    refine (hP.wp_doExecute h₂.1 h₂.2.1).mono (fun r₃ s₃ h₃ => ?_) (fun _ _ h => h)
    rw [Effect.wp_bind]
    refine (hP.wp_doReview h₃.1 h₃.2.1).mono (fun r₄ s₄ h₄ => ?_) (fun _ _ h => h)
    exact hP.wp_doHandoff h₄.1 h₄.2.1 h₄.2.2

end Rule

/-- The pipeline raises and changes nothing when its first milestone cannot be appended. -/
lemma run_of_blocked {env : Env} {r : Run} {s : Store}
    (h : r.state ≠ .created ∨ s.settled r.id = true ∨
      s.hasEvent (progressEventId r.id "intake" "received") = true) :
    Effect.wp (run env r) (fun _ _ => False) (fun _ s' => s' = s) s := by
  rw [run]
  by_cases hstate : r.state = .created
  · rw [if_neg (not_not.mpr hstate), Effect.wp_bind, doIntake, Effect.wp_bind]
    refine wp_emitProgress (fun _ => rfl) fun hopen hfresh => ?_
    rcases h with h | h | h
    · exact absurd hstate h
    · exact absurd (h.symm.trans hopen) (by simp)
    · exact absurd (h.symm.trans hfresh) (by simp)
  · rw [if_pos hstate, Effect.wp_raise]

end Waywarden.OrchestrationService

import Mathlib.Data.List.Nodup
import Mathlib.Data.List.Perm.Subperm
import Mathlib.Data.List.Range
import Waywarden.Services.ApprovalEngine
import Waywarden.Services.Milestones

/-!
# `EATaskService`

`waywarden.services.ea_task_service`: create a task, move it along its state machine, request an
approval for it and resolve that approval.  Tasks and approvals live in different tables; what
links them is the approval's id, derived from the run, the kind and the task's id.

A request or a transition saves the task before it appends its event, so a refused append leaves
the task moved.
-/

namespace Waywarden

/-- `CreateTaskRequest`; the acceptance criteria are not read. -/
structure CreateTaskRequest where
  sessionId : String
  title : String
  objective : String
  runId : Option String := none

/-- `TransitionTaskRequest`. -/
structure TransitionTaskRequest where
  taskId : String
  state : String
  runId : Option String := none

/-- `RequestApprovalRequest`; the approval context is not read. -/
structure RequestApprovalRequest where
  taskId : String
  runId : String := ""
  approvalKind : String := "ea_checkpoint"
  summary : String := ""

/-- `ApprovalDecisionRequest`. -/
structure ApprovalDecisionRequest where
  taskId : String
  decision : ApprovalDecision
  runId : Option String := none
  approvalKind : String := "ea_checkpoint"

/-- `decision.decision`. -/
def ApprovalDecision.name : ApprovalDecision → String
  | .granted => "granted"
  | .deniedAbandon _ => "denied_abandon"
  | .deniedAlternatePath _ => "denied_alternate_path"
  | .timeout _ => "timeout"

namespace EATaskService

/-! ## Helpers -/

/-- `_require_task`. -/
def requireTask (taskId method : String) : Session Task := do
  match ← TaskRepository.get taskId with
  | none => Effect.raise ⟨.keyError, "%: task % not found", [method, taskId]⟩
  | some task => pure task

/-- `_default_run_id`. -/
def defaultRunId (sessionId : String) : String := "ea-" ++ sessionId

/-- `_approval_id`. -/
def approvalId (runId approvalKind taskId : String) : String :=
  "approval-" ++ runId ++ "-" ++ (approvalKind ++ "-" ++ taskId)

/-- `_catalog_pair_for_state`. -/
def catalogPairForState (state : String) : String × String :=
  if state = "planning" then ("plan", "drafted")
  else if state = "executing" then ("plan", "ready")
  else if state = "waiting_approval" then ("execute", "waiting_approval")
  else if state = "completed" then ("execute", "artifact_emitted")
  else if state = "failed" ∨ state = "cancelled" then ("review", "findings_recorded")
  else ("intake", "accepted")

/-- `_task_created_payload`. -/
def taskCreatedPayload (taskId : String) : Mapping :=
  [("phase", .str "intake"), ("milestone", .str "accepted"), ("task_id", .str taskId),
    ("ea_event", .str "task_created")]

/-- `_task_transition_payload`. -/
def taskTransitionPayload (state : String) : Mapping :=
  [("phase", .str (catalogPairForState state).1),
    ("milestone", .str (catalogPairForState state).2), ("to_state", .str state),
    ("ea_event", .str "task_transitioned")]

/-- The id of a `run.progress` event. -/
def progressId (taskId uuid : String) : String := "evt-" ++ taskId ++ "-progress-" ++ uuid

/-- The `run.progress` event of `_emit_progress`. -/
def progressEvent (runId taskId : String) (payload : Mapping) (uuid : String) (latest : ℕ)
    (now : Timestamp) (h : validatePayload .runProgress payload = true) : RunEvent where
  id := "evt-" ++ taskId ++ "-progress-" ++ uuid
  runId := runId
  seq := latest + 1
  type := .runProgress
  payload := payload
  timestamp := now
  causation := some { eventId := none, action := some "ea_task", requestId := some taskId }
  actor := some systemActor
  seq_pos := Nat.succ_pos latest
  payload_ok := h

/-- `_emit_progress`. -/
def emitProgress (runId taskId : String) (payload : Mapping) (uuid : String) (now : Timestamp) :
    Session Unit := do
  match payload.get "phase", payload.get "milestone" with
  | some (.str phase), some (.str milestone) =>
      if !isValidMilestone phase milestone then
        Effect.raise ⟨.valueError, "unknown run.progress milestone %.%", [phase, milestone]⟩
      else if h : validatePayload .runProgress payload = true then do
        let latest ← RunEventRepository.latestSeq runId
        let _ ← RunEventRepository.append (progressEvent runId taskId payload uuid latest now h)
        pure ()
      else
        Effect.raise ⟨.valueError, "Event type % requires payload fields: %",
          ["run.progress", "milestone, phase"]⟩
  | _, _ =>
      Effect.raise ⟨.valueError, "run.progress payload requires string phase and milestone", []⟩

/-! ## Creating -/

/-- The counter loop of `create_task`, for at most `fuel` rounds: the first candidate id no task
is stored under. -/
def freeCandidate (s : Store) (base : String) : ℕ → ℕ → Option String
  | 0, _ => none
  | fuel + 1, counter =>
      let candidate := base ++ "-" ++ toString counter
      if (s.task? candidate).isSome then freeCandidate s base fuel (counter + 1)
      else some candidate

/-- The id `create_task` settles on: the base id, or the first free candidate. -/
def freshTaskId (base : String) : Session String :=
  Effect.gets fun s : Store =>
    if (s.task? base).isSome then (freeCandidate s base (s.tasks.length + 1) 1).getD base
    else base

/-- `create_task`. -/
def createTask (env : Env) (req : CreateTaskRequest) : Session Mapping := do
  let runId := orDefault req.runId (defaultRunId req.sessionId)
  let ts := env.now 0
  let taskId ← freshTaskId ("task-" ++ req.sessionId)
  let task ← Effect.ofExcept
    (Task.new taskId req.sessionId req.title req.objective .draft ts ts)
  let _ ← TaskRepository.save task
  emitProgress runId taskId (taskCreatedPayload taskId) (env.uuid4 0) (env.now 1)
  pure [("id", .str taskId), ("session_id", .str req.sessionId), ("title", .str req.title),
    ("objective", .str req.objective), ("state", .str "draft")]

/-- Decimal notation is injective. -/
lemma toString_injective {m n : ℕ} (h : toString m = toString n) : m = n := by
  rw [Nat.toString_eq_ofList_toDigits, Nat.toString_eq_ofList_toDigits, ← String.toList_inj,
    String.toList_ofList, String.toList_ofList] at h
  rw [← @Nat.ofDigitChars_ten_toDigits m, h, Nat.ofDigitChars_ten_toDigits]

/-- A loop that runs out of rounds has found a task under every candidate it looked at. -/
lemma isSome_of_freeCandidate_eq_none {s : Store} {base : String} {fuel counter : ℕ}
    (h : freeCandidate s base fuel counter = none) {k : ℕ} (hlow : counter ≤ k)
    (hhigh : k < counter + fuel) : (s.task? (base ++ "-" ++ toString k)).isSome = true := by
  induction fuel generalizing counter with
  | zero => omega
  | succ fuel ih =>
      rw [freeCandidate] at h
      split at h
      · rename_i htaken
        rcases Nat.eq_or_lt_of_le hlow with rfl | hlt
        · exact htaken
        · exact ih h hlt (by omega)
      · exact absurd h (by simp)

/-- **The counter loop ends.**  One round more than there are tasks finds a free candidate. -/
theorem freeCandidate_isSome (s : Store) (base : String) :
    (freeCandidate s base (s.tasks.length + 1) 1).isSome = true := by
  by_contra hnone
  rw [Bool.not_eq_true, Option.isSome_eq_false_iff, Option.isNone_iff_eq_none] at hnone
  have hinj : Function.Injective fun k : ℕ => base ++ "-" ++ toString k := by
    intro m n hmn
    have hlists := congrArg String.toList hmn
    simp only [String.toList_append] at hlists
    exact toString_injective (String.toList_inj.mp (List.append_cancel_left hlists))
  -- the candidates are as many as the rounds, and each is the key of some task
  have hsub : (List.range' 1 (s.tasks.length + 1)).map (fun k => base ++ "-" ++ toString k) ⊆
      s.tasks.map Task.key := by
    intro id hid
    obtain ⟨k, hk, rfl⟩ := List.mem_map.mp hid
    rw [List.mem_range'_1] at hk
    obtain ⟨task, htask⟩ := Option.isSome_iff_exists.mp
      (isSome_of_freeCandidate_eq_none hnone hk.1 hk.2)
    exact List.mem_map.mpr ⟨task, KeyedTable.mem_of_get htask, Store.id_of_task? htask⟩
  have hlength := (List.subperm_of_subset
    ((List.nodup_range' 1).map hinj) hsub).length_le
  rw [List.length_map, List.length_map, List.length_range'] at hlength
  omega

/-! ## Transitions -/

/-- `allowed_transitions`. -/
def allowedTransitions : TaskState → List TaskState
  | .draft => [.planning]
  | .planning => [.executing, .cancelled]
  | .executing => [.waitingApproval, .failed, .completed]
  | .waitingApproval => [.planning, .cancelled, .failed]
  | .completed => []
  | .failed => []
  | .cancelled => []

/-- `transition_task`. -/
def transitionTask (env : Env) (req : TransitionTaskRequest) : Session Mapping := do
  let task ← requireTask req.taskId "transition_task"
  match (allowedTransitions task.state).find? fun state => state.name == req.state with
  | none => Effect.raise ⟨.valueError, "cannot transition % -> %", [task.state.name, req.state]⟩
  | some state => do
      let updated ← Effect.ofExcept (task.move state (env.now 0))
      let _ ← TaskRepository.save updated
      let runId := orDefault req.runId (defaultRunId task.sessionId)
      emitProgress runId task.id (taskTransitionPayload req.state) (env.uuid4 0) (env.now 1)
      pure [("id", .str task.id), ("state", .str req.state), ("session_id", .str task.sessionId)]

/-! ## Approvals -/

/-- The event `request_approval` appends after the engine's own. -/
def annotationEvent (req : RequestApprovalRequest) (runId approvalId uuid : String) (latest : ℕ)
    (now : Timestamp) : RunEvent where
  id := "evt-" ++ req.taskId ++ "-approval-annotate-" ++ uuid
  runId := runId
  seq := latest + 1
  type := .runProgress
  payload := [("phase", .str "plan"), ("milestone", .str "approval_requested"),
    ("approval_id", .str approvalId), ("task_id", .str req.taskId),
    ("ea_event", .str "approval_requested")]
  timestamp := now
  causation := some
    { eventId := none, action := some "request_approval", requestId := some approvalId }
  actor := some systemActor
  seq_pos := Nat.succ_pos latest
  payload_ok := rfl

/-- The run a request is made for. -/
def requestRunId (req : RequestApprovalRequest) (task : Task) : String :=
  orDefault (some req.runId) (defaultRunId task.sessionId)

/-- `request_approval`. -/
def requestApproval (env : Env) (req : RequestApprovalRequest) : Session Mapping := do
  let task ← requireTask req.taskId "request_approval"
  if task.state ≠ .executing then
    Effect.raise ⟨.valueError, "task % is in state %, expected 'executing'",
      [req.taskId, task.state.name]⟩
  else do
    let updated ← Effect.ofExcept (task.move .waitingApproval (env.now 0))
    let _ ← TaskRepository.save updated
    let enrichedKind := req.approvalKind ++ "-" ++ req.taskId
    let summary := orDefault (some req.summary) ("Approval checkpoint for " ++ task.title.val)
    let runId := requestRunId req task
    let approval ← ApprovalEngine.request (env.later 1) runId enrichedKind summary none none
      (some req.taskId)
    let latest ← RunEventRepository.latestSeq runId
    let _ ← RunEventRepository.append
      (annotationEvent req runId approval.id (env.uuid4 0) latest (env.now 2))
    pure [("task_id", .str req.taskId), ("approval_id", .str approval.id),
      ("approval_kind", .str req.approvalKind), ("state", .str "waiting_approval")]

/-- `terminal_transitions`. -/
def terminalTransitions : List (String × TaskState) :=
  [("denied", .cancelled), ("timeout", .failed)]

/-- The state a decision leaves the task in. -/
def postState (decision : ApprovalDecision) (state : TaskState) : TaskState :=
  (terminalTransitions.lookup decision.name).getD state

/-- `resolution_map`. -/
def resolutionMap : List (String × String) :=
  [("granted", "granted"), ("denied_abandon", "denied_abandon"),
    ("denied_alternate_path", "denied_alternate_path"), ("timeout", "timeout")]

/-- `resolve_approval`. -/
def resolveApproval (env : Env) (req : ApprovalDecisionRequest) : Session Mapping := do
  let task ← requireTask req.taskId "resolve_approval"
  let runId := orDefault req.runId (defaultRunId task.sessionId)
  let id := approvalId runId req.approvalKind req.taskId
  match ← ApprovalRepository.get id with
  | none => Effect.raise ⟨.keyError, "approval % not found", [id]⟩
  | some approval =>
      if approval.state ≠ .pending then
        Effect.raise (ApprovalEngine.alreadyResolvedError approval.id)
      else do
        let _ ← ApprovalEngine.resolve env id req.decision
        let eaState := (resolutionMap.lookup req.decision.name).getD "resolved"
        let reply : Mapping := [("task_id", .str req.taskId), ("approval_id", .str approval.id),
          ("state", .str eaState), ("resolved", .bool true)]
        if postState req.decision task.state ≠ task.state then do
          let updated ← Effect.ofExcept
            (task.move (postState req.decision task.state) (env.now 1))
          let _ ← TaskRepository.save updated
          pure reply
        else
          pure reply

/-! ## What the operations leave in the two tables -/

/-- The task and approval tables of two stores are the same. -/
def SameTables (s s' : Store) : Prop := s'.tasks = s.tasks ∧ s'.approvals = s.approvals

variable {s : Store}

lemma SameTables.refl (s : Store) : SameTables s s := ⟨rfl, rfl⟩

lemma SameTables.approval? {s' : Store} (h : SameTables s s') (id : String) :
    s'.approval? id = s.approval? id := by
  rw [Store.approval?, h.2, Store.approval?]

lemma wp_requireTask {taskId method : String} {Q : Task → Store → Prop}
    {E : PyError → Store → Prop} (herr : ∀ e, s.task? taskId = none → E e s)
    (hok : ∀ task, s.task? taskId = some task → Q task s) :
    Effect.wp (requireTask taskId method) Q E s := by
  rw [requireTask, Effect.wp_bind, TaskRepository.wp_get]
  cases h : s.task? taskId with
  | none => exact (Effect.wp_raise _).mpr (herr _ h)
  | some task => exact (Effect.wp_pure _).mpr (hok task h)

/-- A progress event, appended or refused, leaves the two tables alone. -/
lemma wp_emitProgress (s : Store) (runId taskId : String) (payload : Mapping) (uuid : String)
    (now : Timestamp) :
    Effect.wp (emitProgress runId taskId payload uuid now) (fun _ => SameTables s)
      (fun _ => SameTables s) s := by
  rw [emitProgress]
  split
  · split
    · exact (Effect.wp_raise _).mpr (SameTables.refl s)
    · split
      · rw [Effect.wp_bind, RunEventRepository.latestSeq, Effect.wp_gets, Effect.wp_bind]
        exact RunEventRepository.wp_append (fun _ => SameTables.refl s)
          fun _ _ => (Effect.wp_pure ()).mpr (SameTables.refl s)
      · exact (Effect.wp_raise _).mpr (SameTables.refl s)
  · exact (Effect.wp_raise _).mpr (SameTables.refl s)

lemma isValidMilestone_catalogPair (state : String) :
    isValidMilestone (catalogPairForState state).1 (catalogPairForState state).2 = true := by
  unfold catalogPairForState
  split_ifs <;> decide

/-- A progress event of the catalog is appended or refused. -/
lemma wp_emitProgress_of_valid {runId taskId phase milestone uuid : String} {payload : Mapping}
    {now : Timestamp} {Q : Unit → Store → Prop} {E : PyError → Store → Prop}
    (hphase : payload.get "phase" = some (.str phase))
    (hmilestone : payload.get "milestone" = some (.str milestone))
    (hvalid : isValidMilestone phase milestone = true)
    (hpayload : validatePayload .runProgress payload = true)
    (herr : ∀ e, s.settled runId = true ∨ s.hasEvent (progressId taskId uuid) = true → E e s)
    (hok : s.settled runId = false → s.hasEvent (progressId taskId uuid) = false →
      Q () (s.push (s.stamp
        (progressEvent runId taskId payload uuid (s.latestSeq runId) now hpayload)))) :
    Effect.wp (emitProgress runId taskId payload uuid now) Q E s := by
  simp only [emitProgress, hphase, hmilestone, hvalid, hpayload, Bool.not_true,
    Bool.false_eq_true, if_false, dite_true]
  rw [Effect.wp_bind, RunEventRepository.latestSeq, Effect.wp_gets, Effect.wp_bind]
  rcases RunEventRepository.append_cases
      (progressEvent runId taskId payload uuid (s.latestSeq runId) now hpayload) s with
    ⟨hsettled, _, h⟩ | ⟨-, htaken, h⟩ | ⟨hopen, hfree, h⟩
  · rw [Effect.wp_of_error h]
    exact herr _ (Or.inl hsettled)
  · rw [Effect.wp_of_error h]
    exact herr _ (Or.inr htaken)
  · rw [Effect.wp_of_ok h, Effect.wp_pure]
    exact hok hopen hfree

/-- What `create_task` leaves: nothing new, or a draft. -/
def CreateLeaves (s s' : Store) : Prop :=
  SameTables s s' ∨ ∃ task : Task, task.state = .draft ∧ SameTables (s.putTask task) s'

/-- What `transition_task` leaves: nothing new, or its task in the state asked for. -/
def TransitionLeaves (s : Store) (req : TransitionTaskRequest) (s' : Store) : Prop :=
  SameTables s s' ∨ ∃ task moved : Task, s.task? req.taskId = some task ∧ moved.id = task.id ∧
    moved.state ∈ allowedTransitions task.state ∧ moved.state.name = req.state ∧
    SameTables (s.putTask moved) s'

/-- The record a request is stored under: the engine strips the derived id. -/
def requestedId (req : RequestApprovalRequest) (task : Task) : String :=
  strip (approvalId (requestRunId req task) req.approvalKind req.taskId)

/-- What `request_approval` leaves: nothing new, or its task moved from `executing` to
`waiting_approval`, with or without the pending approval. -/
def RequestLeaves (s : Store) (req : RequestApprovalRequest) (s' : Store) : Prop :=
  SameTables s s' ∨ ∃ task moved : Task, s.task? req.taskId = some task ∧
    task.state = .executing ∧ moved.id = task.id ∧ moved.state = .waitingApproval ∧
    (SameTables (s.putTask moved) s' ∨ ∃ a : Approval, a.state = .pending ∧
      a.id.val = requestedId req task ∧ SameTables ((s.putTask moved).putApproval a) s')

/-- What `request_approval` leaves when it returns: its task waiting, and the pending approval. -/
def RequestedLeaves (s : Store) (req : RequestApprovalRequest) (s' : Store) : Prop :=
  ∃ (task moved : Task) (a : Approval), s.task? req.taskId = some task ∧
    task.state = .executing ∧ moved.id = task.id ∧ moved.state = .waitingApproval ∧
    a.state = .pending ∧ a.id.val = requestedId req task ∧
    SameTables ((s.putTask moved).putApproval a) s'

lemma RequestedLeaves.leaves {req : RequestApprovalRequest} {s' : Store}
    (h : RequestedLeaves s req s') : RequestLeaves s req s' := by
  obtain ⟨task, moved, a, htask, hexec, hid, hstate, hpending, haid, hs'⟩ := h
  exact Or.inr ⟨task, moved, htask, hexec, hid, hstate, Or.inr ⟨a, hpending, haid, hs'⟩⟩

/-- The record `resolve_approval` looks up. -/
def resolvedId (req : ApprovalDecisionRequest) (task : Task) : String :=
  approvalId (orDefault req.runId (defaultRunId task.sessionId)) req.approvalKind req.taskId

/-- What `resolve_approval` leaves once it decided its approval: the decided record in place of
the pending one and, when the decision ends the task, the task in that state. -/
def DecidedLeaves (s : Store) (req : ApprovalDecisionRequest) (s' : Store) : Prop :=
  ∃ (task : Task) (existing a : Approval), s.task? req.taskId = some task ∧
    s.approval? (resolvedId req task) = some existing ∧ existing.state = .pending ∧
    a.id = existing.id ∧ a.state = req.decision.newState ∧
    (SameTables (s.putApproval a) s' ∨ ∃ moved : Task, moved.id = task.id ∧
      moved.state = postState req.decision task.state ∧
      postState req.decision task.state ≠ task.state ∧
      SameTables ((s.putApproval a).putTask moved) s')

end EATaskService

end Waywarden

import Waywarden.Services.TaskOutcomes

/-!
# The task scheduler

`waywarden.services.orchestration.scheduler`: one pass over a queue of tasks.  Each task is created,
moved to `executing` and sent to an approval; a decision given for it under its title or, failing
that, under its place in the queue is applied at once, and a task without one is left waiting.

The handler here has its task service; without one `run` raises a `ValueError` before it does
anything.
-/

namespace Waywarden

/-- `ScheduledTask`; the due date and the status are not read. -/
structure ScheduledTask where
  title : String
  objective : String

/-- `ScheduleResult`; a decision is recorded as the task's id and a name. -/
structure ScheduleResult where
  tasksProcessed : ℕ := 0
  tasksApproved : ℕ := 0
  tasksDenied : ℕ := 0
  tasksRescheduled : ℕ := 0
  decisions : List (String × String) := []
  deriving DecidableEq, Repr

/-- The decisions of a caller, under titles and indices. -/
abbrev Decisions : Type := List (String × ApprovalDecision)

/-- `type(decision).__name__ if decision else "none"`. -/
def decisionName : Option ApprovalDecision → String
  | none => "none"
  | some .granted => "Granted"
  | some (.deniedAbandon _) => "DeniedAbandon"
  | some (.deniedAlternatePath _) => "DeniedAlternatePath"
  | some (.timeout _) => "Timeout"

/-- The decision for a task, by title first and then by index. -/
def decisionFor (decisions : Decisions) (idx : ℕ) (stask : ScheduledTask) :
    Option ApprovalDecision :=
  match decisions.lookup stask.title with
  | some decision => some decision
  | none => decisions.lookup (toString idx)

namespace EASchedulerHandler

open EATaskService

/-- The session of the tasks. -/
def schedulerSession : String := "scheduler-sess"

/-- `task["id"]`. -/
def subscriptId (task : Mapping) : Except PyError String :=
  match task.get "id" with
  | some (.str id) => .ok id
  | _ => .error ⟨.keyError, "id", []⟩

/-- A transition, whose reply is not read. -/
def moveTo (env : Env) (taskId runId : String) (state : TaskState) : Session Unit := do
  let _ ← transitionTask env { taskId, state := state.name, runId := some runId }
  pure ()

/-- The request the task is created with. -/
def createRequest (runId : String) (stask : ScheduledTask) : CreateTaskRequest :=
  { sessionId := schedulerSession, title := stask.title, objective := stask.objective,
    runId := some runId }

/-- The calls that this handler and the triage both make first: create the task, move it to
`executing` and request its approval; what is returned is its id. -/
def submission (env : ℕ → Env) (req : CreateTaskRequest) (runId : String) : Session String := do
  let task ← createTask (env 0) req
  let taskId ← Effect.ofExcept (subscriptId task)
  moveTo (env 1) taskId runId .planning
  moveTo (env 2) taskId runId .executing
  let _ ← requestApproval (env 3) { taskId, runId }
  pure taskId

/-- Steps 1 to 3. -/
def submit (env : ℕ → Env) (runId : String) (stask : ScheduledTask) : Session String :=
  submission env (createRequest runId stask) runId

/-- Resolve the approval when there is a decision. -/
def applyDecision (env : ℕ → Env) (runId taskId : String) :
    Option ApprovalDecision → Session Unit
  | none => pure ()
  | some decision => do
      let _ ← resolveApproval (env 4) { taskId, decision, runId := some runId }
      pure ()

/-- The branch on the decision: the counter it raises and the transitions after it. -/
def followUp (env : ℕ → Env) (runId taskId : String) (result : ScheduleResult) :
    Option ApprovalDecision → Session ScheduleResult
  | some .granted => do
      moveTo (env 5) taskId runId .planning
      moveTo (env 6) taskId runId .executing
      moveTo (env 7) taskId runId .completed
      pure { result with tasksApproved := result.tasksApproved + 1 }
  | some (.deniedAbandon _) => pure { result with tasksDenied := result.tasksDenied + 1 }
  | some (.deniedAlternatePath _) => do
      moveTo (env 5) taskId runId .planning
      pure { result with tasksRescheduled := result.tasksRescheduled + 1 }
  | some (.timeout _) => pure result
  | none => pure result

/-- The body of the loop. -/
def scheduleTask (env : ℕ → Env) (decisions : Decisions) (runId : String)
    (result : ScheduleResult) (idx : ℕ) (stask : ScheduledTask) : Session ScheduleResult := do
  let taskId ← submit env runId stask
  let decision := decisionFor decisions idx stask
  applyDecision env runId taskId decision
  let result ← followUp env runId taskId
    { result with tasksProcessed := result.tasksProcessed + 1 } decision
  pure { result with decisions := result.decisions ++ [(taskId, decisionName decision)] }

/-- The loop, from a place in the queue on. -/
def runFrom (env : ℕ → ℕ → Env) (decisions : Decisions) (runId : String) :
    ScheduleResult → ℕ → List ScheduledTask → Session ScheduleResult
  | result, _, [] => pure result
  | result, idx, stask :: tasks => do
      let result ← scheduleTask (env idx) decisions runId result idx stask
      runFrom env decisions runId result (idx + 1) tasks

/-- `run`; the `k`-th service call for the task at a place reads `env place k`. -/
def run (env : ℕ → ℕ → Env) (tasks : List ScheduledTask) (decisions : Option Decisions)
    (runId : String := "ea-scheduler-run") : Session ScheduleResult :=
  runFrom env (decisions.getD []) runId {} 1 tasks

end EASchedulerHandler

end Waywarden

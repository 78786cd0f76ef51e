import Waywarden.Properties.TaskCoherence

/-!
# What a task operation leaves when it raises

`transition_task` and `request_approval` save the task first and append their events last, and
`request_approval` saves an approval in between.  No service takes a write back, so whatever
refuses a later write leaves the earlier ones in place.  A second request of one kind for a task
is the plainest case: the waiting event of the approval is in the log already, its append is
refused, and the task waits for an approval that has become pending again
(`not_atomic_second_request`).

`raises_partway` lists what each of the two can have written when it raises, and why it raised.
-/

namespace Waywarden

open Machine EATaskService

/-- The tasks, the approvals and the events of two stores are the same. -/
def Unchanged (s s' : Store) : Prop := SameTables s s' ∧ s'.runEvents = s.runEvents

/-- If the operation raises, it leaves the tasks, the approvals and the events as they were. -/
def Atomic (x : Session Mapping) (s : Store) : Prop :=
  ∀ e, (x s).1 = .error e → Unchanged s (x s).2

/-- What a raise of `transition_task` leaves: everything as it was, or its task moved, when its
event was refused. -/
inductive TransitionPartway (s : Store) (env : Env) (req : TransitionTaskRequest) : Store → Prop
  | unchanged (why : ∀ task moved, ¬ Transitions s env req task moved) :
      TransitionPartway s env req s
  | moved (task moved : Task) (moves : Transitions s env req task moved)
      (refused : AppendRefused s (orDefault req.runId (defaultRunId task.sessionId))
        (progressId task.id (env.uuid4 0))) :
      TransitionPartway s env req (s.putTask moved)

/-- What a raise of `request_approval` leaves: everything as it was; or its task waiting, when the
record of the approval was refused; or the pending approval as well, when its waiting event was
refused; or that event as well, when the annotation was. -/
inductive RequestPartway (s : Store) (env : Env) (req : RequestApprovalRequest) : Store → Prop
  | unchanged (why : ∀ task moved, ¬ Requesting s env req task moved) : RequestPartway s env req s
  | moved (task moved : Task) (moves : Requesting s env req task moved)
      (blank : BlankRequest req task) : RequestPartway s env req (s.putTask moved)
  | requested (task moved : Task) (a : Approval) (moves : Requesting s env req task moved)
      (built : builtApproval env req task = .ok a)
      (refused : AppendRefused s (requestRunId req task) (ApprovalEngine.waitingEventId a.id)) :
      RequestPartway s env req ((s.putTask moved).putApproval a)
  | announced (task moved : Task) (a : Approval) (waiting : RunEvent)
      (moves : Requesting s env req task moved) (built : builtApproval env req task = .ok a)
      (announces : Announces req task a waiting)
      (refused : AppendRefused (s.push waiting) (requestRunId req task)
        (annotationId req (env.uuid4 0))) :
      RequestPartway s env req (((s.putTask moved).putApproval a).push waiting)

/-- The task has come to wait with its own pending approval on record, or with none because the
request was blank. -/
def EntersBacked (s : Store) (req : RequestApprovalRequest) (s' : Store) : Prop :=
  s.stateOf req.taskId ≠ some .waitingApproval →
    s'.stateOf req.taskId = some .waitingApproval →
    ∃ task, s.task? req.taskId = some task ∧
      (BlankRequest req task ∨
        ∃ a, s'.approval? (requestedId req task) = some a ∧ a.state = .pending)

variable {s : Store} {env : Env}

lemma transition_raises_partway {req : TransitionTaskRequest} {e : PyError}
    (h : (transitionTask env req s).1 = .error e) :
    TransitionPartway s env req (transitionTask env req s).2 := by
  have hout := (transitionTask_outcome s env req).outcome
  rw [h] at hout
  generalize (transitionTask env req s).2 = s' at hout
  cases hout with
  | refused _ why => exact .unchanged why
  | unannounced task moved _ moves refused => exact .moved task moved moves refused

lemma request_raises_partway {req : RequestApprovalRequest} {e : PyError}
    (h : (requestApproval env req s).1 = .error e) :
    RequestPartway s env req (requestApproval env req s).2 := by
  have hout := (requestApproval_outcome s env req).outcome
  rw [h] at hout
  generalize (requestApproval env req s).2 = s' at hout
  cases hout with
  | refused _ why => exact .unchanged why
  | unrequested task moved _ moves unbuilt =>
      exact .moved task moved moves ((blankRequest_iff env).mpr ⟨e, unbuilt⟩)
  | unannounced task moved a _ moves built refused =>
      exact .requested task moved a moves built refused
  | unannotated task moved a waiting _ moves built announces refused =>
      exact .announced task moved a waiting moves built announces refused

/-- A request that saved its record has a pending approval under the id it asked for. -/
lemma approval?_of_built {req : RequestApprovalRequest} {task : Task} {a : Approval} {s' : Store}
    (hbuilt : builtApproval env req task = .ok a)
    (happrovals : s'.approvals = (s.putApproval a).approvals) :
    ∃ a, s'.approval? (requestedId req task) = some a ∧ a.state = .pending := by
  obtain ⟨hid, -, -, -, hpending, -⟩ := Approval.fields_of_new hbuilt
  have hkey : a.id.val = requestedId req task := hid
  refine ⟨a, ?_, hpending⟩
  rw [Store.approval?, happrovals, ← hkey]
  exact Store.approval?_putApproval_self s a

lemma request_enters_backed (s : Store) (env : Env) (req : RequestApprovalRequest) :
    EntersBacked s req (requestApproval env req s).2 := by
  intro hbefore hafter
  have hout := (requestApproval_outcome s env req).outcome
  generalize (requestApproval env req s).1 = result, (requestApproval env req s).2 = s'
    at hout hafter
  cases hout with
  | refused _ why => exact absurd hafter hbefore
  | unrequested task moved e moves unbuilt =>
      exact ⟨task, moves.found, Or.inl ((blankRequest_iff env).mpr ⟨e, unbuilt⟩)⟩
  | unannounced task moved a _ moves built =>
      exact ⟨task, moves.found, Or.inr (approval?_of_built (s := s) built rfl)⟩
  | unannotated task moved a _ _ moves built =>
      exact ⟨task, moves.found, Or.inr (approval?_of_built (s := s) built rfl)⟩
  | done task moved a _ _ _ moves built =>
      exact ⟨task, moves.found, Or.inr (approval?_of_built (s := s) built rfl)⟩

/-- **Partway.**  When `transition_task` or `request_approval` raises, the store is as it was, or
it holds the writes made before the one that was refused.  A task that `request_approval` leaves
waiting has its pending approval on record unless the request was blank. -/
theorem raises_partway (s : Store) (env : Env) (treq : TransitionTaskRequest)
    (areq : RequestApprovalRequest) :
    (∀ e, (transitionTask env treq s).1 = .error e →
        TransitionPartway s env treq (transitionTask env treq s).2) ∧
      (∀ e, (requestApproval env areq s).1 = .error e →
        RequestPartway s env areq (requestApproval env areq s).2) ∧
      EntersBacked s areq (requestApproval env areq s).2 :=
  ⟨fun _ h => transition_raises_partway h, fun _ h => request_raises_partway h,
    request_enters_backed s env areq⟩

/-- A task executes again after an approval was requested for it and granted. -/
def executingAgain : Store :=
  taskMachine.run Store.empty (grantedCalls ++
    [resumeTask,
      .transitionTask ⟨fun _ => 0, fun _ => "4"⟩ { taskId := "task-s1", state := "executing" }])

/-- An atomic operation that raises leaves the tasks it found. -/
lemma Atomic.tasks_eq {x : Session Mapping} {s : Store} (h : Atomic x s)
    (hraises : (x s).1.isOk = false) : (x s).2.tasks = s.tasks := by
  rcases hx : (x s).1 with e | reply
  · exact (h e hx).1.1
  · rw [hx] at hraises
    exact absurd hraises (by simp [Except.isOk, Except.toBool])

/-- The second request of one kind raises and leaves the task waiting. -/
theorem not_atomic_second_request :
    ¬ Atomic (requestApproval ⟨fun _ => 0, fun _ => "5"⟩ { taskId := "task-s1" })
      executingAgain := by
  intro h
  have hsame := h.tasks_eq (by decide +kernel)
  exact absurd (congrArg (List.map Task.state) hsame) (by decide +kernel)

end Waywarden

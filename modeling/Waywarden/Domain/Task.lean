import Waywarden.Domain.Basic

/-!
# Tasks

`waywarden.domain.task`: the task record and its seven states.
-/

namespace Waywarden

/-- `TaskState`. -/
inductive TaskState
  | draft
  | planning
  | executing
  | waitingApproval
  | completed
  | failed
  | cancelled
  deriving DecidableEq, Repr

/-- The state as the source spells it. -/
def TaskState.name : TaskState → String
  | .draft => "draft"
  | .planning => "planning"
  | .executing => "executing"
  | .waitingApproval => "waiting_approval"
  | .completed => "completed"
  | .failed => "failed"
  | .cancelled => "cancelled"

/-- `Task`. -/
structure Task where
  id : Text
  sessionId : Text
  title : Text
  objective : Text
  state : TaskState
  createdAt : Timestamp
  updatedAt : Timestamp
  createdAt_le : createdAt ≤ updatedAt
  deriving DecidableEq, Repr

/-- The `Task` constructor. -/
def Task.new (id sessionId title objective : String) (state : TaskState)
    (createdAt updatedAt : Timestamp) : Except PyError Task := do
  let id ← requireNonEmptyText id "id"
  let sessionId ← requireNonEmptyText sessionId "session_id"
  let title ← requireNonEmptyText title "title"
  let objective ← requireNonEmptyText objective "objective"
  if h : updatedAt < createdAt then
    .error ⟨.valueError, "updated_at must not be before created_at", []⟩
  else
    .ok ⟨id, sessionId, title, objective, state, createdAt, updatedAt, Int.not_lt.mp h⟩

/-- The fields of a constructed task: the texts are stripped, the rest is kept. -/
lemma Task.fields_of_new {id sessionId title objective : String} {state : TaskState}
    {createdAt updatedAt : Timestamp} {task : Task}
    (h : Task.new id sessionId title objective state createdAt updatedAt = .ok task) :
    task.id.val = strip id ∧ task.sessionId.val = strip sessionId ∧
      task.title.val = strip title ∧ task.objective.val = strip objective ∧
      task.state = state := by
  simp only [Task.new, Effect.except_bind_eq_ok] at h
  obtain ⟨tid, hid, tsession, hsession, ttitle, htitle, tobjective, hobjective, h⟩ := h
  split at h
  · exact absurd h (by simp)
  · obtain rfl := Except.ok.inj h
    exact ⟨val_of_requireNonEmptyText hid, val_of_requireNonEmptyText hsession,
      val_of_requireNonEmptyText htitle, val_of_requireNonEmptyText hobjective, rfl⟩

/-- Texts that are not blank make a task. -/
lemma Task.new_of_nonblank {id sessionId title objective : String} (hid : strip id ≠ "")
    (hsession : strip sessionId ≠ "") (htitle : strip title ≠ "")
    (hobjective : strip objective ≠ "") (state : TaskState) (now : Timestamp) :
    ∃ task, Task.new id sessionId title objective state now now = .ok task := by
  simp only [Task.new, requireNonEmptyText, dif_neg hid, dif_neg hsession, dif_neg htitle,
    dif_neg hobjective, bind, Except.bind, dif_neg (Int.lt_irrefl now)]
  exact ⟨_, rfl⟩

/-- A stored task passes its own constructor unchanged. -/
lemma Task.new_fields (task : Task) :
    Task.new task.id task.sessionId task.title task.objective task.state task.createdAt
      task.updatedAt = .ok task := by
  simp only [Task.new, requireNonEmptyText_val, bind, Except.bind,
    dif_neg (Int.not_lt.mpr task.createdAt_le)]

/-- `task` re-built in another state, as the task service does on every transition. -/
def Task.move (task : Task) (state : TaskState) (now : Timestamp) : Except PyError Task :=
  Task.new task.id task.sessionId task.title task.objective state task.createdAt now

/-- A task moves at any instant not before its creation. -/
lemma Task.move_of_le {task : Task} {now : Timestamp} (h : task.createdAt ≤ now)
    (state : TaskState) : ∃ moved, task.move state now = .ok moved := by
  simp only [Task.move, Task.new, requireNonEmptyText_val, bind, Except.bind,
    dif_neg (Int.not_lt.mpr h)]
  exact ⟨_, rfl⟩

/-- No task moves before its creation. -/
lemma Task.createdAt_le_of_move {task moved : Task} {state : TaskState} {now : Timestamp}
    (h : task.move state now = .ok moved) : task.createdAt ≤ now := by
  by_contra hlt
  simp only [Task.move, Task.new, requireNonEmptyText_val, bind, Except.bind,
    dif_pos (Int.not_le.mp hlt)] at h
  exact absurd h (by simp)

/-- A moved task keeps its identity and is in the state it was moved to. -/
lemma Task.fields_of_move {task moved : Task} {state : TaskState} {now : Timestamp}
    (h : task.move state now = .ok moved) : moved.id = task.id ∧ moved.state = state := by
  obtain ⟨hid, -, -, -, hstate⟩ := Task.fields_of_new h
  exact ⟨Subtype.ext (hid.trans task.id.property.1), hstate⟩

end Waywarden

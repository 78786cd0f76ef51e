import Waywarden.Infra.Store

/-!
# `ApprovalRepositoryImpl` and `TaskRepositoryImpl`

Both repositories save a record by looking its id up and then inserting a row or rewriting the
one found, whatever that row holds.  A record read back goes through its constructor again, which
accepts a stored record unchanged (`Approval.new_fields`, `Task.new_fields`).
-/

namespace Waywarden

namespace ApprovalRepository

/-- `get`. -/
def get (id : String) : Session (Option Approval) := do
  match ← Effect.gets fun s : Store => s.approval? id with
  | none => pure none
  | some row => do
      let approval ← Effect.ofExcept (Approval.new row.id row.runId row.approvalKind
        (row.requestedCapability.map Subtype.val) row.summary row.state row.requestedAt
        row.decidedAt (row.decidedBy.map Subtype.val) (row.expiresAt.map .aware))
      pure (some approval)

/-- `save`. -/
def save (approval : Approval) : Session Approval := do
  Effect.modify fun s : Store => s.putApproval approval
  pure approval

/-- The approvals of a run, in the order their rows were inserted. -/
def ofRun (s : Store) (runId : String) : List Approval :=
  s.approvals.filter fun a => a.runId.val = runId

/-- `list_by_run`. -/
def listByRun (runId : String) : Session (List Approval) := do
  let rows ← Effect.gets fun s : Store => ofRun s runId
  Effect.ofExcept (rows.mapM fun row => Approval.new row.id row.runId row.approvalKind
    (row.requestedCapability.map Subtype.val) row.summary row.state row.requestedAt row.decidedAt
    (row.decidedBy.map Subtype.val) (row.expiresAt.map .aware))

variable {Q : Approval → Store → Prop} {E : PyError → Store → Prop} {s : Store}

/-- The rows of a run are read back as the approvals stored. -/
lemma listByRun_eq (runId : String) (s : Store) :
    listByRun runId s = (.ok (ofRun s runId), s) := by
  have hread : (ofRun s runId).mapM (fun row => Approval.new row.id row.runId row.approvalKind
      (row.requestedCapability.map Subtype.val) row.summary row.state row.requestedAt row.decidedAt
      (row.decidedBy.map Subtype.val) (row.expiresAt.map .aware)) = .ok (ofRun s runId) := by
    rw [Effect.except_mapM_eq_ok, List.forall₂_same]
    exact fun row _ => row.new_fields
  show Effect.ofExcept _ s = _
  rw [hread]
  rfl

@[simp] lemma wp_get {id : String} {Q : Option Approval → Store → Prop} :
    Effect.wp (get id) Q E s ↔ Q (s.approval? id) s := by
  rw [get, Effect.wp_bind, Effect.wp_gets]
  cases s.approval? id with
  | none => exact Effect.wp_pure none
  | some row =>
    simp only [Approval.new_fields, Effect.wp_bind, Effect.wp_ofExcept_ok, Effect.wp_pure]

@[simp] lemma wp_save {a : Approval} : Effect.wp (save a) Q E s ↔ Q a (s.putApproval a) := by
  rw [save, Effect.wp_bind, Effect.wp_modify, Effect.wp_pure]

end ApprovalRepository

namespace TaskRepository

/-- `get`. -/
def get (id : String) : Session (Option Task) := do
  match ← Effect.gets fun s : Store => s.task? id with
  | none => pure none
  | some row => do
      let task ← Effect.ofExcept (Task.new row.id row.sessionId row.title row.objective row.state
        row.createdAt row.updatedAt)
      pure (some task)

/-- `save`. -/
def save (task : Task) : Session Task := do
  Effect.modify fun s : Store => s.putTask task
  pure task

variable {Q : Task → Store → Prop} {E : PyError → Store → Prop} {s : Store}

@[simp] lemma wp_get {id : String} {Q : Option Task → Store → Prop} :
    Effect.wp (get id) Q E s ↔ Q (s.task? id) s := by
  rw [get, Effect.wp_bind, Effect.wp_gets]
  cases s.task? id with
  | none => exact Effect.wp_pure none
  | some row => simp only [Task.new_fields, Effect.wp_bind, Effect.wp_ofExcept_ok, Effect.wp_pure]

@[simp] lemma wp_save {t : Task} : Effect.wp (save t) Q E s ↔ Q t (s.putTask t) := by
  rw [save, Effect.wp_bind, Effect.wp_modify, Effect.wp_pure]

end TaskRepository

end Waywarden

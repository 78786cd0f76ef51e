import Waywarden.Domain.Basic

/-!
# Runs

`waywarden.domain.run`: the seven run states and the run record.  A `RunRow` is what the `runs`
table stores; a `Run` is a row its constructor accepts.  The two differ because
`update_state` writes a row without going through the constructor, so a stored row can carry an
`updated_at` before its `created_at`.
-/

namespace Waywarden

/-- `RunState`. -/
inductive RunState
  | created
  | planning
  | executing
  | waitingApproval
  | completed
  | failed
  | cancelled
  deriving DecidableEq, Repr

/-- The state as the source spells it. -/
def RunState.name : RunState → String
  | .created => "created"
  | .planning => "planning"
  | .executing => "executing"
  | .waitingApproval => "waiting_approval"
  | .completed => "completed"
  | .failed => "failed"
  | .cancelled => "cancelled"

/-- `_TERMINAL_STATES`. -/
def RunState.isTerminal : RunState → Bool
  | .completed | .failed | .cancelled => true
  | _ => false

/-- `_PolicyPreset`, also the `ToolPreset` of a manifest. -/
inductive PolicyPreset
  | yolo
  | ask
  | allowlist
  | custom
  deriving DecidableEq, Repr

/-- The preset as the source spells it. -/
def PolicyPreset.name : PolicyPreset → String
  | .yolo => "yolo"
  | .ask => "ask"
  | .allowlist => "allowlist"
  | .custom => "custom"

/-- `_Entrypoint`. -/
inductive Entrypoint
  | api
  | cli
  | scheduler
  | internal
  deriving DecidableEq, Repr

/-- The entrypoint as the source spells it. -/
def Entrypoint.name : Entrypoint → String
  | .api => "api"
  | .cli => "cli"
  | .scheduler => "scheduler"
  | .internal => "internal"

/-- A row of the `runs` table. -/
structure RunRow where
  id : Text
  instanceId : Text
  taskId : Option Text
  profile : Text
  policyPreset : PolicyPreset
  manifestRef : Text
  entrypoint : Entrypoint
  state : RunState
  createdAt : Timestamp
  updatedAt : Timestamp
  terminalSeq : Option ℕ
  manifestHash : Option String
  deriving DecidableEq, Repr

/-- `Run`: a row the constructor accepts. -/
structure Run extends RunRow where
  createdAt_le : createdAt ≤ updatedAt
  terminalSeq_pos : ∀ n ∈ terminalSeq, 1 ≤ n
  deriving DecidableEq, Repr

/-- The `Run` constructor on a row: its text fields are texts already, so what remains are the
checks on the instants and on `terminal_seq`. -/
def Run.ofRow (row : RunRow) : Except PyError Run :=
  if ht : row.updatedAt < row.createdAt then
    .error ⟨.valueError, "updated_at must not be before created_at", []⟩
  else if hs : ∃ n ∈ row.terminalSeq, n < 1 then
    .error ⟨.valueError, "terminal_seq must be >= 1 when set", []⟩
  else
    .ok { row with
      createdAt_le := Int.not_lt.mp ht
      terminalSeq_pos := fun n hn => Nat.not_lt.mp fun h => hs ⟨n, hn, h⟩ }

/-- The `Run` constructor on unchecked texts. -/
def Run.new (id instanceId : String) (taskId : Option String) (profile : String)
    (policyPreset : PolicyPreset) (manifestRef : String) (entrypoint : Entrypoint)
    (state : RunState) (createdAt updatedAt : Timestamp) (terminalSeq : Option ℕ)
    (manifestHash : Option String) : Except PyError Run := do
  let id ← requireNonEmptyText id "id"
  let instanceId ← requireNonEmptyText instanceId "instance_id"
  let taskId ← requireOptionalText taskId "task_id"
  let profile ← requireNonEmptyText profile "profile"
  let manifestRef ← requireNonEmptyText manifestRef "manifest_ref"
  Run.ofRow ⟨id, instanceId, taskId, profile, policyPreset, manifestRef, entrypoint, state,
    createdAt, updatedAt, terminalSeq, manifestHash⟩

/-- The constructor changes nothing it accepts. -/
lemma toRunRow_of_ofRow {row : RunRow} {run : Run} (h : Run.ofRow row = .ok run) :
    run.toRunRow = row := by
  rw [Run.ofRow] at h
  split at h
  · exact absurd h (by simp)
  · split at h
    · exact absurd h (by simp)
    · exact congrArg Run.toRunRow (Except.ok.inj h).symm

/-- A run's own row passes its constructor. -/
lemma Run.ofRow_toRunRow (run : Run) : Run.ofRow run.toRunRow = .ok run := by
  have hseq : ¬ ∃ n ∈ run.terminalSeq, n < 1 := fun ⟨n, hn, hlt⟩ =>
    absurd (run.terminalSeq_pos n hn) (Nat.not_le.mpr hlt)
  rw [Run.ofRow, dif_neg (Int.not_lt.mpr run.createdAt_le), dif_neg hseq]

/-- The fields of a constructed run: the texts are stripped, the rest is kept. -/
lemma Run.fields_of_new {id instanceId : String} {taskId : Option String} {profile : String}
    {policyPreset : PolicyPreset} {manifestRef : String} {entrypoint : Entrypoint}
    {state : RunState} {createdAt updatedAt : Timestamp} {terminalSeq : Option ℕ}
    {manifestHash : Option String} {run : Run}
    (h : Run.new id instanceId taskId profile policyPreset manifestRef entrypoint state createdAt
      updatedAt terminalSeq manifestHash = .ok run) :
    run.id.val = strip id ∧ run.state = state ∧ run.terminalSeq = terminalSeq := by
  simp only [Run.new, Effect.except_bind_eq_ok] at h
  obtain ⟨tid, hid, _, -, _, -, _, -, _, -, h⟩ := h
  have hrow := toRunRow_of_ofRow h
  exact ⟨by rw [hrow]; exact val_of_requireNonEmptyText hid, by rw [hrow], by rw [hrow]⟩

end Waywarden

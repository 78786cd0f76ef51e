import Waywarden.Domain.TokenUsage
import Waywarden.Infra.TimestampColumn
import Waywarden.Lib.SeqLog
import Waywarden.Lib.Tally

/-!
# `TokenUsageRepositoryImpl`

`waywarden.infra.db.repositories.token_usage_repo`: the table of the model calls.  It has no foreign
key and shares nothing with the event log, so it is a state of its own.

`append` numbers a record one past the largest number of its run, whatever number the caller put in
it.  `summarize` makes one pass over the rows, with three totals and a table of four counters for
each model.
-/

namespace Waywarden

/-- The rows of `token_usage`, in the order they were inserted. -/
abbrev UsageTable : Type := List TokenUsage

/-- The rows of a run. -/
def UsageTable.ofRun (table : UsageTable) (runId : String) : List TokenUsage :=
  table.filter fun row => row.runId = runId

namespace TokenUsageRepository

/-- A coroutine on the table. -/
abbrev UsageSession (α : Type) : Type := Effect UsageTable PyError α

/-- `_row_to_usage`: a row is read back through the constructor. -/
def rowToUsage (column : TimestampColumn) (row : TokenUsage) : Except PyError TokenUsage := do
  let recordedAt ←
    match column.stored row.recordedAt with
    | .text s => (column.fromisoformat s).map assumeUtc
    | .datetime d => .ok (assumeUtc d)
  TokenUsage.new row.id row.runId row.seq row.provider row.model row.promptTokens
    row.completionTokens row.totalTokens recordedAt row.callRef

/-- `_compute_next_seq`.  The locking query and the fallback compute the same number. -/
def computeNextSeq (runId : String) : UsageSession ℕ :=
  Effect.gets fun table => SeqLog.maxSeq TokenUsage.seq (table.ofRun runId) + 1

/-- The `INSERT` with its two constraints: a refused row changes nothing. -/
def insertRow (row : TokenUsage) : UsageSession Unit := do
  if ← Effect.gets fun table : UsageTable => table.any fun r => r.id = row.id then
    Effect.raise ⟨.integrityError, "token_usage_pkey", [row.id]⟩
  else if ← Effect.gets fun table : UsageTable =>
      (table.ofRun row.runId).any fun r => r.seq = row.seq then
    Effect.raise ⟨.integrityError, "uq_token_usage_run_id_seq", [row.runId]⟩
  else
    Effect.modify fun table => table ++ [row]

/-- `append`. -/
def append (entry : TokenUsage) : UsageSession TokenUsage := do
  let nextSeq ← computeNextSeq entry.runId
  let entry ← Effect.ofExcept (TokenUsage.new entry.id entry.runId nextSeq entry.provider
    entry.model entry.promptTokens entry.completionTokens entry.totalTokens
    (.aware entry.recordedAt) entry.callRef)
  insertRow entry
  pure entry

/-- The rows of a run, ordered by `seq`. -/
def selectRows (runId : String) : UsageSession (List TokenUsage) :=
  Effect.gets fun table => (table.ofRun runId).insertionSort fun a b => a.seq ≤ b.seq

/-- `list`. -/
def list (column : TimestampColumn) (runId : String) : UsageSession (List TokenUsage) := do
  let rows ← selectRows runId
  Effect.ofExcept (rows.mapM (rowToUsage column))

/-- The locals of the loop in `summarize`. -/
structure RunningTotals where
  totalPrompt : ℕ
  totalCompletion : ℕ
  totalTotal : ℕ
  byModel : List (String × ModelCounters)

/-- What one row adds to the counters of its model. -/
def counters (row : TokenUsage) : ModelCounters :=
  ⟨row.promptTokens, row.completionTokens, row.totalTokens, 1⟩

/-- One turn of the loop. -/
def RunningTotals.count (totals : RunningTotals) (row : TokenUsage) : RunningTotals where
  totalPrompt := totals.totalPrompt + row.promptTokens
  totalCompletion := totals.totalCompletion + row.completionTokens
  totalTotal := totals.totalTotal + row.totalTokens
  byModel := Tally.charge row.model (counters row) totals.byModel

/-- `summarize`. -/
def summarize (runId : String) : UsageSession TokenUsageSummary := do
  let rows ← selectRows runId
  let totals := rows.foldl RunningTotals.count ⟨0, 0, 0, []⟩
  pure {
    runId
    totalPrompt := totals.totalPrompt
    totalCompletion := totals.totalCompletion
    totalTotal := totals.totalTotal
    byModel := totals.byModel.map fun entry => (entry.1, { entry.2 with model := entry.1 }) }

/-! ## What the operations do -/

/-- A row is read back as the record it was written from. -/
lemma rowToUsage_eq {column : TimestampColumn} (h : column.Lossless) (row : TokenUsage) :
    rowToUsage column row = .ok row := by
  have hsame := row.new_withSeq ⟨row.seq, row.seq_pos⟩
  unfold rowToUsage
  rcases h row.recordedAt with ht | ht <;> rw [ht]
  · exact hsame
  · exact hsame

lemma mapM_rowToUsage {column : TimestampColumn} (h : column.Lossless) (rows : List TokenUsage) :
    rows.mapM (rowToUsage column) = .ok rows := by
  rw [Effect.except_mapM_eq_ok, List.forall₂_same]
  exact fun row _ => rowToUsage_eq h row

/-- The number `append` gives to the next record of a run. -/
def nextSeq (table : UsageTable) (runId : String) : {n : ℕ // 1 ≤ n} :=
  ⟨SeqLog.maxSeq TokenUsage.seq (table.ofRun runId) + 1, Nat.le_add_left 1 _⟩

lemma insertRow_of_fresh {row : TokenUsage} {table : UsageTable}
    (hid : (table.any fun r => r.id = row.id) = false)
    (hseq : ((table.ofRun row.runId).any fun r => r.seq = row.seq) = false) :
    insertRow row table = (.ok (), table ++ [row]) := by
  have hpkey : (Effect.gets fun table : UsageTable => table.any fun r => r.id = row.id :
      UsageSession Bool) table = (.ok (table.any fun r => r.id = row.id), table) := rfl
  have huq : (Effect.gets fun table : UsageTable =>
      (table.ofRun row.runId).any fun r => r.seq = row.seq : UsageSession Bool) table =
      (.ok ((table.ofRun row.runId).any fun r => r.seq = row.seq), table) := rfl
  unfold insertRow
  rw [Effect.bind_of_ok hpkey, hid, if_neg (by simp), Effect.bind_of_ok huq, hseq]
  rfl

/-- **What `append` does** with an id that is free: the record goes to the end of the table,
numbered one past the largest number of its run. -/
lemma append_of_fresh {entry : TokenUsage} {table : UsageTable}
    (hid : entry.id ∉ table.map TokenUsage.id) :
    append entry table =
      (.ok (entry.withSeq (nextSeq table entry.runId)),
        table ++ [entry.withSeq (nextSeq table entry.runId)]) := by
  have hnext : computeNextSeq entry.runId table =
      (.ok (nextSeq table entry.runId).val, table) := rfl
  have hfree : (table.any fun r => r.id = entry.id) = false := by
    rw [List.any_eq_false]
    intro r hr
    rw [decide_eq_true_eq]
    exact fun heq => hid (heq ▸ List.mem_map_of_mem hr)
  have hnumber : ((table.ofRun entry.runId).any fun r =>
      r.seq = (nextSeq table entry.runId).val) = false := by
    rw [List.any_eq_false]
    intro r hr
    have hle : r.seq ≤ SeqLog.maxSeq TokenUsage.seq (table.ofRun entry.runId) :=
      SeqLog.le_maxSeq hr
    rw [decide_eq_true_eq]
    show ¬ r.seq = SeqLog.maxSeq TokenUsage.seq (table.ofRun entry.runId) + 1
    omega
  have hinsert : insertRow (entry.withSeq (nextSeq table entry.runId)) table =
      (.ok (), table ++ [entry.withSeq (nextSeq table entry.runId)]) :=
    insertRow_of_fresh hfree hnumber
  unfold append
  rw [Effect.bind_of_ok hnext, entry.new_withSeq]
  exact Effect.bind_of_ok hinsert

end TokenUsageRepository

end Waywarden

import Waywarden.Infra.TokenUsageRepository

/-!
# The books of the model calls balance

Whatever records are appended, for whatever runs in turn, the table holds the records of each run
numbered from one in the order of their calls (`appended`): an induction over the calls, with the
numbering of every run as the invariant.

`summarize` is then the partition of a run's records by model.  Its loop keeps the three sums and
the tally of the counters (`foldl_count`), and what is asked of the rollups is what the library
knows of tallies, read through each of the four counters.
-/

namespace Waywarden

namespace TokenUsageRepository

/-- The entries of a run, numbered in their order. -/
def numbered (entries : List TokenUsage) (runId : String) : List TokenUsage :=
  (entries.filter fun e => e.runId = runId).mapIdx fun i e =>
    e.withSeq ⟨i + 1, Nat.le_add_left 1 i⟩

/-- The records of a model. -/
def ofModel (records : List TokenUsage) (model : String) : List TokenUsage :=
  records.filter fun r => r.model = model

/-- A rollup is the aggregation of the records of its model. -/
structure RollsUp (records : List TokenUsage) (rollup : TokenUsageModelRollup) : Prop where
  prompt : rollup.promptTokens = ((ofModel records rollup.model).map TokenUsage.promptTokens).sum
  completion : rollup.completionTokens =
    ((ofModel records rollup.model).map TokenUsage.completionTokens).sum
  total : rollup.totalTokens = ((ofModel records rollup.model).map TokenUsage.totalTokens).sum
  calls : rollup.callCount = (ofModel records rollup.model).length

/-- A summary is the aggregation of the records. -/
structure Aggregates (records : List TokenUsage) (summary : TokenUsageSummary) : Prop where
  prompt : summary.totalPrompt = (records.map TokenUsage.promptTokens).sum
  completion : summary.totalCompletion = (records.map TokenUsage.completionTokens).sum
  total : summary.totalTotal = (records.map TokenUsage.totalTokens).sum
  total_eq : summary.totalTotal = summary.totalPrompt + summary.totalCompletion
  once : (summary.byModel.map Prod.fst).Nodup
  models : ∀ model, model ∈ summary.byModel.map Prod.fst ↔ ∃ r ∈ records, r.model = model
  rollup : ∀ entry ∈ summary.byModel, entry.2.model = entry.1 ∧ RollsUp records entry.2
  rollup_prompt : (summary.byModel.map fun e => e.2.promptTokens).sum = summary.totalPrompt
  rollup_completion :
    (summary.byModel.map fun e => e.2.completionTokens).sum = summary.totalCompletion
  rollup_total : (summary.byModel.map fun e => e.2.totalTokens).sum = summary.totalTotal
  rollup_calls : (summary.byModel.map fun e => e.2.callCount).sum = records.length

/-! ## The numbering -/

lemma length_numbered (entries : List TokenUsage) (runId : String) :
    (numbered entries runId).length = (entries.filter fun e => e.runId = runId).length := by
  unfold numbered
  rw [List.length_mapIdx]

lemma numbered_concat (entries : List TokenUsage) (e : TokenUsage) (runId : String) :
    numbered (entries ++ [e]) runId =
      if e.runId = runId then
        numbered entries runId ++
          [e.withSeq ⟨(numbered entries runId).length + 1, Nat.le_add_left 1 _⟩]
      else numbered entries runId := by
  have hlength := length_numbered entries runId
  unfold numbered at hlength ⊢
  rw [List.filter_append]
  split
  · rename_i h
    rw [List.filter_cons_of_pos (by simp [h]), List.filter_nil, List.mapIdx_append]
    simp [hlength]
  · rename_i h
    rw [List.filter_cons_of_neg (by simp [h]), List.filter_nil, List.append_nil]

/-- The entries of a run are numbered from one. -/
lemma contiguous_numbered (entries : List TokenUsage) (runId : String) :
    SeqLog.Contiguous TokenUsage.seq (numbered entries runId) := by
  induction entries using List.reverseRecOn with
  | nil => exact SeqLog.contiguous_nil
  | append_singleton entries e ih =>
      rw [numbered_concat]
      split
      · exact ih.concat rfl
      · exact ih

/-- The next call of the table that holds these entries. -/
lemma ofRun_concat {entries : List TokenUsage} {table : UsageTable}
    (h : ∀ runId, table.ofRun runId = numbered entries runId) (e : TokenUsage) (runId : String) :
    UsageTable.ofRun (table ++ [e.withSeq (nextSeq table e.runId)]) runId =
      numbered (entries ++ [e]) runId := by
  have hnext : nextSeq table e.runId =
      ⟨(numbered entries e.runId).length + 1, Nat.le_add_left 1 _⟩ := by
    apply Subtype.ext
    show SeqLog.maxSeq TokenUsage.seq (table.ofRun e.runId) + 1 = _
    rw [h, (contiguous_numbered entries e.runId).maxSeq_eq]
  have hrun := h runId
  rw [numbered_concat, ← hrun, hnext]
  unfold UsageTable.ofRun
  rw [List.filter_append]
  split
  · rename_i heq
    subst heq
    rw [List.filter_cons_of_pos (by simp), List.filter_nil, ← h]
    rfl
  · rename_i hne
    rw [List.filter_cons_of_neg (by simp [hne]), List.filter_nil, List.append_nil]

/-- **The table after the calls.**  Every call returns the record it stored, and the records of each
run are its entries in order, numbered from one. -/
theorem appended {entries : List TokenUsage} (h : (entries.map TokenUsage.id).Nodup) :
    ∃ table : UsageTable, entries.mapM append [] = (.ok table, table) ∧
      table.map TokenUsage.id = entries.map TokenUsage.id ∧
      ∀ runId, table.ofRun runId = numbered entries runId := by
  induction entries using List.reverseRecOn with
  | nil => exact ⟨[], rfl, rfl, fun _ => rfl⟩
  | append_singleton entries e ih =>
      rw [List.map_append, List.nodup_append] at h
      obtain ⟨hnodup, -, hdisjoint⟩ := h
      obtain ⟨table, hrun, hids, hrows⟩ := ih hnodup
      have hfresh : e.id ∉ table.map TokenUsage.id := by
        intro hmem
        rw [hids] at hmem
        exact hdisjoint e.id hmem e.id (by simp) rfl
      have hlast : [e].mapM append table =
          (.ok [e.withSeq (nextSeq table e.runId)],
            table ++ [e.withSeq (nextSeq table e.runId)]) := by
        rw [List.mapM_cons, Effect.bind_of_ok (append_of_fresh hfresh)]
        rfl
      refine ⟨table ++ [e.withSeq (nextSeq table e.runId)], ?_, ?_, ofRun_concat hrows e⟩
      · rw [List.mapM_append, Effect.bind_of_ok hrun, Effect.bind_of_ok hlast]
        rfl
      · rw [List.map_append, List.map_append, hids]
        rfl

/-! ## The summary -/

/-- The locals of the loop: the sums of the rows so far, and their tally. -/
lemma foldl_count (rows : List TokenUsage) :
    rows.foldl RunningTotals.count ⟨0, 0, 0, []⟩ =
      ⟨(rows.map TokenUsage.promptTokens).sum, (rows.map TokenUsage.completionTokens).sum,
        (rows.map TokenUsage.totalTokens).sum, Tally.tally TokenUsage.model counters rows⟩ := by
  induction rows using List.reverseRecOn with
  | nil => rfl
  | append_singleton rows row ih =>
      rw [List.foldl_append, ih, Tally.tally_concat]
      simp only [List.foldl_cons, List.foldl_nil, RunningTotals.count, List.map_append,
        List.sum_append, List.map_singleton, List.sum_singleton]

/-- A counter of a sum is the sum of the counter. -/
lemma counter_sum (φ : ModelCounters →+ ℕ) (rows : List TokenUsage) :
    φ ((rows.map counters).sum) = (rows.map fun r => φ (counters r)).sum := by
  rw [map_list_sum, List.map_map]
  rfl

/-- One counter of the tally, over all models. -/
lemma counter_tally (φ : ModelCounters →+ ℕ) (rows : List TokenUsage) :
    ((Tally.tally TokenUsage.model counters rows).map fun e => φ e.2).sum =
      (rows.map fun r => φ (counters r)).sum := by
  have htotal : Tally.total (Tally.tally TokenUsage.model counters rows) =
      (rows.map counters).sum := Tally.total_tally rows
  rw [← counter_sum φ rows, ← htotal, Tally.total, map_list_sum, List.map_map]
  rfl

/-- The total of a record is what its two counts add up to. -/
lemma sum_totalTokens (rows : List TokenUsage) :
    (rows.map TokenUsage.totalTokens).sum =
      (rows.map TokenUsage.promptTokens).sum + (rows.map TokenUsage.completionTokens).sum := by
  induction rows with
  | nil => rfl
  | cons row rows ih =>
      simp only [List.map_cons, List.sum_cons, ih, row.total_eq]
      omega

/-- Every record is one call. -/
lemma sum_calls (rows : List TokenUsage) :
    (rows.map fun r => ModelCounters.callHom (counters r)).sum = rows.length := by
  induction rows with
  | nil => rfl
  | cons row rows ih =>
      rw [List.map_cons, List.sum_cons, ih, List.length_cons, Nat.add_comm]
      rfl

/-- An entry of the tally is the rollup of its model. -/
lemma rollsUp_of_mem {rows : List TokenUsage} {e : String × ModelCounters}
    (h : e ∈ Tally.tally TokenUsage.model counters rows) :
    RollsUp rows { e.2 with model := e.1 } := by
  have hsum : e.2 = ((ofModel rows e.1).map counters).sum := Tally.snd_of_mem_tally h
  have hcounter : ∀ φ : ModelCounters →+ ℕ,
      φ e.2 = ((ofModel rows e.1).map fun r => φ (counters r)).sum := by
    intro φ
    rw [hsum, counter_sum]
  constructor
  · exact hcounter ModelCounters.promptHom
  · exact hcounter ModelCounters.completionHom
  · exact hcounter ModelCounters.totalHom
  · rw [← sum_calls]
    exact hcounter ModelCounters.callHom

/-- The rows of a run are selected as they stand when they are in order. -/
lemma selectRows_eq {table : UsageTable} {runId : String}
    (h : SeqLog.Contiguous TokenUsage.seq (table.ofRun runId)) :
    selectRows runId table = (.ok (table.ofRun runId), table) := by
  have hsorted : (table.ofRun runId).insertionSort (fun a b => a.seq ≤ b.seq) =
      table.ofRun runId := by
    apply List.Pairwise.insertionSort_eq
    exact h.pairwise_lt.imp fun hlt => Nat.le_of_lt hlt
  unfold selectRows Effect.gets
  simp only [hsorted]

/-- **What `summarize` returns** when the rows of the run are in order. -/
theorem summarize_eq {table : UsageTable} {runId : String}
    (h : SeqLog.Contiguous TokenUsage.seq (table.ofRun runId)) :
    ∃ summary, summarize runId table = (.ok summary, table) ∧ summary.runId = runId ∧
      Aggregates (table.ofRun runId) summary := by
  have hkeys : ((Tally.tally TokenUsage.model counters (table.ofRun runId)).map fun e =>
      (e.1, ({ e.2 with model := e.1 } : TokenUsageModelRollup))).map Prod.fst =
      Tally.keys (Tally.tally TokenUsage.model counters (table.ofRun runId)) := by
    rw [List.map_map]
    rfl
  unfold summarize
  rw [Effect.bind_of_ok (selectRows_eq h), foldl_count]
  refine ⟨_, rfl, rfl, ?_⟩
  constructor
  case total_eq => exact sum_totalTokens _
  case once =>
    simp only [hkeys]
    exact Tally.nodup_keys_tally _
  case models =>
    intro model
    simp only [hkeys]
    exact Tally.mem_keys_tally
  case rollup =>
    intro entry hentry
    obtain ⟨e, he, rfl⟩ := List.mem_map.mp hentry
    exact ⟨rfl, rollsUp_of_mem he⟩
  case rollup_prompt =>
    rw [List.map_map]
    exact counter_tally ModelCounters.promptHom _
  case rollup_completion =>
    rw [List.map_map]
    exact counter_tally ModelCounters.completionHom _
  case rollup_total =>
    rw [List.map_map]
    exact counter_tally ModelCounters.totalHom _
  case rollup_calls =>
    rw [List.map_map, ← sum_calls]
    exact counter_tally ModelCounters.callHom _
  all_goals rfl

/-- What `list` returns when the rows of the run are in order. -/
lemma list_eq {column : TimestampColumn} (hcolumn : column.Lossless) {table : UsageTable}
    {runId : String} (h : SeqLog.Contiguous TokenUsage.seq (table.ofRun runId)) :
    list column runId table = (.ok (table.ofRun runId), table) := by
  unfold list
  rw [Effect.bind_of_ok (selectRows_eq h), mapM_rowToUsage hcolumn]
  rfl

/-- **The books balance.**  After any calls of `append` with distinct ids, whatever runs they are
for and whatever numbers they came with, `list` returns the entries of a run in the order of the
calls, numbered from one, and `summarize` returns their aggregation. -/
theorem books_balance {column : TimestampColumn} (hcolumn : column.Lossless)
    {entries : List TokenUsage} (hids : (entries.map TokenUsage.id).Nodup) :
    ∃ table : UsageTable, entries.mapM append [] = (.ok table, table) ∧ ∀ runId,
      list column runId table = (.ok (numbered entries runId), table) ∧
      (numbered entries runId).map TokenUsage.seq =
        List.range' 1 (numbered entries runId).length ∧
      ∃ summary, summarize runId table = (.ok summary, table) ∧ summary.runId = runId ∧
        Aggregates (numbered entries runId) summary := by
  obtain ⟨table, hrun, -, hrows⟩ := appended hids
  refine ⟨table, hrun, fun runId => ?_⟩
  have hnumbered := contiguous_numbered entries runId
  have hordered : SeqLog.Contiguous TokenUsage.seq (table.ofRun runId) := by
    rw [hrows]
    exact hnumbered
  rw [← hrows]
  exact ⟨list_eq hcolumn hordered, hordered, summarize_eq hordered⟩

/-- A record of the model call `id`. -/
def sampleUsage (id runId model : String) (seq : {n : ℕ // 1 ≤ n}) (prompt completion : ℕ)
    (hmodel : strip model ≠ "") : TokenUsage where
  id
  runId
  seq
  provider := "fake"
  model
  promptTokens := prompt
  completionTokens := completion
  totalTokens := prompt + completion
  recordedAt := 0
  total_eq := rfl
  seq_pos := one_le_seq seq
  provider_filled := by decide +kernel
  model_filled := hmodel

/-- Calls of two runs in turn, all of them numbered by a caller who does not count. -/
def sampleCalls : List TokenUsage :=
  [sampleUsage "usage_1" "run-1" "small" ⟨1, by omega⟩ 3 4 (by decide +kernel),
    sampleUsage "usage_2" "run-2" "small" ⟨1, by omega⟩ 5 0 (by decide +kernel),
    sampleUsage "usage_3" "run-1" "large" ⟨7, by omega⟩ 10 20 (by decide +kernel),
    sampleUsage "usage_4" "run-1" "small" ⟨1, by omega⟩ 1 1 (by decide +kernel)]

theorem books_balance_two_runs :
    ∃ table : UsageTable, sampleCalls.mapM append [] = (.ok table, table) ∧ ∀ runId,
      list naiveColumn runId table = (.ok (numbered sampleCalls runId), table) ∧
      (numbered sampleCalls runId).map TokenUsage.seq =
        List.range' 1 (numbered sampleCalls runId).length ∧
      ∃ summary, summarize runId table = (.ok summary, table) ∧ summary.runId = runId ∧
        Aggregates (numbered sampleCalls runId) summary :=
  books_balance lossless_naiveColumn (by decide)

end TokenUsageRepository

end Waywarden

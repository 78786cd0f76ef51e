import Mathlib.Algebra.Group.Nat.Hom
import Mathlib.Algebra.GroupWithZero.Nat
import Waywarden.Domain.Basic

/-!
# Token usage

`waywarden.domain.token_usage`: the record of one model call, and the summary of a run.  A record
whose counts do not add up cannot be built.
-/

namespace Waywarden

/-- `TokenUsage`. -/
structure TokenUsage where
  id : String
  runId : String
  seq : ℕ
  provider : String
  model : String
  promptTokens : ℕ
  completionTokens : ℕ
  totalTokens : ℕ
  recordedAt : Timestamp
  callRef : Option String := none
  total_eq : totalTokens = promptTokens + completionTokens
  seq_pos : 1 ≤ seq
  provider_filled : strip provider ≠ ""
  model_filled : strip model ≠ ""
  deriving DecidableEq, Repr

/-- The `TokenUsage` constructor. -/
def TokenUsage.new (id runId : String) (seq : ℤ) (provider model : String)
    (promptTokens completionTokens totalTokens : ℤ) (recordedAt : PyDatetime)
    (callRef : Option String) : Except PyError TokenUsage :=
  if hneg : promptTokens < 0 ∨ completionTokens < 0 ∨ totalTokens < 0 then
    .error ⟨.valueError, "token counts must be non-negative", []⟩
  else if hsum : totalTokens ≠ promptTokens + completionTokens then
    .error ⟨.valueError, "total_tokens must equal prompt_tokens + completion_tokens", []⟩
  else if hseq : seq < 1 then
    .error ⟨.valueError, "seq must be >= 1", []⟩
  else if hprovider : strip provider = "" then
    .error ⟨.valueError, "provider must be a non-empty string", []⟩
  else if hmodel : strip model = "" then
    .error ⟨.valueError, "model must be a non-empty string", []⟩
  else do
    let recordedAt ← normalizeUtcDatetime recordedAt "recorded_at"
    .ok {
      id, runId, provider, model, recordedAt, callRef
      seq := seq.toNat
      promptTokens := promptTokens.toNat
      completionTokens := completionTokens.toNat
      totalTokens := totalTokens.toNat
      total_eq := by omega
      seq_pos := by omega
      provider_filled := hprovider
      model_filled := hmodel }

/-- The record under another number. -/
def TokenUsage.withSeq (u : TokenUsage) (seq : {n : ℕ // 1 ≤ n}) : TokenUsage :=
  { u with seq := seq.val, seq_pos := one_le_seq seq }

@[simp] lemma TokenUsage.withSeq_id (u : TokenUsage) (n : {n : ℕ // 1 ≤ n}) :
    (u.withSeq n).id = u.id := rfl

@[simp] lemma TokenUsage.withSeq_runId (u : TokenUsage) (n : {n : ℕ // 1 ≤ n}) :
    (u.withSeq n).runId = u.runId := rfl

@[simp] lemma TokenUsage.withSeq_seq (u : TokenUsage) (n : {n : ℕ // 1 ≤ n}) :
    (u.withSeq n).seq = n := rfl

/-- The constructor accepts counts that add up, with a number, a provider, a model and an aware
instant. -/
lemma TokenUsage.exists_new {id runId provider model : String} {prompt completion : ℕ}
    {recordedAt : Timestamp} {callRef : Option String} (seq : {n : ℕ // 1 ≤ n})
    (hprovider : strip provider ≠ "") (hmodel : strip model ≠ "") :
    TokenUsage.new id runId seq.val provider model prompt completion (prompt + completion : ℕ)
        (.aware recordedAt) callRef =
      .ok ⟨id, runId, seq, provider, model, prompt, completion, prompt + completion, recordedAt,
        callRef, rfl, seq.property, hprovider, hmodel⟩ := by
  have hpos := seq.property
  unfold TokenUsage.new
  rw [dif_neg (by omega), dif_neg (by push_cast; simp), dif_neg (by omega), dif_neg hprovider,
    dif_neg hmodel]
  rfl

/-- A record is accepted under every number. -/
lemma TokenUsage.new_withSeq (u : TokenUsage) (seq : {n : ℕ // 1 ≤ n}) :
    TokenUsage.new u.id u.runId seq.val u.provider u.model u.promptTokens u.completionTokens
      u.totalTokens (.aware u.recordedAt) u.callRef = .ok (u.withSeq seq) := by
  obtain ⟨id, runId, old, provider, model, prompt, completion, total, recordedAt, callRef, rfl,
    hpos, hprovider, hmodel⟩ := u
  exact TokenUsage.exists_new seq hprovider hmodel

/-- The counters of one model. -/
@[ext] structure ModelCounters where
  promptTokens : ℕ
  completionTokens : ℕ
  totalTokens : ℕ
  callCount : ℕ
  deriving DecidableEq, Repr

namespace ModelCounters

instance : Zero ModelCounters := ⟨⟨0, 0, 0, 0⟩⟩

/-- Counters are added one by one. -/
instance : Add ModelCounters :=
  ⟨fun a b => ⟨a.promptTokens + b.promptTokens, a.completionTokens + b.completionTokens,
    a.totalTokens + b.totalTokens, a.callCount + b.callCount⟩⟩

instance : AddCommMonoid ModelCounters where
  add_assoc a b c := by
    ext <;> exact Nat.add_assoc _ _ _
  zero_add a := by
    ext <;> exact Nat.zero_add _
  add_zero a := by
    ext <;> exact Nat.add_zero _
  add_comm a b := by
    ext <;> exact Nat.add_comm _ _
  nsmul := nsmulRec

/-- The prompt counter, as an additive map. -/
def promptHom : ModelCounters →+ ℕ := ⟨⟨promptTokens, rfl⟩, fun _ _ => rfl⟩

/-- The completion counter. -/
def completionHom : ModelCounters →+ ℕ := ⟨⟨completionTokens, rfl⟩, fun _ _ => rfl⟩

/-- The total counter. -/
def totalHom : ModelCounters →+ ℕ := ⟨⟨totalTokens, rfl⟩, fun _ _ => rfl⟩

/-- The number of calls. -/
def callHom : ModelCounters →+ ℕ := ⟨⟨callCount, rfl⟩, fun _ _ => rfl⟩

end ModelCounters

/-- `TokenUsageModelRollup`. -/
structure TokenUsageModelRollup extends ModelCounters where
  model : String
  deriving DecidableEq, Repr

/-- `TokenUsageSummary`. -/
structure TokenUsageSummary where
  runId : String
  totalPrompt : ℕ
  totalCompletion : ℕ
  totalTotal : ℕ
  byModel : List (String × TokenUsageModelRollup)
  deriving DecidableEq, Repr

end Waywarden

import Waywarden.Infra.TokenUsageRepository

/-!
# The model router

`waywarden.adapters.model.router`, with the completion of `domain.providers.types.model`.  A router
sends a prompt to one of its providers and records what the completion cost.

What a provider does is not the router's business: it runs on a state of its own and returns a
completion or raises.  That side also keeps the calls that have reached a provider, which is the
history the records have to be compared with.  A prompt is handed on as it is, so its type, with
the tools and the streaming flag, is left open.
-/

namespace Waywarden

/-- `ModelCompletion`. -/
structure ModelCompletion where
  sessionId : String
  text : String
  model : String
  provider : String
  recordedAt : Timestamp
  promptTokens : ℕ
  completionTokens : ℕ
  totalTokens : ℕ
  session_filled : sessionId ≠ ""
  model_filled : strip model ≠ ""
  provider_filled : strip provider ≠ ""
  total_eq : totalTokens = promptTokens + completionTokens

/-- The `ModelCompletion` constructor. -/
def ModelCompletion.new (sessionId text model provider : String) (recordedAt : PyDatetime)
    (promptTokens completionTokens totalTokens : ℤ) : Except PyError ModelCompletion :=
  if hsession : sessionId = "" then
    .error ⟨.valueError, "session_id must not be empty", []⟩
  else if hmodel : strip model = "" then
    .error ⟨.valueError, "model must be a non-empty string", []⟩
  else if hprovider : strip provider = "" then
    .error ⟨.valueError, "provider must be a non-empty string", []⟩
  else if hneg : promptTokens < 0 ∨ completionTokens < 0 then
    .error ⟨.valueError, "token counts must be non-negative", []⟩
  else if hsum : totalTokens ≠ promptTokens + completionTokens then
    .error ⟨.valueError, "total_tokens must equal prompt_tokens + completion_tokens", []⟩
  else do
    let recordedAt ← normalizeUtcDatetime recordedAt "recorded_at"
    .ok {
      sessionId, text, model, provider, recordedAt
      promptTokens := promptTokens.toNat
      completionTokens := completionTokens.toNat
      totalTokens := totalTokens.toNat
      session_filled := hsession
      model_filled := hmodel
      provider_filled := hprovider
      total_eq := by omega }

/-- `ModelProvider`: a coroutine on the state of the providers. -/
structure ModelProvider (ω π : Type) where
  complete : π → Effect ω PyError ModelCompletion

/-- `ModelRouter`, with the check of its constructor. -/
structure ModelRouter (ω π : Type) where
  providers : List (String × ModelProvider ω π)
  default : String
  default_registered : (KeyedTable.get Prod.fst default providers).isSome = true

/-- The arguments of one call of `complete`, and the identifier drawn for its record. -/
structure ModelCall (π : Type) where
  prompt : π
  provider : Option String
  runId : Option String
  callRef : Option String
  uuid : String

/-- A call that has reached a provider: the run it was made for, and the completion produced. -/
structure ProviderCall where
  runId : Option String
  completion : Option ModelCompletion

/-- The side of the providers: their state, and the calls that have reached one of them. -/
structure ProviderSide (ω : Type) where
  world : ω
  reached : List ProviderCall

/-- A coroutine on the providers and the usage table. -/
abbrev RouterSession (ω α : Type) : Type := Effect (ProviderSide ω × UsageTable) PyError α

namespace ModelRouter

variable {ω π : Type}

/-- The constructor. -/
def new (providers : List (String × ModelProvider ω π)) (default : String) :
    Except PyError (ModelRouter ω π) :=
  if providers.isEmpty then
    .error ⟨.valueError, "providers must not be empty", []⟩
  else if h : (KeyedTable.get Prod.fst default providers).isSome = true then
    .ok ⟨providers, default, h⟩
  else
    .error ⟨.unknownModelProviderError, "default provider % is not registered", [default]⟩

/-- `_provider`. -/
def provider (router : ModelRouter ω π) (name : String) : Except PyError (ModelProvider ω π) :=
  match KeyedTable.get Prod.fst name router.providers with
  | some entry => .ok entry.2
  | none => .error ⟨.unknownModelProviderError, "model provider % is not registered", [name]⟩

/-- `await selected_provider.complete(…)`. -/
def ask (provider : ModelProvider ω π) (call : ModelCall π) : RouterSession ω ModelCompletion :=
  fun s =>
    let outcome := provider.complete call.prompt s.1.world
    (outcome.1, ⟨outcome.2, s.1.reached ++ [⟨call.runId, outcome.1.toOption⟩]⟩, s.2)

/-- `_record_usage`. -/
def recordUsage (completion : ModelCompletion) (runId callRef : Option String) (uuid : String) :
    TokenUsageRepository.UsageSession Unit :=
  match runId.filter (· ≠ "") with
  | none =>
      Effect.raise ⟨.missingRunIdError, "run_id is required for token usage accounting", []⟩
  | some runId => do
      let entry ← Effect.ofExcept (TokenUsage.new ("usage_" ++ uuid) runId 1 completion.provider
        completion.model completion.promptTokens completion.completionTokens
        completion.totalTokens (.aware completion.recordedAt) callRef)
      let _ ← TokenUsageRepository.append entry
      pure ()

/-- `complete`. -/
def complete (router : ModelRouter ω π) (call : ModelCall π) : RouterSession ω ModelCompletion := do
  let selectedName := orDefault call.provider router.default
  let selectedProvider ← Effect.ofExcept (router.provider selectedName)
  let completion ← ask selectedProvider call
  Effect.second (recordUsage completion call.runId call.callRef call.uuid)
  pure completion

end ModelRouter

end Waywarden

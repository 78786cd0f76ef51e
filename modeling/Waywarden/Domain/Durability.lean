import Waywarden.Domain.Basic

/-!
# Durability metadata

`waywarden.domain.durability`: how a tool action is classified and the token-budget context a
caller supplies.  Both are shown in event payloads and interpreted by nobody else.
-/

namespace Waywarden

/-- `_SIDE_EFFECT_CLASSES`. -/
def sideEffectClasses : List String :=
  ["read-only", "workspace-mutating", "DB-mutating", "provider-mutating", "external-write",
    "unknown/high-risk"]

/-- `SideEffectClassification`. -/
structure SideEffectClassification where
  actionClass : Text
  rationale : Text
  supported : actionClass.val ∈ sideEffectClasses
  deriving DecidableEq, Repr

/-- The `SideEffectClassification` constructor. -/
def SideEffectClassification.new (actionClass rationale : String) :
    Except PyError SideEffectClassification := do
  let actionClass ← requireNonEmptyText actionClass "action_class"
  if h : actionClass.val ∈ sideEffectClasses then
    let rationale ← requireNonEmptyText rationale "rationale"
    .ok ⟨actionClass, rationale, h⟩
  else
    .error ⟨.valueError, "action_class must be a supported side-effect class", []⟩

/-- `SideEffectClassification.as_payload`. -/
def SideEffectClassification.asPayload (c : SideEffectClassification) : Value :=
  .dict [("action_class", .str c.actionClass), ("rationale", .str c.rationale)]

/-- `ToolActionMetadata`. -/
structure ToolActionMetadata where
  toolId : Text
  action : Text
  sideEffect : SideEffectClassification
  approvalExplanation : Mapping

/-- The `ToolActionMetadata` constructor. -/
def ToolActionMetadata.new (toolId action : String) (sideEffect : SideEffectClassification)
    (approvalExplanation : Mapping) : Except PyError ToolActionMetadata := do
  let toolId ← requireNonEmptyText toolId "tool_id"
  let action ← requireNonEmptyText action "action"
  .ok ⟨toolId, action, sideEffect, approvalExplanation⟩

/-- `ToolActionMetadata.as_payload`. -/
def ToolActionMetadata.asPayload (m : ToolActionMetadata) : Value :=
  .dict ([("tool_id", .str m.toolId), ("action", .str m.action),
      ("side_effect", m.sideEffect.asPayload)] ++
    if m.approvalExplanation.isEmpty then []
    else [("approval_explanation", .dict m.approvalExplanation)])

/-- `TokenBudgetTelemetry`. -/
structure TokenBudgetTelemetry where
  source : Text
  budgetId : Option Text := none
  observedPromptTokens : Option ℕ := none
  observedCompletionTokens : Option ℕ := none
  observedTotalTokens : Option ℕ := none
  remainingTokens : Option ℕ := none
  warning : Option Text := none
  deriving DecidableEq, Repr

/-- A value or `None`. -/
def optionalValue {α : Type} (f : α → Value) : Option α → Value
  | none => .null
  | some a => f a

/-- `TokenBudgetTelemetry.as_payload`. -/
def TokenBudgetTelemetry.asPayload (t : TokenBudgetTelemetry) : Value :=
  let text := optionalValue fun v : Text => .str v
  let count := optionalValue fun n : ℕ => .int n
  .dict [("budget_id", text t.budgetId), ("source", .str t.source),
    ("observed_prompt_tokens", count t.observedPromptTokens),
    ("observed_completion_tokens", count t.observedCompletionTokens),
    ("observed_total_tokens", count t.observedTotalTokens),
    ("remaining_tokens", count t.remainingTokens), ("warning", text t.warning)]

/-- `token_budget_payload`. -/
def tokenBudgetPayload (tokenBudget : Option TokenBudgetTelemetry) : Option Value :=
  tokenBudget.map TokenBudgetTelemetry.asPayload

/-- `tool_actions_payload`. -/
def toolActionsPayload (toolActions : Option (List ToolActionMetadata)) : Option Value :=
  toolActions.map fun actions => .tuple (actions.map ToolActionMetadata.asPayload)

end Waywarden

import Mathlib.Data.List.Infix
import Waywarden.Domain.Durability
import Waywarden.Domain.Manifest
import Waywarden.Services.ApprovalEngine

/-!
# `AdversarialReviewRoutine`

`waywarden.services.orchestration.adversarial_review`: four detectors look at what a pipeline
node hands back, the tool policy decides how to gate it, one approval is requested when anything
was found, and every finding is recorded as a `run.progress` event.

Two operations of the language are taken as they come, in a `Rendering`: lower-casing a string and
the `repr` of a value, which raises on an integer that is too long.  What is proved here holds for
any.
-/

namespace Waywarden

/-- `str.lower` and `repr`. -/
structure Rendering where
  lower : String → String
  repr : Value → Except PyError String

/-- `str(value)`: a string is itself, anything else its `repr`. -/
def Rendering.str (R : Rendering) : Value → Except PyError String
  | .str s => .ok s
  | v => R.repr v

/-- `needle in text`. -/
def hasSubstring (text needle : String) : Bool := decide (needle.toList <:+: text.toList)

/-- `call.get(k₁) or call.get(k₂) or … or default`. -/
def Mapping.firstTruthy (m : Mapping) (keys : List String) (default : Value) : Value :=
  ((keys.filterMap m.get).find? Value.truthy).getD default

/-- `call.get(key) or default`, where the default is computed only if it is taken. -/
def Mapping.truthyOr (m : Mapping) (key : String) (default : Except PyError String) :
    Except PyError Value :=
  match (m.get key).filter Value.truthy with
  | some v => .ok v
  | none => Value.str <$> default

/-- `FindingClass`. -/
inductive FindingClass
  | promptInjection
  | approvalBoundaryMisuse
  | malformedMemoryKnowledge
  | destructiveToolMisuse
  deriving DecidableEq, Repr

/-- The class as the source spells it. -/
def FindingClass.name : FindingClass → String
  | .promptInjection => "prompt_injection"
  | .approvalBoundaryMisuse => "approval_boundary_misuse"
  | .malformedMemoryKnowledge => "malformed_memory_knowledge"
  | .destructiveToolMisuse => "destructive_tool_misuse"

/-- `FindingSeverity`. -/
inductive FindingSeverity
  | medium
  | high
  | critical
  deriving DecidableEq, Repr

/-- The severity as the source spells it. -/
def FindingSeverity.name : FindingSeverity → String
  | .medium => "medium"
  | .high => "high"
  | .critical => "critical"

/-- `GateDecision`. -/
inductive GateDecision
  | continue
  | abort
  | branch
  deriving DecidableEq, Repr

/-- The gate as the source spells it. -/
def GateDecision.name : GateDecision → String
  | .continue => "continue"
  | .abort => "abort"
  | .branch => "branch"

/-- `PipelineOutcome`, the two values a review can give. -/
inductive ReviewOutcome
  | success
  | failure
  deriving DecidableEq, Repr

/-- `ReviewStatus`. -/
inductive ReviewStatus
  | completed
  | aborted
  deriving DecidableEq, Repr

/-- `AdversarialFinding`. -/
structure AdversarialFinding where
  findingClass : FindingClass
  severity : FindingSeverity
  summary : String
  evidenceRefs : List String
  deriving DecidableEq, Repr

/-- `ApprovalExplanation`. -/
structure ApprovalExplanation where
  gateDecision : GateDecision
  approvalIds : List String
  policyPreset : PolicyPreset
  policyDecisions : List (FindingClass × ToolDecision)
  rationale : String
  deriving DecidableEq, Repr

/-- `ApprovalExplanation.as_payload`. -/
def ApprovalExplanation.asPayload (e : ApprovalExplanation) : Mapping :=
  [("gate_decision", .str e.gateDecision.name),
    ("approval_ids", .tuple (e.approvalIds.map .str)),
    ("policy_preset", .str e.policyPreset.name),
    ("policy_decisions", .dict (e.policyDecisions.map fun p => (p.1.name, .str p.2.name))),
    ("rationale", .str e.rationale)]

/-- `AdversarialReviewInput`. -/
structure AdversarialReviewInput where
  runId : String
  pipelineId : String
  nodeId : String
  inputArtifactRef : String
  inputArtifactKind : String
  handbackText : String := ""
  toolCalls : List Mapping := []
  memoryItems : List Mapping := []
  knowledgeItems : List Mapping := []
  tokenBudget : Option TokenBudgetTelemetry := none

/-- `AdversarialReviewResult`. -/
structure AdversarialReviewResult where
  findings : List AdversarialFinding
  gateDecision : GateDecision
  pipelineOutcome : ReviewOutcome
  status : ReviewStatus
  approvalExplanation : ApprovalExplanation
  events : List RunEvent
  handbackMetadata : Mapping

namespace AdversarialReviewRoutine

variable (R : Rendering)

/-! ## Detectors -/

/-- `_has_prompt_injection`. -/
def hasPromptInjection (text : String) : Bool :=
  ["ignore previous instructions", "ignore all previous instructions", "reveal system prompt",
    "developer message", "system message"].any (hasSubstring (R.lower text))

/-- `_has_approval_boundary_misuse`. -/
def hasApprovalBoundaryMisuse (text : String) : Bool :=
  ["auto-approve", "self-approve", "bypass approval", "skip approval", "without approval"].any
    (hasSubstring (R.lower text))

/-- `_non_empty_str`. -/
def nonEmptyStr : Option Value → Bool
  | some (.str s) => strip s != ""
  | _ => false

/-- The references of the items missing one of two fields. -/
def malformedRefs (artifactRef label : String) (fields : List String) (items : List Mapping) :
    List String :=
  (items.zipIdx.filter fun p => fields.any fun field => !nonEmptyStr (p.1.get field)).map
    fun p => artifactRef ++ "#" ++ label ++ "[" ++ toString p.2 ++ "]"

/-- `_malformed_memory_knowledge_refs`. -/
def malformedMemoryKnowledgeRefs (input : AdversarialReviewInput) : List String :=
  malformedRefs input.inputArtifactRef "memory" ["id", "content"] input.memoryItems ++
    malformedRefs input.inputArtifactRef "knowledge" ["id", "source"] input.knowledgeItems

/-- `str(call.get(key, "")).lower()`. -/
def loweredField (call : Mapping) (key : String) : Except PyError String :=
  R.lower <$> R.str ((call.get key).getD (.str ""))

/-- The test `_destructive_tool_refs` runs on one call. -/
def isDestructive (call : Mapping) : Except PyError Bool := do
  let command ← loweredField R call "command"
  let action ← loweredField R call "action"
  .ok (["rm -rf", "mkfs", "diskutil erase", "format ", "git reset --hard", "shutdown"].any
      (hasSubstring command) || ["delete", "destroy", "format"].contains action)

/-- `_destructive_tool_refs`. -/
def destructiveToolRefs (input : AdversarialReviewInput) : Except PyError (List String) := do
  let destructive ← input.toolCalls.zipIdx.filterM fun p => isDestructive R p.1
  .ok (destructive.map fun p => input.inputArtifactRef ++ "#tool_calls[" ++ toString p.2 ++ "]")

/-- `_detect`.  Only the fields of the tool calls can fail to be read. -/
def detect (input : AdversarialReviewInput) : Except PyError (List AdversarialFinding) := do
  let destructiveRefs ← destructiveToolRefs R input
  .ok ((if hasPromptInjection R input.handbackText then
      [⟨.promptInjection, .high,
        "Handback attempts to override instructions or reveal hidden prompts.",
        [input.inputArtifactRef ++ "#handback"]⟩]
    else []) ++
  (if hasApprovalBoundaryMisuse R input.handbackText then
      [⟨.approvalBoundaryMisuse, .high,
        "Handback attempts to bypass or self-grant an approval boundary.",
        [input.inputArtifactRef ++ "#handback"]⟩]
    else []) ++
  (if malformedMemoryKnowledgeRefs input ≠ [] then
      [⟨.malformedMemoryKnowledge, .medium,
        "Memory or knowledge input is missing required reference fields.",
        malformedMemoryKnowledgeRefs input⟩]
    else []) ++
  (if destructiveRefs ≠ [] then
      [⟨.destructiveToolMisuse, .critical,
        "Tool call attempts destructive filesystem or system mutation.", destructiveRefs⟩]
    else []))

/-! ## Policy and gate -/

/-- `_policy_decision_for`. -/
def policyDecisionFor (policy : ToolPolicy) (finding : AdversarialFinding) : ToolDecision :=
  match policy.matching "adversarial_review" finding.findingClass.name with
  | some rule => rule.decision
  | none =>
      if finding.findingClass = .destructiveToolMisuse then .forbidden
      else policy.defaultDecision

/-- `_gate_decision`. -/
def gateDecision (findings : List AdversarialFinding)
    (policyDecisions : List (FindingClass × ToolDecision)) : GateDecision :=
  if findings.isEmpty then .continue
  else if findings.any fun f => f.findingClass == .destructiveToolMisuse ||
      policyDecisions.lookup f.findingClass == some .forbidden then .abort
  else .branch

/-- The findings' classes, separated by commas. -/
def classList (findings : List AdversarialFinding) : String :=
  ", ".intercalate (findings.map fun f => f.findingClass.name)

/-- `_rationale`. -/
def rationale (findings : List AdversarialFinding) (gate : GateDecision) : String :=
  if findings.isEmpty then "No adversarial findings detected; checkpoint may continue."
  else "Detected " ++ classList findings ++ "; checkpoint gate decision is " ++ gate.name ++ "."

/-- The capability a request for these findings names. -/
def requestedCapability : List AdversarialFinding → String
  | [f] => "adversarial_review." ++ f.findingClass.name
  | _ => "adversarial_review.multiple"

/-- The summary a request for these findings carries. -/
def requestSummary (findings : List AdversarialFinding) (gate : GateDecision) : String :=
  "Adversarial review " ++ gate.name ++ ": " ++ classList findings

/-- `_request_approval`. -/
def requestApproval (env : Env) (input : AdversarialReviewInput)
    (findings : List AdversarialFinding) (gate : GateDecision) : Session (List String) := do
  if findings.isEmpty then
    pure []
  else do
    let approval ← ApprovalEngine.request env input.runId "adversarial_review"
      (requestSummary findings gate) (some (requestedCapability findings)) none
      (some (input.pipelineId ++ ":" ++ input.nodeId))
    pure [approval.id.val]

/-! ## Tool actions -/

/-- `_infer_side_effect_class`. -/
def inferSideEffectClass (call : Mapping) : Except PyError String := do
  let action ← loweredField R call "action"
  let command ← loweredField R call "command"
  .ok (if ["read", "list", "inspect", "search"].contains action then "read-only"
    else if ["rm -rf", "git reset --hard", "mv ", "cp ", "touch "].any (hasSubstring command) then
      "workspace-mutating"
    else if ["insert", "update", "delete", "migrate"].contains action then "DB-mutating"
    else if ["deploy", "publish", "send", "post"].contains action then "external-write"
    else if ["configure", "provision", "mutate_provider"].contains action then "provider-mutating"
    else "unknown/high-risk")

/-- The reason given for a call that gives none. -/
def classifiedFrom (action : String) : Except PyError String := do
  .ok ("Classified from tool call action " ++ (← R.repr (.str action)) ++ ".")

/-- `value or default` on strings. -/
def orElse (value default : String) : String := if value = "" then default else value

/-- The metadata of one call. -/
def toolAction (explanation : ApprovalExplanation) (call : Mapping) :
    Except PyError ToolActionMetadata := do
  let toolId ← R.str (call.firstTruthy ["tool_id", "tool"] (.str "unknown"))
  let action ← R.str (call.firstTruthy ["action"] (.str "unknown"))
  let sideEffectClass ←
    R.str (← call.truthyOr "side_effect_class" (inferSideEffectClass R call))
  let why ← R.str (← call.truthyOr "side_effect_rationale" (classifiedFrom R (strip action)))
  let sideEffect ← SideEffectClassification.new (strip sideEffectClass) (strip why)
  ToolActionMetadata.new (orElse (strip toolId) "unknown") (orElse (strip action) "unknown")
    sideEffect explanation.asPayload

/-- `_tool_action_metadata`. -/
def toolActionMetadata (input : AdversarialReviewInput) (explanation : ApprovalExplanation) :
    Except PyError (List ToolActionMetadata) :=
  input.toolCalls.mapM (toolAction R explanation)

/-! ## Events -/

/-- An entry with a payload, if there is one. -/
def entry (key : String) (payload : Option Value) : Mapping :=
  (payload.map fun v => (key, v)).toList

/-- The `run.progress` event of a finding, or of a review that found nothing. -/
def progressEvent (input : AdversarialReviewInput) (finding : Option AdversarialFinding)
    (explanation : ApprovalExplanation) (toolActions : List ToolActionMetadata) (uuid : String)
    (latest : ℕ) (now : Timestamp) : RunEvent where
  id := "evt-" ++ input.runId ++ "-adversarial-" ++ uuid
  runId := input.runId
  seq := latest + 1
  type := .runProgress
  payload :=
    [("phase", .str "review"), ("milestone", .str "findings_recorded"),
      ("milestone_ref", .str "review.findings_recorded"), ("run_id", .str input.runId),
      ("pipeline_id", .str input.pipelineId), ("node_id", .str input.nodeId),
      ("input_artifact_ref", .str input.inputArtifactRef),
      ("input_artifact_kind", .str input.inputArtifactKind),
      ("finding_class", .str ((finding.map fun f => f.findingClass.name).getD "none")),
      ("finding_count", .int explanation.policyDecisions.length),
      ("gate_decision", .str explanation.gateDecision.name),
      ("approval_explanation", .dict explanation.asPayload)] ++
    entry "token_budget" (tokenBudgetPayload input.tokenBudget) ++
    entry "tool_actions" (toolActionsPayload (some toolActions)) ++
    match finding with
    | none => []
    | some f =>
        [("severity", .str f.severity.name), ("summary", .str f.summary),
          ("evidence_refs", .tuple (f.evidenceRefs.map .str))] ++
        entry "policy_decision"
          ((explanation.policyDecisions.lookup f.findingClass).map fun d => .str d.name)
  timestamp := now
  causation := some
    { eventId := none, action := some "adversarial_review.findings_recorded",
      requestId := some input.pipelineId }
  actor := some ⟨.policyEngine, some "adversarial-review", some "adversarial-review"⟩
  seq_pos := Nat.succ_pos latest
  payload_ok := rfl

/-- `_append_progress_event`. -/
def appendProgressEvent (input : AdversarialReviewInput) (finding : Option AdversarialFinding)
    (explanation : ApprovalExplanation) (toolActions : List ToolActionMetadata) (uuid : String)
    (now : Timestamp) : Session RunEvent := do
  let latest ← RunEventRepository.latestSeq input.runId
  RunEventRepository.append
    (progressEvent input finding explanation toolActions uuid latest now)

/-- The loop of `_emit_finding_events`, from the `i`-th event on. -/
def emitEvents (env : Env) (input : AdversarialReviewInput) (explanation : ApprovalExplanation)
    (toolActions : List ToolActionMetadata) :
    List (Option AdversarialFinding) → ℕ → Session (List RunEvent)
  | [], _ => pure []
  | finding :: rest, i => do
      let event ← appendProgressEvent input finding explanation toolActions (env.uuid4 i)
        (env.now (i + 1))
      let events ← emitEvents env input explanation toolActions rest (i + 1)
      pure (event :: events)

/-- `_emit_finding_events`: one event for each finding, or one for a review without any. -/
def emitFindingEvents (env : Env) (input : AdversarialReviewInput)
    (findings : List AdversarialFinding) (explanation : ApprovalExplanation)
    (toolActions : List ToolActionMetadata) : Session (List RunEvent) :=
  emitEvents env input explanation toolActions
    (if findings.isEmpty then [none] else findings.map some) 0

/-! ## The routine -/

/-- The decisions of the policy on the findings. -/
def policyDecisions (policy : ToolPolicy) (findings : List AdversarialFinding) :
    List (FindingClass × ToolDecision) :=
  findings.map fun f => (f.findingClass, policyDecisionFor policy f)

/-- `review`. -/
def review (policy : ToolPolicy) (env : Env) (input : AdversarialReviewInput) :
    Session AdversarialReviewResult := do
  let findings ← Effect.ofExcept (detect R input)
  let decisions := policyDecisions policy findings
  let gate := gateDecision findings decisions
  let approvalIds ← requestApproval env input findings gate
  let explanation : ApprovalExplanation :=
    ⟨gate, approvalIds, policy.preset, decisions, rationale findings gate⟩
  let toolActions ← Effect.ofExcept (toolActionMetadata R input explanation)
  let events ← emitFindingEvents env input findings explanation toolActions
  pure
    { findings := findings
      gateDecision := gate
      pipelineOutcome := if gate = .continue then .success else .failure
      status := if gate = .abort then .aborted else .completed
      approvalExplanation := explanation
      events := events
      handbackMetadata :=
        [("input_artifact_ref", .str input.inputArtifactRef),
          ("input_artifact_kind", .str input.inputArtifactKind),
          ("approval_explanation", .dict explanation.asPayload)] ++
        entry "token_budget" (tokenBudgetPayload input.tokenBudget) ++
        entry "tool_actions" (toolActionsPayload (some toolActions)) }

/-! ## What the routine does -/

/-- The events the routine appends on its own are progress events of its action. -/
def IsReviewEvent (e : RunEvent) : Prop :=
  e.type = .runProgress ∧
    e.causation.bind Causation.action = some "adversarial_review.findings_recorded"

variable {R} {policy : ToolPolicy} {env : Env} {input : AdversarialReviewInput}
  {E : PyError → Store → Prop} {s : Store}

/-- **What `_request_approval` does.**  It requests an approval of the kind `adversarial_review`
when there are findings. -/
lemma wp_requestApproval {findings : List AdversarialFinding} {gate : GateDecision}
    {Q : List String → Store → Prop} (hnone : findings = [] → Q [] s)
    (hreq : findings ≠ [] →
      Effect.wp (ApprovalEngine.request env input.runId "adversarial_review"
          (requestSummary findings gate) (some (requestedCapability findings)) none
          (some (input.pipelineId ++ ":" ++ input.nodeId)))
        (fun a => Q [a.id.val]) E s) :
    Effect.wp (requestApproval env input findings gate) Q E s := by
  rw [requestApproval]
  by_cases h : findings = []
  · rw [if_pos (by rw [h]; rfl), Effect.wp_pure]
    exact hnone h
  · rw [if_neg (by simpa using h), Effect.wp_bind]
    exact (hreq h).mono (fun _ _ h => (Effect.wp_pure _).mpr h) fun _ _ h => h

/-- What progress events keep holds after the loop that emits them, however it ends. -/
lemma wp_emitEvents {P : Store → Prop}
    (hpush : ∀ s e, P s → IsReviewEvent e → P (s.push (s.stamp e)))
    {explanation : ApprovalExplanation} {toolActions : List ToolActionMetadata}
    (findings : List (Option AdversarialFinding)) (i : ℕ) (hs : P s) :
    Effect.wp (emitEvents env input explanation toolActions findings i) (fun _ => P)
      (fun _ => P) s := by
  induction findings generalizing i s with
  | nil => exact (Effect.wp_pure _).mpr hs
  | cons finding rest ih =>
      rw [emitEvents, Effect.wp_bind, appendProgressEvent, Effect.wp_bind,
        RunEventRepository.latestSeq, Effect.wp_gets]
      refine RunEventRepository.wp_append (fun _ => hs) fun _ _ => ?_
      rw [Effect.wp_bind]
      exact (ih (i + 1) (hpush s _ hs ⟨rfl, rfl⟩)).mono (fun _ _ h => (Effect.wp_pure _).mpr h)
        fun _ _ h => h

/-- **The rule of the routine.**  What holds once the approval is requested, and is kept by
progress events, holds however the review ends. -/
theorem wp_review {P : List String → Store → Prop} {Q : AdversarialReviewResult → Store → Prop}
    (hreq : ∀ findings, detect R input = .ok findings →
      Effect.wp (requestApproval env input findings
        (gateDecision findings (policyDecisions policy findings))) P E s)
    (hpush : ∀ ids s e, P ids s → IsReviewEvent e → P ids (s.push (s.stamp e)))
    (hunread : ∀ e, detect R input = .error e → E e s) (herr : ∀ ids e s, P ids s → E e s)
    (hok : ∀ result s, P result.approvalExplanation.approvalIds s → Q result s) :
    Effect.wp (review R policy env input) Q E s := by
  rw [review, Effect.wp_bind, Effect.wp_ofExcept]
  refine ⟨fun findings hfindings => ?_, hunread⟩
  rw [Effect.wp_bind]
  refine (hreq findings hfindings).mono (fun ids s' h => ?_) fun _ _ h => h
  rw [Effect.wp_bind, Effect.wp_ofExcept]
  refine ⟨fun toolActions _ => ?_, fun e _ => herr ids e s' h⟩
  rw [Effect.wp_bind]
  refine (wp_emitEvents (hpush ids) _ 0 h).mono (fun events s'' h' => ?_)
    fun e s'' h' => herr ids e s'' h'
  rw [Effect.wp_pure]
  exact hok _ s'' h'

end AdversarialReviewRoutine

end Waywarden

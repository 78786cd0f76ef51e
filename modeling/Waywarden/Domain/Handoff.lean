import Waywarden.Domain.Basic

/-!
# Handoff artifacts and run correlation

`waywarden.domain.handoff`: the lineage of a run across dispatcher, team and pipeline, and the
artifact handed over between them.  Their constructors strip every text and refuse a blank one, so
here the fields are `Text`, and `new` is the constructor on a caller's strings.
-/

namespace Waywarden

/-! ## Run correlation -/

/-- The arguments of `RunCorrelation(…)`. -/
structure RunCorrelationArgs where
  correlationId : String
  parentRunId : String
  childRunId : String
  dispatcherRunId : String
  teamRunId : String
  pipelineRunId : String
  delegationId : String
  manifestRunId : String
  subAgentRunId : Option String := none
  reviewRunId : Option String := none
  checkpointId : Option String := none
  sagaId : Option String := none
  resumeToken : Option String := none

/-- `RunCorrelation`. -/
structure RunCorrelation where
  correlationId : Text
  parentRunId : Text
  childRunId : Text
  dispatcherRunId : Text
  teamRunId : Text
  pipelineRunId : Text
  delegationId : Text
  manifestRunId : Text
  subAgentRunId : Option Text
  reviewRunId : Option Text
  checkpointId : Option Text
  sagaId : Option Text
  resumeToken : Option Text

/-- `RunCorrelation(…)`: `_clean_text` strips and checks as `_require_non_empty_text` does. -/
def RunCorrelation.new (args : RunCorrelationArgs) : Except PyError RunCorrelation := do
  let correlationId ← requireNonEmptyText args.correlationId "correlation_id"
  let parentRunId ← requireNonEmptyText args.parentRunId "parent_run_id"
  let childRunId ← requireNonEmptyText args.childRunId "child_run_id"
  let dispatcherRunId ← requireNonEmptyText args.dispatcherRunId "dispatcher_run_id"
  let teamRunId ← requireNonEmptyText args.teamRunId "team_run_id"
  let pipelineRunId ← requireNonEmptyText args.pipelineRunId "pipeline_run_id"
  let delegationId ← requireNonEmptyText args.delegationId "delegation_id"
  let manifestRunId ← requireNonEmptyText args.manifestRunId "manifest_run_id"
  let subAgentRunId ← requireOptionalText args.subAgentRunId "sub_agent_run_id"
  let reviewRunId ← requireOptionalText args.reviewRunId "review_run_id"
  let checkpointId ← requireOptionalText args.checkpointId "checkpoint_id"
  let sagaId ← requireOptionalText args.sagaId "saga_id"
  let resumeToken ← requireOptionalText args.resumeToken "resume_token"
  .ok ⟨correlationId, parentRunId, childRunId, dispatcherRunId, teamRunId, pipelineRunId,
    delegationId, manifestRunId, subAgentRunId, reviewRunId, checkpointId, sagaId, resumeToken⟩

/-- An entry of a payload that is left out when it is unset. -/
def optionalEntry (key : String) (value : Option Text) : Mapping :=
  value.toList.map fun text => (key, .str text)

/-- `as_payload`. -/
def RunCorrelation.asPayload (c : RunCorrelation) : Mapping :=
  [("correlation_id", .str c.correlationId),
    ("parent_run_id", .str c.parentRunId),
    ("child_run_id", .str c.childRunId),
    ("dispatcher_run_id", .str c.dispatcherRunId),
    ("team_run_id", .str c.teamRunId),
    ("pipeline_run_id", .str c.pipelineRunId),
    ("delegation_id", .str c.delegationId),
    ("manifest_run_id", .str c.manifestRunId)] ++
    optionalEntry "sub_agent_run_id" c.subAgentRunId ++
    optionalEntry "review_run_id" c.reviewRunId ++
    optionalEntry "checkpoint_id" c.checkpointId ++
    optionalEntry "saga_id" c.sagaId ++
    optionalEntry "resume_token" c.resumeToken

/-- An optional entry has its key, or none. -/
lemma optionalEntry_keys_sublist (key : String) (value : Option Text) :
    ((optionalEntry key value).map Prod.fst).Sublist [key] := by
  cases value with
  | none => exact List.nil_sublist _
  | some text => exact List.Sublist.refl _

/-- The keys a correlation may write. -/
def correlationKeys : List String :=
  ["correlation_id", "parent_run_id", "child_run_id", "dispatcher_run_id", "team_run_id",
    "pipeline_run_id", "delegation_id", "manifest_run_id"] ++ ["sub_agent_run_id"] ++
    ["review_run_id"] ++ ["checkpoint_id"] ++ ["saga_id"] ++ ["resume_token"]

/-- A correlation writes its keys in order, and leaves out those that are unset. -/
lemma RunCorrelation.asPayload_keys (c : RunCorrelation) :
    (c.asPayload.map Prod.fst).Sublist correlationKeys := by
  unfold RunCorrelation.asPayload correlationKeys
  simp only [List.map_append]
  exact (((((List.Sublist.refl _).append (optionalEntry_keys_sublist _ _)).append
    (optionalEntry_keys_sublist _ _)).append (optionalEntry_keys_sublist _ _)).append
    (optionalEntry_keys_sublist _ _)).append (optionalEntry_keys_sublist _ _)

/-- A correlation's payload has no key twice. -/
lemma RunCorrelation.asPayload_nodup (c : RunCorrelation) :
    (c.asPayload.map Prod.fst).Nodup := by
  have hkeys : correlationKeys.Nodup := by decide
  exact c.asPayload_keys.nodup hkeys

/-- A correlation leaves any other key of a payload alone. -/
lemma RunCorrelation.get_update_asPayload (c : RunCorrelation) (m : Mapping) {key : String}
    (hkey : key ∉ correlationKeys) : (m.update c.asPayload).get key = m.get key := by
  have hnone : c.asPayload.get key = none := by
    unfold Mapping.get
    rw [Option.map_eq_none_iff, List.find?_eq_none]
    intro item hitem heq
    have hmem := c.asPayload_keys.subset (List.mem_map_of_mem hitem)
    rw [beq_iff_eq.mp heq] at hmem
    exact hkey hmem
  rw [Mapping.get_update c.asPayload_nodup, hnone, Option.none_or]

/-! ## Handoff artifacts -/

/-- An artifact reference: a text in the `artifact://` scheme. -/
structure ArtifactRef where
  text : Text
  scheme : "artifact://".toList <+: text.val.toList

/-- `_clean_artifact_ref`. -/
def cleanArtifactRef (value : String) : Except PyError ArtifactRef := do
  let text ← requireNonEmptyText value "artifact_ref"
  if h : "artifact://".toList <+: text.val.toList then .ok ⟨text, h⟩
  else .error ⟨.valueError, "artifact_ref must use the artifact:// scheme", []⟩

/-- The arguments of `HandoffArtifact(…)`. -/
structure HandoffArtifactArgs where
  artifactRef : String
  artifactKind : String
  label : String
  outputName : String
  producerRunId : String
  parentRunId : String
  childRunId : String
  delegationId : String
  manifestRunId : String
  correlationId : String
  metadata : Mapping := []

/-- `HandoffArtifact`. -/
structure HandoffArtifact where
  artifactRef : ArtifactRef
  artifactKind : Text
  label : Text
  outputName : Text
  producerRunId : Text
  parentRunId : Text
  childRunId : Text
  delegationId : Text
  manifestRunId : Text
  correlationId : Text
  metadata : Mapping

/-- `HandoffArtifact(…)`. -/
def HandoffArtifact.new (args : HandoffArtifactArgs) : Except PyError HandoffArtifact := do
  let artifactRef ← cleanArtifactRef args.artifactRef
  let artifactKind ← requireNonEmptyText args.artifactKind "artifact_kind"
  let label ← requireNonEmptyText args.label "label"
  let outputName ← requireNonEmptyText args.outputName "output_name"
  let producerRunId ← requireNonEmptyText args.producerRunId "producer_run_id"
  let parentRunId ← requireNonEmptyText args.parentRunId "parent_run_id"
  let childRunId ← requireNonEmptyText args.childRunId "child_run_id"
  let delegationId ← requireNonEmptyText args.delegationId "delegation_id"
  let manifestRunId ← requireNonEmptyText args.manifestRunId "manifest_run_id"
  let correlationId ← requireNonEmptyText args.correlationId "correlation_id"
  .ok ⟨artifactRef, artifactKind, label, outputName, producerRunId, parentRunId, childRunId,
    delegationId, manifestRunId, correlationId, args.metadata⟩

/-- An artifact keeps the run ids it is given, when they need no cleaning. -/
lemma HandoffArtifact.of_new {args : HandoffArtifactArgs} {artifact : HandoffArtifact}
    (h : HandoffArtifact.new args = .ok artifact) :
    artifact.parentRunId.val = strip args.parentRunId ∧
      artifact.childRunId.val = strip args.childRunId ∧
      artifact.delegationId.val = strip args.delegationId ∧
      artifact.manifestRunId.val = strip args.manifestRunId := by
  unfold HandoffArtifact.new at h
  obtain ⟨_, -, h⟩ := Effect.except_bind_eq_ok.mp h
  obtain ⟨_, -, h⟩ := Effect.except_bind_eq_ok.mp h
  obtain ⟨_, -, h⟩ := Effect.except_bind_eq_ok.mp h
  obtain ⟨_, -, h⟩ := Effect.except_bind_eq_ok.mp h
  obtain ⟨_, -, h⟩ := Effect.except_bind_eq_ok.mp h
  obtain ⟨_, hparent, h⟩ := Effect.except_bind_eq_ok.mp h
  obtain ⟨_, hchild, h⟩ := Effect.except_bind_eq_ok.mp h
  obtain ⟨_, hdelegation, h⟩ := Effect.except_bind_eq_ok.mp h
  obtain ⟨_, hmanifest, h⟩ := Effect.except_bind_eq_ok.mp h
  obtain ⟨_, -, h⟩ := Effect.except_bind_eq_ok.mp h
  obtain rfl := Except.ok.inj h
  exact ⟨val_of_requireNonEmptyText hparent, val_of_requireNonEmptyText hchild,
    val_of_requireNonEmptyText hdelegation, val_of_requireNonEmptyText hmanifest⟩

end Waywarden

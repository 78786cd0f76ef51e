import Mathlib.Data.List.Dedup
import Waywarden.Domain.Delegation
import Waywarden.Domain.Handoff
import Waywarden.Domain.RunEvent

/-!
# `DispatcherWorkflowPackager`

`waywarden.services.orchestration.handoff_events` and
`waywarden.services.orchestration.dispatcher_workflow`: one call makes an envelope, a handoff
artifact and two run events.  Each event's payload is filled from the artifact or the workflow and
then updated with the payload of the correlation, which has the last word on the keys both have.
-/

namespace Waywarden

/-! ## Handoff artifact events -/

/-- The payload of a handoff artifact event before the agents and the correlation are added. -/
def handoffArtifactPayload (artifact : HandoffArtifact) (sourceRunId targetRunId boundary : Text) :
    Mapping :=
  [("artifact_ref", .str artifact.artifactRef.text),
    ("artifact_kind", .str artifact.artifactKind),
    ("label", .str artifact.label),
    ("source_run_id", .str sourceRunId),
    ("target_run_id", .str targetRunId),
    ("handoff_boundary", .str boundary),
    ("producer_run_id", .str artifact.producerRunId),
    ("parent_run_id", .str artifact.parentRunId),
    ("child_run_id", .str artifact.childRunId),
    ("delegation_id", .str artifact.delegationId),
    ("manifest_run_id", .str artifact.manifestRunId),
    ("correlation_id", .str artifact.correlationId)]

/-- An entry for an agent's id, when it is given. -/
def agentEntry (key : String) (agentId : Option String) : Mapping :=
  agentId.toList.map fun id => (key, .str id)

/-- The arguments of `make_handoff_artifact_event`. -/
structure HandoffEventArgs where
  runId : String
  handoffArtifact : HandoffArtifact
  seq : ℤ
  sourceRunId : String
  targetRunId : String
  handoffBoundary : String
  correlation : Option RunCorrelation := none
  sourceAgentId : Option String := none
  targetAgentId : Option String := none
  now : Option PyDatetime := none

/-- `make_handoff_artifact_event`, which reads the clock when it is given no time. -/
def makeHandoffArtifactEvent (clock : Timestamp) (uuid : String) (args : HandoffEventArgs) :
    Except PyError RunEvent := do
  let boundary ← requireNonEmptyText args.handoffBoundary "handoff_boundary"
  let sourceRunId ← requireNonEmptyText args.sourceRunId "source_run_id"
  let targetRunId ← requireNonEmptyText args.targetRunId "target_run_id"
  if args.correlation.any fun c => c.correlationId ≠ args.handoffArtifact.correlationId then
    .error ⟨.valueError, "handoff_artifact correlation_id must match correlation", []⟩
  else
    let payload := handoffArtifactPayload args.handoffArtifact sourceRunId targetRunId boundary ++
      agentEntry "source_agent_id" args.sourceAgentId ++
      agentEntry "target_agent_id" args.targetAgentId
    RunEvent.new ("evt-" ++ args.runId ++ "-artifact-" ++ uuid) args.runId args.seq
      .runArtifactCreated
      (payload.update ((args.correlation.map RunCorrelation.asPayload).getD []))
      (args.now.getD (.aware clock))
      (some ⟨none, some ("handoff_artifact." ++ boundary),
        some args.handoffArtifact.delegationId, rfl⟩)
      (some ⟨.system, some args.runId, some "handoff"⟩)

/-- The payload of a handoff artifact event ends with the correlation's. -/
lemma payload_of_makeHandoffArtifactEvent {clock : Timestamp} {uuid : String}
    {args : HandoffEventArgs} {c : RunCorrelation} {event : RunEvent}
    (hc : args.correlation = some c) (h : makeHandoffArtifactEvent clock uuid args = .ok event) :
    ∃ m : Mapping, event.payload = m.update c.asPayload := by
  unfold makeHandoffArtifactEvent at h
  rw [hc] at h
  obtain ⟨boundary, -, h⟩ := Effect.except_bind_eq_ok.mp h
  obtain ⟨source, -, h⟩ := Effect.except_bind_eq_ok.mp h
  obtain ⟨target, -, h⟩ := Effect.except_bind_eq_ok.mp h
  split at h
  · exact absurd h (by simp)
  · exact ⟨_, (RunEvent.of_new h).2⟩

/-! ## Dispatcher packages -/

/-- `WorkflowHandoffMetadata`. -/
structure WorkflowHandoffMetadata where
  artifactKind : Text
  label : Text
  outputName : Text

/-- `WorkflowMetadata`, as far as a package reads it. -/
structure WorkflowMetadata where
  id : Text
  teamRef : Text
  pipelineRef : Text
  handoffArtifact : WorkflowHandoffMetadata
  expectedOutputs : List Text
  expectedOutputs_nodup : expectedOutputs.Nodup

/-- The expected outputs as strings. -/
def WorkflowMetadata.outputNames (workflow : WorkflowMetadata) : List String :=
  workflow.expectedOutputs.map Subtype.val

/-- `DispatcherWorkflowPackage`. -/
structure DispatcherWorkflowPackage where
  envelope : DelegationEnvelope
  handoffArtifact : HandoffArtifact
  correlation : RunCorrelation
  progressEvent : RunEvent
  artifactEvent : RunEvent

namespace DispatcherWorkflowPackager

/-- `_narrow_child_manifest`. -/
def narrowChildManifest (parentManifest : WorkspaceManifest) (childRunId : String)
    (expectedOutputs : List String) : Except PyError WorkspaceManifest :=
  let allowedOutputs := expectedOutputs.dedup
  let childOutputs := parentManifest.outputs.filter fun output => output.name ∈ allowedOutputs
  if childOutputs.length ≠ allowedOutputs.length then
    let foundOutputs := childOutputs.map OutputContract.name
    let missing := (allowedOutputs.filter fun out => out ∉ foundOutputs).insertionSort (· ≤ ·)
    .error ⟨.valueError, "expected_outputs must reference parent manifest outputs; missing: %",
      [", ".intercalate missing]⟩
  else .ok { parentManifest with runId := childRunId, outputs := childOutputs }

/-- The workflow and what it refers to, in the metadata of the artifact. -/
def workflowRefs (workflow : WorkflowMetadata) : Mapping :=
  [("workflow_id", .str workflow.id), ("team_ref", .str workflow.teamRef),
    ("pipeline_ref", .str workflow.pipelineRef)]

/-- The payload of the progress event before the correlation is added. -/
def progressPayload (workflow : WorkflowMetadata) (correlation : RunCorrelation)
    (artifact : HandoffArtifact) : Mapping :=
  [("phase", .str "handoff"),
    ("milestone", .str "envelope_emitted"),
    ("milestone_ref", .str "handoff.envelope_emitted"),
    ("run_id", .str correlation.dispatcherRunId),
    ("detail", .dict (workflowRefs workflow ++
      [("handoff_artifact_ref", .str artifact.artifactRef.text)]))]

/-- `_make_progress_event`. -/
def makeProgressEvent (env : HandoffEnv) (workflow : WorkflowMetadata)
    (correlation : RunCorrelation) (artifact : HandoffArtifact) : Except PyError RunEvent :=
  RunEvent.new ("evt-" ++ correlation.dispatcherRunId ++ "-" ++ workflow.id ++ "-" ++ env.uuid4 0)
    correlation.dispatcherRunId 1 .runProgress
    ((progressPayload workflow correlation artifact).update correlation.asPayload)
    (env.now 0)
    (some ⟨none, some "dispatcher_workflow.package", some workflow.id, rfl⟩)
    (some ⟨.system, some workflow.id, some workflow.id⟩)

/-- `_make_artifact_event`; the clock of the packager is handed on, so the event reads none. -/
def makeArtifactEvent (env : HandoffEnv) (correlation : RunCorrelation)
    (artifact : HandoffArtifact) : Except PyError RunEvent :=
  makeHandoffArtifactEvent 0 (env.uuid4 1)
    { runId := correlation.dispatcherRunId
      handoffArtifact := artifact
      seq := 2
      sourceRunId := correlation.dispatcherRunId
      targetRunId := correlation.teamRunId
      handoffBoundary := "dispatcher_to_team"
      correlation := some correlation
      now := some (env.now 1) }

/-- The arguments of the handoff artifact in a package. -/
def artifactArgs (workflow : WorkflowMetadata) (correlation : RunCorrelation)
    (envelope : DelegationEnvelope) (artifactRef : String) : HandoffArtifactArgs where
  artifactRef
  artifactKind := workflow.handoffArtifact.artifactKind
  label := workflow.handoffArtifact.label
  outputName := workflow.handoffArtifact.outputName
  producerRunId := correlation.dispatcherRunId
  parentRunId := correlation.parentRunId
  childRunId := correlation.childRunId
  delegationId := envelope.id
  manifestRunId := envelope.childManifest.runId
  correlationId := correlation.correlationId
  metadata := workflowRefs workflow

/-- `package`. -/
def package (env : HandoffEnv) (workflow : WorkflowMetadata) (parentManifest : WorkspaceManifest)
    (objective : String) (correlation : RunCorrelation) (artifactRef : String) :
    Except PyError DispatcherWorkflowPackage := do
  let childManifest ← narrowChildManifest parentManifest correlation.childRunId
    workflow.outputNames
  Delegation.narrowManifest parentManifest childManifest
  let envelope := makeEnvelope env correlation.parentRunId childManifest
    ("Dispatcher handoff: " ++ objective) workflow.outputNames
  if envelope.id ≠ correlation.delegationId then
    .error ⟨.valueError,
      "correlation delegation_id must match the emitted delegation envelope", []⟩
  else
    let handoffArtifact ← HandoffArtifact.new
      (artifactArgs workflow correlation envelope artifactRef)
    let progressEvent ← makeProgressEvent env workflow correlation handoffArtifact
    let artifactEvent ← makeArtifactEvent env correlation handoffArtifact
    .ok ⟨envelope, handoffArtifact, correlation, progressEvent, artifactEvent⟩

/-! ## What a package holds -/

/-- The outputs a child gets: those of the parent with an expected name. -/
def selected (parentManifest : WorkspaceManifest) (expectedOutputs : List String) :
    List OutputContract :=
  parentManifest.outputs.filter fun output => output.name ∈ expectedOutputs

/-- The child manifest for a run id. -/
def childOf (parentManifest : WorkspaceManifest) (childRunId : String)
    (expectedOutputs : List String) : WorkspaceManifest :=
  { parentManifest with
    runId := childRunId
    outputs := selected parentManifest expectedOutputs }

/-- The child manifest is made when as many outputs are selected as names are expected. -/
lemma narrowChildManifest_eq_ok_iff {parentManifest child : WorkspaceManifest}
    {childRunId : String} {expectedOutputs : List String} :
    narrowChildManifest parentManifest childRunId expectedOutputs = .ok child ↔
      (selected parentManifest expectedOutputs).length = expectedOutputs.dedup.length ∧
        child = childOf parentManifest childRunId expectedOutputs := by
  have hselected : parentManifest.outputs.filter
      (fun output => output.name ∈ expectedOutputs.dedup) =
      selected parentManifest expectedOutputs := by
    unfold selected
    simp only [List.mem_dedup]
  unfold narrowChildManifest
  simp only [hselected]
  split
  · rename_i hlength
    exact iff_of_false (by simp) fun h => hlength h.1
  · rename_i hlength
    rw [Except.ok.injEq]
    exact ⟨fun h => ⟨not_not.mp hlength, h.symm⟩, fun h => h.2.symm⟩

/-- When as many outputs are selected as names are expected, every expected name is selected
exactly when no name is selected twice. -/
lemma forall_mem_selected_iff {parentManifest : WorkspaceManifest} {expectedOutputs : List String}
    (hlength : (selected parentManifest expectedOutputs).length = expectedOutputs.dedup.length) :
    (∀ out ∈ expectedOutputs,
      out ∈ (selected parentManifest expectedOutputs).map OutputContract.name) ↔
      ((selected parentManifest expectedOutputs).map OutputContract.name).Nodup := by
  have hsubset : (selected parentManifest expectedOutputs).map OutputContract.name ⊆
      expectedOutputs.dedup := by
    intro name hname
    obtain ⟨output, houtput, rfl⟩ := List.mem_map.mp hname
    exact List.mem_dedup.mpr (of_decide_eq_true (List.mem_filter.mp houtput).2)
  rw [← List.length_map (f := OutputContract.name)] at hlength
  generalize (selected parentManifest expectedOutputs).map OutputContract.name = names at *
  constructor
  · intro hall
    have hsub : expectedOutputs.dedup.Subperm names :=
      List.subperm_of_subset (List.nodup_dedup _) fun out hout => hall out (List.mem_dedup.mp hout)
    exact (hsub.perm_of_length_le hlength.le).nodup (List.nodup_dedup _)
  · intro hnodup out hout
    have hsub : names.Subperm expectedOutputs.dedup := List.subperm_of_subset hnodup hsubset
    exact (hsub.perm_of_length_le hlength.ge).mem_iff.mpr (List.mem_dedup.mpr hout)

variable {env : HandoffEnv} {workflow : WorkflowMetadata} {parentManifest : WorkspaceManifest}
  {objective artifactRef : String} {correlation : RunCorrelation} {p : DispatcherWorkflowPackage}

/-- The envelope of a package. -/
def envelopeFor (env : HandoffEnv) (workflow : WorkflowMetadata)
    (parentManifest : WorkspaceManifest) (objective : String) (correlation : RunCorrelation) :
    DelegationEnvelope :=
  makeEnvelope env correlation.parentRunId
    (childOf parentManifest correlation.childRunId workflow.outputNames)
    ("Dispatcher handoff: " ++ objective) workflow.outputNames

/-- What a returned package is made of. -/
structure Packaged (env : HandoffEnv) (workflow : WorkflowMetadata)
    (parentManifest : WorkspaceManifest) (objective : String) (correlation : RunCorrelation)
    (artifactRef : String) (p : DispatcherWorkflowPackage) : Prop where
  counted : (selected parentManifest workflow.outputNames).length =
    workflow.outputNames.dedup.length
  envelope : p.envelope = envelopeFor env workflow parentManifest objective correlation
  matched : p.envelope.id = correlation.delegationId
  artifact : HandoffArtifact.new (artifactArgs workflow correlation p.envelope artifactRef) =
    .ok p.handoffArtifact
  correlation_eq : p.correlation = correlation
  progress : makeProgressEvent env workflow correlation p.handoffArtifact = .ok p.progressEvent
  artifactEvent : makeArtifactEvent env correlation p.handoffArtifact = .ok p.artifactEvent

lemma of_package
    (h : package env workflow parentManifest objective correlation artifactRef = .ok p) :
    Packaged env workflow parentManifest objective correlation artifactRef p := by
  unfold package at h
  obtain ⟨child, hchild, h⟩ := Effect.except_bind_eq_ok.mp h
  obtain ⟨hcounted, rfl⟩ := narrowChildManifest_eq_ok_iff.mp hchild
  obtain ⟨-, -, h⟩ := Effect.except_bind_eq_ok.mp h
  dsimp only at h
  split at h
  · exact absurd h (by simp)
  · rename_i hmatched
    obtain ⟨artifact, hartifact, h⟩ := Effect.except_bind_eq_ok.mp h
    obtain ⟨progress, hprogress, h⟩ := Effect.except_bind_eq_ok.mp h
    obtain ⟨event, hevent, h⟩ := Effect.except_bind_eq_ok.mp h
    obtain rfl := Except.ok.inj h
    exact ⟨hcounted, rfl, not_not.mp hmatched, hartifact, rfl, hprogress, hevent⟩

end DispatcherWorkflowPackager

end Waywarden

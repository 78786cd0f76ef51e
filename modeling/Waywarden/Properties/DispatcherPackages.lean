import Waywarden.Properties.ManifestSchema
import Waywarden.Services.DispatcherWorkflow

/-!
# What a dispatcher package says of its runs

A package has the ids of its delegation and of its runs in five places.  The envelope, the child
manifest and the artifact have theirs from the call; both event payloads are updated with the
correlation's last, so there the correlation is quoted.  For the delegation, the parent and the
child that makes no difference.  The manifest's run id, which the call takes from the child
manifest, is the correlation's own `manifest_run_id` in the events, and nothing compares the two.
-/

namespace Waywarden

open DispatcherWorkflowPackager

/-- The payload quotes the ids of the envelope's delegation and runs. -/
structure Tells (payload : Mapping) (e : DelegationEnvelope) : Prop where
  delegation : payload.get "delegation_id" = some (.str e.id)
  parent : payload.get "parent_run_id" = some (.str e.parentRunId)
  child : payload.get "child_run_id" = some (.str e.childManifest.runId)
  manifest : payload.get "manifest_run_id" = some (.str e.childManifest.runId)

/-- The parts of a package agree on the delegation and on the runs. -/
structure OneStory (p : DispatcherWorkflowPackage) : Prop where
  delegation : p.handoffArtifact.delegationId.val = p.envelope.id
  correlated : p.correlation.delegationId.val = p.envelope.id
  parent : p.handoffArtifact.parentRunId.val = p.envelope.parentRunId
  child : p.handoffArtifact.childRunId.val = p.envelope.childManifest.runId
  manifest : p.handoffArtifact.manifestRunId.val = p.envelope.childManifest.runId
  progress : Tells p.progressEvent.payload p.envelope
  artifact : Tells p.artifactEvent.payload p.envelope

variable {c : RunCorrelation} {e : DelegationEnvelope}

/-- A payload updated with a correlation quotes the correlation. -/
lemma get_update_asPayload (m : Mapping) :
    (m.update c.asPayload).get "delegation_id" = some (.str c.delegationId) ∧
      (m.update c.asPayload).get "parent_run_id" = some (.str c.parentRunId) ∧
      (m.update c.asPayload).get "child_run_id" = some (.str c.childRunId) ∧
      (m.update c.asPayload).get "manifest_run_id" = some (.str c.manifestRunId) := by
  simp only [Mapping.get_update c.asPayload_nodup]
  exact ⟨rfl, rfl, rfl, rfl⟩

/-- A payload updated with a correlation tells of an envelope made from it exactly when the
correlation has the child's run id for the manifest's. -/
lemma tells_update_iff (m : Mapping) (hid : e.id = c.delegationId)
    (hparent : e.parentRunId = c.parentRunId) (hchild : e.childManifest.runId = c.childRunId) :
    Tells (m.update c.asPayload) e ↔ c.manifestRunId = c.childRunId := by
  obtain ⟨hdelegation, hparentGet, hchildGet, hmanifest⟩ := get_update_asPayload (c := c) m
  constructor
  · intro h
    have hsame := h.manifest
    rw [hmanifest, hchild] at hsame
    exact Subtype.ext (Value.str.inj (Option.some.inj hsame))
  · intro h
    refine ⟨?_, ?_, ?_, ?_⟩
    · rw [hdelegation, hid]
    · rw [hparentGet, hparent]
    · rw [hchildGet, hchild]
    · rw [hmanifest, hchild, h]

/-- **One story, exactly.**  The parts of a returned package agree exactly when the correlation
has the child's run id for the manifest's. -/
theorem oneStory_iff (env : HandoffEnv) (workflow : WorkflowMetadata)
    (parentManifest : WorkspaceManifest) (objective : String) (correlation : RunCorrelation)
    (artifactRef : String) {p : DispatcherWorkflowPackage}
    (h : package env workflow parentManifest objective correlation artifactRef = .ok p) :
    OneStory p ↔ correlation.manifestRunId = correlation.childRunId := by
  obtain ⟨-, henvelope, hid, hartifact, hcorrelation, hprogress, hevent⟩ := of_package h
  have hparent : p.envelope.parentRunId = correlation.parentRunId := by rw [henvelope]; rfl
  have hchild : p.envelope.childManifest.runId = correlation.childRunId := by rw [henvelope]; rfl
  have hprogress : p.progressEvent.payload = _ := (RunEvent.of_new hprogress).2
  obtain ⟨m, hevent⟩ := payload_of_makeHandoffArtifactEvent rfl hevent
  constructor
  · intro hstory
    have htells := hstory.progress
    rw [hprogress] at htells
    exact (tells_update_iff _ hid hparent hchild).mp htells
  · intro hsame
    obtain ⟨hparentId, hchildId, hdelegationId, hmanifestId⟩ := HandoffArtifact.of_new hartifact
    have stripped : ∀ t : Text, strip t.val = t.val := fun t => t.property.1
    refine ⟨?_, by rw [hcorrelation, hid], ?_, ?_, ?_, ?_, ?_⟩
    · rw [hdelegationId]
      show strip p.envelope.id = _
      rw [hid, stripped]
    · rw [hparentId, hparent]
      exact stripped correlation.parentRunId
    · rw [hchildId, hchild]
      exact stripped correlation.childRunId
    · rw [hmanifestId]
      show strip p.envelope.childManifest.runId = _
      rw [hchild, stripped]
    · rw [hprogress]
      exact (tells_update_iff _ hid hparent hchild).mpr hsame
    · rw [hevent]
      exact (tells_update_iff _ hid hparent hchild).mpr hsame

/-- A workflow that expects a report. -/
def reportWorkflow : WorkflowMetadata where
  id := .lit "report-workflow"
  teamRef := .lit "report-team"
  pipelineRef := .lit "report-pipeline"
  handoffArtifact := ⟨.lit "team-handoff", .lit "Team handoff", .lit "team-handoff"⟩
  expectedOutputs := [.lit "report"]
  expectedOutputs_nodup := List.nodup_singleton _

/-- A correlation of a parent `run-1` and a child `run-2`. -/
def reportCorrelation (manifestRunId : Text) : RunCorrelation where
  correlationId := .lit "corr-1"
  parentRunId := .lit "run-1"
  childRunId := .lit "run-2"
  dispatcherRunId := .lit "run-1"
  teamRunId := .lit "run-2"
  pipelineRunId := .lit "run-3"
  delegationId := .lit "del-run-1-1"
  manifestRunId
  subAgentRunId := none
  reviewRunId := none
  checkpointId := none
  sagaId := none
  resumeToken := none

/-- The package for a report, with a given run id for the manifest. -/
def reportPackage (manifestRunId : Text) : Except PyError DispatcherWorkflowPackage :=
  package ⟨0, fun _ => .aware 0, stillEnv.uuid4⟩ reportWorkflow
    (reportManifest "/work" "/work/report" ["report"]) "Write the report"
    (reportCorrelation manifestRunId) "artifact://runs/run-1/team-handoff"

/-- A package that is returned, when running it shows that one is. -/
lemma exists_reportPackage (manifestRunId : Text)
    (h : (reportPackage manifestRunId).toOption.isSome = true) :
    ∃ p, reportPackage manifestRunId = .ok p := by
  obtain ⟨p, hp⟩ := Option.isSome_iff_exists.mp h
  exact ⟨p, Effect.except_toOption_eq_some.mp hp⟩

/-- `oneStory_iff` at a correlation that has the child's run id for the manifest's. -/
theorem oneStory_report :
    ∃ p, reportPackage (.lit "run-2") = .ok p ∧ OneStory p := by
  obtain ⟨p, hp⟩ := exists_reportPackage (.lit "run-2")
    (by decide +kernel)
  exact ⟨p, hp, (oneStory_iff _ _ _ _ _ _ hp).mpr rfl⟩

/-- A correlation whose manifest's run id is the parent's is packaged too; the artifact event then
quotes the parent for the child's manifest. -/
theorem not_oneStory_parent_manifest : ¬ ∀ env workflow parentManifest objective correlation
    artifactRef p,
    package env workflow parentManifest objective correlation artifactRef = .ok p → OneStory p := by
  intro h
  obtain ⟨p, hp⟩ := exists_reportPackage (.lit "run-1")
    (by decide +kernel)
  have htells := (h _ _ _ _ _ _ p hp).artifact
  obtain ⟨-, henvelope, -, -, -, -, hevent⟩ := of_package hp
  obtain ⟨m, hpayload⟩ := payload_of_makeHandoffArtifactEvent rfl hevent
  rw [hpayload, henvelope] at htells
  exact absurd ((tells_update_iff m rfl rfl rfl).mp htells) (by decide +kernel)

end Waywarden

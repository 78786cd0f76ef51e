import Waywarden.Domain.ValueText
import Waywarden.Infra.RecordRepositories
import Waywarden.Infra.RunEventRepository
import Waywarden.Infra.RunRepository
import Waywarden.Services.Milestones

/-!
# `VisibilityService`

`waywarden.services.visibility`: the snapshot of a run, read from its event log.  Nothing is known
of the values in a payload but that the required fields are there, so every field is turned into a
text by `str`, and the version of a plan revision is read back from that text by `int`.

The Pydantic models of the response have the fields of the records they are made from, and are not
told apart from them.  Of a stored manifest only the tool preset is read.
-/

namespace Waywarden

open ValueText

/-- `MilestoneRecord`. -/
structure MilestoneRecord where
  seq : ℕ
  runId : String
  phase : String
  milestone : String
  description : String
  timestamp : String
  deriving DecidableEq, Repr

/-- `ArtifactRecord`. -/
structure ArtifactRecord where
  seq : ℕ
  runId : String
  artifactKind : String
  artifactRef : String
  label : Option String
  timestamp : String
  deriving DecidableEq, Repr

/-- `PlanRevisionRecord`. -/
structure PlanRevisionRecord where
  seq : ℕ
  runId : String
  version : ℤ
  artifactRef : String
  diffFromPrevious : String
  rationale : String
  timestamp : String
  deriving DecidableEq, Repr

/-- `ManifestSummary`. -/
structure ManifestSummary where
  runId : String
  toolPolicyPreset : String
  deriving DecidableEq, Repr

/-- `PendingApprovalRecord`. -/
structure PendingApprovalRecord where
  approvalId : String
  approvalKind : String
  summary : String
  requestedAt : String
  expiresAt : Option String
  deriving DecidableEq, Repr

/-- `RunSnapshot`. -/
structure RunSnapshot where
  runState : String
  milestones : List MilestoneRecord
  artifacts : List ArtifactRecord
  planRevisions : List PlanRevisionRecord
  pendingApprovals : List PendingApprovalRecord
  latestCheckpointRef : Option String
  manifestSummary : Option ManifestSummary
  deriving DecidableEq, Repr

/-- `_MILESTONE_DESCRIPTION_MAP`. -/
def milestoneDescriptions : List ((String × String) × String) :=
  [(("intake", "received"), "Task received and parsed by the harness"),
    (("intake", "accepted"), "Task accepted for processing"),
    (("plan", "drafted"), "Initial plan drafted"),
    (("plan", "approval_requested"), "Plan submitted for approval gate"),
    (("plan", "ready"), "Plan approved and ready for execution"),
    (("plan", "revision_cataloged"),
      "Plan revision cataloged as a first-class artifact with diff and rationale"),
    (("execute", "tool_invoked"), "A tool invocation starts"),
    (("execute", "artifact_emitted"), "A tool or step produced an artifact"),
    (("execute", "waiting_approval"), "Execution paused at an approval gate"),
    (("review", "findings_recorded"), "Review findings are durably saved"),
    (("handoff", "envelope_emitted"), "Delegation envelope registered for child run"),
    (("handoff", "sub_agent_registered"), "Bounded sub-agent role registered for orchestration"),
    (("handoff", "sub_agent_started"), "Sub-agent execution started"),
    (("handoff", "sub_agent_completed"), "Sub-agent execution completed"),
    (("handoff", "team_started"), "Team execution started with aggregated member progress"),
    (("handoff", "team_completed"), "Team execution completed with aggregated member progress"),
    (("handoff", "team_blocked"), "Team execution blocked on handoff routing or member progress"),
    (("code", "iteration_started"), "Till-done loop iteration begins"),
    (("code", "plan_drafted"), "Plan artifact drafted for iteration"),
    (("code", "plan_approved"), "Plan approved for implementation"),
    (("code", "changes_applied"), "Implementation changes applied"),
    (("code", "check_passed"), "Verification checks passed"),
    (("code", "check_failed"), "Verification checks failed, iteration retries"),
    (("code", "plan_revised"), "Plan revised for next iteration"),
    (("code", "iteration_complete"), "Iteration completed, advance to next phase"),
    (("code", "loop_escalated"), "Loop escalated due to max iterations"),
    (("code", "terminal"), "Coding run reached terminal state")]

/-- The descriptions are those of the catalog. -/
example : milestoneDescriptions.map Prod.fst = milestoneCatalog := rfl

/-- The repositories a `VisibilityService` is given, but for the event log: whether it has those of
the runs and of the approvals, and how it reads the tool preset of a run's manifest. -/
structure VisibilityService where
  runs : Bool
  manifests : Option (String → Except PyError (Option String))
  approvals : Bool

namespace VisibilityService

section

variable (T : UnicodeTable) (isoformat : Timestamp → String) (runId : String)

/-- `str(ev.payload.get(key, ""))`. -/
def payloadText (ev : RunEvent) (key : String) : Except PyError String :=
  str T ((ev.payload.get key).getD (.str ""))

/-- `MilestoneRecord(…)`. -/
def milestoneRecord (ev : RunEvent) : Except PyError MilestoneRecord := do
  let phase ← payloadText T ev "phase"
  let milestone ← payloadText T ev "milestone"
  .ok {
    seq := ev.seq, runId, phase, milestone
    description :=
      (milestoneDescriptions.lookup (phase, milestone)).getD (phase ++ "/" ++ milestone)
    timestamp := isoformat ev.timestamp }

/-- `PlanRevisionRecord(…)`. -/
def planRevisionRecord (ev : RunEvent) : Except PyError PlanRevisionRecord := do
  let version ← str T ((ev.payload.get "version").getD (.int 0))
  let version ← int T version
  let artifactRef ← payloadText T ev "artifact_ref"
  let diffFromPrevious ← payloadText T ev "diff_from_previous"
  let rationale ← payloadText T ev "rationale"
  .ok {
    seq := ev.seq, runId, version, artifactRef, diffFromPrevious, rationale
    timestamp := isoformat ev.timestamp }

/-- `str(ev.payload.get("label")) if "label" in ev.payload else None`. -/
def artifactLabel (ev : RunEvent) : Except PyError (Option String) :=
  match ev.payload.get "label" with
  | some label => (str T label).map some
  | none => .ok none

/-- `ArtifactRecord(…)`. -/
def artifactRecord (artifactKind : String) (ev : RunEvent) : Except PyError ArtifactRecord := do
  let artifactRef ← payloadText T ev "artifact_ref"
  let label ← artifactLabel T ev
  .ok {
    seq := ev.seq, runId, artifactKind, artifactRef, label
    timestamp := isoformat ev.timestamp }

/-- The lists the loop over the events fills. -/
structure Collected where
  milestones : List MilestoneRecord
  artifacts : List ArtifactRecord
  planRevisions : List PlanRevisionRecord

/-- The turn of the loop for a `run.artifact_created` event. -/
def collectArtifact (lists : Collected) (ev : RunEvent) : Except PyError Collected := do
  let artifactKind ← payloadText T ev "artifact_kind"
  if artifactKind = "plan-revision" then do
    let record ← planRevisionRecord T isoformat runId ev
    .ok { lists with planRevisions := lists.planRevisions ++ [record] }
  else do
    let record ← artifactRecord T isoformat runId artifactKind ev
    .ok { lists with artifacts := lists.artifacts ++ [record] }

/-- One turn of the loop. -/
def collect (lists : Collected) (ev : RunEvent) : Except PyError Collected :=
  match ev.type with
  | .runProgress => do
      let record ← milestoneRecord T isoformat runId ev
      .ok { lists with milestones := lists.milestones ++ [record] }
  | .runArtifactCreated => collectArtifact T isoformat runId lists ev
  | _ => .ok lists

/-- `PendingApprovalRecord(…)`. -/
def pendingApprovalRecord (a : Approval) : PendingApprovalRecord where
  approvalId := a.id
  approvalKind := a.approvalKind
  summary := a.summary
  requestedAt := isoformat a.requestedAt
  expiresAt := a.expiresAt.map isoformat

/-- The state of the run's record, `unknown` without one. -/
def runState (service : VisibilityService) : Session String :=
  if service.runs then do
    match ← RunRepository.get runId with
    | some run => pure run.state.name
    | none => pure "unknown"
  else pure "unknown"

/-- The pending approvals of the run. -/
def pendingApprovals (service : VisibilityService) : Session (List PendingApprovalRecord) :=
  if service.approvals then do
    let allApprovals ← ApprovalRepository.listByRun runId
    pure ((allApprovals.filter fun a => a.state = .pending).map (pendingApprovalRecord isoformat))
  else pure []

/-- The overview of the run's manifest. -/
def manifestSummary (service : VisibilityService) : Except PyError (Option ManifestSummary) :=
  match service.manifests with
  | none => .ok none
  | some preset => (preset runId).map fun found => found.map fun preset => ⟨runId, preset⟩

/-- `snapshot`. -/
def snapshot (service : VisibilityService) : Session RunSnapshot := do
  let runState ← service.runState runId
  let allEvents ← RunEventRepository.list runId 0 none
  let lists ← Effect.ofExcept (allEvents.foldlM (collect T isoformat runId) ⟨[], [], []⟩)
  let pendingApprovals ← service.pendingApprovals isoformat runId
  let manifestSummary ← Effect.ofExcept (service.manifestSummary runId)
  pure {
    runState, pendingApprovals, manifestSummary
    milestones := lists.milestones
    artifacts := lists.artifacts
    planRevisions := lists.planRevisions
    latestCheckpointRef := none }

end

end VisibilityService

end Waywarden

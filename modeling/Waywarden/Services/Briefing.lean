import Waywarden.Infra.RunEventRepository
import Waywarden.Services.Milestones

/-!
# `EABriefingHandler`

`waywarden.services.orchestration.briefing`: count the inbox, draw up five milestones and a dated
artifact, and, with an event repository, append the milestones the catalog has and one
`run.artifact_created` event.  `plan.review` is drawn up but not in the catalog, so it is dropped.

How an instant is written is a parameter, `DateFormat`.
-/

namespace Waywarden

/-- `now.strftime("%Y-%m-%d")` and `now.isoformat()`. -/
structure DateFormat where
  day : Timestamp → String
  isoformat : Timestamp → String

/-- `InboxEntry`; its body and its time of receipt are not read. -/
structure InboxEntry where
  subject : String
  fromAddress : String

/-- `BriefingState`. -/
structure BriefingState where
  inboxReceived : ℕ := 0
  inboxAccepted : ℕ := 0
  pendingTasks : ℤ := 0
  artifactsQueued : ℕ := 0

/-- `BriefingResult`. -/
structure BriefingResult where
  title : String
  timestamp : String
  state : BriefingState
  milestones : List Mapping
  artifact : Mapping

/-- `EABriefingHandler`: its complaints, whether it has an event repository, and the list that
captures the events it appends, if any. -/
structure EABriefingHandler where
  stderr : List String := []
  hasEventRepo : Bool
  snapshot : Option (List RunEvent) := none

namespace EABriefingHandler

/-- A method of the handler: it changes the handler and the store. -/
abbrev BriefingSession (α : Type) : Type := Effect (EABriefingHandler × Store) PyError α

/-! ## The result -/

/-- The loop over the inbox: how many entries have a subject. -/
def acceptInbox : List InboxEntry → BriefingSession ℕ
  | [] => pure 0
  | entry :: rest => do
      if strip entry.subject ≠ "" then do
        let accepted ← acceptInbox rest
        pure (accepted + 1)
      else do
        Effect.modify fun p =>
          ({ p.1 with stderr :=
              p.1.stderr ++ ["inbox entry from " ++ entry.fromAddress ++ " has no subject"] }, p.2)
        acceptInbox rest

/-- The milestones `_build_result` draws up. -/
def briefingMilestones (state : BriefingState) : List Mapping :=
  [[("phase", .str "intake"), ("milestone", .str "received"), ("count", .int state.inboxReceived)],
    [("phase", .str "intake"), ("milestone", .str "accepted"),
      ("count", .int state.inboxAccepted)],
    [("phase", .str "plan"), ("milestone", .str "drafted"), ("detail", .str "Briefing drafted")],
    [("phase", .str "plan"), ("milestone", .str "review"), ("detail", .str "Review pending")],
    [("phase", .str "plan"), ("milestone", .str "ready"), ("detail", .str "Briefing ready")]]

/-- `_build_result`. -/
def buildResult (fmt : DateFormat) (env : Env) (inboxEntries : Option (List InboxEntry))
    (pendingTasks : ℤ) : BriefingSession (BriefingResult × Timestamp) := do
  let inbox := inboxEntries.getD []
  let accepted ← acceptInbox inbox
  let state : BriefingState := ⟨inbox.length, accepted, pendingTasks, 0⟩
  let now := env.now 0
  let title := "EA Briefing — " ++ fmt.day now
  let generatedAt := fmt.isoformat now
  let handler ← Effect.gets Prod.fst
  let artifact : Mapping :=
    [("briefing_title", .str title), ("items_received", .int state.inboxReceived),
      ("items_accepted", .int state.inboxAccepted), ("pending_tasks", .int state.pendingTasks),
      ("generated_at", .str generatedAt), ("errors", .list (handler.stderr.map .str))]
  pure (⟨title, generatedAt, state, briefingMilestones state, artifact⟩, now)

/-! ## Events -/

/-- `_emit_run`, of a handler with an event repository. -/
def emitRun (event : RunEvent) : BriefingSession Unit := do
  let _ ← Effect.second (RunEventRepository.append event)
  Effect.modify fun p => ({ p.1 with snapshot := p.1.snapshot.map (· ++ [event]) }, p.2)

/-- The constructor call of a milestone's event. -/
def milestoneEvent (runId phase milestone uuid : String) (latest : ℕ) (payload : Mapping)
    (timestamp : Timestamp) : Except PyError RunEvent :=
  RunEvent.new ("evt-" ++ runId ++ "-briefing-" ++ phase ++ "-" ++ milestone ++ "-" ++ uuid) runId
    (latest + 1) .runProgress payload (.aware timestamp)
    (some (.ofAction ("briefing." ++ phase ++ "." ++ milestone))) (some systemActor)

/-- `_emit_milestones`, drawing identifiers from the `i`-th on; it returns the next one's index.
A milestone without a phase, or outside the catalog, is passed over. -/
def emitMilestones (env : Env) (timestamp : Timestamp) (runId : String) :
    List Mapping → ℕ → BriefingSession ℕ
  | [], i => pure i
  | ms :: rest, i =>
      match ms.get "phase", ms.get "milestone" with
      | some (.str phase), some (.str milestone) =>
          if !isValidMilestone phase milestone then
            emitMilestones env timestamp runId rest i
          else do
            let latest ← Effect.second (RunEventRepository.latestSeq runId)
            let event ← Effect.ofExcept
              (milestoneEvent runId phase milestone (env.uuid4 i) latest ms timestamp)
            emitRun event
            emitMilestones env timestamp runId rest (i + 1)
      | _, _ => emitMilestones env timestamp runId rest i

/-- The `run.artifact_created` event of a briefing. -/
def artifactEvent (runId artRef artifactKind label uuid : String) (latest : ℕ) (now : Timestamp) :
    RunEvent where
  id := "evt-" ++ runId ++ "-briefing-artifact-" ++ uuid
  runId := runId
  seq := latest + 1
  type := .runArtifactCreated
  payload := [("artifact_ref", .str artRef), ("artifact_kind", .str artifactKind),
    ("label", .str label)]
  timestamp := now
  causation := some (.ofAction "briefing_artifact_created")
  actor := some systemActor
  seq_pos := Nat.succ_pos latest
  payload_ok := rfl

/-- `_emit_artifact`. -/
def emitArtifact (runId artRef artifactKind label uuid : String) (now : Timestamp) :
    BriefingSession Unit := do
  let latest ← Effect.second (RunEventRepository.latestSeq runId)
  emitRun (artifactEvent runId artRef artifactKind label uuid latest now)

/-- `_emit_events`. -/
def emitEvents (env : Env) (result : BriefingResult) (timestamp : Timestamp) (runId : String) :
    BriefingSession Unit := do
  let drawn ← emitMilestones env timestamp runId result.milestones 0
  emitArtifact runId ("briefing-" ++ result.timestamp) "briefing" "briefing" (env.uuid4 drawn)
    (env.now 1)

/-- `run_async`. -/
def runAsync (fmt : DateFormat) (env : Env) (inboxEntries : Option (List InboxEntry) := none)
    (pendingTasks : ℤ := 0) (runId : String := "ea-briefing-run") :
    BriefingSession BriefingResult := do
  let (result, now) ← buildResult fmt env inboxEntries pendingTasks
  let handler ← Effect.gets Prod.fst
  if handler.hasEventRepo then do
    emitEvents env result now runId
    pure result
  else
    pure result

end EABriefingHandler

end Waywarden

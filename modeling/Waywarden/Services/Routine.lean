import Waywarden.Assets.Loader
import Waywarden.Services.Briefing
import Waywarden.Services.Triage

/-!
# The routine surface

`waywarden.services.orchestration.routine`: pick the routine assets out of what a profile resolved,
and run one of them by its id through the briefing, the scheduler or the triage.  An asset that the
profile did not resolve, or that is no routine, is never run.

Of a resolved asset only what `resolve_routine_slices` reads is kept; the keyword arguments of
`execute` are a record, with its defaults those of the handlers.
-/

namespace Waywarden

/-- What `resolve_routine_slices` reads of an asset; a kind without milestones or events has
none. -/
structure ResolvedAsset where
  kind : AssetKind
  id : String
  milestones : List Mapping := []
  emitsEvents : List String := []

/-- `RoutineSlice`. -/
structure RoutineSlice where
  assetId : String
  milestoneSpecs : List Mapping := []
  emitsEvents : List String := []
  artifactKind : String := ""

/-- `EACoroutine`: the list its briefing handler captures events in, which nothing reads back,
whether it has a task service, and whether it has an event repository. -/
structure EACoroutine where
  events : List RunEvent := []
  hasTaskService : Bool
  hasEventRepo : Bool

/-- The keyword arguments of `execute`. -/
structure RoutineArgs where
  inboxEntries : Option (List InboxEntry) := none
  pendingTasks : ℤ := 0
  tasks : List ScheduledTask := []
  items : List InboxItem := []
  decisions : Option Decisions := none
  runId : Option String := none

/-- What `execute` returns. -/
inductive RoutineResult
  | briefing (result : BriefingResult)
  | schedule (result : ScheduleResult)
  | triage (result : TriageResult)

namespace EACoroutine

open Lowercase (CaseTable)

/-- `part in text`. -/
def within (part text : String) : Bool := decide (part.toList <:+: text.toList)

/-- `_infer_artifact_kind`. -/
def inferArtifactKind (assetId : String) : String :=
  if within "briefing" assetId then "briefing"
  else if within "scheduler" assetId then "task_schedule"
  else if within "triage" assetId then "triage_outcome"
  else "routine_artifact"

/-- `resolve_routine_slices`. -/
def resolveRoutineSlices : List ResolvedAsset → List RoutineSlice
  | [] => []
  | asset :: assets =>
      if asset.kind ≠ .routine then resolveRoutineSlices assets
      else
        { assetId := asset.id
          milestoneSpecs := asset.milestones
          emitsEvents := asset.emitsEvents
          artifactKind := inferArtifactKind asset.id } :: resolveRoutineSlices assets

/-- `_require_routine`. -/
def requireRoutine (assetId : String) (resolvedAssets : List ResolvedAsset) :
    Except PyError RoutineSlice :=
  match (resolveRoutineSlices resolvedAssets).find? fun routine => routine.assetId == assetId with
  | some routine => .ok routine
  | none => .error ⟨.valueError, "routine asset % was not resolved by EA profile", [assetId]⟩

/-- `text.replace("_", "-")`. -/
def hyphenated (text : String) : String :=
  String.ofList (text.toList.map fun c => if c = '_' then '-' else c)

/-- The handler an id is dispatched to. -/
inductive Handler
  | briefing
  | scheduler
  | triage
  deriving DecidableEq, Repr

/-- The chain of tests of `execute`. -/
def handlerOf (assetId : String) : Option Handler :=
  let normalizedId := hyphenated assetId
  if within "briefing" normalizedId then some .briefing
  else if within "scheduler" normalizedId then some .scheduler
  else if within "triage" normalizedId then some .triage
  else none

/-- `execute`; the briefing reads `env 0 0`, and the `k`-th service call for the entry at a place of
a queue reads `env place k`. -/
def execute (T : CaseTable) (fmt : DateFormat) (env : ℕ → ℕ → Env) (routines : EACoroutine)
    (assetId : String) (resolvedAssets : List ResolvedAsset) (args : RoutineArgs) :
    Session RoutineResult := do
  let routine ← Effect.ofExcept (requireRoutine assetId resolvedAssets)
  match handlerOf routine.assetId with
  | some .briefing => do
      let handler : EABriefingHandler :=
        { hasEventRepo := routines.hasEventRepo, snapshot := some routines.events }
      let result ← Effect.within handler (EABriefingHandler.runAsync fmt (env 0 0)
        args.inboxEntries args.pendingTasks (args.runId.getD "ea-briefing-run"))
      pure (.briefing result)
  | some .scheduler =>
      if !routines.hasTaskService then
        Effect.raise ⟨.valueError, "scheduler routine requires task_service", []⟩
      else do
        let result ← EASchedulerHandler.run env args.tasks args.decisions
          (args.runId.getD "ea-scheduler-run")
        pure (.schedule result)
  | some .triage =>
      if !routines.hasTaskService then
        Effect.raise ⟨.valueError, "triage routine requires task_service", []⟩
      else do
        let result ← EAIboxTriageHandler.run T env (some args.items) args.decisions
          (args.runId.getD "ea-triage-run")
        pure (.triage result)
  | none =>
      Effect.raise ⟨.valueError, "no EA routine handler registered for asset %", [assetId]⟩

end EACoroutine

end Waywarden

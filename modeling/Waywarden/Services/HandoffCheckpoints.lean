import Waywarden.Infra.RunEventRepository
import Waywarden.Services.CodingHandoff

/-!
# Handoff checkpoints

The recording methods of `EAAHandoffHelper` and `CodingHandoffRoutine`: a checkpoint is kept in
the instance and, when the instance was given an event repository, appended to the log of its run
as a `run.progress` event.  The two methods differ in the event only, and in when they count the
records that its id ends in.

The record is kept before the event is appended, so a refused append leaves it behind.
-/

namespace Waywarden

/-- `HandbackRecord`. -/
structure HandbackRecord where
  checkpoint : String
  summary : String
  timestamp : Timestamp
  deriving DecidableEq, Repr

/-- `VALID_CHECKPOINTS`. -/
def validCheckpoints : List String :=
  ["plan-approved", "implementation-complete", "review-found-issues"]

/-- The exception for any other checkpoint. -/
def unknownCheckpointError (checkpoint : String) : PyError :=
  ⟨.valueError, "unknown checkpoint %; allowed: %",
    [checkpoint, ", ".intercalate (validCheckpoints.insertionSort (· ≤ ·))]⟩

/-- An instance with the two fields its recording method adds: whether it has an event repository,
and its records. -/
structure Recorder (ι : Type) where
  owner : ι
  hasEvents : Bool
  records : List HandbackRecord := []

/-- The instance with one more record. -/
def Recorder.add {ι : Type} (record : HandbackRecord) (recorder : Recorder ι) : Recorder ι :=
  { recorder with records := recorder.records ++ [record] }

/-- A method of a recorder: it changes its instance and the store. -/
abbrev RecorderSession (ι α : Type) : Type := Effect (Recorder ι × Store) PyError α

/-- `str(envelope.id) if envelope is not None else None`. -/
def delegationIdValue (envelope : Option DelegationEnvelope) : Value :=
  match envelope with
  | none => .null
  | some envelope => .str envelope.id

namespace EAAHandoffHelper

/-- The `run.progress` event of a handback. -/
def handbackEvent (helper : EAAHandoffHelper) (record : HandbackRecord) (queueLen latest : ℕ) :
    RunEvent where
  id := "evt-handback-" ++ record.checkpoint ++ "-" ++ toString queueLen
  runId := helper.parentRunId
  seq := latest + 1
  type := .runProgress
  payload := [("phase", .str "handoff"), ("milestone", .str "envelope_emitted"),
    ("checkpoint", .str record.checkpoint), ("summary", .str record.summary),
    ("delegation_id", delegationIdValue helper.envelope)]
  timestamp := record.timestamp
  causation := some
    { eventId := none, action := some "handback_checkpoint", requestId := some record.checkpoint }
  actor := some systemActor
  seq_pos := Nat.succ_pos latest
  payload_ok := rfl

/-- `record_handback_async`: the queue length counts the new record before it is kept. -/
def recordHandbackAsync (env : Env) (checkpoint summary : String) :
    RecorderSession EAAHandoffHelper HandbackRecord := do
  if checkpoint ∉ validCheckpoints then
    Effect.raise (unknownCheckpointError checkpoint)
  else do
    let record : HandbackRecord := ⟨checkpoint, summary, env.now 0⟩
    let recorder ← Effect.gets Prod.fst
    let queueLen := recorder.records.length + 1
    Effect.modify fun p => (p.1.add record, p.2)
    if recorder.hasEvents then do
      let latest ← Effect.second (RunEventRepository.latestSeq recorder.owner.parentRunId)
      let _ ← Effect.second
        (RunEventRepository.append (handbackEvent recorder.owner record queueLen latest))
      pure record
    else
      pure record

end EAAHandoffHelper

namespace CodingHandoffRoutine

/-- The `run.progress` event of a coding checkpoint. -/
def checkpointEvent (routine : CodingHandoffRoutine) (record : HandbackRecord)
    (count latest : ℕ) : RunEvent where
  id := "evt-coding-handoff-" ++ record.checkpoint ++ "-" ++ toString count
  runId := routine.parentRunId
  seq := latest + 1
  type := .runProgress
  payload := [("phase", .str "handoff"), ("milestone", .str "envelope_emitted"),
    ("detail", .dict [("checkpoint", .str record.checkpoint), ("summary", .str record.summary),
      ("routine", .str "coding-handoff"), ("delegation_id", delegationIdValue routine.envelope)])]
  timestamp := record.timestamp
  causation := some
    { eventId := none, action := some "coding_handoff_checkpoint",
      requestId := some record.checkpoint }
  actor := some systemActor
  seq_pos := Nat.succ_pos latest
  payload_ok := rfl

/-- `record_checkpoint`: the records are counted once the sequence number is read. -/
def recordCheckpoint (env : Env) (checkpoint summary : String) :
    RecorderSession CodingHandoffRoutine HandbackRecord := do
  if checkpoint ∉ validCheckpoints then
    Effect.raise (unknownCheckpointError checkpoint)
  else do
    let record : HandbackRecord := ⟨checkpoint, summary, env.now 0⟩
    Effect.modify fun p => (p.1.add record, p.2)
    let recorder ← Effect.gets Prod.fst
    if recorder.hasEvents then do
      let latest ← Effect.second (RunEventRepository.latestSeq recorder.owner.parentRunId)
      let recorder ← Effect.gets Prod.fst
      let _ ← Effect.second (RunEventRepository.append
        (checkpointEvent recorder.owner record recorder.records.length latest))
      pure record
    else
      pure record

end CodingHandoffRoutine

end Waywarden

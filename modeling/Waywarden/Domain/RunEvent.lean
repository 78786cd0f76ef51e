import Mathlib.Data.List.Sort
import Waywarden.Domain.Basic

/-!
# Run events

`waywarden.domain.run_event` and `run_event_types`: the RT-002 event envelope.  A `RunEvent`
carries the proofs of its constructor's checks, a positive sequence number and a payload with
every field its type requires, so a malformed event cannot be built.
-/

namespace Waywarden

/-- `RunEventType`: the ten event types of RT-002. -/
inductive RunEventType
  | runCreated
  | runPlanReady
  | runExecutionStarted
  | runProgress
  | runApprovalWaiting
  | runResumed
  | runArtifactCreated
  | runCompleted
  | runFailed
  | runCancelled
  deriving DecidableEq, Repr

/-- The type as the source spells it. -/
def RunEventType.name : RunEventType → String
  | .runCreated => "run.created"
  | .runPlanReady => "run.plan_ready"
  | .runExecutionStarted => "run.execution_started"
  | .runProgress => "run.progress"
  | .runApprovalWaiting => "run.approval_waiting"
  | .runResumed => "run.resumed"
  | .runArtifactCreated => "run.artifact_created"
  | .runCompleted => "run.completed"
  | .runFailed => "run.failed"
  | .runCancelled => "run.cancelled"

/-- The terminal event types, `_TERMINAL_EVENTS`. -/
def RunEventType.isTerminal : RunEventType → Bool
  | .runCompleted | .runFailed | .runCancelled => true
  | _ => false

/-- `_REQUIRED_PAYLOAD_FIELDS`. -/
def requiredPayloadFields : RunEventType → List String
  | .runCreated => ["instance_id", "profile", "policy_preset", "manifest_ref", "entrypoint"]
  | .runPlanReady => ["plan_ref", "summary", "revision", "approval_required"]
  | .runExecutionStarted => ["worker_session_ref", "attempt", "resume_kind"]
  | .runProgress => ["phase", "milestone"]
  | .runApprovalWaiting => ["approval_id", "approval_kind", "summary"]
  | .runResumed => ["resume_kind", "resumed_from_seq"]
  | .runArtifactCreated => ["artifact_ref", "artifact_kind", "label"]
  | .runCompleted => ["outcome"]
  | .runFailed => ["failure_code", "message", "retryable"]
  | .runCancelled => ["reason"]

/-- `validate_payload`: every required field is a key of the payload. -/
def validatePayload (type : RunEventType) (payload : Mapping) : Bool :=
  (requiredPayloadFields type).all fun field => payload.any fun item => item.1 == field

/-- A payload passes when every field its type requires can be read. -/
lemma validatePayload_of_get {type : RunEventType} {payload : Mapping}
    (h : ∀ field ∈ requiredPayloadFields type, payload.get field ≠ none) :
    validatePayload type payload = true := by
  unfold validatePayload
  rw [List.all_eq_true]
  intro field hfield
  obtain ⟨value, hvalue⟩ := Option.ne_none_iff_exists'.mp (h field hfield)
  obtain ⟨item, hitem, -⟩ := Option.map_eq_some_iff.mp hvalue
  rw [List.any_eq_true]
  refine ⟨item, List.mem_of_find?_eq_some hitem, ?_⟩
  simpa using List.find?_some hitem

/-- `Causation`, with at least one of its fields set. -/
structure Causation where
  eventId : Option String
  action : Option String
  requestId : Option String
  some_set : (eventId.isSome || action.isSome || requestId.isSome) = true := by rfl
  deriving DecidableEq, Repr

/-- `Causation(event_id=None, action=…, request_id=None)`. -/
def Causation.ofAction (action : String) : Causation :=
  { eventId := none, action := some action, requestId := none }

/-- The constructor `Causation(…)`. -/
def Causation.new (eventId action requestId : Option String) : Except PyError Causation :=
  if h : (eventId.isSome || action.isSome || requestId.isSome) = true then
    .ok ⟨eventId, action, requestId, h⟩
  else .error ⟨.valueError, "At least one of event_id, action, or request_id must be set", []⟩

/-- A causation passes its own check. -/
lemma Causation.new_fields (c : Causation) :
    Causation.new c.eventId c.action c.requestId = .ok c := by
  rw [Causation.new, dif_pos c.some_set]

/-- `_ActorKind`. -/
inductive ActorKind
  | operator
  | system
  | scheduler
  | worker
  | policyEngine
  deriving DecidableEq, Repr

namespace ActorKind

/-- The kind as the source spells it. -/
def name : ActorKind → String
  | operator => "operator"
  | system => "system"
  | scheduler => "scheduler"
  | worker => "worker"
  | policyEngine => "policy-engine"

/-- The kind with a name. -/
def ofName? (s : String) : Option ActorKind :=
  [operator, system, scheduler, worker, policyEngine].find? fun kind => kind.name = s

@[simp] lemma ofName?_name (kind : ActorKind) : ofName? kind.name = some kind := by
  cases kind <;> decide

@[simp] lemma name_inj {a b : ActorKind} : a.name = b.name ↔ a = b := by
  cases a <;> cases b <;> decide

end ActorKind

/-- The exception for a value that is no actor kind. -/
def actorKindError : PyError :=
  ⟨.valueError,
    "kind must be one of 'operator', 'system', 'scheduler', 'worker', or 'policy-engine'", []⟩

/-- `_normalize_actor_kind`. -/
def normalizeActorKind (value : String) : Except PyError ActorKind :=
  match ActorKind.ofName? value with
  | some kind => .ok kind
  | none => .error actorKindError

/-- A kind passes its own check. -/
@[simp] lemma normalizeActorKind_name (kind : ActorKind) :
    normalizeActorKind kind.name = .ok kind := by
  rw [normalizeActorKind, ActorKind.ofName?_name]

/-- `Actor`. -/
structure Actor where
  kind : ActorKind
  id : Option String
  display : Option String
  deriving DecidableEq, Repr

/-- `RunEvent`. -/
structure RunEvent where
  id : String
  runId : String
  seq : ℕ
  type : RunEventType
  payload : Mapping
  timestamp : Timestamp
  causation : Option Causation
  actor : Option Actor
  seq_pos : 1 ≤ seq
  payload_ok : validatePayload type payload = true

/-- The fields of its type that a payload does not have. -/
def missingPayloadFields (type : RunEventType) (payload : Mapping) : List String :=
  (requiredPayloadFields type).filter fun field => !payload.any fun item => item.1 == field

/-- The constructor `RunEvent(…)`: the checks of `__post_init__`. -/
def RunEvent.new (id runId : String) (seq : ℤ) (type : RunEventType) (payload : Mapping)
    (timestamp : PyDatetime) (causation : Option Causation) (actor : Option Actor) :
    Except PyError RunEvent :=
  if hseq : seq < 1 then .error ⟨.valueError, "seq must be an integer >= 1", []⟩
  else match timestamp with
    | .naive _ => .error ⟨.valueError, "timestamp must be timezone-aware (UTC)", []⟩
    | .aware utc =>
        if hpayload : validatePayload type payload = true then
          .ok ⟨id, runId, seq.toNat, type, payload, utc, causation, actor, by omega, hpayload⟩
        else
          let missing := (missingPayloadFields type payload).insertionSort (· ≤ ·)
          .error ⟨.valueError, "Event type % requires payload fields: %",
            [type.name, ", ".intercalate missing]⟩

/-- An event the constructor accepts has the type and the payload it was given. -/
lemma RunEvent.of_new {id runId : String} {seq : ℤ} {type : RunEventType}
    {payload : Mapping} {timestamp : PyDatetime} {causation : Option Causation}
    {actor : Option Actor} {event : RunEvent}
    (h : RunEvent.new id runId seq type payload timestamp causation actor = .ok event) :
    event.type = type ∧ event.payload = payload := by
  unfold RunEvent.new at h
  split at h
  · exact absurd h (by simp)
  · split at h
    · exact absurd h (by simp)
    · split at h
      · exact (Except.ok.inj h) ▸ ⟨rfl, rfl⟩
      · exact absurd h (by simp)

/-- It has the ids and the number it was given, too. -/
lemma RunEvent.ids_of_new {id runId : String} {seq : ℤ} {type : RunEventType} {payload : Mapping}
    {timestamp : PyDatetime} {causation : Option Causation} {actor : Option Actor}
    {event : RunEvent}
    (h : RunEvent.new id runId seq type payload timestamp causation actor = .ok event) :
    event.id = id ∧ event.runId = runId ∧ (event.seq : ℤ) = seq := by
  unfold RunEvent.new at h
  split at h
  · exact absurd h (by simp)
  · split at h
    · exact absurd h (by simp)
    · split at h
      · obtain rfl := Except.ok.inj h
        refine ⟨rfl, rfl, ?_⟩
        show ((seq.toNat : ℕ) : ℤ) = seq
        omega
      · exact absurd h (by simp)

/-- The constructor accepts a positive number, an instant and a payload that validates. -/
lemma RunEvent.new_of_valid (id runId : String) {seq : ℕ} (hseq : 1 ≤ seq) {type : RunEventType}
    {payload : Mapping} (hpayload : validatePayload type payload = true) (utc : Timestamp)
    (causation : Option Causation) (actor : Option Actor) :
    RunEvent.new id runId seq type payload (.aware utc) causation actor =
      .ok ⟨id, runId, seq, type, payload, utc, causation, actor, hseq, hpayload⟩ := by
  unfold RunEvent.new
  rw [dif_neg (by omega)]
  exact dif_pos hpayload

/-- The event with another sequence number. -/
def RunEvent.withSeq (event : RunEvent) (seq : {n : ℕ // 1 ≤ n}) : RunEvent :=
  { event with seq := seq.val, seq_pos := seq.property }

@[simp] lemma RunEvent.withSeq_id (e : RunEvent) (n : {n : ℕ // 1 ≤ n}) :
    (e.withSeq n).id = e.id := rfl

@[simp] lemma RunEvent.withSeq_runId (e : RunEvent) (n : {n : ℕ // 1 ≤ n}) :
    (e.withSeq n).runId = e.runId := rfl

@[simp] lemma RunEvent.withSeq_seq (e : RunEvent) (n : {n : ℕ // 1 ≤ n}) :
    (e.withSeq n).seq = n.val := rfl

/-- The `Actor(kind="system", id=None, display=None)` most services act as. -/
def systemActor : Actor := ⟨.system, none, none⟩

/-- `Actor(kind="operator", id=None, display=None)`. -/
def operatorActor : Actor := ⟨.operator, none, none⟩

end Waywarden

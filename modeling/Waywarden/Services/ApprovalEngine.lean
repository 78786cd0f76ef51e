import Waywarden.Infra.RecordRepositories
import Waywarden.Infra.RunEventRepository

/-!
# `ApprovalEngine`

`waywarden.services.approval_engine`: `request` saves a pending approval under an id derived from
the run and the kind, then appends `run.approval_waiting`; `resolve` rewrites a pending approval
with a decision, then appends the event the decision maps to.  Both save the record before they
append, so a refused append leaves the record saved.
-/

namespace Waywarden

/-- `ApprovalDecision`. -/
inductive ApprovalDecision
  | granted
  | deniedAbandon (reason : String)
  | deniedAlternatePath (note : String)
  | timeout (retryable : Bool)
  deriving DecidableEq, Repr

/-- `new_state_map`. -/
def ApprovalDecision.newState : ApprovalDecision → ApprovalState
  | .granted => .granted
  | .deniedAbandon _ => .denied
  | .deniedAlternatePath _ => .denied
  | .timeout _ => .timeout

/-- Whether a decision ends the run: every denial to abandon and every timeout does. -/
def ApprovalDecision.endsRun : ApprovalDecision → Bool
  | .deniedAbandon _ | .timeout _ => true
  | _ => false

/-- No decision leaves an approval pending. -/
lemma ApprovalDecision.newState_ne_pending (d : ApprovalDecision) : d.newState ≠ .pending := by
  cases d <;> simp [newState]

namespace ApprovalEngine

/-! ## Requesting -/

/-- The id a request is stored under. -/
def approvalId (runId approvalKind : String) : String :=
  "approval-" ++ runId ++ "-" ++ approvalKind

/-- An approval's id is not blank, whatever run and kind it names. -/
lemma strip_approvalId_ne (runId approvalKind : String) :
    strip (approvalId runId approvalKind) ≠ "" := by
  rw [approvalId, String.append_assoc, String.append_assoc]
  exact strip_ne_empty (c := 'a') (by simp) (by decide)

/-- The pending record of a request. -/
def buildRequest (runId approvalKind summary : String) (requestedCapability : Option String)
    (expiresAt : Option PyDatetime) (now : Timestamp) : Except PyError Approval :=
  Approval.new (approvalId runId approvalKind) runId approvalKind requestedCapability summary
    .pending now none none expiresAt

/-- A plain request is refused exactly when its run id, kind or summary is blank. -/
lemma buildRequest_eq_ok_iff (runId approvalKind summary : String) (now : Timestamp) :
    (∃ a, buildRequest runId approvalKind summary none none now = .ok a) ↔
      strip runId ≠ "" ∧ strip approvalKind ≠ "" ∧ strip summary ≠ "" := by
  have hid := strip_approvalId_ne runId approvalKind
  constructor
  · rintro ⟨a, ha⟩
    obtain ⟨-, hrun, hkind, hsummary, -⟩ := Approval.fields_of_new ha
    exact ⟨by rw [← hrun]; exact a.runId.property.2, by rw [← hkind]; exact
      a.approvalKind.property.2, by rw [← hsummary]; exact a.summary.property.2⟩
  · rintro ⟨hrun, hkind, hsummary⟩
    refine ⟨⟨⟨strip (approvalId runId approvalKind), strip_strip _, hid⟩, ⟨strip runId,
      strip_strip _, hrun⟩, ⟨strip approvalKind, strip_strip _, hkind⟩, none, ⟨strip summary,
      strip_strip _, hsummary⟩, .pending, now, none, none, none, by simp, by simp, by simp⟩, ?_⟩
    simp [buildRequest, Approval.new, requireNonEmptyText, hid, hrun, hkind, hsummary,
      requireOptionalText, normalizeOptionalUtcDatetime, bind, Except.bind]

/-- The id of the `run.approval_waiting` event of an approval. -/
def waitingEventId (id : String) : String := "evt-" ++ id ++ "-waiting"

/-- The `run.approval_waiting` event of a saved request, in the log of the run id as given. -/
def waitingEvent (saved : Approval) (runId : String) (checkpointRef : Option String)
    (latest : ℕ) (now : Timestamp) : RunEvent where
  id := waitingEventId saved.id
  runId := runId
  seq := latest + 1
  type := .runApprovalWaiting
  payload := [("approval_id", .str saved.id), ("approval_kind", .str saved.approvalKind),
      ("summary", .str saved.summary)] ++
    (saved.requestedCapability.map fun cap => ("requested_capability", Value.str cap)).toList ++
    (checkpointRef.map fun ref => ("checkpoint_ref", Value.str ref)).toList
  timestamp := now
  causation := some (.ofAction "request_approval")
  actor := some systemActor
  seq_pos := Nat.succ_pos latest
  payload_ok := rfl

/-- `request`. -/
def request (env : Env) (runId approvalKind summary : String)
    (requestedCapability : Option String) (expiresAt : Option PyDatetime)
    (checkpointRef : Option String) : Session Approval := do
  let now := env.now 0
  let approval ← Effect.ofExcept
    (buildRequest runId approvalKind summary requestedCapability expiresAt now)
  let saved ← ApprovalRepository.save approval
  let latest ← RunEventRepository.latestSeq runId
  let _ ← RunEventRepository.append (waitingEvent saved runId checkpointRef latest now)
  pure saved

/-! ## Resolving -/

/-- The event of a decision, in the log of the approval's run. -/
def decisionEvent (approval : Approval) (tag : String) (type : RunEventType) (payload : Mapping)
    (action : String) (actor : Actor) (hpayload : validatePayload type payload = true)
    (latest : ℕ) (now : Timestamp) : RunEvent where
  id := "evt-" ++ approval.id.val ++ tag
  runId := approval.runId
  seq := latest + 1
  type := type
  payload := payload
  timestamp := now
  causation := some (.ofAction action)
  actor := some actor
  seq_pos := Nat.succ_pos latest
  payload_ok := hpayload

/-- The `run.resumed` event of `_emit_granted`. -/
def grantedEvent (approval : Approval) (latest : ℕ) (now : Timestamp) : RunEvent :=
  decisionEvent approval "-granted" .runResumed
    [("resume_kind", .str "approval_granted"), ("resumed_from_seq", .int latest),
      ("approval_id", .str approval.id)]
    "approve_decision" operatorActor rfl latest now

/-- The `run.cancelled` event of `_emit_denied_abandon`. -/
def deniedAbandonEvent (approval : Approval) (latest : ℕ) (now : Timestamp) : RunEvent :=
  decisionEvent approval "-denied_abandon" .runCancelled [("reason", .str "approval_denied")]
    "deny_decision" operatorActor rfl latest now

/-- The `run.resumed` event of `_emit_denied_alternate`. -/
def deniedAlternateEvent (approval : Approval) (latest : ℕ) (now : Timestamp) : RunEvent :=
  decisionEvent approval "-denied_alternate" .runResumed
    [("resume_kind", .str "approval_denied_alternate_path"), ("resumed_from_seq", .int latest),
      ("approval_id", .str approval.id)]
    "deny_alternate" operatorActor rfl latest now

/-- The event of `_emit_timeout`: `run.failed` when the timeout is retryable, else
`run.cancelled`. -/
def timeoutEvent (retryable : Bool) (approval : Approval) (latest : ℕ) (now : Timestamp) :
    RunEvent :=
  if retryable then
    decisionEvent approval "-timeout_retry" .runFailed
      [("failure_code", .str "approval_timeout"), ("message", .str "approval timed out"),
        ("retryable", .bool true)]
      "timeout_retry" systemActor rfl latest now
  else
    decisionEvent approval "-timeout" .runCancelled [("reason", .str "approval_timeout")]
      "timeout_noretry" systemActor rfl latest now

/-- The event a decision maps to. -/
def eventOf : ApprovalDecision → Approval → ℕ → Timestamp → RunEvent
  | .granted => grantedEvent
  | .deniedAbandon _ => deniedAbandonEvent
  | .deniedAlternatePath _ => deniedAlternateEvent
  | .timeout retryable => timeoutEvent retryable

/-- What the four emitters do with the event they build. -/
def emit (event : Approval → ℕ → Timestamp → RunEvent) (approval : Approval) (now : Timestamp) :
    Session RunEvent := do
  let lastSeq ← RunEventRepository.latestSeq approval.runId
  RunEventRepository.append (event approval lastSeq now)

/-- `_emit_granted`. -/
def emitGranted : Approval → Timestamp → Session RunEvent := emit grantedEvent

/-- `_emit_denied_abandon`. -/
def emitDeniedAbandon : Approval → Timestamp → Session RunEvent := emit deniedAbandonEvent

/-- `_emit_denied_alternate`. -/
def emitDeniedAlternate : Approval → Timestamp → Session RunEvent := emit deniedAlternateEvent

/-- `_emit_timeout`. -/
def emitTimeout (retryable : Bool) : Approval → Timestamp → Session RunEvent :=
  emit (timeoutEvent retryable)

/-- The dispatch on the decision's tag. -/
def emitDecision : ApprovalDecision → Approval → Timestamp → Session RunEvent
  | .granted => emitGranted
  | .deniedAbandon _ => emitDeniedAbandon
  | .deniedAlternatePath _ => emitDeniedAlternate
  | .timeout retryable => emitTimeout retryable

/-- `ApprovalAlreadyResolvedError`. -/
def alreadyResolvedError (approvalId : String) : PyError :=
  ⟨.approvalAlreadyResolvedError, "ApprovalAlreadyResolvedError(approval_id=%)", [approvalId]⟩

/-- `resolve`. -/
def resolve (env : Env) (approvalId : String) (decision : ApprovalDecision) :
    Session RunEvent := do
  match ← ApprovalRepository.get approvalId with
  | none => Effect.raise ⟨.runtimeError, "Approval % not found", [approvalId]⟩
  | some existing =>
      if existing.state ≠ .pending then
        Effect.raise (alreadyResolvedError existing.id)
      else do
        let now := env.now 0
        let updated ← Effect.ofExcept (existing.decide decision.newState now)
        let _ ← ApprovalRepository.save updated
        emitDecision decision existing now

/-! ## What the two verbs do -/

lemma emitDecision_eq (d : ApprovalDecision) : emitDecision d = emit (eventOf d) := by
  cases d <;> rfl

@[simp] lemma eventOf_runId (d : ApprovalDecision) (a : Approval) (n : ℕ) (now : Timestamp) :
    (eventOf d a n now).runId = a.runId.val := by
  rcases d with _ | _ | _ | retryable
  case timeout => cases retryable <;> rfl
  all_goals rfl

/-- What a decision's event id ends in. -/
def decisionTag : ApprovalDecision → String
  | .granted => "-granted"
  | .deniedAbandon _ => "-denied_abandon"
  | .deniedAlternatePath _ => "-denied_alternate"
  | .timeout true => "-timeout_retry"
  | .timeout false => "-timeout"

lemma eventOf_id (d : ApprovalDecision) (a : Approval) (n : ℕ) (now : Timestamp) :
    (eventOf d a n now).id = "evt-" ++ a.id.val ++ decisionTag d := by
  rcases d with _ | _ | _ | retryable
  case timeout => cases retryable <;> rfl
  all_goals rfl

lemma isTerminal_eventOf (d : ApprovalDecision) (a : Approval) (n : ℕ) (now : Timestamp) :
    (eventOf d a n now).type.isTerminal = d.endsRun := by
  rcases d with _ | _ | _ | retryable
  case timeout => cases retryable <;> rfl
  all_goals rfl

variable {E : PyError → Store → Prop} {s : Store}

/-- **What `request` does.**  It is refused by the record's constructor, or it saves the record
and its event is refused, or it saves the record and appends the event. -/
lemma wp_request {env : Env} {runId kind summary : String} {cap : Option String}
    {expiresAt : Option PyDatetime} {checkpointRef : Option String}
    {Q : Approval → Store → Prop}
    (herr : ∀ e, buildRequest runId kind summary cap expiresAt (env.now 0) = .error e → E e s)
    (hsaved : ∀ (a : Approval) (e : PyError),
      buildRequest runId kind summary cap expiresAt (env.now 0) = .ok a →
      s.settled runId = true ∨ s.hasEvent (waitingEventId a.id) = true → E e (s.putApproval a))
    (hok : ∀ a, buildRequest runId kind summary cap expiresAt (env.now 0) = .ok a →
      s.settled runId = false → s.hasEvent (waitingEventId a.id) = false →
      Q a ((s.putApproval a).push
        (s.stamp (waitingEvent a runId checkpointRef (s.latestSeq runId) (env.now 0))))) :
    Effect.wp (request env runId kind summary cap expiresAt checkpointRef) Q E s := by
  rw [request, Effect.wp_bind, Effect.wp_ofExcept]
  refine ⟨fun a ha => ?_, herr⟩
  rw [Effect.wp_bind, ApprovalRepository.wp_save, Effect.wp_bind, RunEventRepository.latestSeq,
    Effect.wp_gets, Effect.wp_bind]
  rcases RunEventRepository.append_cases (waitingEvent a runId checkpointRef
      ((s.putApproval a).latestSeq runId) (env.now 0)) (s.putApproval a) with
    ⟨hsettled, _, h⟩ | ⟨-, htaken, h⟩ | ⟨hopen, hfresh, h⟩
  · rw [Effect.wp_of_error h]
    exact hsaved a _ ha (Or.inl hsettled)
  · rw [Effect.wp_of_error h]
    exact hsaved a _ ha (Or.inr htaken)
  · rw [Effect.wp_of_ok h, Effect.wp_pure]
    exact hok a ha hopen hfresh

/-- **What `resolve` does.**  It changes nothing unless the approval is stored, pending and not
requested later than now; then it saves the decided record, and the decision's event is refused or
appended. -/
lemma wp_resolve {env : Env} {id : String} {d : ApprovalDecision} {Q : RunEvent → Store → Prop}
    (herr : ∀ e, (∀ existing, s.approval? id = some existing → existing.state = .pending →
      env.now 0 < existing.requestedAt) → E e s)
    (hsaved : ∀ (existing a : Approval) (e : PyError), s.approval? id = some existing →
      existing.state = .pending → existing.decide d.newState (env.now 0) = .ok a →
      s.settled existing.runId = true ∨ s.hasEvent ("evt-" ++ id ++ decisionTag d) = true →
      E e (s.putApproval a))
    (hok : ∀ existing a : Approval, s.approval? id = some existing →
      existing.state = .pending → existing.decide d.newState (env.now 0) = .ok a →
      s.settled existing.runId = false → s.hasEvent ("evt-" ++ id ++ decisionTag d) = false →
      Q (s.stamp (eventOf d existing (s.latestSeq existing.runId) (env.now 0)))
        ((s.putApproval a).push
          (s.stamp (eventOf d existing (s.latestSeq existing.runId) (env.now 0))))) :
    Effect.wp (resolve env id d) Q E s := by
  rw [resolve, Effect.wp_bind, ApprovalRepository.wp_get]
  cases hrow : s.approval? id with
  | none => exact (Effect.wp_raise _).mpr (herr _ fun _ h => absurd (hrow.symm.trans h) (by simp))
  | some existing =>
      have hid : existing.id.val = id := Store.id_of_approval? hrow
      by_cases hpending : existing.state = .pending
      · simp only [hpending, ne_eq, not_true_eq_false, if_false]
        rw [Effect.wp_bind, Effect.wp_ofExcept]
        refine ⟨fun a ha => ?_, fun e he => herr e fun existing' hrow' _ => ?_⟩
        swap
        · obtain rfl := Option.some.inj (hrow.symm.trans hrow')
          by_contra hnow
          obtain ⟨a, ha⟩ := Approval.decide_of_le d.newState_ne_pending (not_lt.mp hnow)
          exact absurd (he.symm.trans ha) (by simp)
        rw [Effect.wp_bind, ApprovalRepository.wp_save, emitDecision_eq, emit, Effect.wp_bind,
          RunEventRepository.latestSeq, Effect.wp_gets, Store.latestSeq_putApproval]
        rcases RunEventRepository.append_cases
            (eventOf d existing (s.latestSeq existing.runId) (env.now 0)) (s.putApproval a) with
          ⟨hsettled, _, h⟩ | ⟨-, htaken, h⟩ | ⟨hopen, hfresh, h⟩
        · rw [Effect.wp_of_error h]
          rw [eventOf_runId, Store.settled_putApproval] at hsettled
          exact hsaved existing a _ hrow hpending ha (Or.inl hsettled)
        · rw [Effect.wp_of_error h]
          rw [eventOf_id, hid, Store.hasEvent_putApproval] at htaken
          exact hsaved existing a _ hrow hpending ha (Or.inr htaken)
        · rw [Effect.wp_of_ok h]
          rw [eventOf_runId, Store.settled_putApproval] at hopen
          rw [eventOf_id, hid, Store.hasEvent_putApproval] at hfresh
          exact hok existing a hrow hpending ha hopen hfresh
      · simp only [hpending, ne_eq, not_false_eq_true, if_true, Effect.wp_raise]
        refine herr _ fun existing' hrow' hpending' => ?_
        obtain rfl := Option.some.inj (hrow.symm.trans hrow')
        exact absurd hpending' hpending

/-- A pending approval of an open run is resolved. -/
lemma wp_resolve_of_pending {env : Env} {id : String} {d : ApprovalDecision}
    {Q : RunEvent → Store → Prop} {existing : Approval} (hrow : s.approval? id = some existing)
    (hpending : existing.state = .pending) (hnow : existing.requestedAt ≤ env.now 0)
    (hopen : s.settled existing.runId = false)
    (hfresh : s.hasEvent ("evt-" ++ id ++ decisionTag d) = false) :
    ∃ a, existing.decide d.newState (env.now 0) = .ok a ∧
      (Effect.wp (resolve env id d) Q E s ↔
        Q (s.stamp (eventOf d existing (s.latestSeq existing.runId) (env.now 0)))
          ((s.putApproval a).push
            (s.stamp (eventOf d existing (s.latestSeq existing.runId) (env.now 0))))) := by
  obtain ⟨a, ha⟩ := Approval.decide_of_le d.newState_ne_pending hnow
  refine ⟨a, ha, ?_⟩
  rw [← Store.id_of_approval? hrow, ← eventOf_id d existing (s.latestSeq existing.runId)
    (env.now 0)] at hfresh
  rw [resolve, Effect.wp_bind, ApprovalRepository.wp_get, hrow]
  simp only [hpending, ne_eq, not_true_eq_false, if_false, ha]
  rw [Effect.wp_bind, Effect.wp_ofExcept_ok, Effect.wp_bind, ApprovalRepository.wp_save,
    emitDecision_eq, emit, Effect.wp_bind, RunEventRepository.latestSeq, Effect.wp_gets,
    Store.latestSeq_putApproval]
  exact RunEventRepository.wp_append_of_open (by rw [eventOf_runId]; exact hopen) hfresh

end ApprovalEngine

end Waywarden

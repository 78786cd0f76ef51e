import Waywarden.Lib.Machine
import Waywarden.Services.ApprovalHook
import Waywarden.Services.AdversarialReview

/-!
# The approval services as one machine

`ApprovalEngine.request` and `resolve`, and the two routines that request approvals on their own,
`ApprovalHook.before_invoke` and `AdversarialReviewRoutine.review`, on one store.

`asked` is the pending record a call is going to save, computed from the call alone, since the
record's identity is derived from the run and the kind and the save looks at nothing stored.  The
two rules say what a call leaves in the approvals table and in the event log: `wp_asked` for the
calls that ask, `wp_resolved` for the one that resolves.
-/

namespace Waywarden

/-- A call of one of the approval services, with what it reads from the clock. -/
inductive ApprovalCall
  | request (env : Env) (runId approvalKind summary : String)
      (requestedCapability : Option String) (expiresAt : Option PyDatetime)
      (checkpointRef : Option String)
  | resolve (env : Env) (approvalId : String) (decision : ApprovalDecision)
  | beforeInvoke (hook : ApprovalHook) (env : Env) (runId toolId action summary : String)
  | review (R : Rendering) (policy : ToolPolicy) (env : Env) (input : AdversarialReviewInput)

/-- What a call returns. -/
inductive ApprovalReply
  | approval (a : Approval)
  | event (e : RunEvent)
  | gate (approvalId : Option String)
  | reviewed (result : AdversarialReviewResult)

/-- The ids of the approvals a reply says were requested. -/
def ApprovalReply.requested : ApprovalReply → List String
  | .approval a => [a.id.val]
  | .event _ => []
  | .gate approvalId => approvalId.toList
  | .reviewed result => result.approvalExplanation.approvalIds

namespace ApprovalCall

/-- The computation a call runs. -/
def perform : ApprovalCall → Session ApprovalReply
  | .request env runId kind summary cap expiresAt ref =>
      ApprovalReply.approval <$> ApprovalEngine.request env runId kind summary cap expiresAt ref
  | .resolve env id decision => ApprovalReply.event <$> ApprovalEngine.resolve env id decision
  | .beforeInvoke hook env runId toolId action summary =>
      ApprovalReply.gate <$> hook.beforeInvoke env runId toolId action summary
  | .review R policy env input =>
      ApprovalReply.reviewed <$> AdversarialReviewRoutine.review R policy env input

open AdversarialReviewRoutine in
/-- The record a review asks for that found something. -/
def reviewAsks (policy : ToolPolicy) (env : Env) (input : AdversarialReviewInput)
    (findings : List AdversarialFinding) : Option Approval :=
  if findings = [] then none
  else
    (ApprovalEngine.buildRequest input.runId "adversarial_review"
      (requestSummary findings (gateDecision findings (policyDecisions policy findings)))
      (some (requestedCapability findings)) none (env.now 0)).toOption

/-- The pending record a call is going to save, if its constructor accepts it. -/
def asked : ApprovalCall → Option Approval
  | .request env runId kind summary cap expiresAt _ =>
      (ApprovalEngine.buildRequest runId kind summary cap expiresAt (env.now 0)).toOption
  | .resolve .. => none
  | .beforeInvoke hook env runId toolId action summary =>
      if hook.toolPolicy.decision toolId action = .approvalRequired then
        (ApprovalEngine.buildRequest runId toolId summary (some toolId) none
          (env.now 0)).toOption
      else none
  | .review R policy env input =>
      (AdversarialReviewRoutine.detect R input).toOption.bind (reviewAsks policy env input)

/-- The approval a call resolves. -/
def resolves : ApprovalCall → Option String
  | .resolve _ id _ => some id
  | _ => none

end ApprovalCall

/-- The approval services on one store. -/
def approvalMachine : Machine Store ApprovalCall (Except PyError ApprovalReply) :=
  ⟨fun s c => c.perform s⟩

/-! ## Decision events -/

/-- The endings of the decision events' ids, each with the action its event carries. -/
def decisionKinds : List (String × String) :=
  [("-granted", "approve_decision"), ("-denied_abandon", "deny_decision"),
    ("-denied_alternate", "deny_alternate"), ("-timeout_retry", "timeout_retry"),
    ("-timeout", "timeout_noretry")]

/-- Whether an event records a decision of an approval. -/
def isDecisionOf (approvalId : String) (e : RunEvent) : Bool :=
  decisionKinds.any fun kind =>
    e.id == "evt-" ++ approvalId ++ kind.1 && e.causation.bind Causation.action == some kind.2

/-- The decision events stored for an approval. -/
def Store.decisionsOf (s : Store) (approvalId : String) : List RunEvent :=
  s.runEvents.filter (isDecisionOf approvalId)

/-- An event whose action belongs to no decision records none. -/
lemma isDecisionOf_of_action {approvalId action : String} {e : RunEvent}
    (h : e.causation.bind Causation.action = some action)
    (hne : action ∉ decisionKinds.map Prod.snd) : isDecisionOf approvalId e = false := by
  rw [isDecisionOf, List.any_eq_false]
  intro kind hkind hdec
  rw [Bool.and_eq_true, h, beq_iff_eq, beq_iff_eq] at hdec
  exact hne (List.mem_map.mpr ⟨kind, hkind, (Option.some.inj hdec.2).symm⟩)

/-- The action a decision's event carries. -/
def decisionAction : ApprovalDecision → String
  | .granted => "approve_decision"
  | .deniedAbandon _ => "deny_decision"
  | .deniedAlternatePath _ => "deny_alternate"
  | .timeout true => "timeout_retry"
  | .timeout false => "timeout_noretry"

lemma action_eventOf (d : ApprovalDecision) (a : Approval) (n : ℕ) (now : Timestamp) :
    (ApprovalEngine.eventOf d a n now).causation.bind Causation.action =
      some (decisionAction d) := by
  rcases d with _ | _ | _ | retryable
  case timeout => cases retryable <;> rfl
  all_goals rfl

/-- Each action names one ending. -/
lemma tag_of_action {d : ApprovalDecision} {kind : String × String} (hkind : kind ∈ decisionKinds)
    (h : decisionAction d = kind.2) : ApprovalEngine.decisionTag d = kind.1 := by
  simp only [decisionKinds, List.mem_cons, List.not_mem_nil, or_false] at hkind
  rcases d with _ | _ | _ | _ | _ <;> rcases hkind with rfl | rfl | rfl | rfl | rfl <;>
    first | rfl | simp [decisionAction] at h

/-- A decision's event records a decision of its own approval only. -/
lemma eq_of_isDecisionOf {approvalId : String} {d : ApprovalDecision} {a : Approval} {n : ℕ}
    {now : Timestamp} (h : isDecisionOf approvalId (ApprovalEngine.eventOf d a n now) = true) :
    approvalId = a.id.val := by
  rw [isDecisionOf, List.any_eq_true] at h
  obtain ⟨kind, hkind, hdec⟩ := h
  rw [Bool.and_eq_true, beq_iff_eq, beq_iff_eq, ApprovalEngine.eventOf_id, action_eventOf] at hdec
  have htag := tag_of_action hkind (Option.some.inj hdec.2)
  have hid := hdec.1
  rw [htag, ← String.toList_inj] at hid
  simp only [String.toList_append] at hid
  exact String.toList_inj.mp
    (List.append_cancel_left (List.append_cancel_right hid)).symm

lemma decisionsOf_push {s : Store} {e : RunEvent} {approvalId : String}
    (h : isDecisionOf approvalId e = false) :
    (s.push e).decisionsOf approvalId = s.decisionsOf approvalId := by
  simp [Store.decisionsOf, h]

lemma length_decisionsOf_push (s : Store) (e : RunEvent) (approvalId : String) :
    ((s.push e).decisionsOf approvalId).length ≤ (s.decisionsOf approvalId).length + 1 := by
  rw [Store.decisionsOf, Store.runEvents_push, List.filter_append, List.length_append]
  exact Nat.add_le_add_left (List.length_filter_le _ _) _

/-! ## What the calls leave -/

/-- The approvals table after a record, if any, was saved. -/
def Store.tableWith (s : Store) : Option Approval → List Approval
  | none => s.approvals
  | some a => (s.putApproval a).approvals

/-- What a call that asks for an approval leaves: the table with the record it saved, the same
decision events, every event that was there, and for each approval it returns a waiting event
that was not. -/
structure Asked (s : Store) (asked : Option Approval) (returned : List String) (s' : Store) :
    Prop where
  approvals : s'.approvals = s.tableWith asked
  decisions : ∀ id, s'.decisionsOf id = s.decisionsOf id
  events : ∀ eventId, s.hasEvent eventId = true → s'.hasEvent eventId = true
  waiting : ∀ id ∈ returned, s.hasEvent (ApprovalEngine.waitingEventId id) = false ∧
    s'.hasEvent (ApprovalEngine.waitingEventId id) = true
  single : returned.Nodup

section Rules

variable {s : Store} {asked : Option Approval} {returned : List String}

/-- A call that saves nothing and returns nothing. -/
lemma Asked.refl (s : Store) : Asked s none [] s :=
  ⟨rfl, fun _ => rfl, fun _ h => h, nofun, List.nodup_nil⟩

/-- A call that failed after it saved its record returns no approval. -/
lemma Asked.drop {s' : Store} (h : Asked s asked returned s') : Asked s asked [] s' :=
  ⟨h.approvals, h.decisions, h.events, nofun, List.nodup_nil⟩

/-- Events that record no decision may follow. -/
lemma Asked.push {s' : Store} (h : Asked s asked returned s') {e : RunEvent}
    (he : ∀ id, isDecisionOf id e = false) : Asked s asked returned (s'.push e) where
  approvals := h.approvals
  decisions id := by rw [decisionsOf_push (he id), h.decisions]
  events eventId hid := by rw [Store.hasEvent_push, h.events eventId hid, Bool.true_or]
  waiting id hid :=
    ⟨(h.waiting id hid).1, by rw [Store.hasEvent_push, (h.waiting id hid).2, Bool.true_or]⟩
  single := h.single

/-- **Requests.**  The record is saved if its constructor accepts it, and the approval is returned
once its waiting event is appended. -/
lemma wp_request_asked {env : Env} {runId kind summary : String} {cap : Option String}
    {expiresAt : Option PyDatetime} {checkpointRef : Option String} :
    Effect.wp (ApprovalEngine.request env runId kind summary cap expiresAt checkpointRef)
      (fun a => Asked s (ApprovalEngine.buildRequest runId kind summary cap expiresAt
        (env.now 0)).toOption [a.id.val])
      (fun _ => Asked s (ApprovalEngine.buildRequest runId kind summary cap expiresAt
        (env.now 0)).toOption []) s := by
  have saved : ∀ a, Asked s (some a) [] (s.putApproval a) :=
    fun a => ⟨rfl, fun _ => rfl, fun _ h => h, nofun, List.nodup_nil⟩
  refine ApprovalEngine.wp_request (fun e he => ?_) (fun a _ ha _ => ?_) (fun a ha _ hfresh => ?_)
  · rw [he]
    exact Asked.refl s
  · rw [ha]
    exact saved a
  · rw [ha]
    have hpushed : Asked s (some a) [] ((s.putApproval a).push (s.stamp
        (ApprovalEngine.waitingEvent a runId checkpointRef (s.latestSeq runId) (env.now 0)))) :=
      (saved a).push fun _ => isDecisionOf_of_action rfl (by decide)
    refine ⟨hpushed.approvals, hpushed.decisions, hpushed.events, fun id hid => ?_,
      List.nodup_singleton _⟩
    obtain rfl := List.mem_singleton.mp hid
    exact ⟨hfresh, by rw [Store.hasEvent_push]; simp [ApprovalEngine.waitingEvent]⟩

/-- Every call but a resolve asks for what `asked` says. -/
theorem wp_asked {c : ApprovalCall} (hc : c.resolves = none) :
    Effect.wp c.perform (fun reply => Asked s c.asked reply.requested)
      (fun _ => Asked s c.asked []) s := by
  cases c with
  | request env runId kind summary cap expiresAt ref =>
      rw [ApprovalCall.perform, Effect.wp_map]
      exact wp_request_asked
  | resolve env id decision => exact absurd hc (by simp [ApprovalCall.resolves])
  | beforeInvoke hook env runId toolId action summary =>
      rw [ApprovalCall.perform, Effect.wp_map]
      refine ApprovalHook.wp_beforeInvoke (fun hskip => ?_) (fun hreq => ?_)
      · rw [ApprovalCall.asked, if_neg hskip]
        exact ⟨Asked.refl s, fun _ => Asked.refl s⟩
      · rw [ApprovalCall.asked, if_pos hreq]
        exact wp_request_asked
  | review R policy env input =>
      rw [ApprovalCall.perform, Effect.wp_map]
      have hasked : ∀ findings, AdversarialReviewRoutine.detect R input = .ok findings →
          (ApprovalCall.review R policy env input).asked =
            ApprovalCall.reviewAsks policy env input findings := fun findings h => by
        rw [ApprovalCall.asked, h]
        rfl
      refine AdversarialReviewRoutine.wp_review (fun findings hfindings =>
          AdversarialReviewRoutine.wp_requestApproval (fun hnone => ?_) (fun hsome => ?_))
        (fun ids s' e h he => h.push fun _ => ?_) (fun e h => ?_) (fun _ _ _ h => h.drop)
        (fun _ _ h => h)
      · rw [hasked findings hfindings, ApprovalCall.reviewAsks, if_pos hnone]
        exact Asked.refl s
      · rw [hasked findings hfindings, ApprovalCall.reviewAsks, if_neg hsome]
        exact wp_request_asked
      · rw [ApprovalCall.asked, h]
        exact Asked.refl s
      · exact isDecisionOf_of_action he.2 (by decide)

/-- What `resolve` leaves: nothing new, or the decided record in place of a pending one, with or
without one event that records a decision of no other approval. -/
def Resolved (s : Store) (approvalId : String) (s' : Store) : Prop :=
  s' = s ∨ ∃ existing a, s.approval? approvalId = some existing ∧ existing.state = .pending ∧
    a.id.val = approvalId ∧ a.state ≠ .pending ∧
    (s' = s.putApproval a ∨ ∃ e, (∀ id, isDecisionOf id e = true → id = approvalId) ∧
      s' = (s.putApproval a).push e)

/-- **Resolutions.** -/
theorem wp_resolved {env : Env} {approvalId : String} {decision : ApprovalDecision} :
    Effect.wp (ApprovalCall.resolve env approvalId decision).perform
      (fun reply s' => reply.requested = [] ∧ Resolved s approvalId s')
      (fun _ => Resolved s approvalId) s := by
  rw [ApprovalCall.perform, Effect.wp_map]
  have decided : ∀ existing a, s.approval? approvalId = some existing →
      existing.decide decision.newState (env.now 0) = .ok a →
      a.id.val = approvalId ∧ a.state ≠ .pending := by
    intro existing a hrow ha
    obtain ⟨hid, -, -, -, hstate, -⟩ := Approval.fields_of_decide ha
    exact ⟨by rw [hid]; exact Store.id_of_approval? hrow,
      by rw [hstate]; exact decision.newState_ne_pending⟩
  refine ApprovalEngine.wp_resolve (fun _ _ => Or.inl rfl)
    (fun existing a _ hrow hpending ha _ => ?_) (fun existing a hrow hpending ha _ _ => ?_)
  · obtain ⟨hid, hstate⟩ := decided existing a hrow ha
    exact Or.inr ⟨existing, a, hrow, hpending, hid, hstate, Or.inl rfl⟩
  · obtain ⟨hid, hstate⟩ := decided existing a hrow ha
    refine ⟨rfl, Or.inr ⟨existing, a, hrow, hpending, hid, hstate,
      Or.inr ⟨_, fun id hdec => ?_, rfl⟩⟩⟩
    rw [← Store.id_of_approval? hrow]
    exact eq_of_isDecisionOf hdec

end Rules

end Waywarden

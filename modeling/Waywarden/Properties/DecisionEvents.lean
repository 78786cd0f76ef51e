import Waywarden.Services.ApprovalEngine
import Waywarden.System.RunMachine

/-!
# Decisions and their events

RT-002 maps each decision on an approval to an event, and says which fields the event is to carry.
`resolve` follows the mapping with one gap: the cancellation of an abandoned run does not say who
denied it, as `RunLifecycleService.cancel` does with `cancelled_by`.

`mapsCompletely_iff` lists what else can come between a pending approval of an open run and its
event: a decision stamped before the request, and an event id that is taken.
-/

namespace Waywarden

namespace ApprovalEngine

/-- The event a decision is to give, with the fields it is to carry. -/
def Mapped (approvalId : String) (e : RunEvent) : ApprovalDecision → Prop
  | .granted =>
      e.type = .runResumed ∧ e.payload.get "resume_kind" = some (.str "approval_granted") ∧
        e.payload.get "approval_id" = some (.str approvalId)
  | .deniedAlternatePath _ =>
      e.type = .runResumed ∧
        e.payload.get "resume_kind" = some (.str "approval_denied_alternate_path") ∧
        e.payload.get "approval_id" = some (.str approvalId)
  | .deniedAbandon _ =>
      e.type = .runCancelled ∧ e.payload.get "reason" = some (.str "approval_denied") ∧
        ∃ who, e.payload.get "cancelled_by" = some who
  | .timeout true =>
      e.type = .runFailed ∧ e.payload.get "failure_code" = some (.str "approval_timeout") ∧
        e.payload.get "retryable" = some (.bool true)
  | .timeout false =>
      e.type = .runCancelled ∧ e.payload.get "reason" = some (.str "approval_timeout")

/-- The decision is recorded, and what the record says besides is kept. -/
structure Recorded (existing : Approval) (d : ApprovalDecision) (a : Approval) : Prop where
  state : a.state = d.newState
  decidedAt : a.decidedAt.isSome = true
  id : a.id = existing.id
  runId : a.runId = existing.runId
  approvalKind : a.approvalKind = existing.approvalKind
  requestedCapability : a.requestedCapability = existing.requestedCapability
  summary : a.summary = existing.summary
  requestedAt : a.requestedAt = existing.requestedAt
  expiresAt : a.expiresAt = existing.expiresAt

/-- The approval is decided and its run's log has one more event, the one the decision maps to; no
other log changes. -/
structure MapsCompletely (existing : Approval) (d : ApprovalDecision) (s : Store) (e : RunEvent)
    (s' : Store) : Prop where
  recorded : ∃ a, s'.approval? existing.id = some a ∧ Recorded existing d a
  appended : s'.log existing.runId = s.log existing.runId ++ [e]
  mapped : Mapped existing.id e d
  others : ∀ runId, runId ≠ existing.runId.val → s'.log runId = s.log runId

/-- The decision abandons the run. -/
def Abandons (d : ApprovalDecision) : Prop := ∃ reason, d = .deniedAbandon reason

variable {s : Store} {existing a : Approval} {d : ApprovalDecision}

/-- **Which events are complete**: all but the cancellation of an abandoned run. -/
lemma mapped_eventOf_iff (n : ℕ) (now : Timestamp) :
    Mapped existing.id (s.stamp (eventOf d existing n now)) d ↔ ¬ Abandons d := by
  have hpayload : (s.stamp (eventOf d existing n now)).payload =
      (eventOf d existing n now).payload := rfl
  unfold Abandons
  cases d with
  | granted => exact iff_of_true ⟨rfl, rfl, rfl⟩ (by simp)
  | deniedAlternatePath note => exact iff_of_true ⟨rfl, rfl, rfl⟩ (by simp)
  | timeout retryable =>
      cases retryable with
      | true => exact iff_of_true ⟨rfl, rfl, rfl⟩ (by simp)
      | false => exact iff_of_true ⟨rfl, rfl⟩ (by simp)
  | deniedAbandon reason =>
      refine iff_of_false ?_ (by simp)
      rintro ⟨-, -, who, hwho⟩
      rw [hpayload] at hwho
      exact absurd hwho (by simp [eventOf, deniedAbandonEvent, decisionEvent, Mapping.get])

/-- A decided record keeps what it is to keep. -/
lemma recorded_of_decide {now : Timestamp} (h : existing.decide d.newState now = .ok a) :
    Recorded existing d a := by
  obtain ⟨hid, hrun, hkind, hsummary, hstate, hrequested, hdecided⟩ := Approval.fields_of_decide h
  obtain ⟨hcapability, hexpires⟩ := Approval.kept_of_decide h
  refine ⟨hstate, ?_, hid, hrun, hkind, hcapability, hsummary, hrequested, hexpires⟩
  rw [hdecided]
  rfl

/-- What an appended decision leaves in the logs and the records. -/
lemma mapsCompletely_push {now : Timestamp} {n : ℕ} (hd : ¬ Abandons d)
    (ha : existing.decide d.newState now = .ok a) :
    MapsCompletely existing d s (s.stamp (eventOf d existing n now))
      ((s.putApproval a).push (s.stamp (eventOf d existing n now))) := by
  have hrecorded := recorded_of_decide ha
  refine ⟨⟨a, ?_, hrecorded⟩, ?_, (mapped_eventOf_iff n now).mpr hd, fun runId hne => ?_⟩
  · rw [Store.approval?_push, ← hrecorded.id, Store.approval?_putApproval_self]
  · rw [Store.log_push, Store.stamp_runId, eventOf_runId, if_pos rfl]
    rfl
  · rw [Store.log_push, Store.stamp_runId, eventOf_runId, if_neg (Ne.symm hne)]
    rfl

/-- **When a decision is mapped completely**: exactly when it does not abandon the run, is not
stamped before the request, and finds its event's id free. -/
theorem mapsCompletely_iff (env : Env) (s : Store) (d : ApprovalDecision) (existing : Approval)
    (hrow : s.approval? existing.id = some existing) (hpending : existing.state = .pending)
    (hopen : s.settled existing.runId = false) :
    (∃ e s', resolve env existing.id d s = (.ok e, s') ∧ MapsCompletely existing d s e s') ↔
      ¬ Abandons d ∧ existing.requestedAt ≤ env.now 0 ∧
        s.hasEvent ("evt-" ++ existing.id.val ++ decisionTag d) = false := by
  constructor
  · rintro ⟨e, s', hrun, hmaps⟩
    have hresolved : Effect.wp (resolve env existing.id d)
        (fun e _ => existing.requestedAt ≤ env.now 0 ∧
          s.hasEvent ("evt-" ++ existing.id.val ++ decisionTag d) = false ∧
          e = s.stamp (eventOf d existing (s.latestSeq existing.runId) (env.now 0)))
        (fun _ _ => True) s := by
      refine wp_resolve (fun _ _ => trivial) (fun _ _ _ _ _ _ _ => trivial) ?_
      intro existing' a hrow' _ ha _ hfresh
      obtain rfl := Option.some.inj (hrow.symm.trans hrow')
      exact ⟨Approval.requestedAt_le_of_decide ha, hfresh, rfl⟩
    obtain ⟨hnow, hfresh, rfl⟩ := hresolved.of_ok hrun
    exact ⟨(mapped_eventOf_iff _ _).mp hmaps.mapped, hnow, hfresh⟩
  · rintro ⟨hd, hnow, hfresh⟩
    obtain ⟨a, ha, hresolve⟩ : ∃ a, existing.decide d.newState (env.now 0) = .ok a ∧
        (Effect.wp (resolve env existing.id d) (MapsCompletely existing d s) (fun _ _ => False) s ↔
          MapsCompletely existing d s _ _) :=
      wp_resolve_of_pending hrow hpending hnow hopen hfresh
    have hwp := hresolve.mpr (mapsCompletely_push hd ha)
    rcases hrun : resolve env existing.id d s with ⟨err | e, s'⟩
    · exact absurd (hwp.of_error hrun) id
    · exact ⟨e, s', rfl, hwp.of_ok hrun⟩

/-- The sample run after a request for approval. -/
def waitingStore : Store :=
  (request stillEnv "run-t1" "deploy" "Deploy?" none none none startedStore).2

/-- The approval requested of the sample run. -/
def sampleApproval : Approval where
  id := .lit "approval-run-t1-deploy"
  runId := sampleRun.id
  approvalKind := .lit "deploy"
  requestedCapability := none
  summary := .lit "Deploy?"
  state := .pending
  requestedAt := 0
  decidedAt := none
  decidedBy := none
  expiresAt := none
  decided_after := by simp
  pending_undecided := by simp
  decided_stamped := by simp

/-- The sample approval is pending, and its run goes on. -/
lemma sampleApproval_pending : waitingStore.approval? sampleApproval.id = some sampleApproval ∧
    sampleApproval.state = .pending ∧ waitingStore.settled sampleApproval.runId = false := by
  decide +kernel

/-- The sample approval, granted. -/
theorem mapsCompletely_granted : ∃ e s',
    resolve stillEnv sampleApproval.id .granted waitingStore = (.ok e, s') ∧
      MapsCompletely sampleApproval .granted waitingStore e s' :=
  (mapsCompletely_iff stillEnv waitingStore .granted sampleApproval sampleApproval_pending.1
    sampleApproval_pending.2.1 sampleApproval_pending.2.2).mpr
    ⟨by simp [Abandons], by decide, by decide +kernel⟩

/-- The sample approval, denied: the run is cancelled, and nobody has done it. -/
theorem not_mapsCompletely_abandon :
    (waitingStore.approval? sampleApproval.id = some sampleApproval ∧
      sampleApproval.state = .pending ∧ waitingStore.settled sampleApproval.runId = false) ∧
    ¬ ∃ e s', resolve stillEnv sampleApproval.id (.deniedAbandon "no") waitingStore = (.ok e, s') ∧
      MapsCompletely sampleApproval (.deniedAbandon "no") waitingStore e s' := by
  refine ⟨sampleApproval_pending, ?_⟩
  rintro ⟨e, s', hrun, hmaps⟩
  obtain ⟨-, -, who, hwho⟩ := hmaps.mapped
  have hnobody :
      (resolve stillEnv sampleApproval.id (.deniedAbandon "no") waitingStore).1.toOption.map
        (fun e => (e.payload.get "cancelled_by").isSome) = some false := by
    decide +kernel
  rw [hrun] at hnobody
  have hnone : (e.payload.get "cancelled_by").isSome = false := Option.some.inj hnobody
  rw [hwho] at hnone
  exact absurd hnone (by simp)

end ApprovalEngine

end Waywarden

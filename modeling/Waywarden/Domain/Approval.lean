import Waywarden.Domain.Basic

/-!
# Approvals

`waywarden.domain.approval`: the persisted approval record.  The constructor's coherence checks
are fields of the structure: a pending record carries no decision, a decided one carries the
instant of its decision, and no decision precedes its request.
-/

namespace Waywarden

/-- `ApprovalState`. -/
inductive ApprovalState
  | pending
  | granted
  | denied
  | timeout
  deriving DecidableEq, Repr

/-- `Approval`. -/
structure Approval where
  id : Text
  runId : Text
  approvalKind : Text
  requestedCapability : Option Text
  summary : Text
  state : ApprovalState
  requestedAt : Timestamp
  decidedAt : Option Timestamp
  decidedBy : Option Text
  expiresAt : Option Timestamp
  decided_after : ∀ t ∈ decidedAt, requestedAt ≤ t
  pending_undecided : state = .pending → decidedAt = none ∧ decidedBy = none
  decided_stamped : state ≠ .pending → decidedAt.isSome = true
  deriving DecidableEq, Repr

/-- The `Approval` constructor. -/
def Approval.new (id runId approvalKind : String) (requestedCapability : Option String)
    (summary : String) (state : ApprovalState) (requestedAt : Timestamp)
    (decidedAt : Option Timestamp) (decidedBy : Option String)
    (expiresAt : Option PyDatetime) : Except PyError Approval := do
  let id ← requireNonEmptyText id "id"
  let runId ← requireNonEmptyText runId "run_id"
  let approvalKind ← requireNonEmptyText approvalKind "approval_kind"
  let requestedCapability ← requireOptionalText requestedCapability "requested_capability"
  let summary ← requireNonEmptyText summary "summary"
  if hd : ∃ t ∈ decidedAt, t < requestedAt then
    .error ⟨.valueError, "decided_at must not be before requested_at", []⟩
  else
    let decidedBy ← requireOptionalText decidedBy "decided_by"
    let expiresAt ← normalizeOptionalUtcDatetime expiresAt "expires_at"
    if hp : state = .pending then
      if hu : decidedAt = none ∧ decidedBy = none then
        .ok {
          id, runId, approvalKind, requestedCapability, summary, state, requestedAt, decidedAt,
          decidedBy, expiresAt
          decided_after := fun t ht => Int.not_lt.mp fun h => hd ⟨t, ht, h⟩
          pending_undecided := fun _ => hu
          decided_stamped := fun h => absurd hp h }
      else
        .error ⟨.valueError, "pending approvals must not have decided_at or decided_by", []⟩
    else if hs : decidedAt.isSome = true then
      .ok {
        id, runId, approvalKind, requestedCapability, summary, state, requestedAt, decidedAt,
        decidedBy, expiresAt
        decided_after := fun t ht => Int.not_lt.mp fun h => hd ⟨t, ht, h⟩
        pending_undecided := fun h => absurd h hp
        decided_stamped := fun _ => hs }
    else
      .error ⟨.valueError, "decided_at must be set once approval state is not pending", []⟩

/-- The fields of a constructed approval: the texts are stripped, the rest is kept. -/
lemma Approval.fields_of_new {id runId approvalKind : String} {cap : Option String}
    {summary : String} {state : ApprovalState} {requestedAt : Timestamp}
    {decidedAt : Option Timestamp} {decidedBy : Option String} {expiresAt : Option PyDatetime}
    {a : Approval}
    (h : Approval.new id runId approvalKind cap summary state requestedAt decidedAt decidedBy
      expiresAt = .ok a) :
    a.id.val = strip id ∧ a.runId.val = strip runId ∧ a.approvalKind.val = strip approvalKind ∧
      a.summary.val = strip summary ∧ a.state = state ∧ a.requestedAt = requestedAt ∧
      a.decidedAt = decidedAt := by
  simp only [Approval.new, Effect.except_bind_eq_ok] at h
  obtain ⟨tid, hid, trun, hrun, tkind, hkind, tcap, -, tsum, hsum, h⟩ := h
  split at h
  · exact absurd h (by simp)
  · simp only [Effect.except_bind_eq_ok] at h
    obtain ⟨tby, -, texp, -, h⟩ := h
    have htexts := And.intro (val_of_requireNonEmptyText hid)
      (And.intro (val_of_requireNonEmptyText hrun)
        (And.intro (val_of_requireNonEmptyText hkind) (val_of_requireNonEmptyText hsum)))
    split at h
    · split at h
      · obtain rfl := Except.ok.inj h
        exact ⟨htexts.1, htexts.2.1, htexts.2.2.1, htexts.2.2.2, rfl, rfl, rfl⟩
      · exact absurd h (by simp)
    · split at h
      · obtain rfl := Except.ok.inj h
        exact ⟨htexts.1, htexts.2.1, htexts.2.2.1, htexts.2.2.2, rfl, rfl, rfl⟩
      · exact absurd h (by simp)

/-- A stored approval passes its own constructor unchanged. -/
lemma Approval.new_fields (a : Approval) :
    Approval.new a.id a.runId a.approvalKind (a.requestedCapability.map Subtype.val) a.summary
      a.state a.requestedAt a.decidedAt (a.decidedBy.map Subtype.val)
      (a.expiresAt.map .aware) = .ok a := by
  have hexp : normalizeOptionalUtcDatetime (a.expiresAt.map .aware) "expires_at" =
      .ok a.expiresAt := by
    cases a.expiresAt <;> rfl
  have hafter : ¬ ∃ t ∈ a.decidedAt, t < a.requestedAt := by
    rintro ⟨t, ht, hlt⟩
    exact absurd (a.decided_after t ht) (Int.not_le.mpr hlt)
  simp only [Approval.new, requireNonEmptyText_val, requireOptionalText_map_val, hexp,
    bind, Except.bind, dif_neg hafter]
  by_cases hp : a.state = .pending
  · rw [dif_pos hp, dif_pos (a.pending_undecided hp)]
  · rw [dif_neg hp, dif_pos (a.decided_stamped hp)]

/-- `existing` re-built with a decision, as `ApprovalEngine.resolve` does. -/
def Approval.decide (existing : Approval) (state : ApprovalState) (now : Timestamp) :
    Except PyError Approval :=
  Approval.new existing.id existing.runId existing.approvalKind
    (existing.requestedCapability.map Subtype.val) existing.summary state existing.requestedAt
    (some now) (existing.decidedBy.map Subtype.val) (existing.expiresAt.map .aware)

/-- A decision replaces the state and the decision instant and keeps the record's identity. -/
lemma Approval.fields_of_decide {existing a : Approval} {state : ApprovalState}
    {now : Timestamp} (h : existing.decide state now = .ok a) :
    a.id = existing.id ∧ a.runId = existing.runId ∧ a.approvalKind = existing.approvalKind ∧
      a.summary = existing.summary ∧ a.state = state ∧ a.requestedAt = existing.requestedAt ∧
      a.decidedAt = some now := by
  obtain ⟨hid, hrun, hkind, hsum, hstate, hreq, hdec⟩ := Approval.fields_of_new h
  exact ⟨Subtype.ext (hid.trans existing.id.property.1),
    Subtype.ext (hrun.trans existing.runId.property.1),
    Subtype.ext (hkind.trans existing.approvalKind.property.1),
    Subtype.ext (hsum.trans existing.summary.property.1), hstate, hreq, hdec⟩

/-- A decision keeps what the record asks for and until when. -/
lemma Approval.kept_of_decide {existing a : Approval} {state : ApprovalState} {now : Timestamp}
    (h : existing.decide state now = .ok a) :
    a.requestedCapability = existing.requestedCapability ∧ a.expiresAt = existing.expiresAt := by
  have hexp : normalizeOptionalUtcDatetime (existing.expiresAt.map .aware) "expires_at" =
      .ok existing.expiresAt := by
    cases existing.expiresAt <;> rfl
  unfold Approval.decide Approval.new at h
  simp only [requireNonEmptyText_val, requireOptionalText_map_val, hexp, bind, Except.bind] at h
  split at h
  · exact absurd h (by simp)
  · split at h
    · split at h
      · obtain rfl := Except.ok.inj h
        exact ⟨rfl, rfl⟩
      · exact absurd h (by simp)
    · split at h
      · obtain rfl := Except.ok.inj h
        exact ⟨rfl, rfl⟩
      · exact absurd h (by simp)

/-- A stored approval takes any decision not stamped before its request. -/
lemma Approval.decide_of_le {existing : Approval} {state : ApprovalState} {now : Timestamp}
    (hstate : state ≠ .pending) (hnow : existing.requestedAt ≤ now) :
    ∃ a, existing.decide state now = .ok a := by
  have hexp : normalizeOptionalUtcDatetime (existing.expiresAt.map .aware) "expires_at" =
      .ok existing.expiresAt := by
    cases existing.expiresAt <;> rfl
  have hafter : ¬ ∃ t ∈ some now, t < existing.requestedAt := by
    rintro ⟨t, ht, hlt⟩
    obtain rfl := Option.some.inj ht
    exact absurd hnow (Int.not_le.mpr hlt)
  rw [Approval.decide]
  simp only [Approval.new, requireNonEmptyText_val, requireOptionalText_map_val, hexp,
    bind, Except.bind, dif_neg hafter, dif_neg hstate, Option.isSome_some, dite_true]
  exact ⟨_, rfl⟩

/-- A decision is not stamped before its request. -/
lemma Approval.requestedAt_le_of_decide {existing a : Approval} {state : ApprovalState}
    {now : Timestamp} (h : existing.decide state now = .ok a) : existing.requestedAt ≤ now := by
  obtain ⟨-, -, -, -, -, hreq, hdec⟩ := Approval.fields_of_decide h
  rw [← hreq]
  exact a.decided_after now hdec

end Waywarden

import Waywarden.System.ApprovalMachine

/-!
# Finality of approval decisions

A decided approval should stay as it was decided.  `resolve` respects this: it refuses a record
that is not pending.  `request` does not look: it saves a pending record under the id derived from
the run and the kind, whatever that id already holds.  So a second request for the same run and
kind, which the hook makes for every use of a tool and the review routine for every checkpoint,
turns a decided record back into a pending one (and only then fails on its event's id).

`Reopens` names those calls, and `approvalsFinal_iff` says that a run has the property exactly
when it makes none of them.  What does not depend on them is that no approval id is returned
twice: the waiting event's id is a primary key.
-/

namespace Waywarden

open Machine

/-- A transition of the approval services. -/
abbrev ApprovalTransition : Type := Transition Store ApprovalCall (Except PyError ApprovalReply)

/-- Every decided record keeps its state, its decision instant, its summary and its request
instant. -/
def KeepsDecided (s s' : Store) : Prop :=
  ∀ id a, s.approval? id = some a → a.state ≠ .pending →
    ∃ a', s'.approval? id = some a' ∧ a'.state = a.state ∧ a'.decidedAt = a.decidedAt ∧
      a'.summary = a.summary ∧ a'.requestedAt = a.requestedAt

/-- The approvals a transition returns as requested. -/
def requestedBy (t : ApprovalTransition) : List String :=
  match t.reply with
  | .ok reply => reply.requested
  | .error _ => []

/-- Decisions are final along a run: no transition changes a decided record, no two requests
return the same approval, and at most one decision event is appended for an approval. -/
structure ApprovalsFinal (s : Store) (calls : List ApprovalCall) : Prop where
  kept : ∀ t ∈ approvalMachine.trace s calls, KeepsDecided t.before t.after
  fresh : ((approvalMachine.trace s calls).flatMap requestedBy).Nodup
  once : ∀ id, ((approvalMachine.run s calls).decisionsOf id).length ≤
    (s.decisionsOf id).length + 1

/-- The call is going to save a pending record over a decided one. -/
def ApprovalCall.Reopens (s : Store) (c : ApprovalCall) : Prop :=
  ∃ a existing, c.asked = some a ∧ s.approval? a.id = some existing ∧ existing.state ≠ .pending

/-! ## One call -/

variable {s : Store} {c : ApprovalCall}

/-- A record about to be saved is pending. -/
lemma pending_of_asked {a : Approval} (h : c.asked = some a) : a.state = .pending := by
  have built : ∀ {runId kind summary : String} {cap : Option String}
      {expiresAt : Option PyDatetime} {now : Timestamp},
      (ApprovalEngine.buildRequest runId kind summary cap expiresAt now).toOption = some a →
        a.state = .pending := by
    intro runId kind summary cap expiresAt now h
    cases hb : ApprovalEngine.buildRequest runId kind summary cap expiresAt now with
    | error e =>
        rw [hb] at h
        exact absurd h (by simp [Except.toOption])
    | ok b =>
        rw [hb] at h
        obtain rfl := Option.some.inj h
        exact (Approval.fields_of_new hb).2.2.2.2.1
  cases c with
  | request env runId kind summary cap expiresAt ref =>
      rw [ApprovalCall.asked] at h
      exact built h
  | resolve env id decision => exact absurd h (by simp [ApprovalCall.asked])
  | beforeInvoke hook env runId toolId action summary =>
      rw [ApprovalCall.asked] at h
      split at h
      · exact built h
      · exact absurd h (by simp)
  | review R policy env input =>
      rw [ApprovalCall.asked, Option.bind_eq_some_iff] at h
      obtain ⟨findings, -, h⟩ := h
      rw [ApprovalCall.reviewAsks] at h
      split at h
      · exact absurd h (by simp)
      · exact built h

/-- A call that resolves asks for nothing. -/
lemma asked_of_resolves {id : String} (h : c.resolves = some id) : c.asked = none := by
  cases c with
  | resolve env id decision => rfl
  | request | beforeInvoke | review => exact absurd h nofun

/-- What a call that asks leaves in the store. -/
lemma asked_next (hc : c.resolves = none) : Asked s c.asked [] (approvalMachine.next s c) :=
  ((wp_asked hc).mono (fun _ _ h => h.drop) fun _ _ h => h).state

/-- What a call that resolves leaves in the store. -/
lemma resolved_next {id : String} (hc : c.resolves = some id) :
    Resolved s id (approvalMachine.next s c) := by
  cases c with
  | resolve env id' decision =>
      obtain rfl := Option.some.inj hc
      exact (wp_resolved.mono (fun _ _ h => h.2) fun _ _ h => h).state
  | request | beforeInvoke | review => exact absurd hc nofun

lemma Asked.approval?_none {s' : Store} {returned : List String}
    (h : Asked s none returned s') (id : String) : s'.approval? id = s.approval? id := by
  rw [Store.approval?, h.approvals]
  rfl

lemma Asked.approval?_some {s' : Store} {a : Approval} {returned : List String}
    (h : Asked s (some a) returned s') (id : String) :
    s'.approval? id = (s.putApproval a).approval? id := by
  rw [Store.approval?, h.approvals]
  rfl

/-- Resolving keeps every decided record as it is. -/
lemma keepsDecided_of_resolved {s' : Store} {id : String} (h : Resolved s id s') :
    KeepsDecided s s' := by
  intro id' a ha hdecided
  refine ⟨a, ?_, rfl, rfl, rfl, rfl⟩
  rcases h with rfl | ⟨existing, b, hrow, hpending, hid, -, hs'⟩
  · exact ha
  · have hne : id' ≠ b.id.val := by
      rintro rfl
      rw [hid] at ha
      obtain rfl := Option.some.inj (hrow.symm.trans ha)
      exact hdecided hpending
    rcases hs' with rfl | ⟨e, -, rfl⟩
    · rw [Store.approval?_putApproval_ne s b hne, ha]
    · rw [Store.approval?_push, Store.approval?_putApproval_ne s b hne, ha]

/-- **Exactly the reopening calls change a decided record.** -/
theorem keepsDecided_next_iff : KeepsDecided s (approvalMachine.next s c) ↔ ¬ c.Reopens s := by
  constructor
  · rintro hkept ⟨a, existing, hasked, hrow, hdecided⟩
    have hc : c.resolves = none := by
      cases hres : c.resolves with
      | none => rfl
      | some id => exact absurd (hasked.symm.trans (asked_of_resolves hres)) (by simp)
    have hnext : Asked s c.asked [] (approvalMachine.next s c) := asked_next hc
    rw [hasked] at hnext
    obtain ⟨a', ha', hstate, -⟩ := hkept a.id existing hrow hdecided
    rw [hnext.approval?_some] at ha'
    obtain rfl := Option.some.inj ((Store.approval?_putApproval_self s a).symm.trans ha')
    exact hdecided (hstate.symm.trans (pending_of_asked hasked))
  · intro hnot
    cases hres : c.resolves with
    | some id => exact keepsDecided_of_resolved (resolved_next hres)
    | none =>
        intro id a ha hdecided
        refine ⟨a, ?_, rfl, rfl, rfl, rfl⟩
        have hnext : Asked s c.asked [] (approvalMachine.next s c) := asked_next hres
        cases hasked : c.asked with
        | none =>
            rw [hasked] at hnext
            rw [hnext.approval?_none, ha]
        | some b =>
            rw [hasked] at hnext
            have hne : id ≠ b.id.val := by
              rintro rfl
              exact hnot ⟨b, a, hasked, ha, hdecided⟩
            rw [hnext.approval?_some, Store.approval?_putApproval_ne s b hne, ha]

/-! ## Fresh ids -/

/-- No call removes an event. -/
lemma hasEvent_next (s : Store) (c : ApprovalCall) (eventId : String)
    (h : s.hasEvent eventId = true) : (approvalMachine.next s c).hasEvent eventId = true := by
  cases hres : c.resolves with
  | none => exact (asked_next hres).events eventId h
  | some id =>
      rcases resolved_next hres with heq | ⟨_, _, -, -, -, -, heq | ⟨e, -, heq⟩⟩
      · rw [heq, h]
      · rw [heq, Store.hasEvent_putApproval, h]
      · rw [heq, Store.hasEvent_push, Store.hasEvent_putApproval, h, Bool.true_or]

/-- The approvals one call returns are distinct, and their waiting events are new. -/
lemma requested_transition (s : Store) (c : ApprovalCall) :
    (requestedBy (approvalMachine.transition s c)).Nodup ∧
      ∀ id ∈ requestedBy (approvalMachine.transition s c),
        s.hasEvent (ApprovalEngine.waitingEventId id) = false ∧
          (approvalMachine.next s c).hasEvent (ApprovalEngine.waitingEventId id) = true := by
  rcases hstep : c.perform s with ⟨e | reply, s'⟩
  · have hreply : (approvalMachine.transition s c).reply = .error e := congrArg Prod.fst hstep
    rw [requestedBy, hreply]
    exact ⟨List.nodup_nil, nofun⟩
  · have hreply : (approvalMachine.transition s c).reply = .ok reply := congrArg Prod.fst hstep
    have hnext : approvalMachine.next s c = s' := congrArg Prod.snd hstep
    rw [requestedBy, hreply, hnext]
    cases hres : c.resolves with
    | none =>
        have hasked := (wp_asked hres).of_ok hstep
        exact ⟨hasked.single, hasked.waiting⟩
    | some id =>
        have hnone : reply.requested = [] := by
          cases c with
          | resolve env id' decision => exact (wp_resolved.of_ok hstep).1
          | request | beforeInvoke | review => exact absurd hres nofun
        simp only [hnone]
        exact ⟨List.nodup_nil, nofun⟩

/-- **No approval id is returned twice**, whatever is called. -/
theorem requested_nodup (s : Store) (calls : List ApprovalCall) :
    ((approvalMachine.trace s calls).flatMap requestedBy).Nodup := by
  -- an id is marked by its waiting event, which no call removes
  refine approvalMachine.nodup_marks requestedBy
    (fun s id => s.hasEvent (ApprovalEngine.waitingEventId id) = true) ?_ ?_ ?_ s calls
  · intro s c id hid
    obtain ⟨hbefore, hafter⟩ := (requested_transition s c).2 id hid
    exact ⟨Bool.eq_false_iff.mp hbefore, hafter⟩
  · intro s c id
    exact hasEvent_next s c (ApprovalEngine.waitingEventId id)
  · intro s c
    exact (requested_transition s c).1

/-! ## One decision event -/

/-- Whether an approval has been decided. -/
def Store.decided (s : Store) (id : String) : Bool :=
  (s.approval? id).any fun a => a.state ≠ .pending

/-- The decision events of an approval, and one more as long as it is not decided. -/
def decisionCredit (s : Store) (id : String) : ℕ :=
  (s.decisionsOf id).length + if s.decided id then 0 else 1

lemma decided_iff {id : String} :
    s.decided id = true ↔ ∃ a, s.approval? id = some a ∧ a.state ≠ .pending := by
  simp [Store.decided, Option.any_eq_true]

/-- A decided approval stays decided when decided records are kept. -/
lemma decided_of_keepsDecided {s' : Store} (h : KeepsDecided s s') {id : String}
    (hd : s.decided id = true) : s'.decided id = true := by
  obtain ⟨a, ha, hdecided⟩ := decided_iff.mp hd
  obtain ⟨a', ha', hstate, -⟩ := h id a ha hdecided
  exact decided_iff.mpr ⟨a', ha', by rw [hstate]; exact hdecided⟩

/-- The credit does not grow when no decision event is appended and decided records are kept. -/
lemma decisionCredit_le_of_eq {s' : Store} (h : KeepsDecided s s') {id : String}
    (heq : s'.decisionsOf id = s.decisionsOf id) : decisionCredit s' id ≤ decisionCredit s id := by
  rw [decisionCredit, decisionCredit, heq]
  refine Nat.add_le_add_left ?_ _
  by_cases hd : s.decided id = true
  · rw [if_pos hd, if_pos (decided_of_keepsDecided h hd)]
  · rw [if_neg hd]
    split <;> omega

/-- **One step.**  A call that reopens nothing never adds to the credit: the one decision event a
pending approval may still get is paid for by its decision. -/
lemma decisionCredit_next (h : ¬ c.Reopens s) (id : String) :
    decisionCredit (approvalMachine.next s c) id ≤ decisionCredit s id := by
  have hkept := keepsDecided_next_iff.mpr h
  cases hres : c.resolves with
  | none => exact decisionCredit_le_of_eq hkept ((asked_next hres).decisions id)
  | some approvalId =>
      rcases resolved_next hres with heq | ⟨existing, a, hrow, hpending, hid, hdecided, hs'⟩
      · rw [heq]
      · rcases hs' with heq | ⟨e, he, heq⟩
        · exact decisionCredit_le_of_eq hkept (by rw [heq]; rfl)
        · by_cases happroval : id = approvalId
          · have hbefore : s.decided id = false := by
              rw [happroval, Store.decided, hrow]
              simp [hpending]
            have hafter : (approvalMachine.next s c).decided id = true := by
              refine decided_iff.mpr ⟨a, ?_, hdecided⟩
              rw [heq, Store.approval?_push, happroval, ← hid, Store.approval?_putApproval_self]
            rw [decisionCredit, decisionCredit, if_pos hafter, hbefore, heq]
            exact length_decisionsOf_push (s.putApproval a) e id
          · apply decisionCredit_le_of_eq hkept
            rw [heq, decisionsOf_push (Bool.not_eq_true _ ▸ fun hdec => happroval (he id hdec))]
            rfl

/-! ## Runs -/

/-- **Finality, exactly.**  Along a run decisions are final if and only if no call of it reopens a
decided approval. -/
theorem approvalsFinal_iff (s : Store) (calls : List ApprovalCall) :
    ApprovalsFinal s calls ↔ approvalMachine.Meets (fun s c => ¬ c.Reopens s) s calls := by
  rw [approvalMachine.meets_iff_trace]
  constructor
  · intro h t ht
    obtain ⟨pre, post, hsplit⟩ := List.append_of_mem ht
    obtain ⟨cs₁, c, cs₂, -, -, rfl, -⟩ := approvalMachine.trace_mid hsplit
    exact keepsDecided_next_iff.mp (h.kept _ ht)
  · intro h
    refine ⟨fun t ht => ?_, requested_nodup s calls, fun id => ?_⟩
    · obtain ⟨pre, post, hsplit⟩ := List.append_of_mem ht
      obtain ⟨cs₁, c, cs₂, -, -, rfl, -⟩ := approvalMachine.trace_mid hsplit
      exact keepsDecided_next_iff.mpr (h _ ht)
    · have hcredit : decisionCredit (approvalMachine.run s calls) id ≤ decisionCredit s id :=
        approvalMachine.invariant (I := fun s' => decisionCredit s' id ≤ decisionCredit s id)
          (fun s' c hs' hc => (decisionCredit_next hc id).trans hs') (le_refl _)
          (approvalMachine.meets_iff_trace.mpr h)
      calc ((approvalMachine.run s calls).decisionsOf id).length
          ≤ decisionCredit (approvalMachine.run s calls) id := Nat.le_add_right _ _
        _ ≤ decisionCredit s id := hcredit
        _ ≤ (s.decisionsOf id).length + 1 := by
            rw [decisionCredit]
            split <;> omega

/-- A granted approval becomes pending again when the same gate is requested a second time. -/
theorem not_approvalsFinal_second_request :
    ¬ ApprovalsFinal Store.empty
      [.request stillEnv "run-t1" "deploy" "Deploy?" none none none,
        .resolve stillEnv "approval-run-t1-deploy" .granted,
        .request stillEnv "run-t1" "deploy" "Deploy again?" none none none] := by
  intro h
  have hkept := h.kept _ (List.mem_cons_of_mem _ (List.mem_cons_of_mem _ List.mem_cons_self))
  have hstill := @decided_of_keepsDecided _ _ hkept "approval-run-t1-deploy" (by decide)
  exact absurd hstill (by decide)

end Waywarden

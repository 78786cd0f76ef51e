import Waywarden.Lib.Delimited
import Waywarden.System.TaskMachine

/-!
# Isolation of approval gates

A gate is a run and an approval kind; the task service adds a task.  The record of a gate is
stored under an id that lays these texts end to end with a dash between them, and a dash may occur
in each of them.  So the id does not always say which gate it belongs to: two gates share an id
exactly when one is the other with a dash moved from one text to the next, and then a request for
the one replaces the record of the other.

For all other gates the operations are isolated: no operation on the one writes the record of the
other, and none reads it, in the sense that it does the same in two stores which differ in that
record only.
-/

namespace Waywarden

/-! ## Texts with a dash between them -/

/-- The second pair is the first with the dash between the two texts read later: `a'` starts with
`a` and a dash, and what it takes is missing from the front of `b'`. -/
def DashMoved (a b a' b' : String) : Prop :=
  ∃ x : String, a' = a ++ "-" ++ x ∧ b = x ++ "-" ++ b'

lemma toList_dash (a b : String) :
    (a ++ "-" ++ b).toList = Delimited.join '-' a.toList b.toList := by
  rw [String.toList_append, String.toList_append, List.append_assoc]
  rfl

lemma dashMoved_iff {a b a' b' : String} :
    DashMoved a b a' b' ↔ Delimited.Shifts '-' a.toList b.toList a'.toList b'.toList := by
  constructor
  · rintro ⟨x, rfl, rfl⟩
    exact ⟨x.toList, toList_dash a x, toList_dash x b'⟩
  · rintro ⟨x, ha, hb⟩
    refine ⟨String.ofList x, String.toList_inj.mp ?_, String.toList_inj.mp ?_⟩
    · rw [ha, toList_dash, String.toList_ofList]
    · rw [hb, toList_dash, String.toList_ofList]

/-- Two texts with a dash between them give the same string exactly when they are the same two
texts, or one pair is the other with the dash moved. -/
lemma dash_eq_iff {a b a' b' : String} : a ++ "-" ++ b = a' ++ "-" ++ b' ↔
    (a = a' ∧ b = b') ∨ DashMoved a b a' b' ∨ DashMoved a' b' a b := by
  rw [← String.toList_inj, toList_dash, toList_dash, Delimited.join_eq_iff, dashMoved_iff,
    dashMoved_iff, String.toList_inj, String.toList_inj]

/-! ## Computations that leave a record alone -/

/-- The stores agree on everything but the approval with a given id. -/
structure AgreeOff (id : String) (s s' : Store) : Prop where
  runs : s.runs = s'.runs
  events : s.runEvents = s'.runEvents
  tasks : s.tasks = s'.tasks
  approvals : ∀ other, other ≠ id → s.approval? other = s'.approval? other

/-- The computation neither reads nor writes the approval with a given id. -/
structure Isolated {α : Type} (x : Session α) (id : String) : Prop where
  unread : Effect.Respects (AgreeOff id) x
  unwritten : ∀ s, (x s).2.approval? id = s.approval? id

section Reading

variable {id : String}

lemma respects_append (event : RunEvent) :
    Effect.Respects (AgreeOff id) (RunEventRepository.append event) :=
  RunEventRepository.respects_append (fun _ _ h => h.runs) (fun _ _ h => h.events)
    (fun e _ _ h => ⟨h.runs, congrArg (· ++ [e]) h.events, h.tasks, h.approvals⟩) event

lemma respects_latestSeq (runId : String) :
    Effect.Respects (AgreeOff id) (RunEventRepository.latestSeq runId) :=
  Effect.respects_gets fun s s' h => by
    simp only [Store.latestSeq, Store.log, h.events]

/-- Saving a record does not read the one it replaces. -/
lemma respects_save (a : Approval) : Effect.Respects (AgreeOff id) (ApprovalRepository.save a) := by
  refine (Effect.respects_modify fun s s' h => ?_).bind fun _ => Effect.respects_pure a
  refine ⟨h.runs, h.events, h.tasks, fun other hother => ?_⟩
  by_cases hsame : other = a.id.val
  · rw [hsame, Store.approval?_putApproval_self, Store.approval?_putApproval_self]
  · rw [Store.approval?_putApproval_ne s a hsame, Store.approval?_putApproval_ne s' a hsame,
      h.approvals other hother]

/-- Looking up another id does not read the record. -/
lemma respects_get {other : String} (h : other ≠ id) :
    Effect.Respects (AgreeOff id) (ApprovalRepository.get other) := by
  refine (Effect.respects_gets fun s s' hs => hs.approvals other h).bind fun found => ?_
  cases found with
  | none => exact Effect.respects_pure none
  | some row => exact (Effect.respects_ofExcept _).bind fun _ => Effect.respects_pure _

/-- A request reads no record at all. -/
lemma respects_request (env : Env) (runId kind summary : String) (cap : Option String)
    (expiresAt : Option PyDatetime) (ref : Option String) :
    Effect.Respects (AgreeOff id)
      (ApprovalEngine.request env runId kind summary cap expiresAt ref) := by
  refine (Effect.respects_ofExcept _).bind fun approval => ?_
  refine (respects_save approval).bind fun saved => ?_
  refine (respects_latestSeq runId).bind fun latest => ?_
  exact (respects_append _).bind fun _ => Effect.respects_pure saved

/-- A resolution reads the record it decides and no other. -/
lemma respects_resolve {other : String} (h : other ≠ id) (env : Env) (d : ApprovalDecision) :
    Effect.Respects (AgreeOff id) (ApprovalEngine.resolve env other d) := by
  refine (respects_get h).bind fun found => ?_
  cases found with
  | none => exact Effect.respects_raise _
  | some existing =>
      by_cases hpending : existing.state = .pending
      · simp only [hpending, ne_eq, not_true_eq_false, if_false]
        refine (Effect.respects_ofExcept _).bind fun updated => ?_
        refine (respects_save updated).bind fun _ => ?_
        rw [ApprovalEngine.emitDecision_eq]
        exact (respects_latestSeq _).bind fun _ => respects_append _
      · simp only [hpending, ne_eq, not_false_eq_true, if_true]
        exact Effect.respects_raise _

end Reading

/-! ## The gates of the engine -/

/-- What `request` derives the id of its record from. -/
structure Gate where
  runId : Text
  approvalKind : Text
  deriving DecidableEq

/-- The id of the gate's record. -/
def Gate.id (g : Gate) : String := ApprovalEngine.approvalId g.runId g.approvalKind

/-- The second gate is the first with the dash between run and kind moved into the run. -/
def Gate.Moved (g g' : Gate) : Prop :=
  DashMoved g.runId.val g.approvalKind.val g'.runId.val g'.approvalKind.val

/-- Neither operation on the one gate reads or writes the record of the other. -/
structure LeavesAlone (g g' : Gate) : Prop where
  request : ∀ (env : Env) (summary : String) (cap : Option String)
    (expiresAt : Option PyDatetime) (ref : Option String),
    Isolated (ApprovalEngine.request env g.runId g.approvalKind summary cap expiresAt ref) g'.id
  resolve : ∀ (env : Env) (d : ApprovalDecision),
    Isolated (ApprovalEngine.resolve env g.id d) g'.id

/-- The two gates have records of their own, which the operations on the other leave alone. -/
structure GatesIsolated (g g' : Gate) : Prop where
  ids : g.id ≠ g'.id
  left : LeavesAlone g g'
  right : LeavesAlone g' g

/-- Two gates share an id exactly when they are the same or differ by a moved dash. -/
theorem Gate.id_eq_iff (g g' : Gate) : g.id = g'.id ↔ g = g' ∨ g.Moved g' ∨ g'.Moved g := by
  have hid : g.id = g'.id ↔ g.runId.val ++ "-" ++ g.approvalKind.val =
      g'.runId.val ++ "-" ++ g'.approvalKind.val := by
    simp only [Gate.id, ApprovalEngine.approvalId, String.append_assoc, String.append_right_inj]
  have heq : g.runId.val = g'.runId.val ∧ g.approvalKind.val = g'.approvalKind.val ↔ g = g' := by
    constructor
    · rintro ⟨hrun, hkind⟩
      obtain ⟨run, kind⟩ := g
      obtain rfl : run = g'.runId := Subtype.ext hrun
      obtain rfl : kind = g'.approvalKind := Subtype.ext hkind
      rfl
    · rintro rfl
      exact ⟨rfl, rfl⟩
  rw [hid, dash_eq_iff, heq]
  rfl

/-- A gate's id is a text already: the record's constructor strips nothing. -/
lemma Gate.strip_id (g : Gate) : strip g.id = g.id :=
  (Text.append (Text.append (Text.append ⟨"approval-", by decide⟩ g.runId) ⟨"-", by decide⟩)
    g.approvalKind).property.1

/-- The record of a request is stored under the gate's id. -/
lemma id_of_buildRequest {g : Gate} {summary : String} {cap : Option String}
    {expiresAt : Option PyDatetime} {now : Timestamp} {a : Approval}
    (h : ApprovalEngine.buildRequest g.runId g.approvalKind summary cap expiresAt now = .ok a) :
    a.id.val = g.id :=
  (Approval.fields_of_new h).1.trans g.strip_id

/-- A request stores its record under the gate's id, whatever is stored there, or changes no
record at all. -/
lemma approval?_request (g : Gate) (env : Env) (summary : String) (cap : Option String)
    (expiresAt : Option PyDatetime) (ref : Option String) (s : Store) :
    Effect.wp (ApprovalEngine.request env g.runId g.approvalKind summary cap expiresAt ref)
      (fun a s' => s'.approval? g.id = some a ∧
        ∀ other, other ≠ g.id → s'.approval? other = s.approval? other)
      (fun _ s' => ∀ other, other ≠ g.id → s'.approval? other = s.approval? other) s := by
  have elsewhere : ∀ a : Approval, a.id.val = g.id → ∀ other, other ≠ g.id →
      (s.putApproval a).approval? other = s.approval? other := by
    intro a ha other hother
    exact Store.approval?_putApproval_ne s a (by rw [ha]; exact hother)
  refine ApprovalEngine.wp_request (fun _ _ _ _ => rfl)
    (fun a _ ha _ => elsewhere a (id_of_buildRequest ha)) (fun a ha _ _ => ⟨?_, ?_⟩)
  · rw [Store.approval?_push, ← id_of_buildRequest ha, Store.approval?_putApproval_self]
  · exact elsewhere a (id_of_buildRequest ha)

/-- A resolution changes no record but the one it is asked for. -/
lemma approval?_resolve {id other : String} (h : other ≠ id) (env : Env) (d : ApprovalDecision)
    (s : Store) : (ApprovalEngine.resolve env id d s).2.approval? other = s.approval? other := by
  have kept : ∀ existing a : Approval, s.approval? id = some existing →
      existing.decide d.newState (env.now 0) = .ok a →
      (s.putApproval a).approval? other = s.approval? other := by
    intro existing a hrow ha
    have hid : a.id.val = id := by
      rw [(Approval.fields_of_decide ha).1]
      exact Store.id_of_approval? hrow
    exact Store.approval?_putApproval_ne s a (by rw [hid]; exact h)
  exact Effect.wp.state (P := fun s' : Store => s'.approval? other = s.approval? other)
    (ApprovalEngine.wp_resolve (fun _ _ => rfl) (fun existing a _ hrow _ ha _ =>
      kept existing a hrow ha) (fun existing a hrow _ ha _ _ => kept existing a hrow ha))

/-- Gates with different ids leave each other alone. -/
lemma leavesAlone_of_ne {g g' : Gate} (h : g.id ≠ g'.id) : LeavesAlone g g' where
  request env summary cap expiresAt ref := by
    refine ⟨respects_request env _ _ summary cap expiresAt ref, fun s => ?_⟩
    have hwrites := approval?_request g env summary cap expiresAt ref s
    exact Effect.wp.state (P := fun s' : Store => s'.approval? g'.id = s.approval? g'.id)
      (hwrites.mono (fun _ _ hs => hs.2 g'.id h.symm) fun _ _ hs => hs g'.id h.symm)
  resolve env d := ⟨respects_resolve h env d, approval?_resolve h.symm env d⟩

/-- Gates are isolated exactly when their ids differ. -/
lemma gatesIsolated_iff_id_ne (g g' : Gate) : GatesIsolated g g' ↔ g.id ≠ g'.id :=
  ⟨GatesIsolated.ids, fun h => ⟨h, leavesAlone_of_ne h, leavesAlone_of_ne h.symm⟩⟩

/-! ## The gates of the task service -/

/-- What `_approval_id` is computed from. -/
structure TaskGate where
  runId : Text
  approvalKind : Text
  taskId : Text
  deriving DecidableEq

/-- The id of the gate's record. -/
def TaskGate.id (g : TaskGate) : String :=
  EATaskService.approvalId g.runId g.approvalKind g.taskId

/-- The second gate is the first with a dash moved: the one after the run, or the one between
the kind and the task. -/
def TaskGate.Moved (g g' : TaskGate) : Prop :=
  DashMoved g.runId.val (g.approvalKind.val ++ "-" ++ g.taskId.val) g'.runId.val
      (g'.approvalKind.val ++ "-" ++ g'.taskId.val) ∨
    g.runId = g'.runId ∧
      DashMoved g.approvalKind.val g.taskId.val g'.approvalKind.val g'.taskId.val

/-- The call resolves the approval of the gate: its task, its kind, and its run, given or
defaulted from the stored task's session. -/
def TaskGate.Addressed (g : TaskGate) (s : Store) (req : ApprovalDecisionRequest) : Prop :=
  req.taskId = g.taskId.val ∧ req.approvalKind = g.approvalKind.val ∧
    ∀ task, s.task? req.taskId = some task →
      orDefault req.runId (EATaskService.defaultRunId task.sessionId) = g.runId.val

/-- No call that resolves the approval of the one gate decides the record of the other. -/
def NeverDecides (g g' : TaskGate) : Prop :=
  ∀ (s : Store) (env : Env) (req : ApprovalDecisionRequest), g.Addressed s req →
    (EATaskService.resolveApproval env req s).2.approval? g'.id = s.approval? g'.id

/-- The two gates have records of their own, which no resolution of the other decides. -/
structure TaskGatesIsolated (g g' : TaskGate) : Prop where
  ids : g.id ≠ g'.id
  left : NeverDecides g g'
  right : NeverDecides g' g

/-- Two gates share an id exactly when they are the same or differ by a moved dash. -/
theorem TaskGate.id_eq_iff (g g' : TaskGate) :
    g.id = g'.id ↔ g = g' ∨ g.Moved g' ∨ g'.Moved g := by
  have hid : g.id = g'.id ↔
      g.runId.val ++ "-" ++ (g.approvalKind.val ++ "-" ++ g.taskId.val) =
        g'.runId.val ++ "-" ++ (g'.approvalKind.val ++ "-" ++ g'.taskId.val) := by
    simp only [TaskGate.id, EATaskService.approvalId, String.append_assoc,
      String.append_right_inj]
  have heq : g = g' ↔
      g.runId = g'.runId ∧ g.approvalKind.val = g'.approvalKind.val ∧
        g.taskId.val = g'.taskId.val := by
    constructor
    · rintro rfl
      exact ⟨rfl, rfl, rfl⟩
    · rintro ⟨hrun, hkind, htask⟩
      obtain ⟨run, kind, task⟩ := g
      obtain rfl : run = g'.runId := hrun
      obtain rfl : kind = g'.approvalKind := Subtype.ext hkind
      obtain rfl : task = g'.taskId := Subtype.ext htask
      rfl
  have hrun : g.runId.val = g'.runId.val ↔ g.runId = g'.runId := Subtype.ext_iff.symm
  rw [hid, dash_eq_iff, dash_eq_iff, heq, hrun, TaskGate.Moved, TaskGate.Moved,
    eq_comm (a := g'.runId), and_or_left, and_or_left]
  -- the dash after the run or the one before the task, moved one way or the other
  constructor
  · rintro ((h | h | h) | h | h)
    · exact Or.inl h
    · exact Or.inr (Or.inl (Or.inr h))
    · exact Or.inr (Or.inr (Or.inr h))
    · exact Or.inr (Or.inl (Or.inl h))
    · exact Or.inr (Or.inr (Or.inl h))
  · rintro (h | (h | h) | h | h)
    · exact Or.inl (Or.inl h)
    · exact Or.inr (Or.inl h)
    · exact Or.inl (Or.inr (Or.inl h))
    · exact Or.inr (Or.inr h)
    · exact Or.inl (Or.inr (Or.inr h))

/-- Gates are isolated exactly when their ids differ. -/
lemma taskGatesIsolated_iff_id_ne (g g' : TaskGate) : TaskGatesIsolated g g' ↔ g.id ≠ g'.id := by
  have never : ∀ {g g' : TaskGate}, g.id ≠ g'.id → NeverDecides g g' := by
    intro g g' hne s env req haddr
    have hleft := resolveApproval_next s env req
    show (taskMachine.next s (.resolveApproval env req)).approval? g'.id = s.approval? g'.id
    rcases hleft with h | ⟨task, existing, a, htask, hrow, -, hid, -, hs'⟩
    · exact h.approval? g'.id
    · have happrovals : (taskMachine.next s (.resolveApproval env req)).approvals =
          (s.putApproval a).approvals := by
        rcases hs' with hs' | ⟨_, -, -, -, hs'⟩
        · exact hs'.2
        · exact hs'.2
      have hresolved : EATaskService.resolvedId req task = g.id := by
        rw [EATaskService.resolvedId, haddr.2.2 task htask, haddr.2.1, haddr.1, TaskGate.id]
      have hother : g'.id ≠ a.id.val := by
        rw [hid, Store.id_of_approval? hrow, hresolved]
        exact hne.symm
      rw [Store.approval?, happrovals]
      exact Store.approval?_putApproval_ne s a hother
  exact ⟨TaskGatesIsolated.ids, fun h => ⟨h, never h, never h.symm⟩⟩

/-! ## Exactly the moved dashes break the isolation -/

/-- **Isolation, exactly.**  Two gates of the engine, and two gates of the task service, are
isolated if and only if they differ and neither is the other with a dash moved. -/
theorem gatesIsolated_iff (g g' : Gate) (t t' : TaskGate) :
    (GatesIsolated g g' ↔ g ≠ g' ∧ ¬ g.Moved g' ∧ ¬ g'.Moved g) ∧
      (TaskGatesIsolated t t' ↔ t ≠ t' ∧ ¬ t.Moved t' ∧ ¬ t'.Moved t) := by
  constructor
  · rw [gatesIsolated_iff_id_ne, ne_eq, Gate.id_eq_iff, not_or, not_or]
  · rw [taskGatesIsolated_iff_id_ne, ne_eq, TaskGate.id_eq_iff, not_or, not_or]

/-- The run `a-b` with the kind `c` and the run `a` with the kind `b-c` share a record, and so do
the two gates of the task service with these texts and one task. -/
theorem not_gatesIsolated_moved_dash :
    ¬ (∀ g g' : Gate, g ≠ g' → GatesIsolated g g') ∧
      ¬ ∀ t t' : TaskGate, t ≠ t' → TaskGatesIsolated t t' := by
  constructor
  · intro h
    exact (h ⟨⟨"a-b", by decide⟩, ⟨"c", by decide⟩⟩ ⟨⟨"a", by decide⟩, ⟨"b-c", by decide⟩⟩
      (by decide)).ids (by decide)
  · intro h
    exact (h ⟨⟨"a-b", by decide⟩, ⟨"c", by decide⟩, ⟨"t", by decide⟩⟩
      ⟨⟨"a", by decide⟩, ⟨"b-c", by decide⟩, ⟨"t", by decide⟩⟩ (by decide)).ids (by decide)

end Waywarden

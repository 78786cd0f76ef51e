import Waywarden.Properties.TaskApproval
import Waywarden.Services.TaskOutcomes

/-!
# Tasks and the approvals they wait for

A task that `request_approval` took to `waiting_approval` waits for the approval that call asked
for, and a decision that ends the work is meant to end the task with it.  Which approval a task
waits for, and how an approval was decided, is not in the store: a denial is stored as `denied`
whether it abandons the work or takes another path.  So both are kept in a history beside the
store (`TaskHistory`), written by `Machine.watch`.

The map from a decision to the state of its task is looked up by the decision's tag, and the entry
for an abandoned task stands under `denied`, which is no tag.  So a task whose approval is denied
with `DeniedAbandon` stays where it was (`not_coherent_abandon`).  A task is also left behind when
an approval two tasks wait for ends the work of one of them, when the announcement of a timeout is
refused after its record was saved, and when the record of a request is refused after its task was
moved.

`coherent_iff`: tasks and approvals stay coherent along a run exactly when no call is one of
these.
-/

namespace Waywarden

open Machine EATaskService

/-! ## The history -/

/-- What the store does not keep: the approval a waiting task was brought to wait for, and the
decision an approval was last resolved with. -/
structure TaskHistory where
  awaited : String → Option String
  decided : String → Option ApprovalDecision

/-- Nothing has happened yet. -/
def TaskHistory.empty : TaskHistory := ⟨fun _ => none, fun _ => none⟩

/-- Whether an approval is stored and pending. -/
def Store.isPending (s : Store) (approvalId : String) : Bool :=
  (s.approval? approvalId).any fun a => a.state = .pending

/-- The approval a `request_approval` for a task asks for. -/
def askedFor (t : TaskTransition) (taskId : String) : Option String :=
  match t.call with
  | .requestApproval _ req => (t.before.task? taskId).map (requestedId req)
  | _ => none

/-- The decision a `resolve_approval` carries. -/
def decisionOf (c : TaskCall) : Option ApprovalDecision :=
  match c with
  | .resolveApproval _ req => some req.decision
  | _ => none

/-- A task awaits what it was brought to wait for, until it no longer waits; an approval is decided
by the call that finds it pending and leaves it otherwise. -/
def TaskHistory.record (h : TaskHistory) (t : TaskTransition) : TaskHistory where
  awaited taskId :=
    if t.after.stateOf taskId ≠ some .waitingApproval then none
    else if t.before.stateOf taskId = some .waitingApproval then h.awaited taskId
    else askedFor t taskId
  decided approvalId :=
    if t.before.isPending approvalId = true ∧ t.after.isPending approvalId = false then
      decisionOf t.call
    else h.decided approvalId

/-- The task service with its history. -/
def watchedTasks : Machine (Store × TaskHistory) TaskCall (Except PyError Mapping) :=
  taskMachine.watch TaskHistory.record

/-- A transition of the task service with its history. -/
abbrev WatchedTransition : Type :=
  Transition (Store × TaskHistory) TaskCall (Except PyError Mapping)

/-! ## What is to hold -/

/-- A resolution that returned has ended its task if it ended the work: a task abandoned is
cancelled, and one timed out has failed. -/
def EndsWork (t : WatchedTransition) : Prop :=
  ∀ env req reply, t.call = .resolveApproval env req → t.reply = .ok reply →
    (∀ reason, req.decision = .deniedAbandon reason →
      t.after.1.stateOf req.taskId = some .cancelled) ∧
    (∀ retryable, req.decision = .timeout retryable →
      t.after.1.stateOf req.taskId = some .failed)

/-- The approval is pending, or it was resolved with a decision that lets the work go on. -/
def Backed (s : Store) (h : TaskHistory) (approvalId : String) : Prop :=
  s.isPending approvalId = true ∨
    (∃ a, s.approval? approvalId = some a) ∧
      ∃ d, h.decided approvalId = some d ∧ d.goesOn = true

/-- No task waits for an approval that ended the work, or for one that is not there. -/
def NeverStuck (x : Store × TaskHistory) : Prop :=
  ∀ taskId approvalId, x.1.stateOf taskId = some .waitingApproval →
    x.2.awaited taskId = some approvalId → Backed x.1 x.2 approvalId

/-- Tasks and approvals stay coherent along the run. -/
def Coherent (runs : List RunRow) (events : List RunEvent) (calls : List TaskCall) : Prop :=
  ∀ t ∈ watchedTasks.trace (⟨runs, events, [], []⟩, .empty) calls,
    EndsWork t ∧ NeverStuck t.after

/-! ## The calls that break it -/

/-- Some waiting task awaits the approval. -/
def Awaited (s : Store) (h : TaskHistory) (approvalId : String) : Prop :=
  ∃ taskId, s.stateOf taskId = some .waitingApproval ∧ h.awaited taskId = some approvalId

/-- Some waiting task awaits the approval, and a timeout in this call does not fail it: it is
another task than the call's, or the timeout's event is refused, or the clock is behind the task's
creation. -/
def AwaitedElsewhere (s : Store) (h : TaskHistory) (env : Env) (req : ApprovalDecisionRequest)
    (task : Task) (existing : Approval) : Prop :=
  ∃ taskId, s.stateOf taskId = some .waitingApproval ∧
    h.awaited taskId = some (resolvedId req task) ∧
    (taskId ≠ req.taskId ∨ DecisionRefused s req task existing ∨ env.now 1 < task.createdAt)

/-- The text a request falls back on is checked like any other: the record is refused when the run
id or the summary is blank. -/
def BlankRequest (req : RequestApprovalRequest) (task : Task) : Prop :=
  strip (requestRunId req task) = "" ∨
    strip (orDefault (some req.summary) ("Approval checkpoint for " ++ task.title.val)) = ""

/-- The calls after which tasks and approvals disagree. -/
inductive Disrupts (s : Store) (h : TaskHistory) : TaskCall → Prop
  | abandon (env : Env) (req : ApprovalDecisionRequest) (task : Task) (existing : Approval)
      (reason : String) (resolvable : Resolvable s env req task existing)
      (decision : req.decision = .deniedAbandon reason)
      (open_task : Awaited s h (resolvedId req task) ∨
        ¬ DecisionRefused s req task existing ∧ task.state ≠ .cancelled) :
      Disrupts s h (.resolveApproval env req)
  | timeout (env : Env) (req : ApprovalDecisionRequest) (task : Task) (existing : Approval)
      (retryable : Bool) (resolvable : Resolvable s env req task existing)
      (decision : req.decision = .timeout retryable)
      (open_task : AwaitedElsewhere s h env req task existing) :
      Disrupts s h (.resolveApproval env req)
  | request (env : Env) (req : RequestApprovalRequest) (task : Task)
      (found : s.task? req.taskId = some task) (executing : task.state = .executing)
      (created : task.createdAt ≤ env.now 0) (blank : BlankRequest req task)
      (unbacked : ¬ Backed s h (requestedId req task)) : Disrupts s h (.requestApproval env req)

/-! ## What the history records -/

variable {s s' : Store} {h : TaskHistory} {env : Env}

/-- A task that goes on waiting goes on awaiting the same approval. -/
lemma awaited_record {t : TaskTransition} {taskId : String}
    (hbefore : t.before.stateOf taskId = some .waitingApproval)
    (hafter : t.after.stateOf taskId = some .waitingApproval) :
    (h.record t).awaited taskId = h.awaited taskId := by
  simp only [TaskHistory.record, hafter, hbefore, ne_eq, not_true_eq_false, if_false, if_true]

/-- A task that comes to wait awaits what the call asks for. -/
lemma awaited_record_of_entry {t : TaskTransition} {taskId : String}
    (hbefore : t.before.stateOf taskId ≠ some .waitingApproval)
    (hafter : t.after.stateOf taskId = some .waitingApproval) :
    (h.record t).awaited taskId = askedFor t taskId := by
  simp only [TaskHistory.record, hafter, ne_eq, not_true_eq_false, if_false, if_neg hbefore]

/-- An approval a call leaves alone is backed after it as before. -/
lemma backed_record_of_same {t : TaskTransition} {approvalId : String}
    (hsame : t.after.approval? approvalId = t.before.approval? approvalId) :
    Backed t.after (h.record t) approvalId ↔ Backed t.before h approvalId := by
  have hpending : t.after.isPending approvalId = t.before.isPending approvalId := by
    rw [Store.isPending, hsame, Store.isPending]
  have hdecided : (h.record t).decided approvalId = h.decided approvalId := by
    simp only [TaskHistory.record, hpending]
    exact if_neg fun hboth => absurd (hboth.1.symm.trans hboth.2) (by simp)
  rw [Backed, Backed, hpending, hsame, hdecided]

/-- An approval a call decides is backed after it when the decision lets the work go on. -/
lemma backed_record_of_decided {t : TaskTransition} {approvalId : String} {a : Approval}
    {d : ApprovalDecision} (hpending : t.before.isPending approvalId = true)
    (hrow : t.after.approval? approvalId = some a) (hstate : a.state ≠ .pending)
    (hd : decisionOf t.call = some d) :
    Backed t.after (h.record t) approvalId ↔ d.goesOn = true := by
  have hnot : t.after.isPending approvalId = false := by
    rw [Store.isPending, hrow, Option.any_some, decide_eq_false hstate]
  have hdecided : (h.record t).decided approvalId = some d := by
    simp only [TaskHistory.record, hpending, hnot, and_self, if_true, hd]
  rw [Backed, hnot, hrow, hdecided]
  simp

/-- A pending approval is backed. -/
lemma backed_of_pending {a : Approval} {approvalId : String}
    (hrow : s.approval? approvalId = some a) (hstate : a.state = .pending) :
    Backed s h approvalId :=
  Or.inl (by rw [Store.isPending, hrow, Option.any_some, decide_eq_true hstate])

/-! ## Single calls -/

/-- The watched transition of a call, spelt out. -/
lemma watched_transition (x : Store × TaskHistory) (c : TaskCall) :
    watchedTasks.transition x c =
      ⟨x, c, (taskMachine.step x.1 c).1, taskMachine.next x.1 c,
        x.2.record (taskMachine.transition x.1 c)⟩ := rfl

/-- What a decided record looks like in the store. -/
lemma approval?_of_decides {req : ApprovalDecisionRequest} {task : Task} {existing a : Approval}
    (hdecides : Deciding s env req task existing a) :
    a.id.val = resolvedId req task ∧ a.state ≠ .pending ∧
      s.isPending (resolvedId req task) = true := by
  obtain ⟨hid, -, -, -, hstate, -⟩ := Approval.fields_of_decide hdecides.built
  refine ⟨by rw [hid, Store.id_of_approval? hdecides.row], ?_, ?_⟩
  · rw [hstate]
    exact ApprovalDecision.newState_ne_pending _
  · rw [Store.isPending, hdecides.row, Option.any_some, decide_eq_true hdecides.pending]

/-- A task that waits for an approval and goes on waiting when a decision has ended the work is
stuck. -/
lemma stuck_of_decided {c : TaskCall} {taskId approvalId : String} {a : Approval}
    {d : ApprovalDecision} (hbefore : s.stateOf taskId = some .waitingApproval)
    (hawaited : h.awaited taskId = some approvalId)
    (hafter : (taskMachine.next s c).stateOf taskId = some .waitingApproval)
    (hpending : s.isPending approvalId = true)
    (hrow : (taskMachine.next s c).approval? approvalId = some a) (hstate : a.state ≠ .pending)
    (hd : decisionOf c = some d) (hends : d.goesOn = false) :
    ¬ NeverStuck (taskMachine.next s c, h.record (taskMachine.transition s c)) := by
  intro hnever
  have hbacked := hnever taskId approvalId hafter
    ((awaited_record (t := taskMachine.transition s c) hbefore hafter).trans hawaited)
  have hgo := (backed_record_of_decided (t := taskMachine.transition s c) hpending hrow hstate
    hd).mp hbacked
  exact absurd (hends.symm.trans hgo) (by simp)

/-- A decision to abandon leaves every task in its state. -/
lemma postState_abandon {d : ApprovalDecision} {reason : String} (hd : d = .deniedAbandon reason)
    (state : TaskState) : postState d state = state := by
  rw [postState_eq, hd]

lemma postState_timeout {d : ApprovalDecision} {retryable : Bool} (hd : d = .timeout retryable)
    (state : TaskState) : postState d state = .failed := by
  rw [postState_eq, hd]

/-- The record of a request is refused exactly when its run id or its summary is blank. -/
lemma blankRequest_iff (env : Env) {req : RequestApprovalRequest} {task : Task} :
    BlankRequest req task ↔ ∃ e, builtApproval env req task = .error e := by
  have hkind : strip (req.approvalKind ++ "-" ++ req.taskId) ≠ "" :=
    strip_ne_empty (c := '-') (by simp) (by decide)
  have hbuilt := ApprovalEngine.buildRequest_eq_ok_iff (requestRunId req task)
    (req.approvalKind ++ "-" ++ req.taskId)
    (orDefault (some req.summary) ("Approval checkpoint for " ++ task.title.val))
    ((env.later 1).now 0)
  unfold BlankRequest builtApproval
  rcases hx : ApprovalEngine.buildRequest (requestRunId req task)
      (req.approvalKind ++ "-" ++ req.taskId)
      (orDefault (some req.summary) ("Approval checkpoint for " ++ task.title.val)) none none
      ((env.later 1).now 0) with e | a
  · rw [hx] at hbuilt
    simp only [reduceCtorEq, exists_false, false_iff, not_and_or, not_not] at hbuilt
    constructor
    · intro _
      exact ⟨e, rfl⟩
    · intro _
      rcases hbuilt with hrun | hblank | hsummary
      · exact Or.inl hrun
      · exact absurd hblank hkind
      · exact Or.inr hsummary
  · rw [hx] at hbuilt
    obtain ⟨hrun, -, hsummary⟩ := hbuilt.mp ⟨a, rfl⟩
    simp [hrun, hsummary]

lemma approval?_of_approvals {s' s'' : Store} (h : s'.approvals = s''.approvals) (id : String) :
    s'.approval? id = s''.approval? id := by
  rw [Store.approval?, h, Store.approval?]

/-- Only the task of a request comes to wait by it. -/
lemma addressed_of_waits {req : RequestApprovalRequest} {task moved : Task} {taskId : String}
    (moves : Requesting s env req task moved) (hbefore : s.stateOf taskId ≠ some .waitingApproval)
    (hafter : (s.putTask moved).stateOf taskId = some .waitingApproval) : taskId = req.taskId := by
  by_contra hne
  obtain ⟨hid, -⟩ := Task.fields_of_move moves.built
  apply hbefore
  rw [← hafter, stateOf_putTask, hid, Store.id_of_task? moves.found, if_neg hne]

/-! ### The calls that disrupt do so -/

lemma not_coherent_of_abandon {req : ApprovalDecisionRequest} {task : Task} {existing : Approval}
    {reason : String} (hresolvable : Resolvable s env req task existing)
    (hd : req.decision = .deniedAbandon reason)
    (hopen : Awaited s h (resolvedId req task) ∨
      ¬ DecisionRefused s req task existing ∧ task.state ≠ .cancelled) :
    ¬ (EndsWork (watchedTasks.transition (s, h) (.resolveApproval env req)) ∧
      NeverStuck (watchedTasks.transition (s, h) (.resolveApproval env req)).after) := by
  rintro ⟨hends, hnever⟩
  obtain ⟨a, hdecides⟩ := hresolvable.deciding
  -- the record is saved and no task moves, so a task that awaited the approval is stuck
  have stuck : ∀ b : Approval, Deciding s env req task existing b →
      (taskMachine.next s (.resolveApproval env req)).approval? b.id.val = some b →
      (taskMachine.next s (.resolveApproval env req)).tasks = s.tasks →
      ¬ Awaited s h (resolvedId req task) := by
    rintro b hb hrow htasks ⟨taskId, hwaits, hawaited⟩
    obtain ⟨hid, hstate, hpending⟩ := approval?_of_decides hb
    rw [hid] at hrow
    exact stuck_of_decided hwaits hawaited (by rw [stateOf_of_tasks htasks]; exact hwaits)
      hpending hrow hstate rfl (by rw [hd]; rfl) hnever
  have hreply : ∀ reply, (resolveApproval env req s).1 = .ok reply →
      Store.stateOf (resolveApproval env req s).2 req.taskId = some .cancelled :=
    fun reply hok => (hends env req reply rfl hok).1 reason hd
  have hnext : taskMachine.next s (.resolveApproval env req) = (resolveApproval env req s).2 := rfl
  rw [hnext] at stuck
  have hout := (resolveApproval_outcome s env req).outcome
  generalize (resolveApproval env req s).1 = result, (resolveApproval env req s).2 = s'
    at hout stuck hreply
  cases hout with
  | refused e why => exact why task existing a hdecides
  | unannounced task' existing' b e decides refused =>
      obtain ⟨rfl, rfl⟩ := hresolvable.unique decides
      rcases hopen with hawaited | ⟨hannounced, -⟩
      · exact stuck b decides (Store.approval?_putApproval_self s b) rfl hawaited
      · exact hannounced refused
  | stays task' existing' b event reply decides announced same =>
      obtain ⟨rfl, rfl⟩ := hresolvable.unique decides
      rcases hopen with hawaited | ⟨-, hstate⟩
      · exact stuck b decides (Store.approval?_putApproval_self s b) rfl hawaited
      · have hcancelled := hreply reply rfl
        have hkept : s.stateOf req.taskId = some task.state := by
          rw [Store.stateOf, hresolvable.found, Option.map_some]
        exact hstate (Option.some.inj (hkept.symm.trans hcancelled))
  | stuck task' existing' b event e decides announced other unbuilt =>
      exact other (postState_abandon hd _)
  | moves task' moved existing' b event reply decides announced other built =>
      exact other (postState_abandon hd _)

lemma not_coherent_of_timeout {req : ApprovalDecisionRequest} {task : Task} {existing : Approval}
    {retryable : Bool} (hresolvable : Resolvable s env req task existing)
    (hd : req.decision = .timeout retryable)
    (hopen : AwaitedElsewhere s h env req task existing) :
    ¬ NeverStuck (watchedTasks.transition (s, h) (.resolveApproval env req)).after := by
  intro hnever
  obtain ⟨a, hdecides⟩ := hresolvable.deciding
  obtain ⟨taskId, hwaits, hawaited, hother⟩ := hopen
  -- the record is saved, so the task is stuck if it goes on waiting
  have stuck : ∀ b : Approval, Deciding s env req task existing b →
      (taskMachine.next s (.resolveApproval env req)).approval? b.id.val = some b →
      (taskMachine.next s (.resolveApproval env req)).stateOf taskId ≠ some .waitingApproval := by
    intro b hb hrow hafter
    obtain ⟨hid, hstate, hpending⟩ := approval?_of_decides hb
    rw [hid] at hrow
    exact stuck_of_decided hwaits hawaited hafter hpending hrow hstate rfl (by rw [hd]; rfl) hnever
  have hnext : taskMachine.next s (.resolveApproval env req) = (resolveApproval env req s).2 := rfl
  rw [hnext] at stuck
  have hout := (resolveApproval_outcome s env req).outcome
  generalize (resolveApproval env req s).1 = result, (resolveApproval env req s).2 = s'
    at hout stuck
  cases hout with
  | refused e why => exact why task existing a hdecides
  | unannounced task' existing' b e decides refused =>
      obtain ⟨rfl, rfl⟩ := hresolvable.unique decides
      exact stuck b decides (Store.approval?_putApproval_self s b) hwaits
  | stays task' existing' b event reply decides announced same =>
      obtain ⟨rfl, rfl⟩ := hresolvable.unique decides
      exact stuck b decides (Store.approval?_putApproval_self s b) hwaits
  | stuck task' existing' b event e decides announced other unbuilt =>
      obtain ⟨rfl, rfl⟩ := hresolvable.unique decides
      exact stuck b decides (Store.approval?_putApproval_self s b) hwaits
  | moves task' moved existing' b event reply decides announced other built =>
      obtain ⟨rfl, rfl⟩ := hresolvable.unique decides
      obtain ⟨hid, -⟩ := Task.fields_of_move built
      rcases hother with hne | hrefused | hlate
      · refine stuck b decides (Store.approval?_putApproval_self s b) ?_
        rw [stateOf_putTask, hid, Store.id_of_task? hresolvable.found, if_neg hne]
        exact hwaits
      · exact announced hrefused
      · exact absurd (Task.createdAt_le_of_move built) (not_le.mpr hlate)

lemma not_coherent_of_request {req : RequestApprovalRequest} {task : Task}
    (hfound : s.task? req.taskId = some task) (hexec : task.state = .executing)
    (hcreated : task.createdAt ≤ env.now 0) (hblank : BlankRequest req task)
    (hunbacked : ¬ Backed s h (requestedId req task)) :
    ¬ NeverStuck (watchedTasks.transition (s, h) (.requestApproval env req)).after := by
  intro hnever
  obtain ⟨moved, hmoved⟩ := Task.move_of_le hcreated .waitingApproval
  obtain ⟨e, he⟩ := (blankRequest_iff env).mp hblank
  have hbefore : s.stateOf req.taskId ≠ some .waitingApproval := by
    rw [Store.stateOf, hfound, Option.map_some, hexec]
    simp
  -- the task waits, for an approval the call did not store
  have stuck : (taskMachine.next s (.requestApproval env req)).stateOf req.taskId =
      some .waitingApproval →
      (taskMachine.next s (.requestApproval env req)).approvals ≠ s.approvals := by
    intro hafter happrovals
    have hasked : askedFor (taskMachine.transition s (.requestApproval env req)) req.taskId =
        some (requestedId req task) := by
      show (s.task? req.taskId).map (requestedId req) = _
      rw [hfound, Option.map_some]
    have hbacked := hnever req.taskId (requestedId req task) hafter
      ((awaited_record_of_entry (t := taskMachine.transition s (.requestApproval env req))
        hbefore hafter).trans hasked)
    refine hunbacked ((backed_record_of_same
      (t := taskMachine.transition s (.requestApproval env req)) ?_).mp hbacked)
    exact approval?_of_approvals happrovals _
  have hnext : taskMachine.next s (.requestApproval env req) = (requestApproval env req s).2 := rfl
  rw [hnext] at stuck
  have hout := (requestApproval_outcome s env req).outcome
  generalize (requestApproval env req s).1 = result, (requestApproval env req s).2 = s'
    at hout stuck
  -- the record is refused in every ending but the first, which the request does not meet
  have unbuilt : ∀ task' moved' a, Requesting s env req task' moved' →
      builtApproval env req task' ≠ .ok a := by
    intro task' moved' a moves hbuilt
    obtain rfl := Option.some.inj (hfound.symm.trans moves.found)
    exact absurd (he.symm.trans hbuilt) (by simp)
  cases hout with
  | refused e' why => exact why task moved ⟨hfound, hexec, hmoved⟩
  | unrequested task' moved' e' moves hunbuilt =>
      obtain rfl := Option.some.inj (hfound.symm.trans moves.found)
      obtain ⟨hid, hstate⟩ := Task.fields_of_move moves.built
      refine stuck ?_ rfl
      rw [stateOf_putTask, hid, Store.id_of_task? hfound, if_pos rfl, hstate]
  | unannounced task' moved' a e' moves built => exact unbuilt task' moved' a moves built
  | unannotated task' moved' a w e' moves built => exact unbuilt task' moved' a moves built
  | done task' moved' a w n reply moves built => exact unbuilt task' moved' a moves built

/-! ### The other calls do not -/

/-- A call that leaves the approvals and asks for none keeps every waiting task backed. -/
lemma neverStuck_of_same {c : TaskCall} (hnever : NeverStuck (s, h))
    (happrovals : (taskMachine.next s c).approvals = s.approvals)
    (hasked : ∀ taskId approvalId, s.stateOf taskId ≠ some .waitingApproval →
      (taskMachine.next s c).stateOf taskId = some .waitingApproval →
      askedFor (taskMachine.transition s c) taskId = some approvalId → Backed s h approvalId) :
    NeverStuck (watchedTasks.transition (s, h) c).after := by
  intro taskId approvalId hafter hawaited
  refine (backed_record_of_same (t := taskMachine.transition s c) ?_).mpr ?_
  · exact approval?_of_approvals happrovals approvalId
  · by_cases hbefore : s.stateOf taskId = some .waitingApproval
    · rw [watched_transition] at hawaited
      rw [awaited_record (t := taskMachine.transition s c) hbefore hafter] at hawaited
      exact hnever taskId approvalId hbefore hawaited
    · rw [watched_transition] at hawaited
      rw [awaited_record_of_entry (t := taskMachine.transition s c) hbefore hafter] at hawaited
      exact hasked taskId approvalId hbefore hafter hawaited

/-- A request that saves its record, which is then pending. -/
lemma neverStuck_of_requested {req : RequestApprovalRequest} (hnever : NeverStuck (s, h))
    {task moved : Task} {a : Approval} (moves : Requesting s env req task moved)
    (built : builtApproval env req task = .ok a)
    (htasks : (taskMachine.next s (.requestApproval env req)).tasks = (s.putTask moved).tasks)
    (happrovals : (taskMachine.next s (.requestApproval env req)).approvals =
      (s.putApproval a).approvals) :
    NeverStuck (watchedTasks.transition (s, h) (.requestApproval env req)).after := by
  intro taskId approvalId hafter hawaited
  have hread := approval?_of_approvals happrovals
  obtain ⟨haid, -, -, -, hpending, -⟩ := Approval.fields_of_new built
  by_cases heq : approvalId = a.id.val
  · refine backed_of_pending (a := a) ?_ hpending
    show (taskMachine.next s (.requestApproval env req)).approval? approvalId = some a
    rw [hread, heq, Store.approval?_putApproval_self]
  · refine (backed_record_of_same
      (t := taskMachine.transition s (.requestApproval env req)) ?_).mpr ?_
    · show (taskMachine.next s (.requestApproval env req)).approval? approvalId = _
      rw [hread, Store.approval?_putApproval_ne s a heq]
      rfl
    · rw [watched_transition] at hawaited
      by_cases hbefore : s.stateOf taskId = some .waitingApproval
      · rw [awaited_record (t := taskMachine.transition s _) hbefore hafter] at hawaited
        exact hnever taskId approvalId hbefore hawaited
      · rw [awaited_record_of_entry (t := taskMachine.transition s _) hbefore hafter] at hawaited
        -- only the request's own task can have come to wait
        obtain rfl := addressed_of_waits moves hbefore
          ((stateOf_of_tasks htasks taskId).symm.trans hafter)
        have hasked : (s.task? req.taskId).map (requestedId req) = some approvalId := hawaited
        rw [moves.found, Option.map_some, Option.some.injEq] at hasked
        exact absurd (hasked.symm.trans haid.symm) heq

/-- A request keeps every waiting task backed: it stores the approval it asks for, or one is left
there from before. -/
lemma neverStuck_of_request {req : RequestApprovalRequest} (hnever : NeverStuck (s, h))
    (hgood : ¬ Disrupts s h (.requestApproval env req)) :
    NeverStuck (watchedTasks.transition (s, h) (.requestApproval env req)).after := by
  have saved := @neverStuck_of_requested s h env req hnever
  have hnext : taskMachine.next s (.requestApproval env req) = (requestApproval env req s).2 := rfl
  have same : (requestApproval env req s).2.approvals = s.approvals →
      (∀ taskId approvalId, s.stateOf taskId ≠ some .waitingApproval →
        Store.stateOf (requestApproval env req s).2 taskId = some .waitingApproval →
        (s.task? taskId).map (requestedId req) = some approvalId → Backed s h approvalId) →
      NeverStuck (watchedTasks.transition (s, h) (.requestApproval env req)).after :=
    fun happrovals hasked => neverStuck_of_same hnever happrovals hasked
  rw [hnext] at saved
  have hout := (requestApproval_outcome s env req).outcome
  generalize (requestApproval env req s).1 = result, (requestApproval env req s).2 = s'
    at hout saved same
  cases hout with
  | refused e why => exact same rfl fun _ _ hbefore hafter _ => absurd hafter hbefore
  | unrequested task moved e moves unbuilt =>
      refine same rfl fun taskId approvalId hbefore hafter hasked => ?_
      obtain rfl := addressed_of_waits moves hbefore hafter
      rw [moves.found, Option.map_some, Option.some.injEq] at hasked
      by_contra hunbacked
      exact hgood (.request env req task moves.found moves.executing
        (Task.createdAt_le_of_move moves.built)
        ((blankRequest_iff env).mpr ⟨e, unbuilt⟩) (by rw [hasked]; exact hunbacked))
  | unannounced task moved a e moves built => exact saved moves built rfl rfl
  | unannotated task moved a w e moves built => exact saved moves built rfl rfl
  | done task moved a w n reply moves built => exact saved moves built rfl rfl

/-- What keeps a task waiting through a resolution that saved its record: it is another task than
the call's, the announcement is refused, the clock is behind, or the decision is no timeout. -/
def KeepsWaiting (s : Store) (env : Env) (req : ApprovalDecisionRequest) (task : Task)
    (existing : Approval) (taskId : String) : Prop :=
  taskId ≠ req.taskId ∨ DecisionRefused s req task existing ∨ env.now 1 < task.createdAt ∨
    ∀ retryable, req.decision ≠ .timeout retryable

/-- Where a task awaits the approval and goes on waiting, a call that disrupts nothing lets the work
go on. -/
lemma goesOn_of_waiting {req : ApprovalDecisionRequest} {task : Task} {existing a : Approval}
    {taskId : String} (hgood : ¬ Disrupts s h (.resolveApproval env req))
    (decides : Deciding s env req task existing a)
    (hbefore : s.stateOf taskId = some .waitingApproval)
    (hawaited : h.awaited taskId = some (resolvedId req task))
    (hother : KeepsWaiting s env req task existing taskId) : req.decision.goesOn = true := by
  cases hd : req.decision with
  | granted => rfl
  | deniedAlternatePath note => rfl
  | deniedAbandon reason =>
      exact absurd (.abandon env req task existing reason decides.resolvable hd
        (Or.inl ⟨taskId, hbefore, hawaited⟩)) hgood
  | timeout retryable =>
      refine absurd (.timeout env req task existing retryable decides.resolvable hd
        ⟨taskId, hbefore, hawaited, ?_⟩) hgood
      rcases hother with hne | hrefused | hlate | hnot
      · exact Or.inl hne
      · exact Or.inr (Or.inl hrefused)
      · exact Or.inr (Or.inr hlate)
      · exact absurd hd (hnot retryable)

/-- A resolution that saved its record, and left no task waiting for it that it should have
ended. -/
lemma neverStuck_of_resolved {req : ApprovalDecisionRequest} (hnever : NeverStuck (s, h))
    (hgood : ¬ Disrupts s h (.resolveApproval env req)) {task : Task} {existing a : Approval}
    (decides : Deciding s env req task existing a)
    (happrovals : (taskMachine.next s (.resolveApproval env req)).approvals =
      (s.putApproval a).approvals)
    (hwaits : ∀ taskId, (taskMachine.next s (.resolveApproval env req)).stateOf taskId =
      some .waitingApproval → s.stateOf taskId = some .waitingApproval ∧
        KeepsWaiting s env req task existing taskId) :
    NeverStuck (watchedTasks.transition (s, h) (.resolveApproval env req)).after := by
  intro taskId approvalId hafter hawaited
  obtain ⟨hid, hstate, hpending⟩ := approval?_of_decides decides
  have hread := approval?_of_approvals happrovals
  obtain ⟨hbefore, hother⟩ := hwaits taskId hafter
  rw [watched_transition] at hawaited
  rw [awaited_record (t := taskMachine.transition s _) hbefore hafter] at hawaited
  by_cases heq : approvalId = a.id.val
  · rw [heq, hid] at hawaited ⊢
    refine (backed_record_of_decided (a := a)
      (t := taskMachine.transition s (.resolveApproval env req)) hpending ?_ hstate rfl).mpr ?_
    · show (taskMachine.next s (.resolveApproval env req)).approval? _ = some a
      rw [hread, ← hid, Store.approval?_putApproval_self]
    · exact goesOn_of_waiting hgood decides hbefore hawaited hother
  · refine (backed_record_of_same
      (t := taskMachine.transition s (.resolveApproval env req)) ?_).mpr
      (hnever taskId approvalId hbefore hawaited)
    show (taskMachine.next s (.resolveApproval env req)).approval? approvalId = _
    rw [hread, Store.approval?_putApproval_ne s a heq]
    rfl

/-- A timeout that leaves the state of its task finds it failed already. -/
lemma keepsWaiting_of_stays {req : ApprovalDecisionRequest} {task : Task} {existing a : Approval}
    (decides : Deciding s env req task existing a)
    (same : postState req.decision task.state = task.state) {taskId : String}
    (hwaits : s.stateOf taskId = some .waitingApproval) :
    KeepsWaiting s env req task existing taskId := by
  by_cases hne : taskId = req.taskId
  · refine Or.inr (Or.inr (Or.inr fun retryable hd => ?_))
    rw [hne, Store.stateOf, decides.found, Option.map_some, Option.some.injEq] at hwaits
    rw [postState_timeout hd, hwaits] at same
    exact absurd same (by simp)
  · exact Or.inl hne

/-- A task that a resolution moves has failed. -/
lemma waiting_of_moves {req : ApprovalDecisionRequest} {task moved : Task} {taskId : String}
    (found : s.task? req.taskId = some task)
    (built : task.move (postState req.decision task.state) (env.now 1) = .ok moved)
    (other : postState req.decision task.state ≠ task.state)
    (hafter : (s.putTask moved).stateOf taskId = some .waitingApproval) :
    s.stateOf taskId = some .waitingApproval ∧ taskId ≠ req.taskId := by
  obtain ⟨hid, hstate⟩ := Task.fields_of_move built
  rw [stateOf_putTask, hid, Store.id_of_task? found] at hafter
  split at hafter
  · rw [hstate, Option.some.injEq, postState_eq] at hafter
    rw [postState_eq] at other
    split at hafter
    · exact absurd hafter (by simp)
    · rename_i hnot
      split at other
      · exact absurd ‹_› (hnot _)
      · exact absurd rfl other
  · exact ⟨hafter, ‹_›⟩

/-- A resolution keeps every waiting task backed: it lets the work go on, or no task awaits its
approval any longer. -/
lemma neverStuck_of_resolve {req : ApprovalDecisionRequest} (hnever : NeverStuck (s, h))
    (hgood : ¬ Disrupts s h (.resolveApproval env req)) :
    NeverStuck (watchedTasks.transition (s, h) (.resolveApproval env req)).after := by
  have saved := @neverStuck_of_resolved s h env req hnever hgood
  have hnext : taskMachine.next s (.resolveApproval env req) = (resolveApproval env req s).2 := rfl
  have unsaved : (resolveApproval env req s).2.approvals = s.approvals →
      NeverStuck (watchedTasks.transition (s, h) (.resolveApproval env req)).after :=
    fun happrovals => neverStuck_of_same hnever happrovals
      fun _ _ _ _ hasked => absurd hasked (by simp [askedFor, Machine.transition])
  rw [hnext] at saved
  have hout := (resolveApproval_outcome s env req).outcome
  generalize (resolveApproval env req s).1 = result, (resolveApproval env req s).2 = s'
    at hout saved unsaved
  cases hout with
  | refused e why => exact unsaved rfl
  | unannounced task existing a e decides refused =>
      exact saved decides rfl fun taskId hafter => ⟨hafter, Or.inr (Or.inl refused)⟩
  | stays task existing a event reply decides announced same =>
      exact saved decides rfl fun taskId hafter =>
        ⟨hafter, keepsWaiting_of_stays decides same hafter⟩
  | stuck task existing a event e decides announced other unbuilt =>
      refine saved decides rfl fun taskId hafter => ⟨hafter, Or.inr (Or.inr (Or.inl ?_))⟩
      by_contra hlate
      obtain ⟨moved, hmoved⟩ := Task.move_of_le (not_lt.mp hlate)
        (postState req.decision task.state)
      exact absurd (unbuilt.symm.trans hmoved) (by simp)
  | moves task moved existing a event reply decides announced other built =>
      refine saved decides rfl fun taskId hafter => ?_
      obtain ⟨hbefore, hne⟩ := waiting_of_moves decides.found built other hafter
      exact ⟨hbefore, Or.inl hne⟩

/-- A resolution that returns ends its task if it ends the work. -/
lemma endsWork_of_resolve {c : TaskCall} (hgood : ¬ Disrupts s h c) :
    EndsWork (watchedTasks.transition (s, h) c) := by
  intro env req reply hcall hreply
  obtain rfl : c = .resolveApproval env req := hcall
  show (∀ reason, req.decision = .deniedAbandon reason →
      Store.stateOf (resolveApproval env req s).2 req.taskId = some .cancelled) ∧
    (∀ retryable, req.decision = .timeout retryable →
      Store.stateOf (resolveApproval env req s).2 req.taskId = some .failed)
  replace hreply : (resolveApproval env req s).1 = .ok reply := hreply
  have hout := (resolveApproval_outcome s env req).outcome
  generalize (resolveApproval env req s).1 = result, (resolveApproval env req s).2 = s'
    at hout hreply
  cases hout with
  | refused e why => exact absurd hreply (by simp)
  | unannounced task existing a e decides refused => exact absurd hreply (by simp)
  | stuck task existing a event e decides announced other unbuilt =>
      exact absurd hreply (by simp)
  | stays task existing a event reply' decides announced same =>
      have hstored : s.stateOf req.taskId = some task.state := by
        rw [Store.stateOf, decides.found, Option.map_some]
      refine ⟨fun reason hd => hstored.trans ?_, fun retryable hd => hstored.trans ?_⟩
      · rw [Option.some.injEq]
        by_contra hstate
        exact hgood (.abandon env req task existing reason decides.resolvable hd
          (Or.inr ⟨announced, hstate⟩))
      · rw [← same, postState_timeout hd]
  | moves task moved existing a event reply' decides announced other built =>
      obtain ⟨hid, hstate⟩ := Task.fields_of_move built
      have hafter : (((s.putApproval a).push event).putTask moved).stateOf req.taskId =
          some (postState req.decision task.state) := by
        rw [stateOf_putTask, hid, Store.id_of_task? decides.found, if_pos rfl, hstate]
      refine ⟨fun reason hd => absurd (postState_abandon hd task.state) other,
        fun retryable hd => ?_⟩
      rw [hafter, postState_timeout hd]

/-- From a state with no stuck task, a call keeps tasks and approvals coherent exactly when it is
none of those that disrupt them. -/
lemma coherent_step_iff {x : Store × TaskHistory} {c : TaskCall} (hnever : NeverStuck x) :
    (EndsWork (watchedTasks.transition x c) ∧ NeverStuck (watchedTasks.transition x c).after) ↔
      ¬ Disrupts x.1 x.2 c := by
  obtain ⟨s, h⟩ := x
  constructor
  · rintro hcoherent hdisrupts
    cases hdisrupts with
    | abandon env req task existing reason resolvable decision open_task =>
        exact not_coherent_of_abandon resolvable decision open_task hcoherent
    | timeout env req task existing retryable resolvable decision open_task =>
        exact not_coherent_of_timeout resolvable decision open_task hcoherent.2
    | request env req task found executing created blank unbacked =>
        exact not_coherent_of_request found executing created blank unbacked hcoherent.2
  · intro hgood
    refine ⟨endsWork_of_resolve hgood, ?_⟩
    cases c with
    | createTask env req =>
        refine neverStuck_of_same hnever ?_
          fun _ _ _ _ hasked => absurd hasked (by simp [askedFor, Machine.transition])
        rcases createTask_next s env req with hsame | ⟨_, -, hsame⟩ <;> exact hsame.2
    | transitionTask env req =>
        refine neverStuck_of_same hnever ?_
          fun _ _ _ _ hasked => absurd hasked (by simp [askedFor, Machine.transition])
        rcases transitionTask_next s env req with hsame | ⟨_, _, -, -, -, -, hsame⟩ <;>
          exact hsame.2
    | requestApproval env req => exact neverStuck_of_request hnever hgood
    | resolveApproval env req => exact neverStuck_of_resolve hnever hgood

/-! ## Runs -/

/-- **Tasks and approvals.**  They stay coherent along a run exactly when no call disrupts them. -/
theorem coherent_iff (runs : List RunRow) (events : List RunEvent) (calls : List TaskCall) :
    Coherent runs events calls ↔
      watchedTasks.Meets (fun x c => ¬ Disrupts x.1 x.2 c) (⟨runs, events, [], []⟩, .empty)
        calls := by
  refine watchedTasks.forall_transition_iff_meets (I := NeverStuck)
    (P := fun t => EndsWork t ∧ NeverStuck t.after)
    (fun x c hnever hgood => ((coherent_step_iff hnever).mpr hgood).2)
    (fun x c hnever => coherent_step_iff hnever) ?_
  intro taskId approvalId _ hawaited
  exact absurd hawaited (by simp [TaskHistory.empty])

/-- A task waits for an approval that is denied with `DeniedAbandon`. -/
def abandonedCalls : List TaskCall :=
  [.createTask stillEnv { sessionId := "s1", title := "T", objective := "O" },
    .transitionTask ⟨fun _ => 0, fun _ => "1"⟩ { taskId := "task-s1", state := "planning" },
    .transitionTask ⟨fun _ => 0, fun _ => "2"⟩ { taskId := "task-s1", state := "executing" },
    .requestApproval stillEnv { taskId := "task-s1" },
    .resolveApproval stillEnv { taskId := "task-s1", decision := .deniedAbandon "no" }]

/-- The abandoned task goes on waiting for the denied approval. -/
theorem not_coherent_abandon : ¬ Coherent [] [] abandonedCalls := by
  intro hcoherent
  have hlast := (hcoherent _ (List.getLast_mem (l := watchedTasks.trace
    (⟨[], [], [], []⟩, .empty) abandonedCalls) (by simp [abandonedCalls]))).1 stillEnv
    { taskId := "task-s1", decision := .deniedAbandon "no" } _ rfl rfl
  exact absurd (hlast.1 "no" rfl) (by decide +kernel)

end Waywarden

import Waywarden.Lib.Machine
import Waywarden.Services.TaskOutcomes

/-!
# The task service as a machine

The four operations of `EATaskService` on one store, and what each of them does to the state of a
task and to the approvals: `taskMoves_next` and `requested_or_kept`.
-/

namespace Waywarden

open Machine EATaskService

/-- A call of the task service, with what it reads from the clock. -/
inductive TaskCall
  | createTask (env : Env) (req : CreateTaskRequest)
  | transitionTask (env : Env) (req : TransitionTaskRequest)
  | requestApproval (env : Env) (req : RequestApprovalRequest)
  | resolveApproval (env : Env) (req : ApprovalDecisionRequest)

/-- The computation a call runs. -/
def TaskCall.perform : TaskCall → Session Mapping
  | .createTask env req => EATaskService.createTask env req
  | .transitionTask env req => EATaskService.transitionTask env req
  | .requestApproval env req => EATaskService.requestApproval env req
  | .resolveApproval env req => EATaskService.resolveApproval env req

/-- The task service on one store. -/
def taskMachine : Machine Store TaskCall (Except PyError Mapping) := ⟨fun s c => c.perform s⟩

/-- A transition of the task service. -/
abbrev TaskTransition : Type := Transition Store TaskCall (Except PyError Mapping)

/-- The state a task is stored in. -/
def Store.stateOf (s : Store) (taskId : String) : Option TaskState :=
  (s.task? taskId).map Task.state

variable {s : Store}

lemma stateOf_of_tasks {s' : Store} (h : s'.tasks = s.tasks) (taskId : String) :
    s'.stateOf taskId = s.stateOf taskId := by
  rw [Store.stateOf, Store.task?, h, Store.stateOf, Store.task?]

lemma stateOf_putTask (t : Task) (taskId : String) :
    (s.putTask t).stateOf taskId =
      if taskId = t.id.val then some t.state else s.stateOf taskId := by
  by_cases h : taskId = t.id.val
  · rw [if_pos h, Store.stateOf, h, Store.task?_putTask_self, Option.map_some]
  · rw [if_neg h, Store.stateOf, Store.task?_putTask_ne s t h, Store.stateOf]

/-- Only a timeout changes the state of a task: no decision is named `denied`. -/
lemma postState_eq (d : ApprovalDecision) (state : TaskState) :
    postState d state = match d with
      | .timeout _ => .failed
      | _ => state := by
  cases d <;> rfl

lemma createTask_next (s : Store) (env : Env) (req : CreateTaskRequest) :
    CreateLeaves s (taskMachine.next s (.createTask env req)) :=
  CreateOutcome.leaves (createTask_outcome s env req).outcome

lemma transitionTask_next (s : Store) (env : Env) (req : TransitionTaskRequest) :
    TransitionLeaves s req (taskMachine.next s (.transitionTask env req)) :=
  TransitionOutcome.leaves (transitionTask_outcome s env req).outcome

lemma requestApproval_next (s : Store) (env : Env) (req : RequestApprovalRequest) :
    RequestLeaves s req (taskMachine.next s (.requestApproval env req)) :=
  RequestOutcome.leaves (requestApproval_outcome s env req).outcome

/-- What a resolution leaves, returned or refused. -/
lemma resolveApproval_next (s : Store) (env : Env) (req : ApprovalDecisionRequest) :
    SameTables s (taskMachine.next s (.resolveApproval env req)) ∨
      DecidedLeaves s req (taskMachine.next s (.resolveApproval env req)) :=
  (ResolveOutcome.leaves (resolveApproval_outcome s env req).outcome).imp_left And.right

/-! ## Tasks -/

/-- What one call may do to the state of a task. -/
inductive TaskMoves (s : Store) (taskId : String) : TaskCall → Option TaskState → Prop
  | stay (c : TaskCall) : TaskMoves s taskId c (s.stateOf taskId)
  | create (env : Env) (req : CreateTaskRequest) :
      TaskMoves s taskId (.createTask env req) (some .draft)
  | transition (env : Env) (req : TransitionTaskRequest) (st st' : TaskState)
      (addressed : req.taskId = taskId) (found : s.stateOf taskId = some st)
      (allowed : st' ∈ allowedTransitions st) (named : st'.name = req.state) :
      TaskMoves s taskId (.transitionTask env req) (some st')
  | request (env : Env) (req : RequestApprovalRequest) (addressed : req.taskId = taskId)
      (found : s.stateOf taskId = some .executing) :
      TaskMoves s taskId (.requestApproval env req) (some .waitingApproval)
  | expire (env : Env) (req : ApprovalDecisionRequest) (retryable : Bool)
      (timedOut : req.decision = .timeout retryable) :
      TaskMoves s taskId (.resolveApproval env req) (some .failed)

/-- **One call moves a task** only in these ways. -/
theorem taskMoves_next (s : Store) (c : TaskCall) (taskId : String) :
    TaskMoves s taskId c ((taskMachine.next s c).stateOf taskId) := by
  have same : ∀ s' : Store, s'.tasks = s.tasks → TaskMoves s taskId c (s'.stateOf taskId) := by
    intro s' h
    rw [stateOf_of_tasks h]
    exact .stay c
  -- a saved task is seen under its own id only
  have saved : ∀ (s' : Store) (m : Task), s'.tasks = (s.putTask m).tasks →
      (taskId = m.id.val → TaskMoves s taskId c (some m.state)) →
      TaskMoves s taskId c (s'.stateOf taskId) := by
    intro s' m h hm
    rw [stateOf_of_tasks h, stateOf_putTask]
    split
    · exact hm ‹_›
    · exact .stay c
  cases c with
  | createTask env req =>
      rcases createTask_next s env req with h | ⟨task, hstate, h⟩
      · exact same _ h.1
      · refine saved _ task h.1 fun _ => ?_
        rw [hstate]
        exact .create env req
  | transitionTask env req =>
      rcases transitionTask_next s env req with
        h | ⟨task, moved, htask, hid, hallowed, hname, h⟩
      · exact same _ h.1
      · refine saved _ moved h.1 fun heq => ?_
        have haddr : req.taskId = taskId := by rw [heq, hid, Store.id_of_task? htask]
        exact .transition env req task.state moved.state haddr
          (by rw [Store.stateOf, ← haddr, htask, Option.map_some]) hallowed hname
  | requestApproval env req =>
      rcases requestApproval_next s env req with
        h | ⟨task, moved, htask, hexec, hid, hstate, h⟩
      · exact same _ h.1
      · have htasks : (taskMachine.next s (.requestApproval env req)).tasks =
            (s.putTask moved).tasks := by
          rcases h with h | ⟨a, -, -, h⟩
          · exact h.1
          · exact h.1
        refine saved _ moved htasks fun heq => ?_
        have haddr : req.taskId = taskId := by rw [heq, hid, Store.id_of_task? htask]
        rw [hstate]
        exact .request env req haddr
          (by rw [Store.stateOf, ← haddr, htask, Option.map_some, hexec])
  | resolveApproval env req =>
      rcases resolveApproval_next s env req with
        h | ⟨task, existing, a, -, -, -, -, -, h | ⟨moved, -, hstate, hpost, h⟩⟩
      · exact same _ h.1
      · exact same _ h.1
      · refine saved _ moved h.1 fun _ => ?_
        rw [hstate]
        rw [postState_eq] at hpost ⊢
        split at hpost
        · rename_i retryable htimeout
          exact .expire env req retryable htimeout
        · exact absurd rfl hpost

/-! ## Approvals -/

/-- The call is a `request_approval` for a task that saved the pending record of an approval. -/
def Requests (t : TaskTransition) (taskId approvalId : String) : Prop :=
  ∃ (env : Env) (req : RequestApprovalRequest) (task : Task) (a : Approval),
    t.call = .requestApproval env req ∧ req.taskId = taskId ∧
      t.before.task? taskId = some task ∧ requestedId req task = approvalId ∧
      t.after.approval? approvalId = some a ∧ a.state = .pending

/-- An approval found after a call was there before it, or the call requested it. -/
theorem requested_or_kept (s : Store) (c : TaskCall) {approvalId : String} {a : Approval}
    (h : (taskMachine.next s c).approval? approvalId = some a) :
    (∃ b, s.approval? approvalId = some b) ∨
      ∃ taskId, Requests (taskMachine.transition s c) taskId approvalId := by
  have kept : ∀ s' : Store, s'.approvals = s.approvals → s'.approval? approvalId = some a →
      ∃ b, s.approval? approvalId = some b := by
    intro s' hs' ha
    rw [Store.approval?, hs'] at ha
    exact ⟨a, ha⟩
  cases c with
  | createTask env req =>
      rcases createTask_next s env req with hs' | ⟨_, -, hs'⟩
      · exact Or.inl (kept _ hs'.2 h)
      · exact Or.inl (kept _ hs'.2 h)
  | transitionTask env req =>
      rcases transitionTask_next s env req with hs' | ⟨_, _, -, -, -, -, hs'⟩
      · exact Or.inl (kept _ hs'.2 h)
      · exact Or.inl (kept _ hs'.2 h)
  | requestApproval env req =>
      rcases requestApproval_next s env req with
        hs' | ⟨task, moved, htask, -, -, -, hs' | ⟨b, hpending, hid, hs'⟩⟩
      · exact Or.inl (kept _ hs'.2 h)
      · exact Or.inl (kept _ hs'.2 h)
      · by_cases heq : approvalId = b.id.val
        · refine Or.inr ⟨req.taskId, env, req, task, b, rfl, rfl, htask, ?_, ?_, hpending⟩
          · rw [heq, hid]
          · rw [heq]
            exact (hs'.approval? b.id.val).trans (Store.approval?_putApproval_self _ b)
        · refine Or.inl ⟨a, ?_⟩
          rw [← Store.approval?_putApproval_ne s b heq, ← h]
          exact (hs'.approval? approvalId).symm
  | resolveApproval env req =>
      rcases resolveApproval_next s env req with hs' | ⟨task, existing, b, -, hrow, -, hid, -, hs'⟩
      · exact Or.inl (kept _ hs'.2 h)
      · by_cases heq : approvalId = b.id.val
        · exact Or.inl ⟨existing, by
            rw [heq, hid, Store.id_of_approval? hrow, hrow]⟩
        · have happrovals : (taskMachine.next s (.resolveApproval env req)).approvals =
              (s.putApproval b).approvals := by
            rcases hs' with hs' | ⟨_, -, -, -, hs'⟩
            · exact hs'.2
            · exact hs'.2
          refine Or.inl ⟨a, ?_⟩
          rw [← Store.approval?_putApproval_ne s b heq, Store.approval?, ← happrovals]
          exact h

end Waywarden

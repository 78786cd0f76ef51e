import Waywarden.Services.TaskOutcomes
import Waywarden.System.TaskMachine

/-!
# Ended tasks

The transition table of `transition_task` has no move out of `completed`, `failed` and
`cancelled`, but only `transition_task` consults it.  Two calls write a task without it:

* a `resolve_approval` with a timeout saves its task as `failed` whatever its state, so an
  approval still pending when its task was completed or cancelled reopens the task when it times
  out (`not_endedForGood_timeout`);
* a `create_task` for a session id with trailing blanks looks an id up that no task is stored
  under, and then saves its draft under the stripped id.

`endedForGood_iff`: along a run no ended task changes its state exactly when no call is one of
these.
-/

namespace Waywarden

open Machine EATaskService

/-- Whether a task in this state has ended. -/
def TaskState.isEnded : TaskState → Bool
  | .completed | .failed | .cancelled => true
  | _ => false

/-- The transition table has no move out of an ended state. -/
lemma allowedTransitions_of_isEnded {state : TaskState} (h : state.isEnded = true) :
    allowedTransitions state = [] := by
  revert h
  cases state <;> decide

/-- Once a task is stored in an ended state, no later call of the run changes its state. -/
def EndedForGood (trace : List TaskTransition) : Prop :=
  ∀ taskId state, state.isEnded = true → ∀ pre t post, trace = pre ++ t :: post →
    t.before.stateOf taskId = some state → ∀ u ∈ t :: post, u.after.stateOf taskId = some state

/-- The call times an approval out that is pending, in time and announced, while its task is
completed or cancelled. -/
structure Expires (s : Store) (env : Env) (req : ApprovalDecisionRequest) (task : Task)
    (existing : Approval) : Prop extends Resolvable s env req task existing where
  announced : ¬ DecisionRefused s req task existing
  timeout : ∃ retryable, req.decision = .timeout retryable
  ended : task.state = .completed ∨ task.state = .cancelled
  created : task.createdAt ≤ env.now 1

/-- The call creates a task under a base id that is free but whose stripped form is the id of an
ended task. -/
structure Recreates (s : Store) (req : CreateTaskRequest) (state : TaskState) : Prop where
  free : s.task? ("task-" ++ req.sessionId) = none
  stored : s.stateOf (strip ("task-" ++ req.sessionId)) = some state
  ended : state.isEnded = true
  session : strip req.sessionId ≠ ""
  title : strip req.title ≠ ""
  objective : strip req.objective ≠ ""

/-- The calls that reopen an ended task. -/
inductive Reopens (s : Store) : TaskCall → Prop
  | expire (env : Env) (req : ApprovalDecisionRequest) (task : Task) (existing : Approval)
      (h : Expires s env req task existing) : Reopens s (.resolveApproval env req)
  | recreate (env : Env) (req : CreateTaskRequest) (state : TaskState)
      (h : Recreates s req state) : Reopens s (.createTask env req)

/-- The transition keeps every ended task in its state. -/
def KeepsEnded (t : TaskTransition) : Prop :=
  ∀ taskId state, state.isEnded = true → t.before.stateOf taskId = some state →
    t.after.stateOf taskId = some state

/-! ## Single calls -/

variable {s : Store} {env : Env}

/-- The states a completed or cancelled task must keep are not the one a timeout saves. -/
lemma postState_timeout_ne (retryable : Bool) {state : TaskState}
    (h : state = .completed ∨ state = .cancelled) :
    postState (.timeout retryable) state = .failed ∧
      postState (.timeout retryable) state ≠ state := by
  rw [postState_eq]
  rcases h with rfl | rfl <;> simp

/-- A timeout of an approval whose task has ended otherwise saves the task as failed. -/
lemma stateOf_of_expires {req : ApprovalDecisionRequest} {task : Task} {existing : Approval}
    (h : Expires s env req task existing) :
    (taskMachine.next s (.resolveApproval env req)).stateOf req.taskId = some .failed := by
  obtain ⟨retryable, htimeout⟩ := h.timeout
  obtain ⟨a, hdecides⟩ := h.toResolvable.deciding
  obtain ⟨hfailed, hother⟩ := postState_timeout_ne retryable h.ended
  rw [← htimeout] at hfailed hother
  have hout := (resolveApproval_outcome s env req).outcome
  show Store.stateOf (resolveApproval env req s).2 req.taskId = _
  generalize (resolveApproval env req s).1 = reply, (resolveApproval env req s).2 = s' at hout
  cases hout with
  | refused e why => exact absurd hdecides (why task existing a)
  | unannounced task' existing' a' e decides refused =>
      obtain ⟨rfl, rfl⟩ := h.toResolvable.unique decides
      exact absurd refused h.announced
  | stays task' existing' a' event reply decides announced same =>
      obtain ⟨rfl, -⟩ := h.toResolvable.unique decides
      exact absurd same hother
  | stuck task' existing' a' event e decides announced other unbuilt =>
      obtain ⟨rfl, -⟩ := h.toResolvable.unique decides
      obtain ⟨moved, hmoved⟩ := Task.move_of_le h.created (postState req.decision task.state)
      exact absurd (unbuilt.symm.trans hmoved) (by simp)
  | moves task' moved existing' a' event reply decides announced other built =>
      obtain ⟨rfl, -⟩ := h.toResolvable.unique decides
      obtain ⟨hid, hstate⟩ := Task.fields_of_move built
      rw [stateOf_putTask, hid, Store.id_of_task? h.found, if_pos rfl, hstate, hfailed]

/-- A draft saved over an ended task. -/
lemma stateOf_of_recreates {req : CreateTaskRequest} {state : TaskState}
    (h : Recreates s req state) :
    (taskMachine.next s (.createTask env req)).stateOf (strip ("task-" ++ req.sessionId)) =
      some .draft := by
  have hchosen : chosenId s req = "task-" ++ req.sessionId := by
    rw [chosenId, h.free, Option.isSome_none, if_neg (by simp)]
  have hnonblank : strip (chosenId s req) ≠ "" := by
    obtain ⟨task, htask, -⟩ := Option.map_eq_some_iff.mp h.stored
    rw [hchosen, ← Store.id_of_task? htask]
    exact task.id.property.2
  obtain ⟨task, hbuilt⟩ := Task.new_of_nonblank hnonblank h.session h.title h.objective .draft
    (env.now 0)
  obtain ⟨hid, -, -, -, hstate⟩ := Task.fields_of_new hbuilt
  rw [hchosen] at hid
  have hput : (s.putTask task).stateOf (strip ("task-" ++ req.sessionId)) = some .draft := by
    rw [stateOf_putTask, hid, if_pos rfl, hstate]
  have hout := (createTask_outcome s env req).outcome
  show Store.stateOf (createTask env req s).2 _ = _
  generalize (createTask env req s).1 = reply, (createTask env req s).2 = s' at hout
  cases hout with
  | refused e built => exact absurd (built.symm.trans hbuilt) (by simp)
  | unannounced task' e built refused =>
      obtain rfl := Except.ok.inj (hbuilt.symm.trans built)
      exact hput
  | done task' reply event built =>
      obtain rfl := Except.ok.inj (hbuilt.symm.trans built)
      exact hput

/-- A created task is saved over an ended one only by a call that recreates it. -/
lemma recreates_of_built {req : CreateTaskRequest} {task : Task} {state : TaskState}
    (h : builtTask s env req = .ok task) (hstored : s.stateOf task.id.val = some state)
    (hended : state.isEnded = true) : Recreates s req state := by
  obtain ⟨-, hsession, htitle, hobjective, -⟩ := Task.fields_of_new h
  rcases created_where h with hnone | ⟨hfree, hid⟩
  · rw [Store.stateOf, hnone] at hstored
    exact absurd hstored (by simp)
  · exact ⟨hfree, by rw [← hid]; exact hstored, hended, by rw [← hsession]; exact
      task.sessionId.property.2, by rw [← htitle]; exact task.title.property.2, by
      rw [← hobjective]; exact task.objective.property.2⟩

/-- A call that reopens an ended task does not keep it. -/
lemma not_keepsEnded_of_reopens {c : TaskCall} (hreopens : Reopens s c) :
    ¬ KeepsEnded (taskMachine.transition s c) := by
  intro hkeeps
  have hnext : ∀ taskId state, state.isEnded = true → s.stateOf taskId = some state →
      (taskMachine.next s c).stateOf taskId = some state := hkeeps
  cases hreopens with
  | expire env req task existing h =>
      have hbefore : s.stateOf req.taskId = some task.state := by
        rw [Store.stateOf, h.found, Option.map_some]
      have hended : task.state.isEnded = true := by
        rcases h.ended with hst | hst <;> rw [hst] <;> rfl
      have hafter := hnext _ _ hended hbefore
      rw [stateOf_of_expires h, Option.some.injEq] at hafter
      rcases h.ended with hst | hst <;> rw [hst] at hafter <;> exact absurd hafter (by simp)
  | recreate env req state h =>
      have hafter := hnext _ _ h.ended h.stored
      rw [stateOf_of_recreates h, Option.some.injEq] at hafter
      exact absurd h.ended (by rw [← hafter]; decide)

section

variable {taskId : String} {state : TaskState}

/-- A call that saves one task in the state it had, if it is this one, leaves this one's state. -/
lemma stateOf_of_saved (hbefore : s.stateOf taskId = some state) {s' : Store} {m : Task}
    (hs' : s'.tasks = (s.putTask m).tasks) (hm : taskId = m.id.val → m.state = state) :
    s'.stateOf taskId = some state := by
  rw [stateOf_of_tasks hs', stateOf_putTask]
  split
  · rw [hm ‹_›]
  · exact hbefore

lemma keepsEnded_createTask {req : CreateTaskRequest} (hended : state.isEnded = true)
    (hbefore : s.stateOf taskId = some state) (hgood : ¬ Reopens s (.createTask env req)) :
    (taskMachine.next s (.createTask env req)).stateOf taskId = some state := by
  have fresh : ∀ task, builtTask s env req = .ok task → taskId = task.id.val →
      task.state = state := by
    rintro task hbuilt rfl
    exact absurd (.recreate env req state (recreates_of_built hbuilt hbefore hended)) hgood
  have hout := (createTask_outcome s env req).outcome
  show Store.stateOf (createTask env req s).2 _ = _
  generalize (createTask env req s).1 = reply, (createTask env req s).2 = s' at hout
  cases hout with
  | refused => exact hbefore
  | unannounced task e built => exact stateOf_of_saved hbefore rfl (fresh task built)
  | done task reply event built => exact stateOf_of_saved hbefore rfl (fresh task built)

/-- The transition table keeps ended tasks, so a transition does. -/
lemma keepsEnded_transitionTask {req : TransitionTaskRequest} (hended : state.isEnded = true)
    (hbefore : s.stateOf taskId = some state) :
    (taskMachine.next s (.transitionTask env req)).stateOf taskId = some state := by
  have hmove := taskMoves_next s (.transitionTask env req) taskId
  generalize (taskMachine.next s (.transitionTask env req)).stateOf taskId = st at hmove
  cases hmove with
  | stay => exact hbefore
  | transition _ _ st₀ st' _ hfound hallowed _ =>
      obtain rfl := Option.some.inj (hfound.symm.trans hbefore)
      rw [allowedTransitions_of_isEnded hended] at hallowed
      exact absurd hallowed List.not_mem_nil

lemma keepsEnded_requestApproval {req : RequestApprovalRequest} (hended : state.isEnded = true)
    (hbefore : s.stateOf taskId = some state) :
    (taskMachine.next s (.requestApproval env req)).stateOf taskId = some state := by
  have hmove := taskMoves_next s (.requestApproval env req) taskId
  generalize (taskMachine.next s (.requestApproval env req)).stateOf taskId = st at hmove
  cases hmove with
  | stay => exact hbefore
  | request _ _ _ hfound =>
      obtain rfl := Option.some.inj (hfound.symm.trans hbefore)
      exact absurd hended (by decide)

/-- Only a timeout saves an ended task in another state, and it saves it as failed. -/
lemma ended_of_postState_ne {decision : ApprovalDecision} (hended : state.isEnded = true)
    (hother : postState decision state ≠ state) :
    (∃ retryable, decision = .timeout retryable) ∧ (state = .completed ∨ state = .cancelled) := by
  rw [postState_eq] at hother
  split at hother
  · refine ⟨⟨_, rfl⟩, ?_⟩
    revert hended hother
    cases state <;> decide
  · exact absurd rfl hother

lemma keepsEnded_resolveApproval {req : ApprovalDecisionRequest} (hended : state.isEnded = true)
    (hbefore : s.stateOf taskId = some state) (hgood : ¬ Reopens s (.resolveApproval env req)) :
    (taskMachine.next s (.resolveApproval env req)).stateOf taskId = some state := by
  have hout := (resolveApproval_outcome s env req).outcome
  show Store.stateOf (resolveApproval env req s).2 _ = _
  generalize (resolveApproval env req s).1 = reply, (resolveApproval env req s).2 = s' at hout
  cases hout with
  | refused => exact hbefore
  | unannounced => exact hbefore
  | stays => exact hbefore
  | stuck => exact hbefore
  | moves task moved existing a event reply decides announced other built =>
      refine stateOf_of_saved (m := moved) hbefore rfl fun hid => ?_
      obtain ⟨hmid, -⟩ := Task.fields_of_move built
      rw [hid, hmid, Store.stateOf, Store.id_of_task? decides.found, decides.found,
        Option.map_some, Option.some.injEq] at hbefore
      subst hbefore
      obtain ⟨htimeout, hstate⟩ := ended_of_postState_ne hended other
      exact absurd (.expire env req task existing ⟨decides.resolvable, announced, htimeout, hstate,
        Task.createdAt_le_of_move built⟩) hgood

end

/-- A call keeps the ended tasks exactly when it does not reopen one. -/
lemma keepsEnded_iff (s : Store) (c : TaskCall) :
    KeepsEnded (taskMachine.transition s c) ↔ ¬ Reopens s c := by
  constructor
  · exact fun hkeeps hreopens => not_keepsEnded_of_reopens hreopens hkeeps
  · intro hgood
    show ∀ taskId state, state.isEnded = true → s.stateOf taskId = some state →
      (taskMachine.next s c).stateOf taskId = some state
    intro taskId state hended hbefore
    cases c with
    | createTask env req => exact keepsEnded_createTask hended hbefore hgood
    | transitionTask env req => exact keepsEnded_transitionTask hended hbefore
    | requestApproval env req => exact keepsEnded_requestApproval hended hbefore
    | resolveApproval env req => exact keepsEnded_resolveApproval hended hbefore hgood

/-! ## Runs -/

/-- **Ended tasks.**  Along a run no ended task changes its state exactly when no call reopens
one. -/
theorem endedForGood_iff (s : Store) (calls : List TaskCall) :
    EndedForGood (taskMachine.trace s calls) ↔
      taskMachine.Meets (fun s c => ¬ Reopens s c) s calls := by
  rw [← taskMachine.forall_transition_iff_meets (I := fun _ => True) (P := KeepsEnded)
    (fun _ _ _ _ => trivial) (fun s c _ => keepsEnded_iff s c) trivial]
  constructor
  · intro h t ht taskId state hended
    exact (taskMachine.keep_iff_forever (P := fun s => s.stateOf taskId = some state)).mpr
      (h taskId state hended) t ht
  · intro h taskId state hended
    exact (taskMachine.keep_iff_forever (P := fun s => s.stateOf taskId = some state)).mp
      fun t ht => h t ht taskId state hended

/-- A task waits for an approval, is cancelled meanwhile, and the approval times out. -/
def timeoutAfterCancel : List TaskCall :=
  [.createTask stillEnv { sessionId := "s1", title := "T", objective := "O" },
    .transitionTask ⟨fun _ => 0, fun _ => "1"⟩ { taskId := "task-s1", state := "planning" },
    .transitionTask ⟨fun _ => 0, fun _ => "2"⟩ { taskId := "task-s1", state := "executing" },
    .requestApproval stillEnv { taskId := "task-s1" },
    .transitionTask ⟨fun _ => 0, fun _ => "3"⟩ { taskId := "task-s1", state := "cancelled" },
    .resolveApproval stillEnv { taskId := "task-s1", decision := .timeout true }]

/-- A timeout takes a cancelled task to `failed`. -/
theorem not_endedForGood_timeout :
    ¬ EndedForGood (taskMachine.trace Store.empty timeoutAfterCancel) := by
  intro h
  have hafter := h "task-s1" .cancelled (by decide) [_, _, _, _, _] _ [] rfl (by decide) _
    List.mem_cons_self
  exact absurd hafter (by decide)

end Waywarden

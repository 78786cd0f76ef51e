import Waywarden.System.TaskMachine

/-!
# Tasks waiting for approval

A task leaves `waiting_approval` for `planning` by `transition_task`, which looks at the task's
state and at nothing else: whether an approval was requested and how it was decided is left to the
caller.  A task may enter `waiting_approval` the same way, with no request at all.  So a move to
`planning` need not have an approval behind it (`not_noBypass_without_request`).

`taskMoves_to_planning` says what the service does guarantee about such a move: who makes it, how
the task came to wait, and that a resolution which returned for the task decided a pending
approval that a request had created.
-/

namespace Waywarden

open Machine EATaskService

/-- The transition moves a task from one state to another. -/
def Moves (t : TaskTransition) (taskId : String) (source target : TaskState) : Prop :=
  t.before.stateOf taskId = some source ∧ t.after.stateOf taskId = some target

instance (t : TaskTransition) (taskId : String) (source target : TaskState) :
    Decidable (Moves t taskId source target) :=
  inferInstanceAs (Decidable (_ ∧ _))

/-- The transition brings a task into `waiting_approval`. -/
def Enters (t : TaskTransition) (taskId : String) : Prop :=
  t.before.stateOf taskId ≠ some .waitingApproval ∧
    t.after.stateOf taskId = some .waitingApproval

/-- Whether a decision lets a task go on: `Granted` and `DeniedAlternatePath` do. -/
def ApprovalDecision.goesOn : ApprovalDecision → Bool
  | .granted | .deniedAlternatePath _ => true
  | _ => false

/-- The transition is a `resolve_approval` for a task that returned, with a decision that lets the
task go on; it resolved the approval with the given id. -/
def Resolves (t : TaskTransition) (taskId approvalId : String) : Prop :=
  ∃ (env : Env) (req : ApprovalDecisionRequest) (task : Task) (reply : Mapping),
    t.call = .resolveApproval env req ∧ req.taskId = taskId ∧ req.decision.goesOn = true ∧
      t.before.task? taskId = some task ∧ resolvedId req task = approvalId ∧ t.reply = .ok reply

/-- Every move from `waiting_approval` to `planning` has an approval behind it: one requested for
the task at or after its last entry into `waiting_approval`, and since resolved with a decision
that lets the task go on. -/
def NoBypass (trace : List TaskTransition) : Prop :=
  ∀ pre t post taskId, trace = pre ++ t :: post → Moves t taskId .waitingApproval .planning →
    ∃ earlier r since approvalId, pre = earlier ++ r :: since ∧ Requests r taskId approvalId ∧
      (∀ u ∈ since, ¬ Enters u taskId) ∧ ∃ d ∈ since, Resolves d taskId approvalId

/-- The transition decides a pending approval in a way that lets its task go on, and leaves every
task as it was. -/
structure Decides (t : TaskTransition) (approvalId : String) : Prop where
  pending : ∃ a, t.before.approval? approvalId = some a ∧ a.state = .pending
  decided : ∃ a, t.after.approval? approvalId = some a ∧ (a.state = .granted ∨ a.state = .denied)
  tasks : t.after.tasks = t.before.tasks

/-- The call asks for the move itself. -/
def AsksFor (c : TaskCall) (taskId state : String) : Prop :=
  ∃ (env : Env) (req : TransitionTaskRequest),
    c = .transitionTask env req ∧ req.taskId = taskId ∧ req.state = state

/-! ## Single calls -/

/-- Only `transition_task` moves a task to `planning`. -/
lemma asksFor_of_moves {s : Store} {c : TaskCall} {taskId : String}
    (h : Moves (taskMachine.transition s c) taskId .waitingApproval .planning) :
    AsksFor c taskId "planning" := by
  obtain ⟨hbefore, hafter⟩ := h
  have hmove := taskMoves_next s c taskId
  generalize hst : (taskMachine.next s c).stateOf taskId = st at hmove
  obtain rfl : st = some .planning := hst.symm.trans hafter
  generalize hplanning : some TaskState.planning = st at hmove
  cases hmove with
  | stay => exact absurd (hplanning.trans hbefore) (by simp)
  | create => exact absurd hplanning (by simp)
  | request => exact absurd hplanning (by simp)
  | expire => exact absurd hplanning (by simp)
  | transition env req st st' haddr _ _ hname =>
      obtain rfl := Option.some.inj hplanning
      exact ⟨env, req, rfl, haddr, hname.symm⟩

/-- A `request_approval` that returned stored a pending approval for its task. -/
lemma requests_of_ok {s : Store} {env : Env} {req : RequestApprovalRequest} {reply : Mapping}
    (h : (taskMachine.transition s (.requestApproval env req)).reply = .ok reply) :
    ∃ id, Requests (taskMachine.transition s (.requestApproval env req)) req.taskId id := by
  obtain ⟨task, moved, a, htask, -, -, -, hpending, hid, hs'⟩ :=
    ((requestApproval_outcome s env req).of_ok (Prod.ext h rfl)).requestedLeaves
  refine ⟨requestedId req task, env, req, task, a, rfl, rfl, htask, rfl, ?_, hpending⟩
  rw [← hid]
  exact (hs'.approval? a.id.val).trans (Store.approval?_putApproval_self _ a)

/-- A decision that lets a task go on does not change its state. -/
lemma postState_of_goesOn {d : ApprovalDecision} (h : d.goesOn = true) (state : TaskState) :
    postState d state = state := by
  rw [postState_eq]
  cases d with
  | granted => rfl
  | deniedAlternatePath note => rfl
  | deniedAbandon note => rfl
  | timeout retryable => exact absurd h (by simp [ApprovalDecision.goesOn])

/-- A decision that lets a task go on grants or denies. -/
lemma newState_of_goesOn {d : ApprovalDecision} (h : d.goesOn = true) :
    d.newState = .granted ∨ d.newState = .denied := by
  cases d with
  | granted => exact Or.inl rfl
  | deniedAlternatePath note => exact Or.inr rfl
  | deniedAbandon note => exact Or.inr rfl
  | timeout retryable => exact absurd h (by simp [ApprovalDecision.goesOn])

/-- A resolution that returned decided a pending approval. -/
lemma decides_of_resolves {s : Store} {c : TaskCall} {taskId approvalId : String}
    (h : Resolves (taskMachine.transition s c) taskId approvalId) :
    Decides (taskMachine.transition s c) approvalId := by
  obtain ⟨env, req, task, reply, hc, rfl, hgo, htask, hid, hreply⟩ := h
  obtain rfl : c = .resolveApproval env req := hc
  obtain ⟨⟨e, he⟩, -⟩ | ⟨task', existing, a, htask', hrow, hpending, haid, hstate, hs'⟩ :=
    ((resolveApproval_outcome s env req).of_ok (Prod.ext hreply rfl)).leaves
  · exact absurd he (by simp)
  obtain rfl := Option.some.inj (htask.symm.trans htask')
  rw [hid] at hrow
  have hkept : SameTables (s.putApproval a) (taskMachine.next s (.resolveApproval env req)) := by
    rcases hs' with hs' | ⟨moved, -, -, hpost, -⟩
    · exact hs'
    · exact absurd (postState_of_goesOn hgo task.state) hpost
  refine ⟨⟨existing, hrow, hpending⟩, ⟨a, ?_, ?_⟩, hkept.1⟩
  · rw [← Store.id_of_approval? hrow, ← haid]
    exact (hkept.approval? a.id.val).trans (Store.approval?_putApproval_self s a)
  · rw [hstate]
    exact newState_of_goesOn hgo

/-- A task enters `waiting_approval` by a transition asked for or by a request for it. -/
lemma entry_of_enters {s : Store} {c : TaskCall} {taskId : String}
    (h : Enters (taskMachine.transition s c) taskId) :
    AsksFor c taskId "waiting_approval" ∨
      ∃ env req, c = .requestApproval env req ∧ req.taskId = taskId := by
  obtain ⟨hbefore, hafter⟩ := h
  have hmove := taskMoves_next s c taskId
  generalize hst : (taskMachine.next s c).stateOf taskId = st at hmove
  obtain rfl : st = some .waitingApproval := hst.symm.trans hafter
  generalize hwaiting : some TaskState.waitingApproval = st at hmove
  cases hmove with
  | stay => exact absurd hwaiting.symm hbefore
  | create => exact absurd hwaiting (by simp)
  | expire => exact absurd hwaiting (by simp)
  | request env req haddr _ => exact Or.inr ⟨env, req, rfl, haddr⟩
  | transition env req st st' haddr _ _ hname =>
      obtain rfl := Option.some.inj hwaiting
      exact Or.inl ⟨env, req, rfl, haddr, hname.symm⟩

/-! ## Runs -/

/-- Every approval found in a run from the empty store was requested in it. -/
lemma requested_of_approval {calls : List TaskCall} {approvalId : String} {a : Approval}
    (h : (taskMachine.run Store.empty calls).approval? approvalId = some a) :
    ∃ r ∈ taskMachine.trace Store.empty calls, ∃ taskId, Requests r taskId approvalId := by
  have hnone : ¬ ∃ b, Store.empty.approval? approvalId = some b := fun ⟨b, hb⟩ => nomatch hb
  obtain ⟨pre, t, post, htrace, hbefore, hafter, -⟩ := taskMachine.last_entry
    (P := fun s => ∃ b, s.approval? approvalId = some b) hnone ⟨a, h⟩
  obtain ⟨cs₁, c, cs₂, -, -, rfl, -⟩ := taskMachine.trace_mid htrace
  obtain ⟨b, hb⟩ := hafter
  rcases requested_or_kept _ c hb with hkept | hrequests
  · exact absurd hkept hbefore
  · exact ⟨_, htrace ▸ List.mem_append_right _ List.mem_cons_self, hrequests⟩

/-- The task waits at the end of the transitions since it last entered `waiting_approval`, either
by a transition asked for or by a request, which stored an approval for it if it returned. -/
def WaitsSince (trace : List TaskTransition) (taskId : String) : Prop :=
  ∃ earlier e since, trace = earlier ++ e :: since ∧ Enters e taskId ∧
    (∀ u ∈ since, u.after.stateOf taskId = some .waitingApproval) ∧
    (AsksFor e.call taskId "waiting_approval" ∨ ∃ env req, e.call = .requestApproval env req ∧
      req.taskId = taskId ∧ ∀ reply, e.reply = .ok reply → ∃ id, Requests e taskId id)

/-- A waiting task has entered `waiting_approval`, and waits since. -/
lemma waitsSince_of_waiting {calls : List TaskCall} {taskId : String}
    (h : (taskMachine.run Store.empty calls).stateOf taskId = some .waitingApproval) :
    WaitsSince (taskMachine.trace Store.empty calls) taskId := by
  obtain ⟨earlier, e, since, htrace, hbefore, hafter, hsince⟩ := taskMachine.last_entry
    (P := fun s => s.stateOf taskId = some .waitingApproval) (s := Store.empty) nofun h
  obtain ⟨cs₁, c, cs₂, -, -, rfl, -⟩ := taskMachine.trace_mid htrace
  have henters : Enters (taskMachine.transition (taskMachine.run Store.empty cs₁) c) taskId :=
    ⟨hbefore, hafter⟩
  refine ⟨earlier, _, since, htrace, henters, fun u hu => (hsince u hu).2, ?_⟩
  rcases entry_of_enters henters with hasks | ⟨env, req, rfl, haddr⟩
  · exact Or.inl hasks
  · refine Or.inr ⟨env, req, rfl, haddr, fun reply hreply => ?_⟩
    rw [← haddr]
    exact requests_of_ok hreply

/-- **Leaving `waiting_approval` for `planning`.**  The move is the caller's own; the task has
been waiting since a transition asked for or a request; and every resolution of the task that
returned before the move, with a decision that lets it go on, decided a pending approval that an
earlier request had stored, and moved no task. -/
theorem taskMoves_to_planning {calls : List TaskCall} {pre post : List TaskTransition}
    {t : TaskTransition} {taskId : String}
    (htrace : taskMachine.trace Store.empty calls = pre ++ t :: post)
    (h : Moves t taskId .waitingApproval .planning) :
    AsksFor t.call taskId "planning" ∧ WaitsSince pre taskId ∧
      ∀ earlier d since approvalId, pre = earlier ++ d :: since → Resolves d taskId approvalId →
        Decides d approvalId ∧ ∃ r ∈ earlier, ∃ other, Requests r other approvalId := by
  obtain ⟨cs₁, c, cs₂, -, rfl, rfl, -⟩ := taskMachine.trace_mid htrace
  refine ⟨asksFor_of_moves h, waitsSince_of_waiting h.1, ?_⟩
  intro earlier d since approvalId hpre hresolves
  obtain ⟨ds₁, c', ds₂, -, rfl, rfl, -⟩ := taskMachine.trace_mid hpre
  have hdecides := decides_of_resolves hresolves
  obtain ⟨a, ha, -⟩ := hdecides.pending
  exact ⟨hdecides, requested_of_approval ha⟩

/-- A task brought to `waiting_approval` by a request that is then granted. -/
def grantedCalls : List TaskCall :=
  [.createTask stillEnv { sessionId := "s1", title := "T", objective := "O" },
    .transitionTask ⟨fun _ => 0, fun _ => "1"⟩ { taskId := "task-s1", state := "planning" },
    .transitionTask ⟨fun _ => 0, fun _ => "2"⟩ { taskId := "task-s1", state := "executing" },
    .requestApproval stillEnv { taskId := "task-s1" },
    .resolveApproval stillEnv { taskId := "task-s1", decision := .granted }]

/-- The call that takes the task on after the grant. -/
def resumeTask : TaskCall :=
  .transitionTask ⟨fun _ => 0, fun _ => "3"⟩ { taskId := "task-s1", state := "planning" }

/-- `taskMoves_to_planning` at the run that requests, grants and goes on. -/
theorem taskMoves_to_planning_granted :
    Moves (taskMachine.transition (taskMachine.run Store.empty grantedCalls) resumeTask) "task-s1"
        .waitingApproval .planning ∧
      AsksFor resumeTask "task-s1" "planning" ∧
      WaitsSince (taskMachine.trace Store.empty grantedCalls) "task-s1" ∧
      ∀ earlier d since approvalId,
        taskMachine.trace Store.empty grantedCalls = earlier ++ d :: since →
        Resolves d "task-s1" approvalId →
        Decides d approvalId ∧ ∃ r ∈ earlier, ∃ other, Requests r other approvalId := by
  have hmoves : Moves (taskMachine.transition (taskMachine.run Store.empty grantedCalls)
      resumeTask) "task-s1" .waitingApproval .planning := by decide
  exact ⟨hmoves, taskMoves_to_planning (taskMachine.trace_append Store.empty grantedCalls
    [resumeTask]) hmoves⟩

/-- A task moves to `waiting_approval` and on to `planning` with no approval anywhere. -/
theorem not_noBypass_without_request :
    ¬ NoBypass (taskMachine.trace Store.empty
      [.createTask stillEnv { sessionId := "s1", title := "T", objective := "O" },
        .transitionTask ⟨fun _ => 0, fun _ => "1"⟩ { taskId := "task-s1", state := "planning" },
        .transitionTask ⟨fun _ => 0, fun _ => "2"⟩ { taskId := "task-s1", state := "executing" },
        .transitionTask ⟨fun _ => 0, fun _ => "3"⟩
          { taskId := "task-s1", state := "waiting_approval" },
        .transitionTask ⟨fun _ => 0, fun _ => "4"⟩
          { taskId := "task-s1", state := "planning" }]) := by
  intro h
  obtain ⟨earlier, r, since, id, hpre, ⟨env, req, -, -, hcall, -⟩, -⟩ :=
    h [_, _, _, _] _ [] "task-s1" rfl (by decide)
  have hmem := hpre ▸ List.mem_append_right earlier (@List.mem_cons_self _ r since)
  simp only [List.mem_cons, List.not_mem_nil, or_false] at hmem
  rcases hmem with rfl | rfl | rfl | rfl
  all_goals exact TaskCall.noConfusion hcall

end Waywarden

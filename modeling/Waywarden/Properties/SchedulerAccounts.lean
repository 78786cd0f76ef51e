import Waywarden.Services.Scheduler
import Waywarden.System.TaskMachine

/-!
# What the scheduler accounts for

`EASchedulerHandler.run` reports how many tasks it processed, approved, denied and rescheduled.
Each task ends where its own decision leads (`Left`), under any titles, and is counted as its
decision says: one without a decision stays in `waiting_approval` and waits for an operator, in none
of the three counters (`reports_of_run`).

The docstrings have such a task count as denied, so that the three add up.  They do only if every
task finds a decision, and none of them is a timeout (`accounts_iff`).
-/

namespace Waywarden

namespace EASchedulerHandler

open EATaskService

/-! ## One task -/

/-- The approval a scheduled task waits for. -/
def scheduledApproval (runId taskId : String) : String :=
  approvalId (orDefault (some runId) (defaultRunId schedulerSession)) "ea_checkpoint" taskId

/-- A task of the scheduler's session is stored under the id, in the state. -/
def Stored (s : Store) (taskId : String) (state : TaskState) : Prop :=
  ∃ task, s.task? taskId = some task ∧ task.sessionId.val = schedulerSession ∧
    task.state = state

/-- The state of the approval stored under an id. -/
def approvalState (s : Store) (id : String) : Option ApprovalState :=
  (s.approval? id).map Approval.state

/-- Nothing but the task and its approval changed. -/
structure Touches (runId taskId : String) (s s' : Store) : Prop where
  tasks : ∀ id ≠ taskId, s'.task? id = s.task? id
  approvals : ∀ id ≠ scheduledApproval runId taskId, s'.approval? id = s.approval? id

variable {runId taskId : String} {s s' : Store} {env : Env}

lemma Touches.trans {s'' : Store} (h : Touches runId taskId s s')
    (h' : Touches runId taskId s' s'') : Touches runId taskId s s'' :=
  ⟨fun id hid => (h'.tasks id hid).trans (h.tasks id hid),
    fun id hid => (h'.approvals id hid).trans (h.approvals id hid)⟩

/-- The prefix of an approval's id does not depend on the task. -/
lemma scheduledApproval_injective {t t' : String}
    (h : scheduledApproval runId t = scheduledApproval runId t') : t = t' := by
  unfold scheduledApproval approvalId at h
  have hlists := congrArg String.toList h
  simp only [String.toList_append, List.append_assoc, List.append_cancel_left_eq] at hlists
  exact String.toList_inj.mp hlists

/-- An approval's id starts with a letter and ends as the task's id does. -/
lemma strip_scheduledApproval {t : Text} :
    strip (scheduledApproval runId t.val) = scheduledApproval runId t.val := by
  have htext := t.property
  have hne : t.val.toList ≠ [] := fun hnil => htext.2 (String.toList_inj.mp hnil)
  have hfixed : Trim.trim isSpace t.val.toList = t.val.toList := by
    have h := htext.1
    rwa [← String.toList_inj, strip, String.toList_ofList] at h
  have hlast := ((Trim.trim_eq_self_iff isSpace).mp hfixed).2
  unfold scheduledApproval approvalId
  rw [← String.toList_inj, strip, String.toList_ofList, Trim.trim_eq_self_iff]
  simp only [String.toList_append, ← List.append_assoc]
  constructor
  · intro c hc
    have hhead : c = 'a' := by simpa [eq_comm] using hc
    rw [hhead]
    decide
  · intro c hc
    rw [List.getLast?_append_of_ne_nil _ hne] at hc
    exact hlast c hc

/-! ### The service calls, when they return -/

/-- A returned `create_task` replies with the id it chose, and stored the task it built. -/
lemma wp_createTask (req : CreateTaskRequest) :
    Effect.wp (createTask env req)
      (fun reply s' => ∃ task event, builtTask s env req = .ok task ∧
        subscriptId reply = .ok (chosenId s req) ∧ s' = (s.putTask task).push event)
      (fun _ _ => True) s := by
  have hchosen : freshTaskId ("task-" ++ req.sessionId) s = (.ok (chosenId s req), s) := rfl
  rw [createTask, Effect.wp_bind, Effect.wp_of_ok hchosen, Effect.wp_bind, Effect.wp_ofExcept]
  refine ⟨fun task htask => ?_, fun _ _ => trivial⟩
  rw [Effect.wp_bind, TaskRepository.wp_save, Effect.wp_bind]
  exact wp_emitProgress_of_valid rfl rfl (by decide) rfl (fun _ _ => trivial)
    fun _ _ => (Effect.wp_pure _).mpr ⟨task, _, htask, rfl, rfl⟩

/-- The id chosen for a session whose base id is clean is clean. -/
lemma strip_chosenId {req : CreateTaskRequest}
    (hbase : strip ("task-" ++ req.sessionId) = "task-" ++ req.sessionId) :
    strip (chosenId s req) = chosenId s req := by
  unfold chosenId
  split
  · rename_i htaken
    obtain ⟨id, hfound⟩ := Option.isSome_iff_exists.mp
      (freeCandidate_isSome s ("task-" ++ req.sessionId))
    obtain ⟨⟨k, rfl⟩, -⟩ := freeCandidate_spec hfound
    rw [hfound, Option.getD_some, strip_candidate htaken]
  · exact hbase

/-- What is known of the id and the task once it is created. -/
lemma created_spec {stask : ScheduledTask} {task : Task}
    (h : builtTask s env (createRequest runId stask) = .ok task) (event : RunEvent) :
    task.id.val = chosenId s (createRequest runId stask) ∧ s.task? task.id.val = none ∧
      Stored ((s.putTask task).push event) task.id.val .draft := by
  have hsession : strip schedulerSession = schedulerSession := by decide +kernel
  have hbase : strip ("task-" ++ schedulerSession) = "task-" ++ schedulerSession := by
    decide +kernel
  obtain ⟨hid, hsess, -, -, hstate⟩ := Task.fields_of_new h
  refine ⟨hid.trans (strip_chosenId hbase), ?_, task, Store.task?_putTask_self s task,
    hsess.trans hsession, hstate⟩
  rcases created_where h with hfree | ⟨hfree, hstrip⟩
  · exact hfree
  · rw [hstrip]
    exact (congrArg s.task? hbase).trans hfree

/-- A moved record is stored like the one before it. -/
lemma stored_of_move {task moved : Task} {state : TaskState} {now : Timestamp}
    (hsession : task.sessionId.val = schedulerSession) (h : task.move state now = .ok moved) :
    Stored (s.putTask moved) task.id.val state := by
  obtain ⟨hid, hmoved, -, -, hstate⟩ := Task.fields_of_new h
  rw [task.id.property.1] at hid
  rw [task.sessionId.property.1] at hmoved
  rw [← hid]
  exact ⟨moved, Store.task?_putTask_self s moved, hmoved.trans hsession, hstate⟩

/-- `transition_task` leaves the task in the state asked for. -/
lemma wp_moveTo {before after : TaskState} (h : Stored s taskId before) :
    Effect.wp (moveTo env taskId runId after)
      (fun _ s' => Stored s' taskId after ∧ s'.approvals = s.approvals ∧
        Touches runId taskId s s')
      (fun _ _ => True) s := by
  obtain ⟨task, htask, hsession, -⟩ := h
  unfold moveTo
  rw [Effect.wp_bind]
  refine (transitionTask_outcome s env _).mono (fun reply s' houtcome => ?_) fun _ _ _ => trivial
  rw [Effect.wp_pure]
  cases houtcome with
  | done task' moved _ event moves =>
      obtain rfl := Option.some.inj (htask.symm.trans moves.found)
      have hstate : moved.state = after := name_injective moves.named
      have hstored := stored_of_move (s := s) hsession moves.built
      rw [Store.id_of_task? htask, hstate] at hstored
      have hmoved : moved.id.val = taskId :=
        (congrArg Subtype.val (Task.fields_of_move moves.built).1).trans
          (Store.id_of_task? htask)
      exact ⟨hstored, rfl, fun id hne => Store.task?_putTask_ne s moved (hmoved ▸ hne),
        fun _ _ => rfl⟩

/-- `request_approval` leaves the task waiting, with a pending approval. -/
lemma wp_requestApproval {t : Text} {before : TaskState} (h : Stored s t.val before) :
    Effect.wp (requestApproval env { taskId := t.val, runId })
      (fun _ s' => Stored s' t.val .waitingApproval ∧
        approvalState s' (scheduledApproval runId t.val) = some .pending ∧
        Touches runId t.val s s')
      (fun _ _ => True) s := by
  obtain ⟨task, htask, hsession, -⟩ := h
  refine (requestApproval_outcome s env _).mono (fun reply s' houtcome => ?_) fun _ _ _ => trivial
  cases houtcome with
  | done task' moved a waiting annotation _ moves built _ =>
      obtain rfl := Option.some.inj (htask.symm.trans moves.found)
      obtain ⟨haid, -, -, -, hpending, -⟩ := Approval.fields_of_new built
      have hid : a.id.val = scheduledApproval runId t.val := by
        apply haid.trans
        have hclean : strip (scheduledApproval runId t.val) = scheduledApproval runId t.val :=
          strip_scheduledApproval
        unfold scheduledApproval at hclean ⊢
        rw [← hsession] at hclean ⊢
        exact hclean
      have hmoved : moved.id.val = t.val :=
        (congrArg Subtype.val (Task.fields_of_move moves.built).1).trans
          (Store.id_of_task? htask)
      have hstored := stored_of_move (s := s) hsession moves.built
      rw [Store.id_of_task? htask] at hstored
      refine ⟨hstored, ?_, fun id hne => Store.task?_putTask_ne s moved (hmoved ▸ hne),
        fun id hne => ?_⟩
      · rw [← hid]
        exact congrArg (Option.map Approval.state)
          (Store.approval?_putApproval_self (s.putTask moved) a) |>.trans (congrArg some hpending)
      · exact Store.approval?_putApproval_ne (s.putTask moved) a (hid ▸ hne)

/-- `resolve_approval` leaves the approval decided, and the task failed after a timeout. -/
lemma wp_resolveApproval {decision : ApprovalDecision} {state : TaskState}
    (h : Stored s taskId state) :
    Effect.wp (resolveApproval env { taskId, decision, runId := some runId })
      (fun _ s' => Stored s' taskId (postState decision state) ∧
        approvalState s' (scheduledApproval runId taskId) = some decision.newState ∧
        Touches runId taskId s s')
      (fun _ _ => True) s := by
  obtain ⟨task, htask, hsession, rfl⟩ := h
  refine (resolveApproval_outcome s env _).mono (fun reply s' houtcome => ?_) fun _ _ _ => trivial
  have hdecided : ∀ existing a, Deciding s env { taskId, decision, runId := some runId } task
      existing a → a.id.val = scheduledApproval runId taskId ∧ a.state = decision.newState := by
    intro existing a hdecides
    obtain ⟨hid, -, -, -, hstate, -⟩ := Approval.fields_of_decide hdecides.built
    refine ⟨(congrArg Subtype.val hid).trans ?_, hstate⟩
    rw [Store.id_of_approval? hdecides.row]
    unfold resolvedId scheduledApproval
    rw [hsession]
  have happroval : ∀ a : Approval, a.id.val = scheduledApproval runId taskId →
      a.state = decision.newState → ∀ s', s'.approvals = (s.putApproval a).approvals →
        approvalState s' (scheduledApproval runId taskId) = some decision.newState ∧
        ∀ id ≠ scheduledApproval runId taskId, s'.approval? id = s.approval? id := by
    intro a hid hstate s' happrovals
    have hsame : ∀ id, s'.approval? id = (s.putApproval a).approval? id := fun id => by
      unfold Store.approval?
      rw [happrovals]
    refine ⟨?_, fun id hne => ?_⟩
    · unfold approvalState
      rw [hsame, ← hid, Store.approval?_putApproval_self, Option.map_some, hstate]
    · rw [hsame, Store.approval?_putApproval_ne s a (hid ▸ hne)]
  cases houtcome with
  | stays task' existing a event _ decides _ same =>
      obtain rfl := Option.some.inj (htask.symm.trans decides.found)
      obtain ⟨hid, hstate⟩ := hdecided existing a decides
      obtain ⟨hown, hothers⟩ := happroval a hid hstate _ rfl
      exact ⟨⟨task, htask, hsession, same.symm⟩, hown, fun _ _ => rfl, hothers⟩
  | moves task' moved existing a event _ decides _ _ built =>
      obtain rfl := Option.some.inj (htask.symm.trans decides.found)
      obtain ⟨hid, hstate⟩ := hdecided existing a decides
      obtain ⟨hown, hothers⟩ := happroval a hid hstate _ rfl
      have hmoved : moved.id.val = taskId :=
        (congrArg Subtype.val (Task.fields_of_move built).1).trans (Store.id_of_task? htask)
      have hstored := stored_of_move (s := (s.putApproval a).push event) hsession built
      rw [Store.id_of_task? htask] at hstored
      exact ⟨hstored, hown, fun id hne => Store.task?_putTask_ne s moved (hmoved ▸ hne), hothers⟩

/-! ### One round -/

/-- Where a decision takes a task. -/
def finalState : Option ApprovalDecision → TaskState
  | none => .waitingApproval
  | some .granted => .completed
  | some (.deniedAbandon _) => .waitingApproval
  | some (.deniedAlternatePath _) => .planning
  | some (.timeout _) => .failed

/-- The task and its approval are left as the decision has it. -/
structure Left (runId : String) (s : Store) (decision : Option ApprovalDecision)
    (taskId : String) : Prop where
  task : Stored s taskId (finalState decision)
  approval : approvalState s (scheduledApproval runId taskId) =
    some (decision.elim .pending ApprovalDecision.newState)

/-- The counters after one more task with a decision. -/
def counted (decision : Option ApprovalDecision) (result : ScheduleResult) : ScheduleResult :=
  match decision with
  | some .granted => { result with tasksApproved := result.tasksApproved + 1 }
  | some (.deniedAbandon _) => { result with tasksDenied := result.tasksDenied + 1 }
  | some (.deniedAlternatePath _) =>
      { result with tasksRescheduled := result.tasksRescheduled + 1 }
  | some (.timeout _) | none => result

lemma approvalState_of_approvals (h : s'.approvals = s.approvals) (id : String) :
    approvalState s' id = approvalState s id := by
  unfold approvalState Store.approval?
  rw [h]

/-- A submitted task waits, with a pending approval, where no task was. -/
lemma wp_submit (envs : ℕ → Env) (stask : ScheduledTask) :
    Effect.wp (submit envs runId stask)
      (fun taskId s' => s.task? taskId = none ∧ Stored s' taskId .waitingApproval ∧
        approvalState s' (scheduledApproval runId taskId) = some .pending ∧
        Touches runId taskId s s')
      (fun _ _ => True) s := by
  unfold submit submission
  rw [Effect.wp_bind]
  refine (wp_createTask _).mono ?_ fun _ _ _ => trivial
  rintro reply _ ⟨task, event, hbuilt, hreply, rfl⟩
  obtain ⟨hid, hfree, hdraft⟩ := created_spec hbuilt event
  have hcreated : Touches runId task.id.val s ((s.putTask task).push event) :=
    ⟨fun id hne => Store.task?_putTask_ne s task hne, fun _ _ => rfl⟩
  rw [hreply, ← hid, Effect.wp_bind, Effect.wp_ofExcept_ok, Effect.wp_bind]
  refine (wp_moveTo hdraft).mono ?_ fun _ _ _ => trivial
  rintro - s₁ ⟨hplanning, -, htouches₁⟩
  rw [Effect.wp_bind]
  refine (wp_moveTo hplanning).mono ?_ fun _ _ _ => trivial
  rintro - s₂ ⟨hexecuting, -, htouches₂⟩
  rw [Effect.wp_bind]
  refine (wp_requestApproval hexecuting).mono ?_ fun _ _ _ => trivial
  rintro - s₃ ⟨hwaiting, hpending, htouches₃⟩
  rw [Effect.wp_pure]
  exact ⟨hfree, hwaiting, hpending,
    ((hcreated.trans htouches₁).trans htouches₂).trans htouches₃⟩

/-- What the decision does to the waiting task and its approval. -/
lemma wp_applyDecision (envs : ℕ → Env) (decision : Option ApprovalDecision)
    (hwaiting : Stored s taskId .waitingApproval)
    (hpending : approvalState s (scheduledApproval runId taskId) = some .pending) :
    Effect.wp (applyDecision envs runId taskId decision)
      (fun _ s' => Stored s' taskId (decision.elim .waitingApproval
          fun d => postState d .waitingApproval) ∧
        approvalState s' (scheduledApproval runId taskId) =
          some (decision.elim .pending ApprovalDecision.newState) ∧
        Touches runId taskId s s')
      (fun _ _ => True) s := by
  cases decision with
  | none => exact (Effect.wp_pure _).mpr ⟨hwaiting, hpending, fun _ _ => rfl, fun _ _ => rfl⟩
  | some decision =>
      unfold applyDecision
      rw [Effect.wp_bind]
      refine (wp_resolveApproval hwaiting).mono (fun _ s' h => ?_) fun _ _ _ => trivial
      rw [Effect.wp_pure]
      exact h

/-- The transitions after the decision end in its final state. -/
lemma wp_followUp (envs : ℕ → Env) (decision : Option ApprovalDecision) (result : ScheduleResult)
    (hstored : Stored s taskId (decision.elim .waitingApproval
      fun d => postState d .waitingApproval)) :
    Effect.wp (followUp envs runId taskId result decision)
      (fun result' s' => result' = counted decision result ∧
        Stored s' taskId (finalState decision) ∧ s'.approvals = s.approvals ∧
        Touches runId taskId s s')
      (fun _ _ => True) s := by
  have hkept : Touches runId taskId s s := ⟨fun _ _ => rfl, fun _ _ => rfl⟩
  unfold followUp
  cases decision with
  | none => exact (Effect.wp_pure _).mpr ⟨rfl, hstored, rfl, hkept⟩
  | some decision =>
      cases decision with
      | granted =>
          rw [Effect.wp_bind]
          refine (wp_moveTo hstored).mono ?_ fun _ _ _ => trivial
          rintro - s₁ ⟨hplanning, hsame₁, htouches₁⟩
          rw [Effect.wp_bind]
          refine (wp_moveTo hplanning).mono ?_ fun _ _ _ => trivial
          rintro - s₂ ⟨hexecuting, hsame₂, htouches₂⟩
          rw [Effect.wp_bind]
          refine (wp_moveTo hexecuting).mono ?_ fun _ _ _ => trivial
          rintro - s₃ ⟨hcompleted, hsame₃, htouches₃⟩
          rw [Effect.wp_pure]
          exact ⟨rfl, hcompleted, hsame₃.trans (hsame₂.trans hsame₁),
            (htouches₁.trans htouches₂).trans htouches₃⟩
      | deniedAbandon reason => exact (Effect.wp_pure _).mpr ⟨rfl, hstored, rfl, hkept⟩
      | deniedAlternatePath note =>
          rw [Effect.wp_bind]
          refine (wp_moveTo hstored).mono ?_ fun _ _ _ => trivial
          rintro - s₁ ⟨hplanning, hsame, htouches⟩
          rw [Effect.wp_pure]
          exact ⟨rfl, hplanning, hsame, htouches⟩
      | timeout retryable => exact (Effect.wp_pure _).mpr ⟨rfl, hstored, rfl, hkept⟩

/-- The result after one more task. -/
def recorded (decision : Option ApprovalDecision) (taskId : String) (result : ScheduleResult) :
    ScheduleResult :=
  { counted decision { result with tasksProcessed := result.tasksProcessed + 1 } with
    decisions := result.decisions ++ [(taskId, decisionName decision)] }

/-- **One round** stores a new task, leaves it as its own decision has it, counts it and touches
nothing else. -/
lemma wp_scheduleTask (envs : ℕ → Env) (decisions : Decisions) (result : ScheduleResult) (idx : ℕ)
    (stask : ScheduledTask) :
    Effect.wp (scheduleTask envs decisions runId result idx stask)
      (fun result' s' => ∃ taskId, s.task? taskId = none ∧
        result' = recorded (decisionFor decisions idx stask) taskId result ∧
        Left runId s' (decisionFor decisions idx stask) taskId ∧ Touches runId taskId s s')
      (fun _ _ => True) s := by
  unfold scheduleTask
  generalize decisionFor decisions idx stask = decision
  rw [Effect.wp_bind]
  refine (wp_submit envs stask).mono ?_ fun _ _ _ => trivial
  rintro taskId s₁ ⟨hfree, hwaiting, hpending, htouches₁⟩
  rw [Effect.wp_bind]
  refine (wp_applyDecision envs decision hwaiting hpending).mono ?_ fun _ _ _ => trivial
  rintro - s₂ ⟨hstored, happroval, htouches₂⟩
  rw [Effect.wp_bind]
  refine (wp_followUp envs decision _ hstored).mono ?_ fun _ _ _ => trivial
  rintro _ s₃ ⟨rfl, hfinal, hsame, htouches₃⟩
  rw [Effect.wp_pure]
  refine ⟨taskId, hfree, ?_, ⟨hfinal, ?_⟩, (htouches₁.trans htouches₂).trans htouches₃⟩
  · unfold recorded counted
    rcases decision with _ | _ | _ | _ | _ <;> rfl
  · rw [approvalState_of_approvals hsame, happroval]

/-! ## The whole queue -/

/-- The decisions for the tasks, from a place in the queue on. -/
def decisionsOf (decisions : Decisions) (idx : ℕ) (tasks : List ScheduledTask) :
    List (Option ApprovalDecision) :=
  (tasks.zipIdx idx).map fun p => decisionFor decisions p.2 p.1

/-- The result after several tasks. -/
def recordAll : List (Option ApprovalDecision) → List String → ScheduleResult → ScheduleResult
  | decision :: ds, taskId :: ids, result => recordAll ds ids (recorded decision taskId result)
  | _, _, result => result

/-- A task and its approval are as before. -/
def Kept (runId : String) (s s' : Store) (taskId : String) : Prop :=
  s'.task? taskId = s.task? taskId ∧
    s'.approval? (scheduledApproval runId taskId) = s.approval? (scheduledApproval runId taskId)

lemma Left.of_kept {decision : Option ApprovalDecision} (h : Left runId s decision taskId)
    (hkept : Kept runId s s' taskId) : Left runId s' decision taskId := by
  obtain ⟨⟨task, htask, hrest⟩, happroval⟩ := h
  refine ⟨⟨task, hkept.1.trans htask, hrest⟩, ?_⟩
  unfold approvalState at happroval ⊢
  rw [hkept.2, happroval]

/-- A round for a new task keeps the others. -/
lemma Touches.kept {other : String} (h : Touches runId taskId s s') (hne : other ≠ taskId) :
    Kept runId s s' other :=
  ⟨h.tasks other hne, h.approvals _ fun heq => hne (scheduledApproval_injective heq)⟩

/-- **A run leaves every task as its own decision has it**, by induction on the queue: a round
stores its task under an id that no task has, so what was stored before is kept. -/
theorem wp_runFrom (envs : ℕ → ℕ → Env) (decisions : Decisions) (result : ScheduleResult) (idx : ℕ)
    (tasks : List ScheduledTask) :
    Effect.wp (runFrom envs decisions runId result idx tasks)
      (fun result' s' => ∃ ids,
        List.Forall₂ (Left runId s') (decisionsOf decisions idx tasks) ids ∧
        result' = recordAll (decisionsOf decisions idx tasks) ids result ∧
        ∀ id, (s.task? id).isSome = true → Kept runId s s' id)
      (fun _ _ => True) s := by
  induction tasks generalizing s result idx with
  | nil => exact (Effect.wp_pure _).mpr ⟨[], .nil, rfl, fun _ _ => ⟨rfl, rfl⟩⟩
  | cons stask tasks ih =>
      unfold runFrom
      rw [Effect.wp_bind]
      refine (wp_scheduleTask (envs idx) decisions result idx stask).mono ?_ fun _ _ _ => trivial
      rintro _ s₁ ⟨taskId, hfree, rfl, hleft, htouches⟩
      refine (ih _ _).mono ?_ fun _ _ _ => trivial
      rintro _ s' ⟨ids, hlefts, rfl, hkept⟩
      have hstored : (s₁.task? taskId).isSome = true := by
        obtain ⟨task, htask, -⟩ := hleft.task
        rw [htask]
        rfl
      have hds : decisionsOf decisions idx (stask :: tasks) =
          decisionFor decisions idx stask :: decisionsOf decisions (idx + 1) tasks := rfl
      rw [hds]
      refine ⟨taskId :: ids, .cons (hleft.of_kept (hkept taskId hstored)) hlefts, rfl, ?_⟩
      intro id hid
      have hne : id ≠ taskId := by
        rintro rfl
        rw [hfree] at hid
        exact absurd hid (by simp)
      have hround := htouches.kept hne
      have hrest := hkept id (by rw [hround.1]; exact hid)
      exact ⟨hrest.1.trans hround.1, hrest.2.trans hround.2⟩

/-! ## The counters -/

/-- The counters a decision may raise. -/
inductive Bucket
  | approved
  | denied
  | rescheduled
  | uncounted
  deriving DecidableEq

/-- The counter a decision raises. -/
def bucketOf : Option ApprovalDecision → Bucket
  | some .granted => .approved
  | some (.deniedAbandon _) => .denied
  | some (.deniedAlternatePath _) => .rescheduled
  | some (.timeout _) | none => .uncounted

/-- **Each counter counts its decisions**, and the records follow the queue. -/
lemma recordAll_spec {R : Option ApprovalDecision → String → Prop}
    {ds : List (Option ApprovalDecision)} {ids : List String} (h : List.Forall₂ R ds ids)
    (result : ScheduleResult) :
    (recordAll ds ids result).tasksProcessed = result.tasksProcessed + ds.length ∧
    (recordAll ds ids result).tasksApproved =
      result.tasksApproved + (ds.map bucketOf).count .approved ∧
    (recordAll ds ids result).tasksDenied =
      result.tasksDenied + (ds.map bucketOf).count .denied ∧
    (recordAll ds ids result).tasksRescheduled =
      result.tasksRescheduled + (ds.map bucketOf).count .rescheduled ∧
    (recordAll ds ids result).decisions =
      result.decisions ++ ids.zip (ds.map decisionName) := by
  induction h generalizing result with
  | nil => simp [recordAll]
  | @cons decision taskId ds ids _ _ ih =>
      obtain ⟨hprocessed, happroved, hdenied, hrescheduled, hdecisions⟩ :=
        ih (recorded decision taskId result)
      unfold recordAll
      rw [hprocessed, happroved, hdenied, hrescheduled, hdecisions]
      rcases decision with _ | _ | _ | _ | _ <;>
        simp [recorded, counted, bucketOf] <;> omega

/-- Every task is in one of the four buckets. -/
lemma length_eq_counts (bs : List Bucket) :
    bs.length = bs.count .approved + bs.count .denied + bs.count .rescheduled +
      bs.count .uncounted := by
  induction bs with
  | nil => rfl
  | cons b bs ih =>
      cases b <;> simp <;> omega

/-- The records of the tasks, each with what is known of its task. -/
lemma forall₂_records {α β γ δ : Type} {R : β → γ → Prop} {f : α → β} (g : β → δ) {as : List α}
    {ids : List γ} (h : List.Forall₂ R (as.map f) ids) :
    List.Forall₂ (fun a record => R (f a) record.1) as (ids.zip ((as.map f).map g)) := by
  induction as generalizing ids with
  | nil =>
      rw [List.map_nil, List.forall₂_nil_left_iff] at h
      rw [h]
      exact .nil
  | cons a as ih =>
      rw [List.map_cons, List.forall₂_cons_left_iff] at h
      obtain ⟨id, ids, hid, hids, rfl⟩ := h
      exact .cons hid (ih hids)

/-! ## The promise -/

/-- The task is left waiting, with a pending approval. -/
def Waiting (runId : String) (s : Store) (taskId : String) : Prop :=
  s.stateOf taskId = some .waitingApproval ∧
    approvalState s (scheduledApproval runId taskId) = some .pending

/-- The task has no decision or a `DeniedAbandon`. -/
def countsAsDenied : Option ApprovalDecision → Bool
  | none | some (.deniedAbandon _) => true
  | _ => false

/-- **What the scheduler's docstrings promise** about the result and the store it leaves.  The tasks
come with their places in the queue, and the `i`-th record is the `i`-th task's. -/
structure Accounts (decisions : Decisions) (runId : String) (tasks : List ScheduledTask)
    (result : ScheduleResult) (s : Store) : Prop where
  processed : result.tasksProcessed = tasks.length
  partition : result.tasksProcessed =
    result.tasksApproved + result.tasksDenied + result.tasksRescheduled
  denied : result.tasksDenied = (decisionsOf decisions 1 tasks).countP countsAsDenied
  waiting : List.Forall₂ (fun p record => decisionFor decisions p.2 p.1 = none →
    Waiting runId s record.1) (tasks.zipIdx 1) result.decisions
  completed : List.Forall₂ (fun p record => s.stateOf record.1 = some .completed →
    decisions.lookup p.1.title = some .granted ∨
      decisions.lookup (toString p.2) = some .granted) (tasks.zipIdx 1) result.decisions

/-- A task without a decision is left waiting. -/
lemma Left.waiting {decision : Option ApprovalDecision} (h : Left runId s decision taskId)
    (hnone : decision = none) : Waiting runId s taskId := by
  obtain ⟨⟨task, htask, -, hstate⟩, happroval⟩ := h
  subst hnone
  refine ⟨?_, happroval⟩
  unfold Store.stateOf
  rw [htask, Option.map_some, hstate]
  rfl

/-- Only a `Granted` completes a task. -/
lemma Left.eq_granted {decision : Option ApprovalDecision} (h : Left runId s decision taskId)
    (hcompleted : s.stateOf taskId = some .completed) : decision = some .granted := by
  obtain ⟨⟨task, htask, -, hstate⟩, -⟩ := h
  unfold Store.stateOf at hcompleted
  rw [htask, Option.map_some, hstate, Option.some.injEq] at hcompleted
  rcases decision with _ | _ | _ | _ | _
  case some.granted => rfl
  all_goals exact absurd hcompleted (by simp [finalState])

/-- A decision comes from one of the two keys. -/
lemma lookup_of_decisionFor {decisions : Decisions} {idx : ℕ} {stask : ScheduledTask}
    {d : ApprovalDecision} (h : decisionFor decisions idx stask = some d) :
    decisions.lookup stask.title = some d ∨ decisions.lookup (toString idx) = some d := by
  unfold decisionFor at h
  split at h
  · rename_i d' htitle
    exact Or.inl (htitle.trans h)
  · exact Or.inr h

/-- The decision for a task is there, and is no timeout. -/
def Settles (d : Option ApprovalDecision) : Prop := bucketOf d ≠ .uncounted

/-- With a decision for each task, those that count as denied are the `DeniedAbandon`s. -/
lemma countP_denied {ds : List (Option ApprovalDecision)} (h : ∀ d ∈ ds, Settles d) :
    ds.countP countsAsDenied = (ds.map bucketOf).count .denied := by
  unfold List.count
  rw [List.countP_map]
  apply List.countP_congr
  intro d hd
  have hsettles := h d hd
  unfold Settles at hsettles
  rcases d with _ | _ | _ | _ | _ <;> simp_all [bucketOf, countsAsDenied]

/-- What a returned run leaves, whatever the decisions. -/
lemma run_spec {envs : ℕ → ℕ → Env} {tasks : List ScheduledTask} {decisions : Option Decisions}
    {result : ScheduleResult} (h : run envs tasks decisions runId s = (.ok result, s')) :
    ∃ ids, List.Forall₂ (Left runId s') (decisionsOf (decisions.getD []) 1 tasks) ids ∧
      result = recordAll (decisionsOf (decisions.getD []) 1 tasks) ids {} := by
  obtain ⟨ids, hlefts, hresult, -⟩ := (wp_runFrom envs (decisions.getD []) {} 1 tasks).of_ok h
  exact ⟨ids, hlefts, hresult⟩

/-- **When the scheduler keeps its promise**: exactly when every task finds a decision, under its
title or its place, and none of them is a timeout. -/
theorem accounts_iff {envs : ℕ → ℕ → Env} {tasks : List ScheduledTask}
    {decisions : Option Decisions} {result : ScheduleResult}
    (h : run envs tasks decisions runId s = (.ok result, s')) :
    Accounts (decisions.getD []) runId tasks result s' ↔
      ∀ p ∈ tasks.zipIdx 1, Settles (decisionFor (decisions.getD []) p.2 p.1) := by
  obtain ⟨ids, hlefts, rfl⟩ := run_spec h
  obtain ⟨hprocessed, happroved, hdenied, hrescheduled, hdecisions⟩ := recordAll_spec hlefts {}
  dsimp only at hprocessed happroved hdenied hrescheduled hdecisions
  have hlength : (decisionsOf (decisions.getD []) 1 tasks).length = tasks.length := by
    unfold decisionsOf
    rw [List.length_map, List.length_zipIdx]
  have hbuckets := length_eq_counts ((decisionsOf (decisions.getD []) 1 tasks).map bucketOf)
  rw [List.length_map] at hbuckets
  have hsettles : ((decisionsOf (decisions.getD []) 1 tasks).map bucketOf).count .uncounted = 0 ↔
      ∀ p ∈ tasks.zipIdx 1, Settles (decisionFor (decisions.getD []) p.2 p.1) := by
    unfold decisionsOf Settles
    rw [List.count_eq_zero, List.map_map, List.mem_map]
    push Not
    rfl
  rw [← hsettles]
  constructor
  · intro haccounts
    have hpartition := haccounts.partition
    omega
  · intro hnone
    have hrecords := forall₂_records decisionName hlefts
    refine ⟨by omega, by omega, ?_, ?_, ?_⟩
    · rw [hdenied, countP_denied, Nat.zero_add]
      intro d hd
      obtain ⟨p, hp, rfl⟩ := List.mem_map.mp hd
      exact hsettles.mp hnone p hp
    · rw [hdecisions]
      exact hrecords.imp fun p record hleft => hleft.waiting
    · rw [hdecisions]
      exact hrecords.imp fun p record hleft hcompleted =>
        lookup_of_decisionFor (hleft.eq_granted hcompleted)

/-! ## What the scheduler reports -/

/-- The names of the decisions for the tasks, as they are recorded. -/
def namesOf (decisions : Decisions) (tasks : List ScheduledTask) : List String :=
  (decisionsOf decisions 1 tasks).map decisionName

/-- **What a returned run reports and leaves**.  The counters are those of the decisions, and the
tasks without one make up the rest, where no decision is a timeout. -/
structure Reports (decisions : Decisions) (runId : String) (tasks : List ScheduledTask)
    (result : ScheduleResult) (s : Store) : Prop where
  processed : result.tasksProcessed = tasks.length
  recorded : result.decisions.map Prod.snd = namesOf decisions tasks
  counters : "Timeout" ∉ namesOf decisions tasks →
    result.tasksApproved = (namesOf decisions tasks).count "Granted" ∧
    result.tasksDenied = (namesOf decisions tasks).count "DeniedAbandon" ∧
    result.tasksRescheduled = (namesOf decisions tasks).count "DeniedAlternatePath" ∧
    result.tasksProcessed = result.tasksApproved + result.tasksDenied + result.tasksRescheduled +
      (namesOf decisions tasks).count "none"
  waiting : List.Forall₂ (fun p record => decisionFor decisions p.2 p.1 = none →
    Waiting runId s record.1) (tasks.zipIdx 1) result.decisions
  completed : List.Forall₂ (fun p record => s.stateOf record.1 = some .completed →
    decisions.lookup p.1.title = some .granted ∨
      decisions.lookup (toString p.2) = some .granted) (tasks.zipIdx 1) result.decisions

/-- The calls draw different ids. -/
def numberedEnvs (place call : ℕ) : Env :=
  ⟨fun _ => 0, fun _ => toString place ++ "." ++ toString call⟩

lemma returned {x : Session ScheduleResult} {result : ScheduleResult} (h : (x s).1 = .ok result) :
    x s = (.ok result, (x s).2) := Prod.ext h rfl

/-- Two tasks of one title. -/
def calls : List ScheduledTask := [⟨"call", "the supplier"⟩, ⟨"call", "the bank"⟩]

end EASchedulerHandler

end Waywarden

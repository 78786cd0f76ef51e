import Waywarden.Services.EATaskService

/-!
# Every way a task operation can end

Each operation of `EATaskService` has a short list of endings: what made it stop, what it had
written by then, and whether it returned.  They are stated here as one inductive for each
operation, with the reason of an ending as its premises, so that a proof about an operation is a
case analysis on its endings.
-/

namespace Waywarden

namespace EATaskService

variable {s : Store} {env : Env}

/-- `append` refuses an event: its run is in a terminal state, or its id is taken. -/
def AppendRefused (s : Store) (runId eventId : String) : Prop :=
  s.settled runId = true ∨ s.hasEvent eventId = true

/-- An append stores its event or says why not. -/
lemma wp_append_or {event : RunEvent} {Q : RunEvent → Store → Prop} {E : PyError → Store → Prop}
    (herr : ∀ e, AppendRefused s event.runId event.id → E e s)
    (hok : ¬ AppendRefused s event.runId event.id →
      Q (s.stamp event) (s.push (s.stamp event))) :
    Effect.wp (RunEventRepository.append event) Q E s := by
  rcases RunEventRepository.append_cases event s with
    ⟨hsettled, _, h⟩ | ⟨-, htaken, h⟩ | ⟨hopen, hfree, h⟩
  · rw [Effect.wp_of_error h]
    exact herr _ (Or.inl hsettled)
  · rw [Effect.wp_of_error h]
    exact herr _ (Or.inr htaken)
  · rw [Effect.wp_of_ok h]
    apply hok
    rintro (hrefused | hrefused)
    · exact absurd (hopen.symm.trans hrefused) (by simp)
    · exact absurd (hfree.symm.trans hrefused) (by simp)

/-! ## Creating -/

/-- The id `create_task` settles on. -/
def chosenId (s : Store) (req : CreateTaskRequest) : String :=
  if (s.task? ("task-" ++ req.sessionId)).isSome then
    (freeCandidate s ("task-" ++ req.sessionId) (s.tasks.length + 1) 1).getD
      ("task-" ++ req.sessionId)
  else "task-" ++ req.sessionId

/-- The record `create_task` builds. -/
def builtTask (s : Store) (env : Env) (req : CreateTaskRequest) : Except PyError Task :=
  Task.new (chosenId s req) req.sessionId req.title req.objective .draft (env.now 0) (env.now 0)

/-- How `create_task` ends. -/
inductive CreateOutcome (s : Store) (env : Env) (req : CreateTaskRequest) :
    Except PyError Mapping → Store → Prop
  | refused (e : PyError) (built : builtTask s env req = .error e) :
      CreateOutcome s env req (.error e) s
  | unannounced (task : Task) (e : PyError) (built : builtTask s env req = .ok task)
      (refused : AppendRefused s (orDefault req.runId (defaultRunId req.sessionId))
        (progressId (chosenId s req) (env.uuid4 0))) :
      CreateOutcome s env req (.error e) (s.putTask task)
  | done (task : Task) (reply : Mapping) (event : RunEvent)
      (built : builtTask s env req = .ok task) :
      CreateOutcome s env req (.ok reply) ((s.putTask task).push event)

theorem createTask_outcome (s : Store) (env : Env) (req : CreateTaskRequest) :
    Effect.wp (createTask env req) (fun reply => CreateOutcome s env req (.ok reply))
      (fun e => CreateOutcome s env req (.error e)) s := by
  have hchosen : freshTaskId ("task-" ++ req.sessionId) s = (.ok (chosenId s req), s) := rfl
  rw [createTask, Effect.wp_bind, Effect.wp_of_ok hchosen, Effect.wp_bind, Effect.wp_ofExcept]
  refine ⟨fun task htask => ?_, fun e he => .refused e he⟩
  rw [Effect.wp_bind, TaskRepository.wp_save, Effect.wp_bind]
  exact wp_emitProgress_of_valid rfl rfl (by decide) rfl
    (fun e hrefused => .unannounced task e htask hrefused)
    (fun _ _ => (Effect.wp_pure _).mpr (.done task _ _ htask))

lemma CreateOutcome.leaves {req : CreateTaskRequest} {r : Except PyError Mapping} {s' : Store}
    (h : CreateOutcome s env req r s') : CreateLeaves s s' := by
  have drafted : ∀ task, builtTask s env req = .ok task → task.state = .draft :=
    fun _ hbuilt => (Task.fields_of_new hbuilt).2.2.2.2
  cases h with
  | refused => exact Or.inl (SameTables.refl s)
  | unannounced task _ built => exact Or.inr ⟨task, drafted task built, SameTables.refl _⟩
  | done task _ _ built => exact Or.inr ⟨task, drafted task built, rfl, rfl⟩

/-- The counter loop returns a candidate no task is stored under. -/
lemma freeCandidate_spec {base : String} {fuel counter : ℕ} {id : String}
    (h : freeCandidate s base fuel counter = some id) :
    (∃ k : ℕ, id = base ++ "-" ++ toString k) ∧ s.task? id = none := by
  induction fuel generalizing counter with
  | zero => exact absurd h (by simp [freeCandidate])
  | succ fuel ih =>
      rw [freeCandidate] at h
      split at h
      · exact ih h
      · rename_i hfree
        obtain rfl := Option.some.inj h
        exact ⟨⟨counter, rfl⟩, by simpa using hfree⟩

/-- A dash and a number, as appended to a base id, make a text. -/
def counterText (k : ℕ) : Text :=
  ⟨"-" ++ toString k, by
    have hdash : ("-" ++ toString k).toList = '-' :: Nat.toDigits 10 k := by
      simp
    have hdigit : ∀ c : Char, c.isDigit = true → isSpace c = false := by
      intro c hc
      rw [Char.isDigit, Bool.and_eq_true, decide_eq_true_eq, decide_eq_true_eq] at hc
      have hlow : 48 ≤ c.toNat := hc.1
      have hhigh : c.toNat ≤ 57 := hc.2
      rw [isSpace, Bool.eq_false_iff, ne_eq, List.contains_iff_mem]
      intro hmem
      simp only [List.mem_cons, List.not_mem_nil, or_false] at hmem
      omega
    rw [← String.toList_inj, strip, String.toList_ofList, hdash, Trim.trim_eq_self_iff]
    refine ⟨fun x hx => ?_, fun x hx => ?_⟩
    · obtain rfl := Option.some.inj hx
      rfl
    · rcases List.mem_cons.mp (List.mem_of_getLast? hx) with rfl | hmem
      · rfl
      · exact hdigit x (Nat.isDigit_of_mem_toDigits (by decide) (by decide) hmem), by
    intro h
    have hlength := congrArg (fun t : String => t.toList.length) h
    simp at hlength⟩

/-- A candidate built on the id of a stored task is a text. -/
lemma strip_candidate {base : String} (h : (s.task? base).isSome = true) (k : ℕ) :
    strip (base ++ "-" ++ toString k) = base ++ "-" ++ toString k := by
  obtain ⟨task, htask⟩ := Option.isSome_iff_exists.mp h
  rw [← Store.id_of_task? htask, String.append_assoc]
  exact strip_append task.id (counterText k)

/-- **Where a created task is stored.**  Nothing is stored there yet, unless the base id is free but
not stripped: then the task goes to the stripped one. -/
lemma created_where {req : CreateTaskRequest} {task : Task} (h : builtTask s env req = .ok task) :
    s.task? task.id.val = none ∨ s.task? ("task-" ++ req.sessionId) = none ∧
      task.id.val = strip ("task-" ++ req.sessionId) := by
  have hid : task.id.val = strip (chosenId s req) := (Task.fields_of_new h).1
  unfold chosenId at hid
  split at hid
  · rename_i htaken
    obtain ⟨id, hfound⟩ := Option.isSome_iff_exists.mp
      (freeCandidate_isSome s ("task-" ++ req.sessionId))
    obtain ⟨⟨k, rfl⟩, hfree⟩ := freeCandidate_spec hfound
    rw [hfound, Option.getD_some, strip_candidate htaken] at hid
    rw [hid]
    exact Or.inl hfree
  · rename_i hfree
    exact Or.inr ⟨by simpa using hfree, hid⟩

/-! ## Transitions -/

/-- `transition_task` finds its task, may move it and builds the moved record. -/
structure Transitions (s : Store) (env : Env) (req : TransitionTaskRequest)
    (task moved : Task) : Prop where
  found : s.task? req.taskId = some task
  allowed : moved.state ∈ allowedTransitions task.state
  named : moved.state.name = req.state
  built : task.move moved.state (env.now 0) = .ok moved

/-- How `transition_task` ends. -/
inductive TransitionOutcome (s : Store) (env : Env) (req : TransitionTaskRequest) :
    Except PyError Mapping → Store → Prop
  | refused (e : PyError) (why : ∀ task moved, ¬ Transitions s env req task moved) :
      TransitionOutcome s env req (.error e) s
  | unannounced (task moved : Task) (e : PyError) (moves : Transitions s env req task moved)
      (refused : AppendRefused s (orDefault req.runId (defaultRunId task.sessionId))
        (progressId task.id (env.uuid4 0))) :
      TransitionOutcome s env req (.error e) (s.putTask moved)
  | done (task moved : Task) (reply : Mapping) (event : RunEvent)
      (moves : Transitions s env req task moved) :
      TransitionOutcome s env req (.ok reply) ((s.putTask moved).push event)

/-- The states are named apart. -/
lemma name_injective {st st' : TaskState} (h : st.name = st'.name) : st = st' := by
  revert h
  cases st <;> cases st' <;> decide

theorem transitionTask_outcome (s : Store) (env : Env) (req : TransitionTaskRequest) :
    Effect.wp (transitionTask env req) (fun reply => TransitionOutcome s env req (.ok reply))
      (fun e => TransitionOutcome s env req (.error e)) s := by
  rw [transitionTask, Effect.wp_bind]
  refine wp_requireTask (fun e hnone => .refused e fun task moved h => ?_) fun task htask => ?_
  · exact absurd (hnone.symm.trans h.found) (by simp)
  cases hfind : (allowedTransitions task.state).find? fun state => state.name == req.state with
  | none =>
      refine (Effect.wp_raise _).mpr (.refused _ fun task' moved h => ?_)
      obtain rfl := Option.some.inj (htask.symm.trans h.found)
      exact List.find?_eq_none.mp hfind moved.state h.allowed (by simpa using h.named)
  | some state =>
      have hallowed : state ∈ allowedTransitions task.state := List.mem_of_find?_eq_some hfind
      have hname : state.name = req.state := by simpa using List.find?_some hfind
      simp only [Effect.wp_bind, Effect.wp_ofExcept, TaskRepository.wp_save]
      refine ⟨fun moved hmoved => ?_, fun e he => .refused e fun task' moved h => ?_⟩
      · obtain ⟨-, hstate⟩ := Task.fields_of_move hmoved
        have hmoves : Transitions s env req task moved :=
          ⟨htask, by rw [hstate]; exact hallowed, by rw [hstate]; exact hname,
            by rw [hstate]; exact hmoved⟩
        exact wp_emitProgress_of_valid rfl rfl (isValidMilestone_catalogPair req.state) rfl
          (fun e hrefused => .unannounced task moved e hmoves hrefused)
          (fun _ _ => (Effect.wp_pure _).mpr (.done task moved _ _ hmoves))
      · obtain rfl := Option.some.inj (htask.symm.trans h.found)
        have hsame : moved.state = state := name_injective (h.named.trans hname.symm)
        exact absurd (he.symm.trans (hsame ▸ h.built)) (by simp)

lemma TransitionOutcome.leaves {req : TransitionTaskRequest} {r : Except PyError Mapping}
    {s' : Store} (h : TransitionOutcome s env req r s') : TransitionLeaves s req s' := by
  have moved : ∀ task moved, Transitions s env req task moved →
      ∀ s', SameTables (s.putTask moved) s' → TransitionLeaves s req s' :=
    fun task moved hmoves _ hs' => Or.inr ⟨task, moved, hmoves.found,
      (Task.fields_of_move hmoves.built).1, hmoves.allowed, hmoves.named, hs'⟩
  cases h with
  | refused => exact Or.inl (SameTables.refl s)
  | unannounced task t _ moves => exact moved task t moves _ (SameTables.refl _)
  | done task t _ _ moves => exact moved task t moves _ ⟨rfl, rfl⟩

/-! ## Requesting an approval -/

/-- `request_approval` finds its task executing and builds the waiting record. -/
structure Requesting (s : Store) (env : Env) (req : RequestApprovalRequest)
    (task moved : Task) : Prop where
  found : s.task? req.taskId = some task
  executing : task.state = .executing
  built : task.move .waitingApproval (env.now 0) = .ok moved

/-- The pending record the engine builds for a request. -/
def builtApproval (env : Env) (req : RequestApprovalRequest) (task : Task) :
    Except PyError Approval :=
  ApprovalEngine.buildRequest (requestRunId req task) (req.approvalKind ++ "-" ++ req.taskId)
    (orDefault (some req.summary) ("Approval checkpoint for " ++ task.title.val)) none none
    ((env.later 1).now 0)

/-- The id of the event `request_approval` appends after the engine's own. -/
def annotationId (req : RequestApprovalRequest) (uuid : String) : String :=
  "evt-" ++ req.taskId ++ "-approval-annotate-" ++ uuid

/-- The engine's event is the waiting event of the approval, in the log of the request's run. -/
structure Announces (req : RequestApprovalRequest) (task : Task) (a : Approval)
    (event : RunEvent) : Prop where
  id : event.id = ApprovalEngine.waitingEventId a.id
  runId : event.runId = requestRunId req task

/-- How `request_approval` ends. -/
inductive RequestOutcome (s : Store) (env : Env) (req : RequestApprovalRequest) :
    Except PyError Mapping → Store → Prop
  | refused (e : PyError) (why : ∀ task moved, ¬ Requesting s env req task moved) :
      RequestOutcome s env req (.error e) s
  | unrequested (task moved : Task) (e : PyError) (moves : Requesting s env req task moved)
      (unbuilt : builtApproval env req task = .error e) :
      RequestOutcome s env req (.error e) (s.putTask moved)
  | unannounced (task moved : Task) (a : Approval) (e : PyError)
      (moves : Requesting s env req task moved) (built : builtApproval env req task = .ok a)
      (refused : AppendRefused s (requestRunId req task) (ApprovalEngine.waitingEventId a.id)) :
      RequestOutcome s env req (.error e) ((s.putTask moved).putApproval a)
  | unannotated (task moved : Task) (a : Approval) (waiting : RunEvent) (e : PyError)
      (moves : Requesting s env req task moved) (built : builtApproval env req task = .ok a)
      (announces : Announces req task a waiting)
      (refused : AppendRefused (s.push waiting) (requestRunId req task)
        (annotationId req (env.uuid4 0))) :
      RequestOutcome s env req (.error e) (((s.putTask moved).putApproval a).push waiting)
  | done (task moved : Task) (a : Approval) (waiting annotation : RunEvent) (reply : Mapping)
      (moves : Requesting s env req task moved) (built : builtApproval env req task = .ok a)
      (announces : Announces req task a waiting) :
      RequestOutcome s env req (.ok reply)
        ((((s.putTask moved).putApproval a).push waiting).push annotation)

theorem requestApproval_outcome (s : Store) (env : Env) (req : RequestApprovalRequest) :
    Effect.wp (requestApproval env req) (fun reply => RequestOutcome s env req (.ok reply))
      (fun e => RequestOutcome s env req (.error e)) s := by
  rw [requestApproval, Effect.wp_bind]
  refine wp_requireTask (fun e hnone => .refused e fun task moved h => ?_) fun task htask => ?_
  · exact absurd (hnone.symm.trans h.found) (by simp)
  by_cases hexec : task.state = .executing
  · simp only [hexec, ne_eq, not_true_eq_false, if_false, Effect.wp_bind, Effect.wp_ofExcept,
      TaskRepository.wp_save]
    refine ⟨fun moved hmoved => ?_, fun e he => .refused e fun task' moved h => ?_⟩
    · have hmoves : Requesting s env req task moved := ⟨htask, hexec, hmoved⟩
      refine ApprovalEngine.wp_request (fun e he => .unrequested task moved e hmoves he)
        (fun a e ha href => .unannounced task moved a e hmoves ha href) (fun a ha _ _ => ?_)
      rw [Effect.wp_bind, RunEventRepository.latestSeq, Effect.wp_gets, Effect.wp_bind]
      exact wp_append_or (fun e href => .unannotated task moved a _ e hmoves ha ⟨rfl, rfl⟩ href)
        (fun _ => (Effect.wp_pure _).mpr (.done task moved a _ _ _ hmoves ha ⟨rfl, rfl⟩))
    · obtain rfl := Option.some.inj (htask.symm.trans h.found)
      exact absurd (he.symm.trans h.built) (by simp)
  · simp only [hexec, ne_eq, not_false_eq_true, if_true, Effect.wp_raise]
    refine .refused _ fun task' moved h => ?_
    obtain rfl := Option.some.inj (htask.symm.trans h.found)
    exact hexec h.executing

lemma Requesting.requestedLeaves {req : RequestApprovalRequest} {task moved : Task} {a : Approval}
    {s' : Store} (h : Requesting s env req task moved) (ha : builtApproval env req task = .ok a)
    (hs' : SameTables ((s.putTask moved).putApproval a) s') : RequestedLeaves s req s' := by
  obtain ⟨hid, hstate⟩ := Task.fields_of_move h.built
  obtain ⟨haid, -, -, -, hpending, -⟩ := Approval.fields_of_new ha
  exact ⟨task, moved, a, h.found, h.executing, hid, hstate, hpending, haid, hs'⟩

lemma RequestOutcome.requestedLeaves {req : RequestApprovalRequest} {reply : Mapping} {s' : Store}
    (h : RequestOutcome s env req (.ok reply) s') : RequestedLeaves s req s' := by
  cases h with
  | done task moved a _ _ _ moves built => exact moves.requestedLeaves built ⟨rfl, rfl⟩

lemma RequestOutcome.leaves {req : RequestApprovalRequest} {r : Except PyError Mapping}
    {s' : Store} (h : RequestOutcome s env req r s') : RequestLeaves s req s' := by
  cases h with
  | refused => exact Or.inl (SameTables.refl s)
  | unrequested task moved _ moves =>
      obtain ⟨hid, hstate⟩ := Task.fields_of_move moves.built
      exact Or.inr ⟨task, moved, moves.found, moves.executing, hid, hstate,
        Or.inl (SameTables.refl _)⟩
  | unannounced _ _ _ _ moves built =>
      exact (moves.requestedLeaves built (SameTables.refl _)).leaves
  | unannotated _ _ _ _ _ moves built => exact (moves.requestedLeaves built ⟨rfl, rfl⟩).leaves
  | done _ _ _ _ _ _ moves built => exact (moves.requestedLeaves built ⟨rfl, rfl⟩).leaves

/-! ## Resolving an approval -/

/-- `resolve_approval` finds its task and a pending approval, requested no later than now, and
builds the decided record. -/
structure Deciding (s : Store) (env : Env) (req : ApprovalDecisionRequest) (task : Task)
    (existing a : Approval) : Prop where
  found : s.task? req.taskId = some task
  row : s.approval? (resolvedId req task) = some existing
  pending : existing.state = .pending
  built : existing.decide req.decision.newState (env.now 0) = .ok a

/-- `resolve_approval` finds its task and a pending approval, requested no later than now. -/
structure Resolvable (s : Store) (env : Env) (req : ApprovalDecisionRequest) (task : Task)
    (existing : Approval) : Prop where
  found : s.task? req.taskId = some task
  row : s.approval? (resolvedId req task) = some existing
  pending : existing.state = .pending
  requested : existing.requestedAt ≤ env.now 0

lemma Deciding.resolvable {req : ApprovalDecisionRequest} {task : Task} {existing a : Approval}
    (h : Deciding s env req task existing a) : Resolvable s env req task existing :=
  ⟨h.found, h.row, h.pending, Approval.requestedAt_le_of_decide h.built⟩

lemma Resolvable.deciding {req : ApprovalDecisionRequest} {task : Task} {existing : Approval}
    (h : Resolvable s env req task existing) : ∃ a, Deciding s env req task existing a := by
  obtain ⟨a, ha⟩ := Approval.decide_of_le (ApprovalDecision.newState_ne_pending req.decision)
    h.requested
  exact ⟨a, h.found, h.row, h.pending, ha⟩

/-- There is one task and one approval that a resolution can be about. -/
lemma Resolvable.unique {req : ApprovalDecisionRequest} {task task' : Task}
    {existing existing' a : Approval} (h : Resolvable s env req task existing)
    (h' : Deciding s env req task' existing' a) : task = task' ∧ existing = existing' := by
  obtain rfl := Option.some.inj (h.found.symm.trans h'.found)
  exact ⟨rfl, Option.some.inj (h.row.symm.trans h'.row)⟩

/-- The engine's event for a decision is refused. -/
def DecisionRefused (s : Store) (req : ApprovalDecisionRequest) (task : Task)
    (existing : Approval) : Prop :=
  AppendRefused s existing.runId
    ("evt-" ++ resolvedId req task ++ ApprovalEngine.decisionTag req.decision)

/-- How `resolve_approval` ends. -/
inductive ResolveOutcome (s : Store) (env : Env) (req : ApprovalDecisionRequest) :
    Except PyError Mapping → Store → Prop
  | refused (e : PyError) (why : ∀ task existing a, ¬ Deciding s env req task existing a) :
      ResolveOutcome s env req (.error e) s
  | unannounced (task : Task) (existing a : Approval) (e : PyError)
      (decides : Deciding s env req task existing a)
      (refused : DecisionRefused s req task existing) :
      ResolveOutcome s env req (.error e) (s.putApproval a)
  | stays (task : Task) (existing a : Approval) (event : RunEvent) (reply : Mapping)
      (decides : Deciding s env req task existing a)
      (announced : ¬ DecisionRefused s req task existing)
      (same : postState req.decision task.state = task.state) :
      ResolveOutcome s env req (.ok reply) ((s.putApproval a).push event)
  | stuck (task : Task) (existing a : Approval) (event : RunEvent) (e : PyError)
      (decides : Deciding s env req task existing a)
      (announced : ¬ DecisionRefused s req task existing)
      (other : postState req.decision task.state ≠ task.state)
      (unbuilt : task.move (postState req.decision task.state) (env.now 1) = .error e) :
      ResolveOutcome s env req (.error e) ((s.putApproval a).push event)
  | moves (task moved : Task) (existing a : Approval) (event : RunEvent) (reply : Mapping)
      (decides : Deciding s env req task existing a)
      (announced : ¬ DecisionRefused s req task existing)
      (other : postState req.decision task.state ≠ task.state)
      (built : task.move (postState req.decision task.state) (env.now 1) = .ok moved) :
      ResolveOutcome s env req (.ok reply) (((s.putApproval a).push event).putTask moved)

theorem resolveApproval_outcome (s : Store) (env : Env) (req : ApprovalDecisionRequest) :
    Effect.wp (resolveApproval env req) (fun reply => ResolveOutcome s env req (.ok reply))
      (fun e => ResolveOutcome s env req (.error e)) s := by
  rw [resolveApproval, Effect.wp_bind]
  refine wp_requireTask (fun e hnone => .refused e fun task existing a h => ?_)
    fun task htask => ?_
  · exact absurd (hnone.symm.trans h.found) (by simp)
  show Effect.wp (ApprovalRepository.get (resolvedId req task) >>= _) _ _ s
  rw [Effect.wp_bind, ApprovalRepository.wp_get]
  cases hrow : s.approval? (resolvedId req task) with
  | none =>
      refine (Effect.wp_raise _).mpr (.refused _ fun task' existing a h => ?_)
      obtain rfl := Option.some.inj (htask.symm.trans h.found)
      exact absurd (hrow.symm.trans h.row) (by simp)
  | some existing =>
      by_cases hpending : existing.state = .pending
      · simp only [hpending, ne_eq, not_true_eq_false, if_false, Effect.wp_bind]
        refine ApprovalEngine.wp_resolve (fun e hlate => .refused e fun task' existing' a h => ?_)
          (fun existing' a e hrow' hp' ha href => ?_)
          (fun existing' a hrow' hp' ha hopen hfree => ?_)
        · obtain rfl := Option.some.inj (htask.symm.trans h.found)
          exact absurd (Approval.requestedAt_le_of_decide h.built)
            (not_le.mpr (hlate existing' h.row h.pending))
        · exact .unannounced task existing' a e ⟨htask, hrow', hp', ha⟩ href
        · have hdecides : Deciding s env req task existing' a := ⟨htask, hrow', hp', ha⟩
          have hannounced : ¬ DecisionRefused s req task existing' := by
            rintro (h | h)
            · exact absurd (hopen.symm.trans h) (by simp)
            · exact absurd (hfree.symm.trans h) (by simp)
          split
          · rename_i hpost
            simp only [Effect.wp_bind, Effect.wp_ofExcept, TaskRepository.wp_save, Effect.wp_pure]
            exact ⟨fun moved hmoved =>
                .moves task moved existing' a _ _ hdecides hannounced hpost hmoved,
              fun e he => .stuck task existing' a _ e hdecides hannounced hpost he⟩
          · rename_i hpost
            exact (Effect.wp_pure _).mpr
              (.stays task existing' a _ _ hdecides hannounced (not_not.mp hpost))
      · simp only [hpending, ne_eq, not_false_eq_true, if_true, Effect.wp_raise]
        refine .refused _ fun task' existing' a h => ?_
        obtain rfl := Option.some.inj (htask.symm.trans h.found)
        obtain rfl := Option.some.inj (hrow.symm.trans h.row)
        exact hpending h.pending

lemma Deciding.decidedLeaves {req : ApprovalDecisionRequest} {task : Task}
    {existing a : Approval} {s' : Store} (h : Deciding s env req task existing a)
    (hs' : SameTables (s.putApproval a) s' ∨ ∃ moved : Task, moved.id = task.id ∧
      moved.state = postState req.decision task.state ∧
      postState req.decision task.state ≠ task.state ∧
      SameTables ((s.putApproval a).putTask moved) s') : DecidedLeaves s req s' := by
  obtain ⟨hid, -, -, -, hstate, -⟩ := Approval.fields_of_decide h.built
  exact ⟨task, existing, a, h.found, h.row, h.pending, hid, hstate, hs'⟩

lemma ResolveOutcome.leaves {req : ApprovalDecisionRequest} {r : Except PyError Mapping}
    {s' : Store} (h : ResolveOutcome s env req r s') :
    (∃ e, r = .error e) ∧ SameTables s s' ∨ DecidedLeaves s req s' := by
  cases h with
  | refused e => exact Or.inl ⟨⟨e, rfl⟩, SameTables.refl s⟩
  | unannounced _ _ _ _ decides =>
      exact Or.inr (decides.decidedLeaves (Or.inl (SameTables.refl _)))
  | stays _ _ _ _ _ decides => exact Or.inr (decides.decidedLeaves (Or.inl ⟨rfl, rfl⟩))
  | stuck _ _ _ _ _ decides => exact Or.inr (decides.decidedLeaves (Or.inl ⟨rfl, rfl⟩))
  | moves task moved _ _ _ _ decides _ other built =>
      obtain ⟨hid, hstate⟩ := Task.fields_of_move built
      exact Or.inr (decides.decidedLeaves
        (Or.inr ⟨moved, hid, hstate, other, rfl, rfl⟩))

end EATaskService

end Waywarden

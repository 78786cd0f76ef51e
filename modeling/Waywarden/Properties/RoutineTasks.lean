import Waywarden.Properties.SchedulerAccounts
import Waywarden.System.Harness

/-!
# What a routine may touch

The scheduler and the triage send every item of their input through the task service: a task is
created, moved, and sent to an approval.  Any of these calls can raise, and then the items before it
are done, the one it was made for is half done, and the rest is not begun.

Whatever the input and however a pass ends, it has touched no task that was there before.  `Works`
is what one call does, returned or raised, to the task it is made for, and `Advances` what a pass
does to a store: some new tasks, at most one for each item, and nothing else but the approvals of
these (`routines_advance`).
-/

namespace Waywarden.EATaskService

open EASchedulerHandler

/-- The approval a task of a routine waits for. -/
def checkpoint (session runId taskId : String) : String :=
  approvalId (orDefault (some runId) (defaultRunId session)) "ea_checkpoint" taskId

/-- A task of the session is stored under the id, in the state. -/
def StoredIn (session : String) (s : Store) (taskId : String) (state : TaskState) : Prop :=
  ∃ task, s.task? taskId = some task ∧ task.sessionId.val = session ∧ task.state = state

/-- The id has a task of the session, and nothing but this task and its approval changed. -/
structure Works (session runId taskId : String) (s s' : Store) : Prop where
  stored : ∃ state, StoredIn session s' taskId state
  tasks : ∀ id ≠ taskId, s'.task? id = s.task? id
  approvals : ∀ id ≠ checkpoint session runId taskId, s'.approval? id = s.approval? id

/-- The tasks of the session under these ids were created, and nothing but them and their approvals
changed. -/
structure AdvancesBy (session runId : String) (ids : List String) (s s' : Store) : Prop where
  once : ids.Nodup
  created : ∀ id ∈ ids, s.task? id = none ∧ ∃ state, StoredIn session s' id state
  tasks : ∀ id ∉ ids, s'.task? id = s.task? id
  approvals : ∀ id, (∀ t ∈ ids, id ≠ checkpoint session runId t) →
    s'.approval? id = s.approval? id

/-- At most so many tasks were created, and nothing else changed. -/
def Advances (session runId : String) (n : ℕ) (s s' : Store) : Prop :=
  ∃ ids : List String, ids.length ≤ n ∧ AdvancesBy session runId ids s s'

variable {session runId taskId : String} {s s' s'' : Store} {env : Env}

lemma Works.refl {state : TaskState} (h : StoredIn session s taskId state) :
    Works session runId taskId s s :=
  ⟨⟨state, h⟩, fun _ _ => rfl, fun _ _ => rfl⟩

lemma Works.trans (h : Works session runId taskId s s')
    (h' : Works session runId taskId s' s'') : Works session runId taskId s s'' :=
  ⟨h'.stored, fun id hid => (h'.tasks id hid).trans (h.tasks id hid),
    fun id hid => (h'.approvals id hid).trans (h.approvals id hid)⟩

lemma AdvancesBy.refl (session runId : String) (s : Store) :
    AdvancesBy session runId [] s s :=
  ⟨List.nodup_nil, fun _ h => absurd h List.not_mem_nil, fun _ _ => rfl, fun _ _ => rfl⟩

/-- Work on a new task is an advance. -/
lemma Works.advancesBy (h : Works session runId taskId s s') (hfree : s.task? taskId = none) :
    AdvancesBy session runId [taskId] s s' := by
  refine ⟨List.nodup_singleton _, fun id hid => ?_, fun id hid => ?_, fun id hid => ?_⟩
  · obtain rfl := List.mem_singleton.mp hid
    exact ⟨hfree, h.stored⟩
  · exact h.tasks id fun heq => hid (List.mem_singleton.mpr heq)
  · exact h.approvals id (hid taskId (List.mem_singleton.mpr rfl))

/-- What was created first is there when the second advance begins, so it is not created again. -/
lemma AdvancesBy.disjoint {ids ids' : List String} (h : AdvancesBy session runId ids s s')
    (h' : AdvancesBy session runId ids' s' s'') : ∀ id ∈ ids, id ∉ ids' := by
  intro id hid hid'
  obtain ⟨-, state, task, htask, -⟩ := h.created id hid
  rw [(h'.created id hid').1] at htask
  exact absurd htask (by simp)

/-- **Advances add up.** -/
lemma AdvancesBy.trans {ids ids' : List String} (h : AdvancesBy session runId ids s s')
    (h' : AdvancesBy session runId ids' s' s'') :
    AdvancesBy session runId (ids ++ ids') s s'' := by
  have hdisjoint := h.disjoint h'
  refine ⟨?_, fun id hid => ?_, fun id hid => ?_, fun id hid => ?_⟩
  · rw [List.nodup_append]
    refine ⟨h.once, h'.once, fun id hid id' hid' heq => ?_⟩
    exact hdisjoint id hid (heq ▸ hid')
  · rcases List.mem_append.mp hid with hid | hid
    · obtain ⟨hfree, state, task, htask, hrest⟩ := h.created id hid
      exact ⟨hfree, state, task, (h'.tasks id (hdisjoint id hid)).trans htask, hrest⟩
    · have hother : id ∉ ids := fun hmem => hdisjoint id hmem hid
      obtain ⟨hfree, hstored⟩ := h'.created id hid
      exact ⟨(h.tasks id hother).symm.trans hfree, hstored⟩
  · rw [List.mem_append, not_or] at hid
    exact (h'.tasks id hid.2).trans (h.tasks id hid.1)
  · have hfirst : ∀ t ∈ ids, id ≠ checkpoint session runId t := fun t ht =>
      hid t (List.mem_append_left _ ht)
    have hsecond : ∀ t ∈ ids', id ≠ checkpoint session runId t := fun t ht =>
      hid t (List.mem_append_right _ ht)
    exact (h'.approvals id hsecond).trans (h.approvals id hfirst)

lemma Advances.refl (session runId : String) (n : ℕ) (s : Store) :
    Advances session runId n s s :=
  ⟨[], Nat.zero_le n, .refl session runId s⟩

lemma Works.advances (h : Works session runId taskId s s') (hfree : s.task? taskId = none) :
    Advances session runId 1 s s' :=
  ⟨[taskId], le_refl 1, h.advancesBy hfree⟩

lemma Advances.trans {n m : ℕ} (h : Advances session runId n s s')
    (h' : Advances session runId m s' s'') : Advances session runId (n + m) s s'' := by
  obtain ⟨ids, hlength, hadvance⟩ := h
  obtain ⟨ids', hlength', hadvance'⟩ := h'
  refine ⟨ids ++ ids', ?_, hadvance.trans hadvance'⟩
  rw [List.length_append]
  omega

/-- Different tasks have different checkpoints. -/
lemma checkpoint_injective {t t' : String}
    (h : checkpoint session runId t = checkpoint session runId t') : t = t' := by
  unfold checkpoint approvalId at h
  have hlists := congrArg String.toList h
  simp only [String.toList_append, List.append_assoc, List.append_cancel_left_eq] at hlists
  exact String.toList_inj.mp hlists

/-! ## The service calls -/

/-- A moved record is stored like the one before it. -/
lemma storedIn_of_move {task moved : Task} {state : TaskState} {now : Timestamp}
    (htask : s'.task? taskId = some task) (hsession : task.sessionId.val = session)
    (h : task.move state now = .ok moved) (hid : moved.id.val = taskId) :
    StoredIn session (s.putTask moved) taskId state := by
  obtain ⟨-, hmoved, -, -, hstate⟩ := Task.fields_of_new h
  rw [task.sessionId.property.1] at hmoved
  subst hid
  exact ⟨moved, Store.task?_putTask_self s moved, hmoved.trans hsession, hstate⟩

lemma id_of_move {task moved : Task} {state : TaskState} {now : Timestamp}
    (htask : s.task? taskId = some task) (h : task.move state now = .ok moved) :
    moved.id.val = taskId :=
  (congrArg Subtype.val (Task.fields_of_move h).1).trans (Store.id_of_task? htask)

/-- To save a moved record is work on its task. -/
lemma works_of_move (runId : String) {task moved : Task} {state : TaskState} {now : Timestamp}
    (htask : s.task? taskId = some task) (hsession : task.sessionId.val = session)
    (h : task.move state now = .ok moved) :
    Works session runId taskId s (s.putTask moved) ∧
      StoredIn session (s.putTask moved) taskId state := by
  have hid := id_of_move htask h
  have hstored := storedIn_of_move (s := s) htask hsession h hid
  exact ⟨⟨⟨state, hstored⟩, fun id hne => Store.task?_putTask_ne s moved (hid ▸ hne),
    fun _ _ => rfl⟩, hstored⟩

/-- `transition_task` leaves the task in the state asked for, if it returns. -/
lemma wp_moveTo_works {before after : TaskState} (h : StoredIn session s taskId before) :
    Effect.wp (moveTo env taskId runId after)
      (fun _ s' => Works session runId taskId s s' ∧ StoredIn session s' taskId after ∧
        s'.approvals = s.approvals)
      (fun _ s' => Works session runId taskId s s') s := by
  obtain ⟨task, htask, hsession, hbefore⟩ := h
  unfold moveTo
  rw [Effect.wp_bind]
  refine (transitionTask_outcome s env _).mono (fun reply s' houtcome => ?_)
    fun e s' houtcome => ?_
  · rw [Effect.wp_pure]
    cases houtcome with
    | done task' moved _ event moves =>
        obtain rfl := Option.some.inj (htask.symm.trans moves.found)
        obtain ⟨hworks, hstored⟩ := works_of_move runId htask hsession moves.built
        rw [name_injective moves.named] at hstored
        exact ⟨⟨hworks.stored, hworks.tasks, hworks.approvals⟩, hstored, rfl⟩
  · cases houtcome with
    | refused => exact .refl ⟨task, htask, hsession, hbefore⟩
    | unannounced task' moved _ moves =>
        obtain rfl := Option.some.inj (htask.symm.trans moves.found)
        exact (works_of_move runId htask hsession moves.built).1

/-- A text that follows something that starts with a letter is not stripped. -/
lemma strip_append_text {first : String} {c : Char} (hfirst : first.toList.head? = some c)
    (hc : isSpace c = false) (t : Text) : strip (first ++ t.val) = first ++ t.val := by
  have hne : t.val.toList ≠ [] := fun hnil => t.property.2 (String.toList_inj.mp hnil)
  have hfixed : Trim.trim isSpace t.val.toList = t.val.toList := by
    have h := t.property.1
    rwa [← String.toList_inj, strip, String.toList_ofList] at h
  have hlast := ((Trim.trim_eq_self_iff isSpace).mp hfixed).2
  rw [← String.toList_inj, strip, String.toList_ofList, Trim.trim_eq_self_iff,
    String.toList_append]
  refine ⟨fun x hx => ?_, fun x hx => ?_⟩
  · rw [List.head?_append, hfirst] at hx
    obtain rfl := Option.some.inj hx
    exact hc
  · rw [List.getLast?_append_of_ne_nil _ hne] at hx
    exact hlast x hx

lemma strip_checkpoint (session runId : String) (t : Text) :
    strip (checkpoint session runId t.val) = checkpoint session runId t.val := by
  have hsplit : checkpoint session runId t.val =
      "approval-" ++ orDefault (some runId) (defaultRunId session) ++ "-" ++ "ea_checkpoint" ++
        "-" ++ t.val := by
    unfold checkpoint approvalId
    simp only [String.append_assoc]
  rw [hsplit]
  refine strip_append_text (c := 'a') ?_ (by decide) t
  simp only [String.toList_append, List.append_assoc]
  rfl

/-- The approval a request builds is the task's checkpoint. -/
lemma id_of_builtApproval {t : Text} {task : Task} {a : Approval}
    (hsession : task.sessionId.val = session)
    (h : builtApproval env { taskId := t.val, runId } task = .ok a) :
    a.id.val = checkpoint session runId t.val ∧ a.state = .pending := by
  obtain ⟨haid, -, -, -, hpending, -⟩ := Approval.fields_of_new h
  refine ⟨haid.trans ?_, hpending⟩
  have hclean := strip_checkpoint session runId t
  unfold checkpoint at hclean ⊢
  rw [← hsession] at hclean ⊢
  exact hclean

/-- To save a task's checkpoint is work on the task. -/
lemma Works.putApproval (h : Works session runId taskId s s') {a : Approval}
    (hid : a.id.val = checkpoint session runId taskId) :
    Works session runId taskId s (s'.putApproval a) :=
  ⟨h.stored, h.tasks, fun id hne =>
    (Store.approval?_putApproval_ne s' a (hid ▸ hne)).trans (h.approvals id hne)⟩

/-- `request_approval` leaves the task waiting with a pending checkpoint, if it returns. -/
lemma wp_requestApproval_works {t : Text} {before : TaskState}
    (h : StoredIn session s t.val before) :
    Effect.wp (requestApproval env { taskId := t.val, runId })
      (fun _ s' => Works session runId t.val s s' ∧ StoredIn session s' t.val .waitingApproval ∧
        approvalState s' (checkpoint session runId t.val) = some .pending)
      (fun _ s' => Works session runId t.val s s') s := by
  obtain ⟨task, htask, hsession, hbefore⟩ := h
  -- whatever the ending, the moved record and its approval are all there is to see
  have hmoved : ∀ task' moved, Requesting s env { taskId := t.val, runId } task' moved →
      task' = task ∧ Works session runId t.val s (s.putTask moved) ∧
        StoredIn session (s.putTask moved) t.val .waitingApproval := by
    intro task' moved moves
    obtain rfl := Option.some.inj (htask.symm.trans moves.found)
    obtain ⟨hworks, hstored⟩ := works_of_move runId htask hsession moves.built
    exact ⟨rfl, hworks, hstored⟩
  refine (requestApproval_outcome s env _).mono (fun reply s' houtcome => ?_)
    fun e s' houtcome => ?_
  · cases houtcome with
    | done task' moved a waiting annotation _ moves built _ =>
        obtain ⟨rfl, hworks, hstored⟩ := hmoved task' moved moves
        obtain ⟨hid, hpending⟩ := id_of_builtApproval hsession built
        have hsaved := hworks.putApproval hid
        refine ⟨⟨hsaved.stored, hsaved.tasks, hsaved.approvals⟩, hstored, ?_⟩
        have hfound := Store.approval?_putApproval_self (s.putTask moved) a
        rw [hid] at hfound
        exact (congrArg (Option.map Approval.state) hfound).trans (congrArg some hpending)
  · cases houtcome with
    | refused => exact .refl ⟨task, htask, hsession, hbefore⟩
    | unrequested task' moved _ moves => exact (hmoved task' moved moves).2.1
    | unannounced task' moved a _ moves built =>
        obtain ⟨rfl, hworks, -⟩ := hmoved task' moved moves
        exact hworks.putApproval (id_of_builtApproval hsession built).1
    | unannotated task' moved a waiting _ moves built =>
        obtain ⟨rfl, hworks, -⟩ := hmoved task' moved moves
        have hsaved := hworks.putApproval (id_of_builtApproval hsession built).1
        exact ⟨hsaved.stored, hsaved.tasks, hsaved.approvals⟩

/-- `resolve_approval` decides the task's checkpoint, and moves the task where the decision takes
it, if it returns. -/
lemma wp_resolveApproval_works {decision : ApprovalDecision} {state : TaskState}
    (h : StoredIn session s taskId state) :
    Effect.wp (resolveApproval env { taskId, decision, runId := some runId })
      (fun _ s' => Works session runId taskId s s' ∧
        StoredIn session s' taskId (postState decision state) ∧
        approvalState s' (checkpoint session runId taskId) = some decision.newState)
      (fun _ s' => Works session runId taskId s s') s := by
  obtain ⟨task, htask, hsession, rfl⟩ := h
  have hstart : Works session runId taskId s s := .refl ⟨task, htask, hsession, rfl⟩
  have hdecided : ∀ task' existing a,
      Deciding s env { taskId, decision, runId := some runId } task' existing a →
      task' = task ∧ a.id.val = checkpoint session runId taskId ∧ a.state = decision.newState := by
    intro task' existing a hdecides
    obtain rfl := Option.some.inj (htask.symm.trans hdecides.found)
    obtain ⟨hid, -, -, -, hstate, -⟩ := Approval.fields_of_decide hdecides.built
    refine ⟨rfl, (congrArg Subtype.val hid).trans ?_, hstate⟩
    rw [Store.id_of_approval? hdecides.row]
    unfold resolvedId checkpoint
    rw [hsession]
  have happroval : ∀ a : Approval, a.id.val = checkpoint session runId taskId →
      approvalState (s.putApproval a) (checkpoint session runId taskId) = some a.state := by
    intro a hid
    have hfound := Store.approval?_putApproval_self s a
    rw [hid] at hfound
    exact congrArg (Option.map Approval.state) hfound
  refine (resolveApproval_outcome s env _).mono (fun reply s' houtcome => ?_)
    fun e s' houtcome => ?_
  · cases houtcome with
    | stays task' existing a event _ decides _ same =>
        obtain ⟨rfl, hid, hstate⟩ := hdecided task' existing a decides
        have hsaved := hstart.putApproval hid
        refine ⟨⟨hsaved.stored, hsaved.tasks, hsaved.approvals⟩,
          ⟨task', htask, hsession, same.symm⟩, ?_⟩
        exact (happroval a hid).trans (congrArg some hstate)
    | moves task' moved existing a event _ decides _ _ built =>
        obtain ⟨rfl, hid, hstate⟩ := hdecided task' existing a decides
        have hfound : ((s.putApproval a).push event).task? taskId = some task' := htask
        obtain ⟨hworks, hstored⟩ := works_of_move runId hfound hsession built
        have hsaved := hstart.putApproval hid
        refine ⟨⟨hworks.stored, fun id hne => (hworks.tasks id hne).trans (hsaved.tasks id hne),
          fun id hne => (hworks.approvals id hne).trans (hsaved.approvals id hne)⟩, hstored, ?_⟩
        exact (happroval a hid).trans (congrArg some hstate)
  · cases houtcome with
    | refused => exact hstart
    | unannounced task' existing a _ decides =>
        obtain ⟨rfl, hid, -⟩ := hdecided task' existing a decides
        exact hstart.putApproval hid
    | stuck task' existing a event _ decides =>
        obtain ⟨rfl, hid, -⟩ := hdecided task' existing a decides
        have hsaved := hstart.putApproval hid
        exact ⟨hsaved.stored, hsaved.tasks, hsaved.approvals⟩

/-! ## One item -/

/-- The session of a routine is a text, and so is the id of its first task. -/
structure Clean (session : String) : Prop where
  itself : strip session = session
  base : strip ("task-" ++ session) = "task-" ++ session

/-- What is known of a task that was just built. -/
lemma built_spec {req : CreateTaskRequest} {task : Task} (hclean : Clean req.sessionId)
    (h : builtTask s env req = .ok task) :
    task.id.val = chosenId s req ∧ s.task? task.id.val = none ∧
      task.sessionId.val = req.sessionId ∧ task.state = .draft := by
  obtain ⟨hid, hsession, -, -, hstate⟩ := Task.fields_of_new h
  refine ⟨hid.trans (strip_chosenId hclean.base), ?_, hsession.trans hclean.itself, hstate⟩
  rcases created_where h with hfree | ⟨hfree, hstrip⟩
  · exact hfree
  · rw [hstrip, hclean.base]
    exact hfree

/-- To save a new task is work on it. -/
lemma works_of_built (runId : String) {req : CreateTaskRequest} {task : Task}
    (hclean : Clean req.sessionId)
    (h : builtTask s env req = .ok task) :
    Works req.sessionId runId task.id.val s (s.putTask task) ∧
      StoredIn req.sessionId (s.putTask task) task.id.val .draft := by
  obtain ⟨-, -, hsession, hstate⟩ := built_spec hclean h
  have hstored : StoredIn req.sessionId (s.putTask task) task.id.val .draft :=
    ⟨task, Store.task?_putTask_self s task, hsession, hstate⟩
  exact ⟨⟨⟨.draft, hstored⟩, fun id hne => Store.task?_putTask_ne s task hne, fun _ _ => rfl⟩,
    hstored⟩

/-- `create_task` replies with the id of a new task. -/
lemma wp_createTask_works (runId : String) {req : CreateTaskRequest}
    (hclean : Clean req.sessionId) :
    Effect.wp (createTask env req)
      (fun reply s' => ∃ t : Text, subscriptId reply = .ok t.val ∧ s.task? t.val = none ∧
        Works req.sessionId runId t.val s s' ∧ StoredIn req.sessionId s' t.val .draft)
      (fun _ s' => Advances req.sessionId runId 1 s s') s := by
  refine ((createTask_outcome s env req).and (wp_createTask req)).mono
    (fun reply s' houtcome => ?_) fun e s' houtcome => ?_
  · obtain ⟨-, task, event, hbuilt, hreply, rfl⟩ := houtcome
    obtain ⟨hid, hfree, -⟩ := built_spec hclean hbuilt
    obtain ⟨hworks, hstored⟩ := works_of_built runId hclean hbuilt
    exact ⟨task.id, by rw [hreply, hid], hfree,
      ⟨hworks.stored, hworks.tasks, hworks.approvals⟩, hstored⟩
  · cases houtcome.1 with
    | refused => exact .refl _ _ 1 s
    | unannounced task _ hbuilt =>
        exact (works_of_built runId hclean hbuilt).1.advances (built_spec hclean hbuilt).2.1

/-- A submitted task is new and waits, with a pending checkpoint. -/
lemma wp_submission (env : ℕ → Env) (runId : String) {req : CreateTaskRequest}
    (hclean : Clean req.sessionId) :
    Effect.wp (submission env req runId)
      (fun taskId s' => s.task? taskId = none ∧ Works req.sessionId runId taskId s s' ∧
        StoredIn req.sessionId s' taskId .waitingApproval ∧
        approvalState s' (checkpoint req.sessionId runId taskId) = some .pending)
      (fun _ s' => Advances req.sessionId runId 1 s s') s := by
  unfold submission
  rw [Effect.wp_bind]
  refine (wp_createTask_works runId hclean).mono ?_ fun _ _ h => h
  rintro reply s₀ ⟨t, hreply, hfree, hworks₀, hdraft⟩
  rw [hreply, Effect.wp_bind, Effect.wp_ofExcept_ok, Effect.wp_bind]
  refine (wp_moveTo_works hdraft).mono ?_ fun _ _ h => (hworks₀.trans h).advances hfree
  rintro - s₁ ⟨hworks₁, hplanning, -⟩
  have h₁ := hworks₀.trans hworks₁
  rw [Effect.wp_bind]
  refine (wp_moveTo_works hplanning).mono ?_ fun _ _ h => (h₁.trans h).advances hfree
  rintro - s₂ ⟨hworks₂, hexecuting, -⟩
  have h₂ := h₁.trans hworks₂
  rw [Effect.wp_bind]
  refine (wp_requestApproval_works hexecuting).mono ?_ fun _ _ h => (h₂.trans h).advances hfree
  rintro - s₃ ⟨hworks₃, hwaiting, hpending⟩
  rw [Effect.wp_pure]
  exact ⟨hfree, h₂.trans hworks₃, hwaiting, hpending⟩

/-- What a decision does to a waiting task and its checkpoint; without one both stay. -/
lemma wp_applyDecision_works (env : ℕ → Env) (decision : Option ApprovalDecision)
    (hwaiting : StoredIn session s taskId .waitingApproval)
    (hpending : approvalState s (checkpoint session runId taskId) = some .pending) :
    Effect.wp (applyDecision env runId taskId decision)
      (fun _ s' => Works session runId taskId s s' ∧
        StoredIn session s' taskId
          (decision.elim .waitingApproval fun d => postState d .waitingApproval) ∧
        approvalState s' (checkpoint session runId taskId) =
          some (decision.elim .pending ApprovalDecision.newState))
      (fun _ s' => Works session runId taskId s s') s := by
  cases decision with
  | none => exact (Effect.wp_pure _).mpr ⟨.refl hwaiting, hwaiting, hpending⟩
  | some decision =>
      unfold applyDecision
      rw [Effect.wp_bind]
      refine (wp_resolveApproval_works hwaiting).mono (fun _ s' h => ?_) fun _ _ h => h
      rw [Effect.wp_pure]
      exact h

end Waywarden.EATaskService

namespace Waywarden

open EATaskService

variable {runId : String} {s s' : Store}

/-! ## The scheduler -/

namespace EASchedulerHandler

lemma clean_schedulerSession : Clean schedulerSession :=
  ⟨by decide +kernel, by decide +kernel⟩

/-- The transitions after a decision are work on the task. -/
lemma wp_followUp_works {taskId : String} {state : TaskState} (env : ℕ → Env)
    (decision : Option ApprovalDecision) (result : ScheduleResult)
    (h : StoredIn schedulerSession s taskId state) :
    Effect.wp (followUp env runId taskId result decision)
      (fun _ s' => Works schedulerSession runId taskId s s')
      (fun _ s' => Works schedulerSession runId taskId s s') s := by
  have hstay : Works schedulerSession runId taskId s s := .refl h
  unfold followUp
  rcases decision with _ | _ | _ | _ | _
  case some.granted =>
    rw [Effect.wp_bind]
    refine (wp_moveTo_works h).mono ?_ fun _ _ h => h
    rintro - s₁ ⟨hworks₁, hplanning, -⟩
    rw [Effect.wp_bind]
    refine (wp_moveTo_works hplanning).mono ?_ fun _ _ h => hworks₁.trans h
    rintro - s₂ ⟨hworks₂, hexecuting, -⟩
    rw [Effect.wp_bind]
    refine (wp_moveTo_works hexecuting).mono ?_ fun _ _ h => (hworks₁.trans hworks₂).trans h
    rintro - s₃ ⟨hworks₃, -, -⟩
    exact (Effect.wp_pure _).mpr ((hworks₁.trans hworks₂).trans hworks₃)
  case some.deniedAlternatePath =>
    rw [Effect.wp_bind]
    refine (wp_moveTo_works h).mono ?_ fun _ _ h => h
    rintro - s₁ ⟨hworks₁, -, -⟩
    exact (Effect.wp_pure _).mpr hworks₁
  all_goals exact (Effect.wp_pure _).mpr hstay

/-- A round creates one task at most. -/
lemma wp_scheduleTask_advances (env : ℕ → Env) (decisions : Decisions) (result : ScheduleResult)
    (idx : ℕ) (stask : ScheduledTask) :
    Effect.wp (scheduleTask env decisions runId result idx stask)
      (fun _ s' => Advances schedulerSession runId 1 s s')
      (fun _ s' => Advances schedulerSession runId 1 s s') s := by
  unfold scheduleTask
  rw [Effect.wp_bind]
  refine (@wp_submission s env runId (createRequest runId stask) clean_schedulerSession).mono ?_
    fun _ _ h => h
  rintro taskId s₁ ⟨hfree, hworks₁, hwaiting, hpending⟩
  rw [Effect.wp_bind]
  refine (wp_applyDecision_works env _ hwaiting hpending).mono ?_
    fun _ _ h => (hworks₁.trans h).advances hfree
  rintro - s₂ ⟨hworks₂, hstored, -⟩
  have h₂ := hworks₁.trans hworks₂
  rw [Effect.wp_bind]
  refine (wp_followUp_works env _ _ hstored).mono ?_ fun _ _ h => (h₂.trans h).advances hfree
  intro _ s₃ hworks₃
  exact (Effect.wp_pure _).mpr ((h₂.trans hworks₃).advances hfree)

lemma wp_runFrom_advances (env : ℕ → ℕ → Env) (decisions : Decisions) (result : ScheduleResult)
    (idx : ℕ) (tasks : List ScheduledTask) :
    Effect.wp (runFrom env decisions runId result idx tasks)
      (fun _ s' => Advances schedulerSession runId tasks.length s s')
      (fun _ s' => Advances schedulerSession runId tasks.length s s') s := by
  induction tasks generalizing s result idx with
  | nil => exact (Effect.wp_pure _).mpr (.refl _ _ 0 s)
  | cons stask tasks ih =>
      have hlength : (stask :: tasks).length = 1 + tasks.length := by
        rw [List.length_cons, Nat.add_comm]
      unfold runFrom
      rw [Effect.wp_bind, hlength]
      refine (wp_scheduleTask_advances (env idx) decisions result idx stask).mono ?_ ?_
      · intro result' s₁ h₁
        exact (ih result' (idx + 1)).mono (fun _ _ h => h₁.trans h) fun _ _ h => h₁.trans h
      · intro e s₁ h₁
        exact h₁.trans (.refl _ _ tasks.length s₁)

end EASchedulerHandler

/-! ## The triage -/

namespace EAIboxTriageHandler

open EASchedulerHandler (approvalState applyDecision)
open Lowercase (CaseTable)

lemma clean_triageSession : Clean triageSession :=
  ⟨by decide +kernel, by decide +kernel⟩

/-- A task is left as the decision on its item has it: without one it waits, and any decision but a
timeout leaves it waiting too. -/
structure LeftBy (runId : String) (s : Store) (decision : Option ApprovalDecision)
    (taskId : String) : Prop where
  task : StoredIn triageSession s taskId
    (decision.elim .waitingApproval fun d => postState d .waitingApproval)
  approval : approvalState s (checkpoint triageSession runId taskId) =
    some (decision.elim .pending ApprovalDecision.newState)

/-- It stays so while others are worked on. -/
lemma LeftBy.later {decision : Option ApprovalDecision} {taskId : String} {ids : List String}
    (h : LeftBy runId s decision taskId) (hlater : AdvancesBy triageSession runId ids s s') :
    LeftBy runId s' decision taskId := by
  obtain ⟨⟨task, htask, hrest⟩, happroval⟩ := h
  have hother : taskId ∉ ids := by
    intro hmem
    rw [(hlater.created taskId hmem).1] at htask
    exact absurd htask (by simp)
  refine ⟨⟨task, (hlater.tasks taskId hother).trans htask, hrest⟩, ?_⟩
  unfold approvalState at happroval ⊢
  rw [hlater.approvals, happroval]
  intro t ht heq
  exact hother (checkpoint_injective heq ▸ ht)

/-- The item has a subject. -/
def isProper (item : InboxItem) : Bool := strip item.subject ≠ ""

/-- An item as it is reported. -/
def triaged (T : CaseTable) (decisions : Decisions) (item : InboxItem) : InboxItem :=
  if isProper item then
    { answer T item with approved := isGranted (decisions.lookup item.subject) }
  else { item with classification := "malformed" }

/-- The item was denied. -/
def isDenied : Option ApprovalDecision → Bool
  | some (.deniedAbandon _) => true
  | _ => false

/-- What a pass over some items adds to a result: every item in its place, and the counters. -/
structure Reports (T : CaseTable) (decisions : Decisions) (inbox : List InboxItem)
    (before after : TriageResult) : Prop where
  listed : after.items = before.items ++ inbox.map (triaged T decisions)
  worked : after.itemsTriaged = before.itemsTriaged + inbox.countP isProper
  approved : after.itemsApproved = before.itemsApproved +
    inbox.countP fun item => isProper item && isGranted (decisions.lookup item.subject)
  denied : after.itemsDenied = before.itemsDenied +
    inbox.countP fun item => isProper item && isDenied (decisions.lookup item.subject)
  malformed : after.itemsMalformed = before.itemsMalformed +
    inbox.countP fun item => !isProper item
  events : after.eventsEmitted = before.eventsEmitted

variable {T : CaseTable} {decisions : Decisions} {before mid after : TriageResult}

lemma Reports.nil (result : TriageResult) : Reports T decisions [] result result := by
  constructor <;> simp

lemma Reports.cons {item : InboxItem} {items : List InboxItem}
    (h : Reports T decisions [item] before mid) (h' : Reports T decisions items mid after) :
    Reports T decisions (item :: items) before after := by
  rw [← List.singleton_append]
  refine ⟨?_, ?_, ?_, ?_, ?_, h'.events.trans h.events⟩
  · rw [h'.listed, h.listed, List.map_append, List.append_assoc]
  · rw [h'.worked, h.worked, List.countP_append, Nat.add_assoc]
  · rw [h'.approved, h.approved, List.countP_append, Nat.add_assoc]
  · rw [h'.denied, h.denied, List.countP_append, Nat.add_assoc]
  · rw [h'.malformed, h.malformed, List.countP_append, Nat.add_assoc]

/-- An item without a subject is set aside. -/
lemma reports_malformed {item : InboxItem} (h : isProper item = false) (result : TriageResult) :
    Reports T decisions [item] result { result with
      itemsMalformed := result.itemsMalformed + 1
      items := result.items ++ [{ item with classification := "malformed" }] } := by
  constructor <;> simp [h, triaged]

/-- Any other is counted by its decision. -/
lemma reports_counted {item : InboxItem} (h : isProper item = true) (result : TriageResult) :
    Reports T decisions [item] result { count (decisions.lookup item.subject) result with
      items := (count (decisions.lookup item.subject) result).items ++ [
        { answer T item with approved := isGranted (decisions.lookup item.subject) }] } := by
  unfold count
  rcases hd : decisions.lookup item.subject with _ | decision
  · constructor <;> simp [h, hd, triaged, isGranted, isDenied]
  · cases decision <;> constructor <;> simp [h, hd, triaged, isGranted, isDenied]

/-- **One item**: it is reported, and a proper one has its own new task. -/
lemma wp_triageItem (env : ℕ → Env) (result : TriageResult) (item : InboxItem) :
    Effect.wp (triageItem T env decisions runId result item)
      (fun result' s' => Reports T decisions [item] result result' ∧
        ∃ ids, AdvancesBy triageSession runId ids s s' ∧
          List.Forall₂ (fun item id => LeftBy runId s' (decisions.lookup item.subject) id)
            ([item].filter isProper) ids)
      (fun _ s' => Advances triageSession runId 1 s s') s := by
  unfold triageItem
  by_cases hblank : strip item.subject = ""
  · have hproper : isProper item = false := by simp [isProper, hblank]
    rw [if_pos hblank]
    refine (Effect.wp_pure _).mpr ⟨reports_malformed hproper result, [], .refl _ _ s, ?_⟩
    rw [List.filter_cons_of_neg (by simp [hproper])]
    exact .nil
  · have hproper : isProper item = true := by simp [isProper, hblank]
    have hsubject : (answer T item).subject = item.subject := rfl
    rw [if_neg hblank, Effect.wp_bind]
    refine (@wp_submission s env runId (createRequest runId (answer T item))
      clean_triageSession).mono ?_ fun _ _ h => h
    rintro taskId s₁ ⟨hfree, hworks₁, hwaiting, hpending⟩
    rw [hsubject, Effect.wp_bind]
    refine (wp_applyDecision_works env _ hwaiting hpending).mono ?_
      fun _ _ h => (hworks₁.trans h).advances hfree
    rintro - s₂ ⟨hworks₂, hstored, happroval⟩
    refine (Effect.wp_pure _).mpr ⟨reports_counted hproper result, [taskId],
      (hworks₁.trans hworks₂).advancesBy hfree, ?_⟩
    rw [List.filter_cons_of_pos hproper]
    exact .cons ⟨hstored, happroval⟩ .nil

/-- **A whole pass**, by induction on the items. -/
lemma wp_runFrom_reports (env : ℕ → ℕ → Env) (result : TriageResult) (idx : ℕ)
    (items : List InboxItem) :
    Effect.wp (runFrom T env decisions runId result idx items)
      (fun result' s' => Reports T decisions items result result' ∧
        ∃ ids, AdvancesBy triageSession runId ids s s' ∧
          List.Forall₂ (fun item id => LeftBy runId s' (decisions.lookup item.subject) id)
            (items.filter isProper) ids)
      (fun _ s' => Advances triageSession runId items.length s s') s := by
  induction items generalizing s result idx with
  | nil => exact (Effect.wp_pure _).mpr ⟨.nil result, [], .refl _ _ s, .nil⟩
  | cons item items ih =>
      have hlength : (item :: items).length = 1 + items.length := by
        rw [List.length_cons, Nat.add_comm]
      unfold runFrom
      rw [Effect.wp_bind, hlength]
      refine (wp_triageItem (env idx) result item).mono ?_
        fun _ s₁ h => h.trans (.refl _ _ items.length s₁)
      rintro result₁ s₁ ⟨hreports₁, ids₁, hadvance₁, hleft₁⟩
      have hcount : ids₁.length ≤ 1 := by
        rw [← hleft₁.length_eq]
        exact (List.length_filter_le _ _).trans (le_refl 1)
      refine (ih result₁ (idx + 1)).mono ?_
        fun _ _ h => Advances.trans ⟨ids₁, hcount, hadvance₁⟩ h
      rintro result₂ s₂ ⟨hreports₂, ids₂, hadvance₂, hleft₂⟩
      refine ⟨hreports₁.cons hreports₂, ids₁ ++ ids₂, hadvance₁.trans hadvance₂, ?_⟩
      rw [← List.singleton_append, List.filter_append]
      refine List.rel_append ?_ hleft₂
      exact hleft₁.imp fun item id hleft => hleft.later hadvance₂

/-- A pass that returns touched as many tasks as it has proper items. -/
lemma wp_runFrom_advances (env : ℕ → ℕ → Env) (decisions : Decisions) (result : TriageResult)
    (idx : ℕ) (items : List InboxItem) :
    Effect.wp (runFrom T env decisions runId result idx items)
      (fun _ s' => Advances triageSession runId items.length s s')
      (fun _ s' => Advances triageSession runId items.length s s') s := by
  refine (wp_runFrom_reports env result idx items).mono ?_ fun _ _ h => h
  rintro _ s' ⟨-, ids, hadvance, hleft⟩
  refine ⟨ids, ?_, hadvance⟩
  rw [← hleft.length_eq]
  exact List.length_filter_le _ _

/-- **What the triage reports is what it did.**  The items come back in their order, each with its
category, its draft and whether it was granted, the blank ones marked malformed; the counters are
the numbers of these.  The proper items have new tasks, one for each and in their order, and every
such task and its approval is left as the decision under the item's subject has it. -/
theorem triage_reports {env : ℕ → ℕ → Env} {items : Option (List InboxItem)}
    {decisions : Option Decisions} {result : TriageResult}
    (h : run T env items decisions runId s = (.ok result, s')) :
    Reports T (decisions.getD []) (items.getD []) {} result ∧
      ∃ ids, AdvancesBy triageSession runId ids s s' ∧
        List.Forall₂
          (fun item id => LeftBy runId s' ((decisions.getD []).lookup item.subject) id)
          ((items.getD []).filter isProper) ids :=
  (wp_runFrom_reports env {} 0 (items.getD [])).of_ok h

/-- The case mapping of the ASCII letters. -/
def asciiCases : CaseTable where
  toLower c := [c.toLower]
  cased c := c.isAlpha
  caseIgnorable _ := false

/-- Two items of an inbox, one without a subject. -/
def twoItems : List InboxItem :=
  [⟨"Budget request", "ada@example.test", "for May", "unknown", "", false⟩,
    ⟨"  ", "", "", "unknown", "", false⟩]

/-- A granted item and a blank one. -/
theorem triage_reports_granted :
    ∃ result s', run asciiCases EASchedulerHandler.numberedEnvs (some twoItems)
        (some [("Budget request", .granted)]) "ea-triage-run" Store.empty = (.ok result, s') ∧
      Reports asciiCases [("Budget request", .granted)] twoItems {} result ∧
        ∃ ids, AdvancesBy triageSession "ea-triage-run" ids Store.empty s' ∧
          List.Forall₂ (fun item id => LeftBy "ea-triage-run" s'
            (List.lookup item.subject [("Budget request", .granted)]) id)
            (twoItems.filter isProper) ids := by
  have hok : (run asciiCases EASchedulerHandler.numberedEnvs (some twoItems)
      (some [("Budget request", .granted)]) "ea-triage-run" Store.empty).1.isOk = true := by
    decide +kernel
  obtain ⟨result, s', hrun⟩ := Effect.exists_of_isOk hok
  exact ⟨result, s', hrun, triage_reports hrun⟩

end EAIboxTriageHandler

/-- **Whatever the input and however a pass ends**, returned or raised half way, a routine has
created at most one task for each item of its input, and of what the store held before it changed
no task, and no approval but those that its own new tasks wait for. -/
theorem routines_advance (T : Lowercase.CaseTable) (env : ℕ → ℕ → Env)
    (tasks : List ScheduledTask) (items : Option (List InboxItem)) (decisions : Option Decisions)
    (runId : String) (s : Store) :
    Advances EASchedulerHandler.schedulerSession runId tasks.length s
        (EASchedulerHandler.run env tasks decisions runId s).2 ∧
      Advances EAIboxTriageHandler.triageSession runId (items.getD []).length s
        (EAIboxTriageHandler.run T env items decisions runId s).2 :=
  ⟨(EASchedulerHandler.wp_runFrom_advances env (decisions.getD []) {} 1 tasks).state,
    (EAIboxTriageHandler.wp_runFrom_advances env (decisions.getD []) {} 0 (items.getD [])).state⟩

/-! ## The routine surface -/

namespace EACoroutine

/-- The profile resolved the asset, and it is a routine. -/
def Resolved (resolvedAssets : List ResolvedAsset) (assetId : String) : Prop :=
  ∃ asset ∈ resolvedAssets, asset.kind = .routine ∧ asset.id = assetId

/-- The tasks and the approvals are as they were. -/
def SameRecords (s s' : Store) : Prop := s'.tasks = s.tasks ∧ s'.approvals = s.approvals

/-- What the handler of a routine may do to the records. -/
def Touches (args : RoutineArgs) (s s' : Store) : Handler → Prop
  | .briefing => SameRecords s s'
  | .scheduler => Advances EASchedulerHandler.schedulerSession
      (args.runId.getD "ea-scheduler-run") args.tasks.length s s'
  | .triage => Advances EAIboxTriageHandler.triageSession
      (args.runId.getD "ea-triage-run") args.items.length s s'

/-- The store is as it was, or a resolved routine has run and its handler kept to its records. -/
def Confined (resolvedAssets : List ResolvedAsset) (assetId : String) (args : RoutineArgs)
    (s s' : Store) : Prop :=
  s' = s ∨ Resolved resolvedAssets assetId ∧
    ∃ handler, handlerOf assetId = some handler ∧ Touches args s s' handler

/-- The handler a result comes from. -/
def handlerOfResult : RoutineResult → Handler
  | .briefing _ => .briefing
  | .schedule _ => .scheduler
  | .triage _ => .triage

lemma maintains_append (s : Store) (e : RunEvent) :
    Effect.Maintains (SameRecords s) (RunEventRepository.append e) :=
  Effect.maintains_of_wp fun _ hs => RunEventRepository.wp_append (fun _ => hs) fun _ _ => hs

/-- What is looked up was resolved. -/
lemma mem_resolveRoutineSlices {assets : List ResolvedAsset} {routine : RoutineSlice}
    (h : routine ∈ resolveRoutineSlices assets) : Resolved assets routine.assetId := by
  induction assets with
  | nil => exact absurd h List.not_mem_nil
  | cons asset assets ih =>
      have hlater : Resolved assets routine.assetId →
          Resolved (asset :: assets) routine.assetId := by
        rintro ⟨found, hmem, hfound⟩
        exact ⟨found, List.mem_cons_of_mem _ hmem, hfound⟩
      unfold resolveRoutineSlices at h
      by_cases hkind : asset.kind = .routine
      · rw [if_neg (not_not_intro hkind)] at h
        rcases List.mem_cons.mp h with rfl | h
        · exact ⟨asset, List.mem_cons_self, hkind, rfl⟩
        · exact hlater (ih h)
      · rw [if_pos hkind] at h
        exact hlater (ih h)

lemma resolved_of_requireRoutine {assetId : String} {assets : List ResolvedAsset}
    {routine : RoutineSlice} (h : requireRoutine assetId assets = .ok routine) :
    Resolved assets assetId ∧ routine.assetId = assetId := by
  unfold requireRoutine at h
  split at h
  · rename_i found hfound
    obtain rfl := Except.ok.inj h
    have hid : found.assetId = assetId := by simpa using List.find?_some hfound
    exact ⟨hid ▸ mem_resolveRoutineSlices (List.mem_of_find?_eq_some hfound), hid⟩
  · exact absurd h (by simp)

/-- **The routine surface**, for any id and any arguments: whether it returns or raises, the store
is as it was unless the profile resolved a routine under the id, and then it is touched as the
handler of the id touches it.  What is returned comes from that handler. -/
lemma execute_confined (T : Lowercase.CaseTable) (fmt : DateFormat) (env : ℕ → ℕ → Env)
    (routines : EACoroutine) (assetId : String) (resolvedAssets : List ResolvedAsset)
    (args : RoutineArgs) (s : Store) :
    Effect.wp (routines.execute T fmt env assetId resolvedAssets args)
      (fun result s' => Resolved resolvedAssets assetId ∧
        handlerOf assetId = some (handlerOfResult result) ∧
        Confined resolvedAssets assetId args s s')
      (fun _ s' => Confined resolvedAssets assetId args s s') s := by
  unfold execute
  rw [Effect.wp_bind]
  rcases hroutine : requireRoutine assetId resolvedAssets with e | routine
  · exact (Effect.wp_raise e).mpr (.inl rfl)
  obtain ⟨hresolved, hid⟩ := resolved_of_requireRoutine hroutine
  have hconfined : ∀ handler s', handlerOf assetId = some handler → Touches args s s' handler →
      Confined resolvedAssets assetId args s s' :=
    fun handler s' hhandler htouches => .inr ⟨hresolved, handler, hhandler, htouches⟩
  rw [Effect.wp_ofExcept_ok, hid]
  rcases hhandler : handlerOf assetId with _ | _ | _ | _
  · exact (Effect.wp_raise _).mpr (.inl rfl)
  · have hkeeps := EABriefingHandler.maintains_runAsync (maintains_append s) fmt (env 0 0)
      args.inboxEntries args.pendingTasks (args.runId.getD "ea-briefing-run")
    dsimp only
    rw [Effect.wp_bind]
    refine (hkeeps.within.wp ⟨rfl, rfl⟩).mono (fun result s' h => ?_) fun _ s' h => ?_
    · exact (Effect.wp_pure _).mpr ⟨hresolved, rfl, hconfined _ s' hhandler h⟩
    · exact hconfined _ s' hhandler h
  · dsimp only
    by_cases hservice : routines.hasTaskService = true
    · rw [hservice, Bool.not_true, if_neg Bool.false_ne_true, Effect.wp_bind]
      refine (EASchedulerHandler.wp_runFrom_advances env (args.decisions.getD []) {} 1
        args.tasks).mono (fun result s' h => ?_) fun _ s' h => ?_
      · exact (Effect.wp_pure _).mpr ⟨hresolved, rfl, hconfined _ s' hhandler h⟩
      · exact hconfined _ s' hhandler h
    · rw [if_pos (by simpa using hservice)]
      exact (Effect.wp_raise _).mpr (.inl rfl)
  · dsimp only
    by_cases hservice : routines.hasTaskService = true
    · rw [hservice, Bool.not_true, if_neg Bool.false_ne_true, Effect.wp_bind]
      refine (EAIboxTriageHandler.wp_runFrom_advances env (args.decisions.getD []) {} 0
        args.items).mono (fun result s' h => ?_) fun _ s' h => ?_
      · exact (Effect.wp_pure _).mpr ⟨hresolved, rfl, hconfined _ s' hhandler h⟩
      · exact hconfined _ s' hhandler h
    · rw [if_pos (by simpa using hservice)]
      exact (Effect.wp_raise _).mpr (.inl rfl)

end EACoroutine

end Waywarden

import Waywarden.Api.Chat
import Waywarden.System.TaskMachine

/-!
# The entry points that write event logs

`POST /chat`, `RunLifecycleService.start`, `ApprovalEngine` and `EATaskService` on one store.  Each
of them names a run of its own choosing, and each but `start` appends to that run's log without
looking for its row.

`EntryCall.target` is the run whose log a call comes to append to, as far as the store before it
tells, and `leaves_next` what the call leaves of the two tables that matter here.
-/

namespace Waywarden

open Machine EATaskService

/-- A call of one of the entry points, with what it reads from outside. -/
inductive EntryCall
  | chat (attached : Bool) (env : Env) (operator : String) (body : Chat.ChatRequest)
  | start (env : Env) (task : Task) (entrypoint : Entrypoint)
  | request (env : Env) (runId approvalKind summary : String)
      (requestedCapability : Option String) (expiresAt : Option PyDatetime)
      (checkpointRef : Option String)
  | resolve (env : Env) (approvalId : String) (decision : ApprovalDecision)
  | ea (call : TaskCall)

/-- What a call returns. -/
inductive EntryReply
  | chat (r : Chat.ChatResponse)
  | run (r : Run)
  | approval (a : Approval)
  | event (e : RunEvent)
  | ea (m : Mapping)

/-- Whether the event of a call is a `run.created`. -/
def EntryCall.creates : EntryCall → Bool
  | .chat .. | .start .. => true
  | _ => false

/-- The computation a call runs. -/
def EntryCall.perform : EntryCall → Session EntryReply
  | .chat attached env operator body => EntryReply.chat <$> Chat.chat attached env operator body
  | .start env task entrypoint => EntryReply.run <$> RunLifecycleService.start env task entrypoint
  | .request env runId kind summary cap expiresAt ref =>
      EntryReply.approval <$> ApprovalEngine.request env runId kind summary cap expiresAt ref
  | .resolve env id decision => EntryReply.event <$> ApprovalEngine.resolve env id decision
  | .ea call => EntryReply.ea <$> call.perform

/-- The entry points on one store. -/
def entryMachine : Machine Store EntryCall (Except PyError EntryReply) := ⟨fun s c => c.perform s⟩

lemma next_entry (s : Store) (c : EntryCall) : entryMachine.next s c = (c.perform s).2 := rfl

/-! ## The run a call appends to -/

/-- The run, when its log takes an event with this id. -/
def Store.takes (s : Store) (runId id : String) : Option String :=
  if s.settled runId || s.hasEvent id then none else some runId

/-- The run a chat appends to. -/
def chatTarget (s : Store) (attached : Bool) (env : Env) (operator : String)
    (body : Chat.ChatRequest) : Option String :=
  match Chat.buildRun env body with
  | .error _ => none
  | .ok _ =>
      if operator ≠ "" ∧ attached = true then
        s.takes (Chat.runIdOf env) (Chat.createdId (Chat.runIdOf env))
      else none

/-- The run a request appends to. -/
def requestTarget (s : Store) (env : Env) (runId kind summary : String) (cap : Option String)
    (expiresAt : Option PyDatetime) : Option String :=
  match ApprovalEngine.buildRequest runId kind summary cap expiresAt (env.now 0) with
  | .error _ => none
  | .ok a => s.takes runId (ApprovalEngine.waitingEventId a.id)

/-- The run a resolution appends to. -/
def resolveTarget (s : Store) (env : Env) (id : String) (d : ApprovalDecision) : Option String :=
  match s.approval? id with
  | none => none
  | some a =>
      if a.state = .pending ∧ a.requestedAt ≤ env.now 0 then
        s.takes a.runId ("evt-" ++ id ++ ApprovalEngine.decisionTag d)
      else none

/-- The run an operation on tasks appends to first. -/
def TaskCall.target (s : Store) : TaskCall → Option String
  | .createTask env req =>
      match freshTaskId ("task-" ++ req.sessionId) s with
      | (.error _, _) => none
      | (.ok taskId, _) =>
          match Task.new taskId req.sessionId req.title req.objective .draft (env.now 0)
            (env.now 0) with
          | .error _ => none
          | .ok _ => s.takes (orDefault req.runId (defaultRunId req.sessionId))
              (progressId taskId (env.uuid4 0))
  | .transitionTask env req =>
      match s.task? req.taskId with
      | none => none
      | some task =>
          match (allowedTransitions task.state).find? fun state => state.name == req.state with
          | none => none
          | some state =>
              match task.move state (env.now 0) with
              | .error _ => none
              | .ok _ => s.takes (orDefault req.runId (defaultRunId task.sessionId))
                  (progressId task.id (env.uuid4 0))
  | .requestApproval env req =>
      match s.task? req.taskId with
      | none => none
      | some task =>
          if task.state = .executing then
            match task.move .waitingApproval (env.now 0) with
            | .error _ => none
            | .ok _ => requestTarget s (env.later 1) (requestRunId req task)
                (req.approvalKind ++ "-" ++ req.taskId)
                (orDefault (some req.summary) ("Approval checkpoint for " ++ task.title.val)) none
                none
          else none
  | .resolveApproval env req =>
      match s.task? req.taskId with
      | none => none
      | some task => resolveTarget s env (resolvedId req task) req.decision

/-- The run whose log a call comes to append to, other than one whose row it has just stored. -/
def EntryCall.target (s : Store) : EntryCall → Option String
  | .chat attached env operator body => chatTarget s attached env operator body
  | .start .. => none
  | .request env runId kind summary cap expiresAt _ =>
      requestTarget s env runId kind summary cap expiresAt
  | .resolve env id d => resolveTarget s env id d
  | .ea call => call.target s

/-! ## What a call leaves of the runs and the events -/

/-- The runs and the events are the same. -/
def SameLogs (s s' : Store) : Prop := s'.runs = s.runs ∧ s'.runEvents = s.runEvents

/-- One event or more was appended to the log of the run, none of them a `run.created`. -/
inductive Adds (runId : String) (s : Store) : Store → Prop
  | one {s' : Store} (e : RunEvent) (hrun : e.runId = runId) (htype : e.type ≠ .runCreated)
      (h : SameLogs (s.push (s.stamp e)) s') : Adds runId s s'
  | more {t s' : Store} (hadds : Adds runId s t) (e : RunEvent) (hrun : e.runId = runId)
      (htype : e.type ≠ .runCreated) (h : SameLogs (t.push (t.stamp e)) s') : Adds runId s s'

/-- What a call that does not create runs leaves: nothing new, or events of its target. -/
inductive LeavesLogs (s : Store) (target : Option String) (s' : Store) : Prop
  | same (hnone : target = none) (h : SameLogs s s')
  | adds (runId : String) (hsome : target = some runId) (h : Adds runId s s')

section

variable {s : Store}

lemma SameLogs.trans {t u : Store} (h : SameLogs s t) (h' : SameLogs t u) : SameLogs s u :=
  ⟨h'.1.trans h.1, h'.2.trans h.2⟩

/-- An append to the same logs. -/
lemma SameLogs.push {t : Store} (h : SameLogs s t) (e : RunEvent) :
    SameLogs (s.push (s.stamp e)) (t.push (t.stamp e)) := by
  have hstamp : t.stamp e = s.stamp e := by
    simp only [Store.stamp, Store.latestSeq, Store.log, h.2]
  refine ⟨h.1, ?_⟩
  rw [Store.runEvents_push, Store.runEvents_push, hstamp, h.2]

lemma SameLogs.takes {t : Store} (h : SameLogs s t) (runId id : String) :
    t.takes runId id = s.takes runId id := by
  have hsettled : t.settled runId = s.settled runId := by
    rw [Store.settled, Store.run?, h.1]
    rfl
  have hevent : t.hasEvent id = s.hasEvent id := by
    rw [Store.hasEvent, h.2]
    rfl
  rw [Store.takes, hsettled, hevent, Store.takes]

lemma Adds.of_same {runId : String} {t u : Store} (h : SameLogs s t) (hadds : Adds runId t u) :
    Adds runId s u := by
  induction hadds with
  | one e hrun htype hu => exact .one e hrun htype ((h.push e).trans hu)
  | more _ e hrun htype hu ih => exact .more ih e hrun htype hu

lemma LeavesLogs.of_same {target : Option String} {t u : Store} (h : SameLogs s t)
    (hleaves : LeavesLogs t target u) : LeavesLogs s target u := by
  cases hleaves with
  | same hnone hu => exact .same hnone (h.trans hu)
  | adds runId hsome hu => exact .adds runId hsome (hu.of_same h)

lemma LeavesLogs.then_same {target : Option String} {t u : Store}
    (hleaves : LeavesLogs s target t) (h : SameLogs t u) : LeavesLogs s target u := by
  cases hleaves with
  | same hnone ht => exact .same hnone (ht.trans h)
  | adds runId hsome ht =>
      apply LeavesLogs.adds runId hsome
      cases ht with
      | one e hrun htype ht => exact .one e hrun htype (ht.trans h)
      | more hadds e hrun htype ht => exact .more hadds e hrun htype (ht.trans h)

/-- A refused call leaves nothing. -/
lemma wp_raise_leaves {α : Type} {target : Option String} (e : PyError) (hnone : target = none) :
    Effect.wp (Effect.raise e : Session α) (fun _ => LeavesLogs s target)
      (fun _ => LeavesLogs s target) s :=
  (Effect.wp_raise e).mpr (.same hnone ⟨rfl, rfl⟩)

lemma takes_of_refused {runId id : String} (h : s.settled runId = true ∨ s.hasEvent id = true) :
    s.takes runId id = none := by
  rcases h with h | h <;> simp [Store.takes, h]

lemma takes_of_free {runId id : String} (hopen : s.settled runId = false)
    (hfree : s.hasEvent id = false) : s.takes runId id = some runId := by
  simp [Store.takes, hopen, hfree]

lemma wp_request_leaves (env : Env) (runId kind summary : String) (cap : Option String)
    (expiresAt : Option PyDatetime) (ref : Option String) :
    Effect.wp (ApprovalEngine.request env runId kind summary cap expiresAt ref)
      (fun _ s' => requestTarget s env runId kind summary cap expiresAt = some runId ∧
        Adds runId s s')
      (fun _ => LeavesLogs s (requestTarget s env runId kind summary cap expiresAt)) s := by
  refine ApprovalEngine.wp_request (fun e he => ?_) (fun a e ha hrefused => ?_)
    (fun a ha hopen hfree => ?_)
  · refine .same ?_ ⟨rfl, rfl⟩
    rw [requestTarget, he]
  · refine .same ?_ ⟨rfl, rfl⟩
    rw [requestTarget, ha]
    exact takes_of_refused hrefused
  · refine ⟨?_, .one (ApprovalEngine.waitingEvent a runId ref (s.latestSeq runId)
      (env.now 0)) rfl (by simp [ApprovalEngine.waitingEvent]) ⟨rfl, rfl⟩⟩
    rw [requestTarget, ha]
    exact takes_of_free hopen hfree

lemma eventOf_type_ne (d : ApprovalDecision) (a : Approval) (n : ℕ) (now : Timestamp) :
    (ApprovalEngine.eventOf d a n now).type ≠ .runCreated := by
  rcases d with _ | _ | _ | retryable
  case timeout => cases retryable <;> exact nofun
  all_goals exact nofun

lemma wp_resolve_leaves (env : Env) (id : String) (d : ApprovalDecision) :
    Effect.wp (ApprovalEngine.resolve env id d) (fun _ => LeavesLogs s (resolveTarget s env id d))
      (fun _ => LeavesLogs s (resolveTarget s env id d)) s := by
  -- the checks on the record, once it is found, leave the checks of the append
  have htarget : ∀ existing a : Approval, s.approval? id = some existing →
      existing.state = .pending → existing.decide d.newState (env.now 0) = .ok a →
      resolveTarget s env id d =
        s.takes existing.runId ("evt-" ++ id ++ ApprovalEngine.decisionTag d) := by
    intro existing a hrow hpending ha
    rw [resolveTarget, hrow]
    exact if_pos ⟨hpending, Approval.requestedAt_le_of_decide ha⟩
  refine ApprovalEngine.wp_resolve (fun e hlate => ?_)
    (fun existing a e hrow hpending ha hrefused => ?_)
    (fun existing a hrow hpending ha hopen hfree => ?_)
  · refine .same ?_ ⟨rfl, rfl⟩
    unfold resolveTarget
    split
    · rfl
    · rename_i existing hrow
      exact if_neg fun h => absurd (hlate existing hrow h.1) (not_lt.mpr h.2)
  · refine .same ?_ ⟨rfl, rfl⟩
    rw [htarget existing a hrow hpending ha]
    exact takes_of_refused hrefused
  · refine .adds existing.runId ?_ (.one (ApprovalEngine.eventOf d existing
      (s.latestSeq existing.runId) (env.now 0)) (ApprovalEngine.eventOf_runId ..)
      (eventOf_type_ne d existing _ _) ⟨rfl, rfl⟩)
    rw [htarget existing a hrow hpending ha]
    exact takes_of_free hopen hfree

/-- A progress event, appended or refused. -/
lemma wp_emitProgress_leaves {runId taskId uuid : String} {payload : Mapping} {now : Timestamp}
    {phase milestone : String} (hphase : payload.get "phase" = some (.str phase))
    (hmilestone : payload.get "milestone" = some (.str milestone))
    (hvalid : isValidMilestone phase milestone = true)
    (hpayload : validatePayload .runProgress payload = true) :
    Effect.wp (emitProgress runId taskId payload uuid now)
      (fun _ => LeavesLogs s (s.takes runId (progressId taskId uuid)))
      (fun _ => LeavesLogs s (s.takes runId (progressId taskId uuid))) s :=
  wp_emitProgress_of_valid hphase hmilestone hvalid hpayload
    (fun _ hrefused => .same (takes_of_refused hrefused) ⟨rfl, rfl⟩)
    (fun hopen hfree => .adds runId (takes_of_free hopen hfree)
      (.one (progressEvent runId taskId payload uuid (s.latestSeq runId) now hpayload) rfl
        (by simp [progressEvent]) ⟨rfl, rfl⟩))

lemma wp_createTask_leaves (env : Env) (req : CreateTaskRequest) :
    Effect.wp (createTask env req)
      (fun _ => LeavesLogs s ((TaskCall.createTask env req).target s))
      (fun _ => LeavesLogs s ((TaskCall.createTask env req).target s)) s := by
  obtain ⟨taskId, hfresh⟩ : ∃ taskId, freshTaskId ("task-" ++ req.sessionId) s = (.ok taskId, s) :=
    ⟨_, rfl⟩
  rw [createTask, Effect.wp_bind, Effect.wp_of_ok hfresh, Effect.wp_bind, Effect.wp_ofExcept]
  refine ⟨fun task htask => ?_, fun e he => .same ?_ ⟨rfl, rfl⟩⟩
  · have hsame : SameLogs s (s.putTask task) := ⟨rfl, rfl⟩
    have htarget : (TaskCall.createTask env req).target s =
        (s.putTask task).takes (orDefault req.runId (defaultRunId req.sessionId))
          (progressId taskId (env.uuid4 0)) := by
      simp only [TaskCall.target, hfresh, htask]
      exact (hsame.takes _ _).symm
    rw [Effect.wp_bind, TaskRepository.wp_save, Effect.wp_bind, htarget]
    exact (wp_emitProgress_leaves rfl rfl (by decide) rfl).mono
      (fun _ _ h => (Effect.wp_pure _).mpr (h.of_same hsame)) fun _ _ h => h.of_same hsame
  · simp only [TaskCall.target, hfresh, he]

lemma wp_transitionTask_leaves (env : Env) (req : TransitionTaskRequest) :
    Effect.wp (transitionTask env req)
      (fun _ => LeavesLogs s ((TaskCall.transitionTask env req).target s))
      (fun _ => LeavesLogs s ((TaskCall.transitionTask env req).target s)) s := by
  rw [transitionTask, Effect.wp_bind]
  refine wp_requireTask (fun e hnone => .same ?_ ⟨rfl, rfl⟩) fun task htask => ?_
  · simp only [TaskCall.target, hnone]
  cases hfind : (allowedTransitions task.state).find? fun state => state.name == req.state with
  | none => exact wp_raise_leaves _ (by simp only [TaskCall.target, htask, hfind])
  | some state =>
      simp only
      rw [Effect.wp_bind, Effect.wp_ofExcept]
      refine ⟨fun moved hmoved => ?_, fun e he => .same ?_ ⟨rfl, rfl⟩⟩
      · have hsame : SameLogs s (s.putTask moved) := ⟨rfl, rfl⟩
        have htarget : (TaskCall.transitionTask env req).target s =
            (s.putTask moved).takes (orDefault req.runId (defaultRunId task.sessionId))
              (progressId task.id (env.uuid4 0)) := by
          simp only [TaskCall.target, htask, hfind, hmoved]
          exact (hsame.takes _ _).symm
        rw [Effect.wp_bind, TaskRepository.wp_save, Effect.wp_bind, htarget]
        exact (wp_emitProgress_leaves rfl rfl (isValidMilestone_catalogPair req.state) rfl).mono
          (fun _ _ h => (Effect.wp_pure _).mpr (h.of_same hsame)) fun _ _ h => h.of_same hsame
      · simp only [TaskCall.target, htask, hfind, he]

lemma SameLogs.requestTarget {t : Store} (h : SameLogs s t) (env : Env)
    (runId kind summary : String) (cap : Option String) (expiresAt : Option PyDatetime) :
    requestTarget t env runId kind summary cap expiresAt =
      requestTarget s env runId kind summary cap expiresAt := by
  rw [Waywarden.requestTarget, Waywarden.requestTarget]
  split
  · rfl
  · exact h.takes _ _

lemma wp_requestApproval_leaves (env : Env) (req : RequestApprovalRequest) :
    Effect.wp (requestApproval env req)
      (fun _ => LeavesLogs s ((TaskCall.requestApproval env req).target s))
      (fun _ => LeavesLogs s ((TaskCall.requestApproval env req).target s)) s := by
  rw [requestApproval, Effect.wp_bind]
  refine wp_requireTask (fun e hnone => .same ?_ ⟨rfl, rfl⟩) fun task htask => ?_
  · simp only [TaskCall.target, hnone]
  by_cases hexec : task.state = .executing
  · simp only [hexec, ne_eq, not_true_eq_false, if_false]
    rw [Effect.wp_bind, Effect.wp_ofExcept]
    refine ⟨fun moved hmoved => ?_, fun e he => .same ?_ ⟨rfl, rfl⟩⟩
    · have hsame : SameLogs s (s.putTask moved) := ⟨rfl, rfl⟩
      have htarget : (TaskCall.requestApproval env req).target s =
          requestTarget (s.putTask moved) (env.later 1) (requestRunId req task)
            (req.approvalKind ++ "-" ++ req.taskId)
            (orDefault (some req.summary) ("Approval checkpoint for " ++ task.title.val)) none
            none := by
        simp only [TaskCall.target, htask, hexec, if_true, hmoved]
        exact (hsame.requestTarget ..).symm
      rw [Effect.wp_bind, TaskRepository.wp_save, Effect.wp_bind, htarget]
      refine (wp_request_leaves ..).mono (fun a t hreq => ?_) fun _ _ h => h.of_same hsame
      -- the annotation follows the engine's own event
      obtain ⟨hsome, hadds⟩ := hreq
      rw [Effect.wp_bind, RunEventRepository.latestSeq, Effect.wp_gets, Effect.wp_bind]
      refine RunEventRepository.wp_append (fun _ => ?_) (fun _ _ => (Effect.wp_pure _).mpr ?_)
      · exact .adds _ hsome (hadds.of_same hsame)
      · exact .adds _ hsome ((hadds.of_same hsame).more _ rfl (by simp [annotationEvent])
          ⟨rfl, rfl⟩)
    · simp only [TaskCall.target, htask, hexec, if_true, he]
  · simp only [hexec, ne_eq, not_false_eq_true, if_true]
    exact wp_raise_leaves _ (by simp only [TaskCall.target, htask, hexec, if_false])

lemma wp_resolveApproval_leaves (env : Env) (req : ApprovalDecisionRequest) :
    Effect.wp (resolveApproval env req)
      (fun _ => LeavesLogs s ((TaskCall.resolveApproval env req).target s))
      (fun _ => LeavesLogs s ((TaskCall.resolveApproval env req).target s)) s := by
  rw [resolveApproval, Effect.wp_bind]
  refine wp_requireTask (fun e hnone => .same ?_ ⟨rfl, rfl⟩) fun task htask => ?_
  · simp only [TaskCall.target, hnone]
  have htarget : (TaskCall.resolveApproval env req).target s =
      resolveTarget s env (resolvedId req task) req.decision := by
    simp only [TaskCall.target, htask]
  rw [htarget]
  show Effect.wp (ApprovalRepository.get (resolvedId req task) >>= _) _ _ s
  rw [Effect.wp_bind, ApprovalRepository.wp_get]
  cases hrow : s.approval? (resolvedId req task) with
  | none => exact wp_raise_leaves _ (by rw [resolveTarget, hrow])
  | some existing =>
      by_cases hpending : existing.state = .pending
      · simp only [hpending, ne_eq, not_true_eq_false, if_false]
        rw [Effect.wp_bind]
        refine (wp_resolve_leaves env (resolvedId req task) req.decision).mono
          (fun _ t hleaves => ?_) fun _ _ h => h
        -- what follows concerns the task only
        split
        · rw [Effect.wp_bind, Effect.wp_ofExcept]
          refine ⟨fun moved _ => ?_, fun _ _ => hleaves⟩
          rw [Effect.wp_bind, TaskRepository.wp_save, Effect.wp_pure]
          exact hleaves.then_same ⟨rfl, rfl⟩
        · exact (Effect.wp_pure _).mpr hleaves
      · simp only [hpending, ne_eq, not_false_eq_true, if_true]
        apply wp_raise_leaves _
        rw [resolveTarget, hrow]
        exact if_neg fun h => hpending h.1

/-- **What a call on approvals or tasks leaves**: nothing new, or events of its target. -/
theorem leaves_next {c : EntryCall} (hc : c.creates = false) :
    LeavesLogs s (c.target s) (entryMachine.next s c) := by
  rw [next_entry]
  cases c with
  | chat attached env operator body => exact absurd hc (by simp [EntryCall.creates])
  | start env task entrypoint => exact absurd hc (by simp [EntryCall.creates])
  | request env runId kind summary cap expiresAt ref =>
      rw [EntryCall.perform, Effect.state_map]
      exact Effect.wp.state ((wp_request_leaves ..).mono (fun _ _ h => .adds _ h.1 h.2)
        fun _ _ h => h)
  | resolve env id d =>
      rw [EntryCall.perform, Effect.state_map]
      exact (wp_resolve_leaves env id d).state
  | ea call =>
      rw [EntryCall.perform, Effect.state_map]
      cases call with
      | createTask env req => exact (wp_createTask_leaves env req).state
      | transitionTask env req => exact (wp_transitionTask_leaves env req).state
      | requestApproval env req => exact (wp_requestApproval_leaves env req).state
      | resolveApproval env req => exact (wp_resolveApproval_leaves env req).state

end

end Waywarden

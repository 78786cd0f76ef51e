import Waywarden.Api.Chat
import Waywarden.Services.ApprovalHook
import Waywarden.Services.Routine
import Waywarden.System.MilestoneMachine
import Waywarden.System.RunMachine
import Waywarden.System.StoreWrites

/-!
# The harness as one machine

Every entry point that writes the shared store, on one store: the chat route, the run services, the
approval hook, the services that report milestones, and the routines.  Calls come one after another,
in any order and with any arguments.

Each of them does nothing to the store but writes of the repositories
(`HarnessCall.writes_perform`), also when it raises half-way, so what those writes keep holds along
every run of the harness.
-/

namespace Waywarden

open Effect

variable {s₀ : Store}

/-! ## The run services -/

namespace RunLifecycleService

lemma writes_start (env : Env) (task : Task) (entrypoint : Entrypoint) :
    WritesOnly s₀ (start env task entrypoint) := by
  apply maintains_of_wp
  intro s hs
  refine wp_start (fun _ => hs) (fun run _ _ _ _ hnone _ => ?_)
    fun run _ hstate _ hnone _ hfresh => ?_
  · exact hs.tail (.create run.toRunRow hnone)
  · exact (hs.tail (.create run.toRunRow hnone)).tail
      (.append _ (settled_addRun_created hstate hnone) hfresh)

lemma writes_resume (env : Env) (runId resumeKind : String) :
    WritesOnly s₀ (resume env runId resumeKind) :=
  maintains_of_wp fun _ hs =>
    wp_resume (fun _ => hs) fun _ _ _ hopen hfresh => hs.tail (.append _ hopen hfresh)

lemma writes_cancel (env : Env) (runId reason : String) (cancelledBy : Option String) :
    WritesOnly s₀ (cancel env runId reason cancelledBy) :=
  maintains_of_wp fun _ hs =>
    wp_cancel (fun _ => hs) fun _ _ hopen hfresh => hs.tail (.append _ hopen hfresh)

end RunLifecycleService

namespace ApprovalEngine

lemma writes_request (env : Env) (runId kind summary : String) (cap : Option String)
    (expiresAt : Option PyDatetime) (ref : Option String) :
    WritesOnly s₀ (request env runId kind summary cap expiresAt ref) := by
  apply maintains_of_wp
  intro s hs
  have hsaved : ∀ a, s₀.Journals (s.putApproval a) := fun a => hs.tail (.saveApproval a)
  exact wp_request (fun _ _ => hs) (fun a _ _ _ => hsaved a)
    fun a _ hopen hfresh => (hsaved a).tail (.append _ hopen hfresh)

lemma writes_resolve (env : Env) (id : String) (d : ApprovalDecision) :
    WritesOnly s₀ (resolve env id d) := by
  apply maintains_of_wp
  intro s hs
  have hsaved : ∀ a, s₀.Journals (s.putApproval a) := fun a => hs.tail (.saveApproval a)
  refine wp_resolve (fun _ _ => hs) (fun _ a _ _ _ _ _ => hsaved a)
    fun existing a hrow _ _ hopen hfresh => (hsaved a).tail (.append _ ?_ ?_)
  · rw [eventOf_runId]
    exact hopen
  · rw [eventOf_id, Store.id_of_approval? hrow]
    exact hfresh

end ApprovalEngine

lemma ApprovalHook.writes_beforeInvoke (hook : ApprovalHook) (env : Env)
    (runId toolId action summary : String) :
    WritesOnly s₀ (hook.beforeInvoke env runId toolId action summary) := by
  unfold ApprovalHook.beforeInvoke
  refine (maintains_ofExcept _).bind fun requirements => ?_
  obtain ⟨approvalRequired, _, _⟩ := requirements
  cases approvalRequired with
  | false => exact maintains_pure _
  | true =>
      exact Maintains.bind (ApprovalEngine.writes_request _ _ _ _ _ _ _) fun _ => maintains_pure _

lemma Chat.writes_chat (attached : Bool) (env : Env) (operator : String) (body : ChatRequest) :
    WritesOnly s₀ (chat attached env operator body) :=
  maintains_of_wp fun _ hs =>
    wp_chat (fun _ _ => hs) (fun _ _ => hs)
      fun _ _ _ _ _ hopen hfresh => hs.tail (.append _ hopen hfresh)

/-! ## The pipeline

What a phase writes last, the state of its run, is written to a run the append before it has found
open. -/

namespace OrchestrationService

variable {α : Type} {s : Store}

lemma wp_progress_then {r : Run} {phase milestone : String} {now : Timestamp}
    {f : Unit → Session α} {Q : α → Store → Prop} (hs : s₀.Journals s)
    (hf : ∀ s', s₀.Journals s' → s'.settled r.id = false →
      wp (f ()) Q (fun _ => s₀.Journals) s') :
    wp (emitProgress r phase milestone now >>= f) Q (fun _ => s₀.Journals) s := by
  rw [wp_bind]
  exact wp_emitProgress (fun _ => hs) fun hopen hfresh =>
    hf _ (hs.tail (.append _ hopen hfresh)) hopen

lemma writes_doIntake (env : Env) (r : Run) : WritesOnly s₀ (doIntake env r) := by
  apply maintains_of_wp
  intro s hs
  unfold doIntake
  refine wp_progress_then hs fun _ h₁ _ => wp_progress_then h₁ fun _ h₂ hopen => ?_
  exact wp_updatedState h₂ hopen

lemma writes_doPlan (env : Env) (r : Run) : WritesOnly s₀ (doPlan env r) := by
  apply maintains_of_wp
  intro s hs
  unfold doPlan
  refine wp_progress_then hs fun _ h₁ _ => wp_progress_then h₁ fun _ h₂ _ => ?_
  exact wp_progress_then h₂ fun _ h₃ hopen => wp_updatedState h₃ hopen

lemma writes_doExecute (env : Env) (r : Run) : WritesOnly s₀ (doExecute env r) := by
  apply maintains_of_wp
  intro s hs
  unfold doExecute
  refine wp_progress_then hs fun _ h₁ _ => wp_progress_then h₁ fun _ h₂ _ => ?_
  exact wp_progress_then h₂ fun _ h₃ hopen => wp_updatedState h₃ hopen

lemma writes_doReview (env : Env) (r : Run) : WritesOnly s₀ (doReview env r) := by
  apply maintains_of_wp
  intro s hs
  unfold doReview
  exact wp_progress_then hs fun _ h₁ hopen => wp_updatedState h₁ hopen

lemma writes_doHandoff (env : Env) (r : Run) : WritesOnly s₀ (doHandoff env r) := by
  apply maintains_of_wp
  intro s hs
  unfold doHandoff emitUsageSummaryArtifact emitCompleted
  refine wp_progress_then hs fun s₁ h₁ _ => ?_
  rw [wp_bind]
  refine @wp_emitted s₀ r.id.val (fun n => usageSummaryEvent r n (env.now 8)) (fun _ => rfl) _ s₁
    h₁ ?_
  intro s₂ h₂ _
  rw [wp_bind]
  refine @wp_emitted s₀ r.id.val (fun n => completedEvent r n (env.now 8)) (fun _ => rfl) _ s₂ h₂ ?_
  intro s₃ h₃ hopen
  exact wp_updatedState h₃ hopen

lemma writes_run (env : Env) (r : Run) : WritesOnly s₀ (run env r) := by
  unfold run
  split
  · exact maintains_raise _
  · refine (writes_doIntake env r).bind fun r => (writes_doPlan env r).bind fun r => ?_
    exact (writes_doExecute env r).bind fun r => (writes_doReview env r).bind fun r =>
      writes_doHandoff env r

end OrchestrationService

/-! ## The task service and its routines -/

namespace EATaskService

lemma writes_requireTask (taskId method : String) : WritesOnly s₀ (requireTask taskId method) :=
  maintains_of_wp fun _ hs => wp_requireTask (fun _ _ => hs) fun _ _ => hs

lemma writes_emitProgress (runId taskId : String) (payload : Mapping) (uuid : String)
    (now : Timestamp) : WritesOnly s₀ (emitProgress runId taskId payload uuid now) := by
  unfold emitProgress
  split
  · split
    · exact maintains_raise _
    · split
      · refine (maintains_gets _).bind fun latest => ?_
        exact (writes_append _).bind fun _ => maintains_pure _
      · exact maintains_raise _
  · exact maintains_raise _

lemma writes_createTask (env : Env) (req : CreateTaskRequest) :
    WritesOnly s₀ (createTask env req) := by
  unfold createTask
  refine Maintains.bind (maintains_gets _) fun taskId => ?_
  refine Maintains.bind (maintains_ofExcept _) fun task => ?_
  refine Maintains.bind (writes_saveTask task) fun _ => ?_
  exact (writes_emitProgress _ _ _ _ _).bind fun _ => maintains_pure _

lemma writes_transitionTask (env : Env) (req : TransitionTaskRequest) :
    WritesOnly s₀ (transitionTask env req) := by
  unfold transitionTask
  refine (writes_requireTask _ _).bind fun task => ?_
  split
  · exact maintains_raise _
  · refine (maintains_ofExcept _).bind fun updated => ?_
    refine (writes_saveTask updated).bind fun _ => ?_
    exact (writes_emitProgress _ _ _ _ _).bind fun _ => maintains_pure _

lemma writes_requestApproval (env : Env) (req : RequestApprovalRequest) :
    WritesOnly s₀ (requestApproval env req) := by
  unfold requestApproval
  refine (writes_requireTask _ _).bind fun task => ?_
  split
  · exact maintains_raise _
  · refine (maintains_ofExcept _).bind fun updated => ?_
    refine (writes_saveTask updated).bind fun _ => ?_
    refine Maintains.bind (ApprovalEngine.writes_request _ _ _ _ _ _ _) fun approval => ?_
    refine (maintains_gets _).bind fun latest => ?_
    exact (writes_append _).bind fun _ => maintains_pure _

lemma writes_resolveApproval (env : Env) (req : ApprovalDecisionRequest) :
    WritesOnly s₀ (resolveApproval env req) := by
  unfold resolveApproval
  refine (writes_requireTask _ _).bind fun task => ?_
  refine Maintains.bind (writes_getApproval _) fun row => ?_
  split
  · exact maintains_raise _
  · split
    · exact maintains_raise _
    · refine (ApprovalEngine.writes_resolve _ _ _).bind fun _ => ?_
      dsimp only
      split
      · refine (maintains_ofExcept _).bind fun updated => ?_
        exact (writes_saveTask updated).bind fun _ => maintains_pure _
      · exact maintains_pure _

end EATaskService

lemma TaskCall.writes_perform (c : TaskCall) : WritesOnly s₀ c.perform := by
  cases c with
  | createTask env req => exact EATaskService.writes_createTask env req
  | transitionTask env req => exact EATaskService.writes_transitionTask env req
  | requestApproval env req => exact EATaskService.writes_requestApproval env req
  | resolveApproval env req => exact EATaskService.writes_resolveApproval env req

namespace EASchedulerHandler

open EATaskService

lemma writes_moveTo (env : Env) (taskId runId : String) (state : TaskState) :
    WritesOnly s₀ (moveTo env taskId runId state) :=
  (writes_transitionTask _ _).bind fun _ => maintains_pure _

lemma writes_submission (env : ℕ → Env) (req : CreateTaskRequest) (runId : String) :
    WritesOnly s₀ (submission env req runId) := by
  unfold submission
  refine (writes_createTask _ _).bind fun task => (maintains_ofExcept _).bind fun taskId => ?_
  refine (writes_moveTo _ _ _ _).bind fun _ => (writes_moveTo _ _ _ _).bind fun _ => ?_
  exact (writes_requestApproval _ _).bind fun _ => maintains_pure _

lemma writes_applyDecision (env : ℕ → Env) (runId taskId : String)
    (decision : Option ApprovalDecision) :
    WritesOnly s₀ (applyDecision env runId taskId decision) := by
  cases decision with
  | none => exact maintains_pure _
  | some d => exact Maintains.bind (writes_resolveApproval _ _) fun _ => maintains_pure _

lemma writes_followUp (env : ℕ → Env) (runId taskId : String) (result : ScheduleResult)
    (decision : Option ApprovalDecision) :
    WritesOnly s₀ (followUp env runId taskId result decision) := by
  have hmove : ∀ (k : ℕ) (state : TaskState) {f : Unit → Session ScheduleResult},
      WritesOnly s₀ (f ()) → WritesOnly s₀ (moveTo (env k) taskId runId state >>= f) :=
    fun k state _ hf => (writes_moveTo _ _ _ _).bind fun _ => hf
  rcases decision with _ | _ | _ | _ | _
  case some.granted => exact hmove _ _ (hmove _ _ (hmove _ _ (maintains_pure _)))
  case some.deniedAlternatePath => exact hmove _ _ (maintains_pure _)
  all_goals exact maintains_pure _

lemma writes_runFrom (env : ℕ → ℕ → Env) (decisions : Decisions) (runId : String)
    (result : ScheduleResult) (idx : ℕ) (tasks : List ScheduledTask) :
    WritesOnly s₀ (runFrom env decisions runId result idx tasks) := by
  induction tasks generalizing result idx with
  | nil => exact maintains_pure _
  | cons stask tasks ih =>
      unfold runFrom scheduleTask submit
      refine Maintains.bind ?_ fun result => ih result (idx + 1)
      refine (writes_submission _ _ _).bind fun taskId => ?_
      refine (writes_applyDecision _ _ _ _).bind fun _ => ?_
      exact (writes_followUp _ _ _ _ _).bind fun _ => maintains_pure _

end EASchedulerHandler

namespace EAIboxTriageHandler

open EATaskService EASchedulerHandler Lowercase

lemma writes_runFrom (T : CaseTable) (env : ℕ → ℕ → Env) (decisions : Decisions) (runId : String)
    (result : TriageResult) (idx : ℕ) (items : List InboxItem) :
    WritesOnly s₀ (runFrom T env decisions runId result idx items) := by
  induction items generalizing result idx with
  | nil => exact maintains_pure _
  | cons item items ih =>
      unfold runFrom triageItem submit
      refine Maintains.bind ?_ fun result => ih result (idx + 1)
      split
      · exact maintains_pure _
      · refine (writes_submission _ _ _).bind fun taskId => ?_
        exact (writes_applyDecision _ _ _ _).bind fun _ => maintains_pure _

end EAIboxTriageHandler

/-! ## The other reporters of milestones -/

namespace ResumeService

lemma writes_rehydrateAll (sha256 : ByteArray → String) (manifests : List ManifestRow) (env : Env)
    (pending : List PendingRunConfig) :
    WritesOnly s₀ (rehydrateAll sha256 manifests env pending) := by
  induction pending generalizing env with
  | nil => exact maintains_pure _
  | cons entry rest ih =>
      unfold rehydrateAll rehydrate check
      refine Maintains.bind ?_ fun resumed => Maintains.bind (ih _) fun _ => maintains_pure _
      refine Maintains.bind ((maintains_gets _).bind fun _ => maintains_ofExcept _) fun found => ?_
      split
      · exact maintains_pure _
      · refine (RunLifecycleService.writes_resume _ _ _).attempt.bind fun outcome => ?_
        split
        · exact maintains_pure _
        · refine Maintains.bind ?_ fun _ => maintains_pure _
          unfold emitResumeBlocked
          refine (maintains_gets _).bind fun latest => ?_
          exact (writes_append _).bind fun _ => maintains_pure _

end ResumeService

namespace AdversarialReviewRoutine

lemma writes_emitEvents (env : Env) (input : AdversarialReviewInput)
    (explanation : ApprovalExplanation) (toolActions : List ToolActionMetadata)
    (findings : List (Option AdversarialFinding)) (i : ℕ) :
    WritesOnly s₀ (emitEvents env input explanation toolActions findings i) := by
  induction findings generalizing i with
  | nil => exact maintains_pure _
  | cons finding rest ih =>
      unfold emitEvents appendProgressEvent
      refine Maintains.bind ?_ fun event => (ih (i + 1)).bind fun _ => maintains_pure _
      exact (maintains_gets _).bind fun latest => writes_append _

lemma writes_review (R : Rendering) (policy : ToolPolicy) (env : Env)
    (input : AdversarialReviewInput) : WritesOnly s₀ (review R policy env input) := by
  unfold review requestApproval
  refine (maintains_ofExcept _).bind fun findings => Maintains.bind ?_ fun ids => ?_
  · split
    · exact maintains_pure _
    · exact (ApprovalEngine.writes_request _ _ _ _ _ _ _).bind fun _ => maintains_pure _
  · refine (maintains_ofExcept _).bind fun toolActions => ?_
    exact (writes_emitEvents _ _ _ _ _ _).bind fun _ => maintains_pure _

end AdversarialReviewRoutine

namespace EABriefingHandler

variable {P : Store → Prop}

lemma maintains_emitRun (happend : ∀ e, Maintains P (RunEventRepository.append e))
    (e : RunEvent) : Maintains (fun p => P p.2) (emitRun e) := by
  unfold emitRun
  exact (happend e).second.bind fun _ => maintains_modify fun _ h => h

lemma maintains_acceptInbox (inbox : List InboxEntry) :
    Maintains (fun p => P p.2) (acceptInbox inbox) := by
  induction inbox with
  | nil => exact maintains_pure _
  | cons entry rest ih =>
      unfold acceptInbox
      split
      · exact ih.bind fun _ => maintains_pure _
      · exact Maintains.bind (maintains_modify fun _ h => h) fun _ => ih

lemma maintains_emitMilestones (happend : ∀ e, Maintains P (RunEventRepository.append e))
    (env : Env) (timestamp : Timestamp) (runId : String) (milestones : List Mapping) (i : ℕ) :
    Maintains (fun p => P p.2) (emitMilestones env timestamp runId milestones i) := by
  induction milestones generalizing i with
  | nil => exact maintains_pure _
  | cons ms rest ih =>
      unfold emitMilestones
      split
      · split
        · exact ih i
        · refine Maintains.bind (maintains_gets _).second fun latest => ?_
          refine Maintains.bind (maintains_ofExcept _) fun event => ?_
          exact (maintains_emitRun happend event).bind fun _ => ih (i + 1)
      · exact ih i

/-- A briefing touches the store by appends alone. -/
lemma maintains_runAsync (happend : ∀ e, Maintains P (RunEventRepository.append e))
    (fmt : DateFormat) (env : Env) (inboxEntries : Option (List InboxEntry)) (pendingTasks : ℤ)
    (runId : String) :
    Maintains (fun p => P p.2) (runAsync fmt env inboxEntries pendingTasks runId) := by
  unfold runAsync buildResult emitEvents emitArtifact
  refine Maintains.bind ?_ fun drawnUp => ?_
  · refine (maintains_acceptInbox _).bind fun accepted => ?_
    exact (maintains_gets _).bind fun handler => maintains_pure _
  · refine (maintains_gets _).bind fun handler => ?_
    split
    · refine Maintains.bind ?_ fun _ => maintains_pure _
      refine (maintains_emitMilestones happend _ _ _ _ _).bind fun drawn => ?_
      exact Maintains.bind (maintains_gets _).second fun latest => maintains_emitRun happend _
    · exact maintains_pure _

lemma writes_runAsync (fmt : DateFormat) (env : Env) (inboxEntries : Option (List InboxEntry))
    (pendingTasks : ℤ) (runId : String) :
    WritesOnlyBeside s₀ (runAsync fmt env inboxEntries pendingTasks runId) :=
  maintains_runAsync writes_append fmt env inboxEntries pendingTasks runId

end EABriefingHandler

lemma EAAHandoffHelper.writes_recordHandbackAsync (env : Env) (checkpoint summary : String) :
    WritesOnlyBeside s₀ (recordHandbackAsync env checkpoint summary) := by
  unfold recordHandbackAsync
  split
  · exact maintains_raise _
  · refine Maintains.bind (maintains_gets _) fun recorder => ?_
    refine Maintains.bind (maintains_modify fun _ h => h) fun _ => ?_
    split
    · refine Maintains.bind (maintains_gets _).second fun latest => ?_
      exact Maintains.bind (writes_append _).second fun _ => maintains_pure _
    · exact maintains_pure _

lemma CodingHandoffRoutine.writes_recordCheckpoint (env : Env) (checkpoint summary : String) :
    WritesOnlyBeside s₀ (recordCheckpoint env checkpoint summary) := by
  unfold recordCheckpoint
  split
  · exact maintains_raise _
  · refine Maintains.bind (maintains_modify fun _ h => h) fun _ => ?_
    refine Maintains.bind (maintains_gets _) fun recorder => ?_
    split
    · refine Maintains.bind (maintains_gets _).second fun latest => ?_
      refine Maintains.bind (maintains_gets _) fun recorder => ?_
      exact Maintains.bind (writes_append _).second fun _ => maintains_pure _
    · exact maintains_pure _

/-! ## The machine -/

lemma RunCall.writes_perform (c : RunCall) : WritesOnly s₀ c.perform := by
  cases c with
  | start env task entrypoint =>
      exact (RunLifecycleService.writes_start env task entrypoint).map
  | resume env runId kind => exact (RunLifecycleService.writes_resume env runId kind).map
  | cancel env runId reason who =>
      exact (RunLifecycleService.writes_cancel env runId reason who).map
  | request env runId kind summary cap expiresAt ref =>
      exact (ApprovalEngine.writes_request env runId kind summary cap expiresAt ref).map
  | resolve env id decision => exact (ApprovalEngine.writes_resolve env id decision).map
  | orchestrate env run => exact (OrchestrationService.writes_run env run).map

/-- A call of the harness, with what it reads from outside. -/
inductive HarnessCall
  | chat (attached : Bool) (env : Env) (operator : String) (body : Chat.ChatRequest)
  | run (c : RunCall)
  | beforeInvoke (hook : ApprovalHook) (env : Env) (runId toolId action summary : String)
  | milestone (c : MilestoneCall)
  | routine (env : ℕ → ℕ → Env) (routines : EACoroutine) (assetId : String)
      (resolvedAssets : List ResolvedAsset) (args : RoutineArgs)

/-- What a call returns. -/
inductive HarnessReply
  | chat (r : Chat.ChatResponse)
  | run (r : RunReply)
  | gate (approvalId : Option String)
  | milestone (r : MilestoneReply)
  | routine (r : RoutineResult)

section

variable (T : Lowercase.CaseTable) (R : Rendering) (fmt : DateFormat)
  (sha256 : ByteArray → String)

/-- The computation a call runs. -/
def HarnessCall.perform : HarnessCall → Session HarnessReply
  | .chat attached env operator body => .chat <$> Chat.chat attached env operator body
  | .run c => .run <$> c.perform
  | .beforeInvoke hook env runId toolId action summary =>
      .gate <$> hook.beforeInvoke env runId toolId action summary
  | .milestone c => .milestone <$> c.perform R fmt sha256
  | .routine env routines assetId resolvedAssets args =>
      .routine <$> routines.execute T fmt env assetId resolvedAssets args

/-- The harness on one store. -/
def harness : Machine Store HarnessCall (Except PyError HarnessReply) :=
  ⟨fun s c => c.perform T R fmt sha256 s⟩

end

lemma MilestoneCall.writes_perform (R : Rendering) (fmt : DateFormat)
    (sha256 : ByteArray → String) (c : MilestoneCall) :
    WritesOnly s₀ (c.perform R fmt sha256) := by
  cases c with
  | task c => exact c.writes_perform.map
  | rehydrateAll env manifests pending =>
      exact (ResumeService.writes_rehydrateAll sha256 manifests env pending).map
  | run env r => exact (OrchestrationService.writes_run env r).map
  | runAsync env handler inboxEntries pendingTasks runId =>
      exact (EABriefingHandler.writes_runAsync fmt env inboxEntries pendingTasks runId).within.map
  | recordHandbackAsync env helper checkpoint summary =>
      exact (EAAHandoffHelper.writes_recordHandbackAsync env checkpoint summary).within.map
  | recordCheckpoint env routine checkpoint summary =>
      exact (CodingHandoffRoutine.writes_recordCheckpoint env checkpoint summary).within.map
  | review env policy input =>
      exact (AdversarialReviewRoutine.writes_review R policy env input).map

lemma EACoroutine.writes_execute (T : Lowercase.CaseTable) (fmt : DateFormat)
    (env : ℕ → ℕ → Env) (routines : EACoroutine) (assetId : String)
    (resolvedAssets : List ResolvedAsset) (args : RoutineArgs) :
    WritesOnly s₀ (routines.execute T fmt env assetId resolvedAssets args) := by
  unfold execute
  refine Maintains.bind (maintains_ofExcept _) fun routine => ?_
  split
  · exact (EABriefingHandler.writes_runAsync fmt _ _ _ _).within.bind fun _ => maintains_pure _
  · split
    · exact maintains_raise _
    · exact (EASchedulerHandler.writes_runFrom _ _ _ _ _ _).bind fun _ => maintains_pure _
  · split
    · exact maintains_raise _
    · exact (EAIboxTriageHandler.writes_runFrom _ _ _ _ _ _ _).bind fun _ => maintains_pure _
  · exact maintains_raise _

/-- **Every call of the harness** only writes through the repositories. -/
theorem HarnessCall.writes_perform (T : Lowercase.CaseTable) (R : Rendering) (fmt : DateFormat)
    (sha256 : ByteArray → String) (c : HarnessCall) :
    WritesOnly s₀ (c.perform T R fmt sha256) := by
  cases c with
  | chat attached env operator body => exact (Chat.writes_chat attached env operator body).map
  | run c => exact c.writes_perform.map
  | beforeInvoke hook env runId toolId action summary =>
      exact (hook.writes_beforeInvoke env runId toolId action summary).map
  | milestone c => exact (c.writes_perform R fmt sha256).map
  | routine env routines assetId resolvedAssets args =>
      exact (routines.writes_execute T fmt env assetId resolvedAssets args).map

end Waywarden

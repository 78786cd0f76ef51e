import Waywarden.Services.AdversarialReview
import Waywarden.Services.Briefing
import Waywarden.Services.HandoffCheckpoints
import Waywarden.Services.Orchestration
import Waywarden.System.RecoveryLoop
import Waywarden.System.TaskMachine

/-!
# The emitters of milestones as a machine

Every service that appends `run.progress` events, on one store.  An instance that keeps records of
its own, a handoff helper or a briefing handler, is an argument of its call.

All of them but the recovery loop look their phase and milestone up in the catalog or write one of
its pairs down, so what they append is catalogued (`emitsCatalogued_perform`).
-/

namespace Waywarden

open Effect

/-- A `run.progress` event has its phase and milestone in the catalog. -/
def RunEvent.Catalogued (e : RunEvent) : Prop :=
  e.type = .runProgress → ∃ phase milestone, e.payload.get "phase" = some (.str phase) ∧
    e.payload.get "milestone" = some (.str milestone) ∧ isValidMilestone phase milestone = true

lemma RunEvent.Catalogued.of_ne {e : RunEvent} (h : e.type ≠ .runProgress) : e.Catalogued :=
  fun htype => absurd htype h

/-- The event log keeps what it has, and what is appended to it satisfies `ok`. -/
def Store.Grows (ok : RunEvent → Prop) (s s' : Store) : Prop :=
  ∃ es, s'.runEvents = s.runEvents ++ es ∧ ∀ e ∈ es, ok e

namespace Store.Grows

variable {ok ok' : RunEvent → Prop} {s t u : Store}

lemma refl (ok : RunEvent → Prop) (s : Store) : Grows ok s s :=
  ⟨[], (List.append_nil _).symm, by simp⟩

lemma trans (hst : Grows ok s t) (htu : Grows ok t u) : Grows ok s u := by
  obtain ⟨es, hes, hok⟩ := hst
  obtain ⟨es', hes', hok'⟩ := htu
  refine ⟨es ++ es', by rw [hes', hes, List.append_assoc], fun e he => ?_⟩
  rcases List.mem_append.mp he with he | he
  · exact hok e he
  · exact hok' e he

/-- A write to another table. -/
lemma of_runEvents (h : Grows ok s t) (hsame : u.runEvents = t.runEvents) : Grows ok s u := by
  obtain ⟨es, hes, hok⟩ := h
  exact ⟨es, by rw [hsame, hes], hok⟩

lemma push (h : Grows ok s t) {e : RunEvent} (he : ok e) : Grows ok s (t.push e) := by
  refine h.trans ⟨[e], rfl, fun e' he' => ?_⟩
  obtain rfl := List.mem_singleton.mp he'
  exact he

/-- A log that grew by an event first: the event satisfies `ok`, and so does the rest. -/
lemma iff_of_push {e : RunEvent} (hrest : Grows ok' (s.push e) u) :
    Grows ok s u ↔ ok e ∧ Grows ok (s.push e) u := by
  constructor
  · rintro ⟨es, hes, hok⟩
    obtain ⟨es', hes', -⟩ := hrest
    have hall : s.runEvents ++ e :: es' = s.runEvents ++ es := by
      rw [← hes, hes', runEvents_push, List.append_assoc, List.singleton_append]
    obtain rfl := List.append_cancel_left hall
    rw [List.forall_mem_cons] at hok
    exact ⟨hok.1, es', hes', hok.2⟩
  · rintro ⟨he, h⟩
    exact ((refl ok s).push he).trans h

end Store.Grows

/-- Run after whatever led from `s₀` by catalogued events, the computation leads no further away. -/
abbrev EmitsCatalogued (s₀ : Store) {α : Type} (x : Session α) : Prop :=
  Maintains (Store.Grows RunEvent.Catalogued s₀) x

/-- The same of a computation on an instance and the store. -/
abbrev EmitsCataloguedBeside (s₀ : Store) {ρ α : Type} (x : Effect (ρ × Store) PyError α) : Prop :=
  Maintains (fun p => s₀.Grows RunEvent.Catalogued p.2) x

variable {s₀ : Store}

/-- What leaves the event table alone. -/
lemma emits_of_wp {α : Type} {x : Session α}
    (h : ∀ s, wp x (fun _ s' => s'.runEvents = s.runEvents)
      (fun _ s' => s'.runEvents = s.runEvents) s) : EmitsCatalogued s₀ x :=
  fun s hs => hs.of_runEvents (h s).state

lemma emits_append {e : RunEvent} (he : e.Catalogued) :
    EmitsCatalogued s₀ (RunEventRepository.append e) :=
  maintains_of_wp fun _ hs => RunEventRepository.wp_append (fun _ => hs) fun _ _ => hs.push he

lemma emits_saveTask (task : Task) : EmitsCatalogued s₀ (TaskRepository.save task) :=
  emits_of_wp fun _ => TaskRepository.wp_save.mpr rfl

/-! ## The approval engine -/

namespace ApprovalEngine

lemma emits_request (env : Env) (runId kind summary : String) (cap : Option String)
    (expiresAt : Option PyDatetime) (ref : Option String) :
    EmitsCatalogued s₀ (request env runId kind summary cap expiresAt ref) := by
  apply maintains_of_wp
  intro s hs
  have hsaved : ∀ a, s₀.Grows RunEvent.Catalogued (s.putApproval a) := fun _ => hs.of_runEvents rfl
  exact wp_request (fun _ _ => hs) (fun a _ _ _ => hsaved a)
    fun a _ _ _ => (hsaved a).push (.of_ne nofun)

lemma emits_resolve (env : Env) (id : String) (d : ApprovalDecision) :
    EmitsCatalogued s₀ (resolve env id d) := by
  apply maintains_of_wp
  intro s hs
  have hsaved : ∀ a, s₀.Grows RunEvent.Catalogued (s.putApproval a) := fun _ => hs.of_runEvents rfl
  refine wp_resolve (fun _ _ => hs) (fun _ a _ _ _ _ _ => hsaved a)
    fun existing a _ _ _ _ _ => (hsaved a).push (.of_ne ?_)
  rw [Store.stamp_type]
  rcases d with _ | _ | _ | retryable
  case timeout => cases retryable <;> nofun
  all_goals nofun

end ApprovalEngine

/-! ## The task service -/

namespace EATaskService

lemma emits_requireTask (taskId method : String) :
    EmitsCatalogued s₀ (requireTask taskId method) :=
  emits_of_wp fun _ => wp_requireTask (fun _ _ => rfl) fun _ _ => rfl

/-- What the task service appends has passed the lookup in the catalog. -/
lemma emits_emitProgress (runId taskId : String) (payload : Mapping) (uuid : String)
    (now : Timestamp) : EmitsCatalogued s₀ (emitProgress runId taskId payload uuid now) := by
  unfold emitProgress
  split
  · rename_i phase milestone hphase hmilestone
    split
    · exact maintains_raise _
    · rename_i hvalid
      split
      · refine (maintains_gets _).bind fun latest => ?_
        refine (emits_append fun _ => ?_).bind fun _ => maintains_pure _
        exact ⟨phase, milestone, hphase, hmilestone, by simpa using hvalid⟩
      · exact maintains_raise _
  · exact maintains_raise _

lemma emits_createTask (env : Env) (req : CreateTaskRequest) :
    EmitsCatalogued s₀ (createTask env req) := by
  unfold createTask
  refine Maintains.bind (maintains_gets _) fun taskId => ?_
  refine Maintains.bind (maintains_ofExcept _) fun task => ?_
  refine Maintains.bind (emits_saveTask task) fun _ => ?_
  exact (emits_emitProgress _ _ _ _ _).bind fun _ => maintains_pure _

lemma emits_transitionTask (env : Env) (req : TransitionTaskRequest) :
    EmitsCatalogued s₀ (transitionTask env req) := by
  unfold transitionTask
  refine (emits_requireTask _ _).bind fun task => ?_
  split
  · exact maintains_raise _
  · refine (maintains_ofExcept _).bind fun updated => ?_
    refine (emits_saveTask updated).bind fun _ => ?_
    exact (emits_emitProgress _ _ _ _ _).bind fun _ => maintains_pure _

lemma emits_requestApproval (env : Env) (req : RequestApprovalRequest) :
    EmitsCatalogued s₀ (requestApproval env req) := by
  unfold requestApproval
  refine (emits_requireTask _ _).bind fun task => ?_
  split
  · exact maintains_raise _
  · refine (maintains_ofExcept _).bind fun updated => ?_
    refine (emits_saveTask updated).bind fun _ => ?_
    refine Maintains.bind (ApprovalEngine.emits_request _ _ _ _ _ _ _) fun approval => ?_
    refine (maintains_gets _).bind fun latest => ?_
    refine (emits_append fun _ => ?_).bind fun _ => maintains_pure _
    exact ⟨"plan", "approval_requested", rfl, rfl, rfl⟩

lemma emits_resolveApproval (env : Env) (req : ApprovalDecisionRequest) :
    EmitsCatalogued s₀ (resolveApproval env req) := by
  unfold resolveApproval
  refine (emits_requireTask _ _).bind fun task => ?_
  refine Maintains.bind (emits_of_wp fun _ => ApprovalRepository.wp_get.mpr rfl) fun row => ?_
  split
  · exact maintains_raise _
  · split
    · exact maintains_raise _
    · refine (ApprovalEngine.emits_resolve _ _ _).bind fun _ => ?_
      dsimp only
      split
      · refine (maintains_ofExcept _).bind fun updated => ?_
        exact (emits_saveTask updated).bind fun _ => maintains_pure _
      · exact maintains_pure _

end EATaskService

/-! ## The pipeline -/

namespace OrchestrationService

/-- What the pipeline appends as progress has passed the lookup in the catalog. -/
lemma emits_emitProgress (r : Run) (phase milestone : String) (now : Timestamp) :
    EmitsCatalogued s₀ (emitProgress r phase milestone now) := by
  unfold emitProgress
  split
  · exact maintains_raise _
  · rename_i hvalid
    split
    · exact maintains_raise _
    · refine (maintains_gets _).bind fun latest => ?_
      refine (emits_append fun _ => ?_).bind fun _ => maintains_pure _
      exact ⟨phase, milestone, rfl, rfl, by simpa using hvalid⟩

lemma emits_emitUsageSummaryArtifact (r : Run) (now : Timestamp) :
    EmitsCatalogued s₀ (emitUsageSummaryArtifact r now) := by
  unfold emitUsageSummaryArtifact
  refine (maintains_gets _).bind fun latest => ?_
  exact Maintains.bind (emits_append (.of_ne nofun)) fun _ => maintains_pure _

lemma emits_emitCompleted (r : Run) (now : Timestamp) :
    EmitsCatalogued s₀ (emitCompleted r now) := by
  unfold emitCompleted
  refine (maintains_gets _).bind fun latest => ?_
  exact Maintains.bind (emits_append (.of_ne nofun)) fun _ => maintains_pure _

lemma emits_updateState (now : Timestamp) (r : Run) (st : RunState) :
    EmitsCatalogued s₀ (updateState now r st) :=
  emits_of_wp fun _ => RunRepository.wp_updateState (fun _ _ _ _ => rfl) fun _ => rfl

/-- A phase: its milestones, then the state of the run. -/
lemma emits_run (env : Env) (r : Run) : EmitsCatalogued s₀ (run env r) := by
  have hstep : ∀ (r : Run) (phase milestone : String) (now : Timestamp) {α : Type}
      {f : Unit → Session α}, EmitsCatalogued s₀ (f ()) →
      EmitsCatalogued s₀ (emitProgress r phase milestone now >>= f) :=
    fun r phase milestone now _ _ hf => (emits_emitProgress r phase milestone now).bind fun _ => hf
  have hintake : ∀ r, EmitsCatalogued s₀ (doIntake env r) := fun r =>
    hstep _ _ _ _ (hstep _ _ _ _ (emits_updateState _ _ _))
  have hplan : ∀ r, EmitsCatalogued s₀ (doPlan env r) := fun r =>
    hstep _ _ _ _ (hstep _ _ _ _ (hstep _ _ _ _ (emits_updateState _ _ _)))
  have hexecute : ∀ r, EmitsCatalogued s₀ (doExecute env r) := fun r =>
    hstep _ _ _ _ (hstep _ _ _ _ (hstep _ _ _ _ (emits_updateState _ _ _)))
  have hreview : ∀ r, EmitsCatalogued s₀ (doReview env r) := fun r =>
    hstep _ _ _ _ (emits_updateState _ _ _)
  have hhandoff : ∀ r, EmitsCatalogued s₀ (doHandoff env r) := fun r =>
    hstep _ _ _ _ ((emits_emitUsageSummaryArtifact _ _).bind fun _ =>
      (emits_emitCompleted _ _).bind fun _ => emits_updateState _ _ _)
  unfold run
  split
  · exact maintains_raise _
  · refine (hintake r).bind fun r => (hplan r).bind fun r => ?_
    exact (hexecute r).bind fun r => (hreview r).bind fun r => hhandoff r

end OrchestrationService

/-! ## The review -/

namespace AdversarialReviewRoutine

lemma emits_emitEvents (env : Env) (input : AdversarialReviewInput)
    (explanation : ApprovalExplanation) (toolActions : List ToolActionMetadata)
    (findings : List (Option AdversarialFinding)) (i : ℕ) :
    EmitsCatalogued s₀ (emitEvents env input explanation toolActions findings i) := by
  induction findings generalizing i with
  | nil => exact maintains_pure _
  | cons finding rest ih =>
      unfold emitEvents appendProgressEvent
      refine Maintains.bind ?_ fun event => (ih (i + 1)).bind fun _ => maintains_pure _
      refine (maintains_gets _).bind fun latest => emits_append fun _ => ?_
      exact ⟨"review", "findings_recorded", rfl, rfl, rfl⟩

lemma emits_review (R : Rendering) (policy : ToolPolicy) (env : Env)
    (input : AdversarialReviewInput) : EmitsCatalogued s₀ (review R policy env input) := by
  unfold review
  refine (maintains_ofExcept _).bind fun findings => Maintains.bind ?_ fun ids => ?_
  · unfold requestApproval
    split
    · exact maintains_pure _
    · exact (ApprovalEngine.emits_request _ _ _ _ _ _ _).bind fun _ => maintains_pure _
  · refine (maintains_ofExcept _).bind fun toolActions => ?_
    exact (emits_emitEvents _ _ _ _ _ _).bind fun _ => maintains_pure _

end AdversarialReviewRoutine

/-! ## The briefing -/

namespace EABriefingHandler

lemma emits_emitRun {e : RunEvent} (he : e.Catalogued) : EmitsCataloguedBeside s₀ (emitRun e) := by
  unfold emitRun
  exact (emits_append he).second.bind fun _ => maintains_modify fun _ h => h

lemma emits_acceptInbox (inbox : List InboxEntry) :
    EmitsCataloguedBeside s₀ (acceptInbox inbox) := by
  induction inbox with
  | nil => exact maintains_pure _
  | cons entry rest ih =>
      unfold acceptInbox
      split
      · exact ih.bind fun _ => maintains_pure _
      · exact Maintains.bind (maintains_modify fun _ h => h) fun _ => ih

/-- What the handler appends as progress has passed the lookup in the catalog, and carries the
milestone looked up. -/
lemma emits_emitMilestones (env : Env) (timestamp : Timestamp) (runId : String)
    (milestones : List Mapping) (i : ℕ) :
    EmitsCataloguedBeside s₀ (emitMilestones env timestamp runId milestones i) := by
  induction milestones generalizing i with
  | nil => exact maintains_pure _
  | cons ms rest ih =>
      unfold emitMilestones
      split
      · rename_i phase milestone hphase hmilestone
        split
        · exact ih i
        · rename_i hvalid
          refine Maintains.bind (maintains_gets _).second fun latest => ?_
          refine maintains_ofExcept_bind fun event hevent => ?_
          have hpayload : event.payload = ms := (RunEvent.of_new hevent).2
          refine (emits_emitRun fun _ => ?_).bind fun _ => ih (i + 1)
          exact ⟨phase, milestone, by rw [hpayload, hphase], by rw [hpayload, hmilestone],
            by simpa using hvalid⟩
      · exact ih i

lemma emits_runAsync (fmt : DateFormat) (env : Env) (inboxEntries : Option (List InboxEntry))
    (pendingTasks : ℤ) (runId : String) :
    EmitsCataloguedBeside s₀ (runAsync fmt env inboxEntries pendingTasks runId) := by
  unfold runAsync buildResult emitEvents emitArtifact
  refine Maintains.bind ?_ fun drawnUp => ?_
  · refine (emits_acceptInbox _).bind fun accepted => ?_
    exact (maintains_gets _).bind fun handler => maintains_pure _
  · refine (maintains_gets _).bind fun handler => ?_
    split
    · refine Maintains.bind ?_ fun _ => maintains_pure _
      refine (emits_emitMilestones _ _ _ _ _).bind fun drawn => ?_
      refine Maintains.bind (maintains_gets _).second fun latest => ?_
      exact emits_emitRun (.of_ne nofun)
    · exact maintains_pure _

end EABriefingHandler

/-! ## The checkpoints -/

lemma EAAHandoffHelper.emits_recordHandbackAsync (env : Env) (checkpoint summary : String) :
    EmitsCataloguedBeside s₀ (recordHandbackAsync env checkpoint summary) := by
  unfold recordHandbackAsync
  split
  · exact maintains_raise _
  · refine Maintains.bind (maintains_gets _) fun recorder => ?_
    refine Maintains.bind (maintains_modify fun _ h => h) fun _ => ?_
    split
    · refine Maintains.bind (maintains_gets _).second fun latest => ?_
      refine Maintains.bind (emits_append fun _ => ?_).second fun _ => maintains_pure _
      exact ⟨"handoff", "envelope_emitted", rfl, rfl, rfl⟩
    · exact maintains_pure _

lemma CodingHandoffRoutine.emits_recordCheckpoint (env : Env) (checkpoint summary : String) :
    EmitsCataloguedBeside s₀ (recordCheckpoint env checkpoint summary) := by
  unfold recordCheckpoint
  split
  · exact maintains_raise _
  · refine Maintains.bind (maintains_modify fun _ h => h) fun _ => ?_
    refine Maintains.bind (maintains_gets _) fun recorder => ?_
    split
    · refine Maintains.bind (maintains_gets _).second fun latest => ?_
      refine Maintains.bind (maintains_gets _) fun recorder => ?_
      refine Maintains.bind (emits_append fun _ => ?_).second fun _ => maintains_pure _
      exact ⟨"handoff", "envelope_emitted", rfl, rfl, rfl⟩
    · exact maintains_pure _

/-! ## The machine -/

/-- A call of one of the emitters, with what it reads from the clock and the instance it is a method
of. -/
inductive MilestoneCall
  | task (c : TaskCall)
  | rehydrateAll (env : Env) (manifests : List ManifestRow) (pending : List PendingRunConfig)
  | run (env : Env) (r : Run)
  | runAsync (env : Env) (handler : EABriefingHandler) (inboxEntries : Option (List InboxEntry))
      (pendingTasks : ℤ) (runId : String)
  | recordHandbackAsync (env : Env) (helper : Recorder EAAHandoffHelper)
      (checkpoint summary : String)
  | recordCheckpoint (env : Env) (routine : Recorder CodingHandoffRoutine)
      (checkpoint summary : String)
  | review (env : Env) (policy : ToolPolicy) (input : AdversarialReviewInput)

/-- What a call returns. -/
inductive MilestoneReply
  | mapping (m : Mapping)
  | runs (rs : List Run)
  | run (r : Run)
  | briefing (b : BriefingResult)
  | record (r : HandbackRecord)
  | review (r : AdversarialReviewResult)

section

variable (R : Rendering) (fmt : DateFormat) (sha256 : ByteArray → String)

/-- The computation a call runs. -/
def MilestoneCall.perform : MilestoneCall → Session MilestoneReply
  | .task c => .mapping <$> c.perform
  | .rehydrateAll env manifests pending =>
      .runs <$> ResumeService.rehydrateAll sha256 manifests env pending
  | .run env r => .run <$> OrchestrationService.run env r
  | .runAsync env handler inboxEntries pendingTasks runId =>
      .briefing <$> Effect.within handler
        (EABriefingHandler.runAsync fmt env inboxEntries pendingTasks runId)
  | .recordHandbackAsync env helper checkpoint summary =>
      .record <$> Effect.within helper
        (EAAHandoffHelper.recordHandbackAsync env checkpoint summary)
  | .recordCheckpoint env routine checkpoint summary =>
      .record <$> Effect.within routine
        (CodingHandoffRoutine.recordCheckpoint env checkpoint summary)
  | .review env policy input => .review <$> AdversarialReviewRoutine.review R policy env input

/-- The emitters on one store. -/
def milestoneMachine : Machine Store MilestoneCall (Except PyError MilestoneReply) :=
  ⟨fun s c => c.perform R fmt sha256 s⟩

end

lemma TaskCall.emits_perform (c : TaskCall) : EmitsCatalogued s₀ c.perform := by
  cases c with
  | createTask env req => exact EATaskService.emits_createTask env req
  | transitionTask env req => exact EATaskService.emits_transitionTask env req
  | requestApproval env req => exact EATaskService.emits_requestApproval env req
  | resolveApproval env req => exact EATaskService.emits_resolveApproval env req

/-- **Every emitter but the recovery loop** appends catalogued events only. -/
theorem MilestoneCall.emits_perform (R : Rendering) (fmt : DateFormat)
    (sha256 : ByteArray → String) {c : MilestoneCall}
    (hc : ∀ env manifests pending, c ≠ .rehydrateAll env manifests pending) :
    EmitsCatalogued s₀ (c.perform R fmt sha256) := by
  cases c with
  | task c => exact c.emits_perform.map
  | rehydrateAll env manifests pending => exact absurd rfl (hc env manifests pending)
  | run env r => exact (OrchestrationService.emits_run env r).map
  | runAsync env handler inboxEntries pendingTasks runId =>
      exact (EABriefingHandler.emits_runAsync fmt env inboxEntries pendingTasks runId).within.map
  | recordHandbackAsync env helper checkpoint summary =>
      exact (EAAHandoffHelper.emits_recordHandbackAsync env checkpoint summary).within.map
  | recordCheckpoint env routine checkpoint summary =>
      exact (CodingHandoffRoutine.emits_recordCheckpoint env checkpoint summary).within.map
  | review env policy input =>
      exact (AdversarialReviewRoutine.emits_review R policy env input).map

end Waywarden

import Waywarden.System.ConcurrentAppend
import Waywarden.Services.RunLifecycle
import Waywarden.Services.ApprovalEngine

/-!
# Verbs among concurrent appends

A verb that appends one event is three awaits long before its `append`: it loads the record it is
about, it reads the latest number, and from that number it builds its event.  `append` numbers the
row anew, under the steps of `ConcurrentAppend`.  Here `resume`, `cancel` and `resolve` run as
transactions that switch at every one of these points, among appends of the other services.

`service_eq` says that a verb with nobody beside it is the method of its service.
-/

namespace Waywarden.ConcurrentVerbs

open Machine ConcurrentAppend

/-- What a verb has once it has loaded its record: the run it writes to, its event for each number
it may read, and the approval it saves before. -/
structure Draft where
  runId : String
  event : ℕ → RunEvent
  saved : Option Approval
  runId_event : ∀ latest, (event latest).runId = runId

/-- A verb with its arguments.  An append of another service is of no type a verb resumes a run
with: only `RunLifecycleService` and `ApprovalEngine` build `run.resumed`. -/
inductive Verb
  | resume (env : Env) (runId resumeKind : String)
  | cancel (env : Env) (runId reason : String) (cancelledBy : Option String)
  | resolve (env : Env) (approvalId : String) (decision : ApprovalDecision)
  | append (draft : Draft) (other : ∀ latest, (draft.event latest).type ≠ .runResumed)

namespace Verb

/-- What a verb does up to its reading of the latest number. -/
def load : Verb → Session Draft
  | .resume env runId resumeKind => do
      if resumeKind ∉ RunLifecycleService.validResumeKinds then
        Effect.raise ⟨.invalidResumeKindError,
          "resume_kind % is not supported by RunLifecycleService " ++
            "(approval-related kinds are owned by the ApprovalEngine)", [resumeKind]⟩
      else do
        RunLifecycleService.requireOpen runId
        pure ⟨runId, fun latest =>
          RunLifecycleService.resumedEvent runId resumeKind latest (env.now 0), none, fun _ => rfl⟩
  | .cancel env runId reason cancelledBy => do
      RunLifecycleService.requireOpen runId
      pure ⟨runId, fun latest =>
        RunLifecycleService.cancelledEvent runId reason cancelledBy latest (env.now 0), none,
        fun _ => rfl⟩
  | .resolve env approvalId decision => do
      match ← ApprovalRepository.get approvalId with
      | none => Effect.raise ⟨.runtimeError, "Approval % not found", [approvalId]⟩
      | some existing =>
          if existing.state ≠ .pending then
            Effect.raise (ApprovalEngine.alreadyResolvedError existing.id)
          else do
            let updated ← Effect.ofExcept (existing.decide decision.newState (env.now 0))
            pure ⟨existing.runId, fun latest =>
              ApprovalEngine.eventOf decision existing latest (env.now 0), some updated,
              fun latest => ApprovalEngine.eventOf_runId decision existing latest (env.now 0)⟩
  | .append draft _ => pure draft

/-- What a verb hands its caller: `resume` and `cancel` the event they built, `resolve` and the
others the row `append` returned. -/
def returned (verb : Verb) (built row : RunEvent) : RunEvent :=
  match verb with
  | .resume .. | .cancel .. => built
  | .resolve .. | .append .. => row

end Verb

/-- The `save` of a draft. -/
def Draft.save (draft : Draft) : Session Unit :=
  match draft.saved with
  | some approval => do
      let _ ← ApprovalRepository.save approval
      pure ()
  | none => pure ()

/-- The method a verb is. -/
def Verb.service : Verb → Session RunEvent
  | .resume env runId resumeKind => RunLifecycleService.resume env runId resumeKind
  | .cancel env runId reason cancelledBy => RunLifecycleService.cancel env runId reason cancelledBy
  | .resolve env approvalId decision => ApprovalEngine.resolve env approvalId decision
  | .append draft _ => do
      draft.save
      let latest ← RunEventRepository.latestSeq draft.runId
      RunEventRepository.append (draft.event latest)

/-- **A verb alone is the method of its service.** -/
theorem service_eq (verb : Verb) :
    verb.service = (do
      let draft ← verb.load
      draft.save
      let latest ← RunEventRepository.latestSeq draft.runId
      let row ← RunEventRepository.append (draft.event latest)
      pure (verb.returned (draft.event latest) row)) := by
  cases verb with
  | resume env runId resumeKind =>
      rw [Verb.service, Verb.load, RunLifecycleService.resume]
      split
      · rfl
      · simp only [Effect.bind_assoc, pure_bind, Draft.save, Verb.returned]
  | cancel env runId reason cancelledBy =>
      rw [Verb.service, Verb.load, RunLifecycleService.cancel]
      simp only [Effect.bind_assoc, pure_bind, Draft.save, Verb.returned]
  | resolve env approvalId decision =>
      rw [Verb.service, Verb.load, ApprovalEngine.resolve, Effect.bind_assoc]
      refine congrArg _ (funext fun found => ?_)
      cases found with
      | none => rfl
      | some existing =>
          dsimp only
          split
          · rfl
          · simp only [Effect.bind_assoc, pure_bind, Draft.save, Verb.returned, bind_pure,
              ApprovalEngine.emitDecision_eq, ApprovalEngine.emit]
  | append draft other =>
      rw [Verb.service, Verb.load]
      simp only [pure_bind, Verb.returned, bind_pure]

/-! ## The machine -/

/-- Where a verb stands before its append. -/
inductive Stage
  | fresh
  | opened (draft : Draft)
  | built (draft : Draft) (latest : ℕ)

/-- The event a verb has built. -/
def Stage.event : Stage → Option RunEvent
  | .built draft latest => some (draft.event latest)
  | _ => none

/-- The tables with the appends under way, the committed approvals, and where each verb stands. -/
structure Calls (Tid : Type) where
  db : Database Tid
  approvals : List Approval
  stage : Tid → Stage

/-- One step of one verb: load its record, read the latest number, or a step of its append; or a
write of the `approvals` table by somebody else. -/
inductive Action (Tid : Type)
  | load (t : Tid)
  | readLatest (t : Tid)
  | append (step : ConcurrentAppend.Action Tid)
  | writeApprovals (rows : List Approval)

variable {Tid : Type}

/-- Stands in for the event of a verb that has not built one; no step appends it. -/
def unbuilt : RunEvent := RunLifecycleService.cancelledEvent "" "" none 0 0

namespace Calls

/-- What a transaction sees. -/
def visible (c : Calls Tid) (t : Tid) : Store := { c.db.visible t with approvals := c.approvals }

/-- The event a transaction appends. -/
def event (c : Calls Tid) (t : Tid) : RunEvent := (c.stage t).event.getD unbuilt

/-- No verb has begun: nothing is in the event log. -/
def start (runs : List RunRow) (approvals : List Approval) : Calls Tid :=
  ⟨Database.start { Store.empty with runs := runs }, approvals, fun _ => .fresh⟩

/-- An append begins when its event is built. -/
def ready (c : Calls Tid) : ConcurrentAppend.Action Tid → Bool
  | .readState t => (c.stage t).event.isSome
  | _ => true

/-- The approvals after a step of an append: a commit makes the verb's `save` visible. -/
def approvalsAfter (c : Calls Tid) : ConcurrentAppend.Action Tid → List Approval
  | .commit t =>
      match c.stage t with
      | .built draft _ =>
          match draft.saved with
          | some approval => KeyedTable.upsert Approval.key approval c.approvals
          | none => c.approvals
      | _ => c.approvals
  | _ => c.approvals

variable [DecidableEq Tid]

/-- Move a verb on. -/
def goTo (c : Calls Tid) (t : Tid) (stage : Stage) : Calls Tid :=
  { c with stage := Function.update c.stage t stage }

@[simp] lemma stage_goTo_self (c : Calls Tid) (t : Tid) (stage : Stage) :
    (c.goTo t stage).stage t = stage := by
  simp [goTo]

lemma stage_goTo_ne (c : Calls Tid) {t u : Tid} (h : u ≠ t) (stage : Stage) :
    (c.goTo t stage).stage u = c.stage u := by
  simp [goTo, h]

end Calls

variable [DecidableEq Tid] [Fintype Tid]

/-- One step; `none` when the verb is not at that step, or waits. -/
def perform (verb : Tid → Verb) (c : Calls Tid) : Action Tid → Option (Calls Tid)
  | .load t =>
      match c.stage t, c.db.phase t with
      | .fresh, .started =>
          match ((verb t).load (c.visible t)).1 with
          | .ok draft => some (c.goTo t (.opened draft))
          | .error _ => some { c with db := c.db.goTo t .aborted }
      | _, _ => none
  | .readLatest t =>
      match c.stage t, c.db.phase t with
      | .opened draft, .started =>
          some (c.goTo t (.built draft ((c.visible t).latestSeq draft.runId)))
      | _, _ => none
  | .append step =>
      if c.ready step then
        (ConcurrentAppend.perform c.event c.db step).map fun db =>
          { c with db := db, approvals := c.approvalsAfter step }
      else none
  | .writeApprovals rows => some { c with approvals := rows }

/-- The verbs among each other; the reply says whether the step was possible. -/
def verbMachine (verb : Tid → Verb) : Machine (Calls Tid) (Action Tid) Bool :=
  ⟨fun c a =>
    match perform verb c a with
    | some c' => (true, c')
    | none => (false, c)⟩

lemma next_verbMachine (verb : Tid → Verb) (c : Calls Tid) (a : Action Tid) :
    (verbMachine verb).next c a = (perform verb c a).getD c := by
  show (match perform verb c a with
    | some c' => (true, c')
    | none => (false, c)).2 = _
  cases perform verb c a with
  | none => rfl
  | some c' => rfl

end Waywarden.ConcurrentVerbs

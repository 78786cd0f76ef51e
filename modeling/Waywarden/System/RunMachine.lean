import Mathlib.Logic.Relation
import Waywarden.Lib.Machine
import Waywarden.Services.RunLifecycle
import Waywarden.Services.ApprovalEngine
import Waywarden.Services.Orchestration

/-!
# The run services as one machine

`RunLifecycleService`, `ApprovalEngine` and `OrchestrationService` write the same tables.
`runMachine` takes their calls one after another, each with its own readings of the clock, on one
store.

Whatever a call does is a sequence of five kinds of write, `Write`.  A call that ends a run
appends a terminal event; only the completion of an orchestrated run writes the matching state
with it.  `Write` therefore carries a proposition, `strands`, under which a terminal event may be
appended on its own, and `Strands` names the calls, in the stores, that do so.

* `writes_of_perform`: every call is a sequence of writes, none of them stranding unless the call
  strands.
* `refused_of_settled`: a call addressed to a run in a terminal state raises.
-/

namespace Waywarden

/-- A call of one of the run services, with what it reads from the clock. -/
inductive RunCall
  | start (env : Env) (task : Task) (entrypoint : Entrypoint)
  | resume (env : Env) (runId resumeKind : String)
  | cancel (env : Env) (runId reason : String) (cancelledBy : Option String)
  | request (env : Env) (runId approvalKind summary : String)
      (requestedCapability : Option String) (expiresAt : Option PyDatetime)
      (checkpointRef : Option String)
  | resolve (env : Env) (approvalId : String) (decision : ApprovalDecision)
  | orchestrate (env : Env) (run : Run)

/-- What a call returns. -/
inductive RunReply
  | run (r : Run)
  | event (e : RunEvent)
  | approval (a : Approval)

namespace RunCall

/-- The computation a call runs. -/
def perform : RunCall → Session RunReply
  | .start env task entrypoint => RunReply.run <$> RunLifecycleService.start env task entrypoint
  | .resume env runId kind => RunReply.event <$> RunLifecycleService.resume env runId kind
  | .cancel env runId reason who =>
      RunReply.event <$> RunLifecycleService.cancel env runId reason who
  | .request env runId kind summary cap expiresAt ref =>
      RunReply.approval <$> ApprovalEngine.request env runId kind summary cap expiresAt ref
  | .resolve env id decision => RunReply.event <$> ApprovalEngine.resolve env id decision
  | .orchestrate env run => RunReply.run <$> OrchestrationService.run env run

/-- The run whose log a call would append to. -/
def addressee (s : Store) : RunCall → Option String
  | .start _ task _ => some (RunLifecycleService.runIdOf task).val
  | .resume _ runId _ => some runId
  | .cancel _ runId _ _ => some runId
  | .request _ runId _ _ _ _ _ => some runId
  | .resolve _ id _ => (s.approval? id).map fun a => a.runId.val
  | .orchestrate _ run => some run.id.val

/-- The call reaches the append of a terminal event that no state change goes with: the
cancellation of a stored run, or a run-ending decision on a pending approval, where the run is
not in a terminal state and the event's id is free. -/
def Strands (s : Store) : RunCall → Prop
  | .cancel _ runId _ _ =>
      ∃ run : Run, s.run? runId = some run.toRunRow ∧ s.settled runId = false ∧
        s.hasEvent ("evt-" ++ runId ++ "-cancelled") = false
  | .resolve env id decision =>
      decision.endsRun = true ∧ ∃ a, s.approval? id = some a ∧ a.state = .pending ∧
        a.requestedAt ≤ env.now 0 ∧ s.settled a.runId = false ∧
        s.hasEvent ("evt-" ++ id ++ ApprovalEngine.decisionTag decision) = false
  | _ => False

end RunCall

/-- The run services on one store. -/
def runMachine : Machine Store RunCall (Except PyError RunReply) := ⟨fun s c => c.perform s⟩

/-- A task, for concrete runs. -/
def sampleTask : Task where
  id := ⟨"t1", by decide⟩
  sessionId := ⟨"s1", by decide⟩
  title := ⟨"Inbox", by decide⟩
  objective := ⟨"Sort the inbox", by decide⟩
  state := .draft
  createdAt := 0
  updatedAt := 0
  createdAt_le := le_refl 0

/-- The run `start` returns for the task. -/
def sampleRun : Run where
  id := ⟨"run-t1", by decide⟩
  instanceId := ⟨"inst-default", by decide⟩
  taskId := some ⟨"t1", by decide⟩
  profile := ⟨"s1", by decide⟩
  policyPreset := .ask
  manifestRef := ⟨"manifest://t1/default", by decide⟩
  entrypoint := .api
  state := .created
  createdAt := 0
  updatedAt := 0
  terminalSeq := none
  manifestHash := none
  createdAt_le := le_refl 0
  terminalSeq_pos := nofun

/-- The store after the sample task was started. -/
def startedStore : Store := (RunLifecycleService.start stillEnv sampleTask .api Store.empty).2

/-! ## Writes -/

/-- One write of a run service to the store it finds. -/
inductive Write (strands : Prop) (s : Store) : Store → Prop
  | addRun (row : RunRow) (fresh : s.run? row.id = none) (created : row.state = .created) :
      Write strands s (s.addRun row)
  | saveApproval (a : Approval) : Write strands s (s.putApproval a)
  | append (e : RunEvent) (isOpen : s.settled e.runId = false)
      (ends : e.type.isTerminal = true → strands) : Write strands s (s.push (s.stamp e))
  | setState (runId : String) (st : RunState) (now : Timestamp)
      (isOpen : s.settled runId = false) (goesOn : st.isTerminal = false) :
      Write strands s (s.setRunState runId st now none)
  | complete (e : RunEvent) (now : Timestamp) (isOpen : s.settled e.runId = false)
      (stored : (s.run? e.runId).isSome = true) (completed : e.type = .runCompleted) :
      Write strands s ((s.push (s.stamp e)).setRunState e.runId .completed now none)

/-- A sequence of writes. -/
abbrev Writes (strands : Prop) : Store → Store → Prop := Relation.ReflTransGen (Write strands)

variable {strands : Prop} {s : Store}

/-- The pipeline only writes. -/
lemma keeps_writes (runId : String) :
    OrchestrationService.Keeps runId fun s' => Writes strands s s' where
  push s' e h hopen hrun hgoes := by
    subst hrun
    exact h.tail (.append e hopen fun hends => absurd (hends.symm.trans hgoes) (by simp))
  setState s' st now h hopen hst := h.tail (.setState runId st now hopen hst)
  complete s' e now h hopen hrow hrun htype := by
    subst hrun
    exact h.tail (.complete e now hopen hrow htype)

/-- **A call is a sequence of writes**, however it ends, and it strands a terminal event only if
it is one of the calls `Strands` names. -/
theorem writes_of_perform (c : RunCall) (h : c.Strands s → strands) :
    Effect.wp c.perform (fun _ => Writes strands s) (fun _ => Writes strands s) s := by
  have none_yet : Writes strands s s := .refl
  cases c with
  | start env task entrypoint =>
      rw [RunCall.perform, Effect.wp_map]
      refine RunLifecycleService.wp_start (fun _ => none_yet) (fun run _ _ hstate _ hnone _ => ?_)
        (fun run _ hstate _ hnone _ _ => ?_)
      · exact none_yet.tail (.addRun run.toRunRow hnone hstate)
      · exact (none_yet.tail (.addRun run.toRunRow hnone hstate)).tail
          (.append _ (RunLifecycleService.settled_addRun_created hstate hnone) nofun)
  | resume env runId kind =>
      rw [RunCall.perform, Effect.wp_map]
      refine RunLifecycleService.wp_resume (fun _ => none_yet) fun _ _ _ hopen _ => ?_
      exact none_yet.tail (.append _ hopen nofun)
  | cancel env runId reason who =>
      rw [RunCall.perform, Effect.wp_map]
      refine RunLifecycleService.wp_cancel (fun _ => none_yet) fun run hrow hopen hfresh => ?_
      exact none_yet.tail (.append _ hopen fun _ => h ⟨run, hrow, hopen, hfresh⟩)
  | request env runId kind summary cap expiresAt ref =>
      rw [RunCall.perform, Effect.wp_map]
      refine ApprovalEngine.wp_request (fun _ _ => none_yet) (fun a _ _ _ => ?_)
        (fun a _ hopen _ => ?_)
      · exact none_yet.tail (.saveApproval a)
      · exact (none_yet.tail (.saveApproval a)).tail (.append _ hopen nofun)
  | resolve env id decision =>
      rw [RunCall.perform, Effect.wp_map]
      refine ApprovalEngine.wp_resolve (fun _ _ => none_yet) (fun _ a _ _ _ _ _ => ?_)
        (fun existing a hrow hpending ha hopen hfresh => ?_)
      · exact none_yet.tail (.saveApproval a)
      · have hends : ∀ n now, (ApprovalEngine.eventOf decision existing n now).type.isTerminal =
            true → strands := by
          intro n now hterm
          rw [ApprovalEngine.isTerminal_eventOf] at hterm
          exact h ⟨hterm, existing, hrow, hpending, Approval.requestedAt_le_of_decide ha, hopen,
            hfresh⟩
        exact (none_yet.tail (.saveApproval a)).tail
          (.append _ (by rw [ApprovalEngine.eventOf_runId]; exact hopen) (hends _ _))
  | orchestrate env run =>
      rw [RunCall.perform, Effect.wp_map]
      exact (keeps_writes run.id.val).wp_run none_yet rfl

/-- One step of the machine is a sequence of writes. -/
lemma writes_of_next (c : RunCall) (h : c.Strands s → strands) :
    Writes strands s (runMachine.next s c) :=
  (writes_of_perform c h).state

/-- **A settled run refuses every call** addressed to it. -/
theorem refused_of_settled {c : RunCall} {runId : String} (hc : c.addressee s = some runId)
    (hs : s.settled runId = true) : ∃ e, (runMachine.transition s c).reply = .error e := by
  have clash : s.settled runId = false → False := fun h => absurd (hs.symm.trans h) (by simp)
  suffices h : Effect.wp c.perform (fun _ _ => False) (fun _ _ => True) s from h.raises
  cases c with
  | start env task entrypoint =>
      obtain rfl := Option.some.inj hc
      rw [RunCall.perform, Effect.wp_map]
      refine RunLifecycleService.wp_start (fun _ => trivial) (fun _ _ _ _ _ _ _ => trivial)
        (fun run hid _ _ hnone _ _ => ?_)
      obtain ⟨row, hrow, -⟩ := Store.settled_iff.mp hs
      rw [← hid, hnone] at hrow
      exact absurd hrow (by simp)
  | resume env r kind =>
      obtain rfl := Option.some.inj hc
      rw [RunCall.perform, Effect.wp_map]
      exact RunLifecycleService.wp_resume (fun _ => trivial) fun _ _ _ hopen _ => clash hopen
  | cancel env r reason who =>
      obtain rfl := Option.some.inj hc
      rw [RunCall.perform, Effect.wp_map]
      exact RunLifecycleService.wp_cancel (fun _ => trivial) fun _ _ hopen _ => clash hopen
  | request env r kind summary cap expiresAt ref =>
      obtain rfl := Option.some.inj hc
      rw [RunCall.perform, Effect.wp_map]
      exact ApprovalEngine.wp_request (fun _ _ => trivial) (fun _ _ _ _ => trivial)
        fun _ _ hopen _ => clash hopen
  | resolve env id decision =>
      obtain ⟨a, ha, hrun⟩ := Option.map_eq_some_iff.mp hc
      rw [RunCall.perform, Effect.wp_map]
      refine ApprovalEngine.wp_resolve (fun _ _ => trivial) (fun _ _ _ _ _ _ _ => trivial)
        fun existing _ hrow _ _ hopen _ => ?_
      obtain rfl := Option.some.inj (ha.symm.trans hrow)
      exact clash (hrun ▸ hopen)
  | orchestrate env run =>
      obtain rfl := Option.some.inj hc
      rw [RunCall.perform, Effect.wp_map]
      exact (OrchestrationService.run_of_blocked (Or.inr (Or.inl hs))).mono (fun _ _ h => h)
        fun _ _ _ => trivial

end Waywarden

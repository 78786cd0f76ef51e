import Waywarden.System.RunMachine

/-!
# What an approval operation leaves when it raises

`request` and `resolve` write two tables one after the other: the record first, its event second.
No service opens a transaction of its own or takes a write back; that is left to the owner of the
session.  So an operation whose event is refused, because the run is in a terminal state or the
event's id is taken, raises with the record already saved (`not_allOrNothing_terminal_run`).

`raises_unless_refused` says that this is all there is to it: a raise changes no event, and no
record but the one whose event was refused; a return leaves both.
-/

namespace Waywarden

open ApprovalEngine

/-- All or nothing: a raise leaves the approvals and the events as they were, and a return leaves
what was to be done. -/
def AllOrNothing {α : Type} (x : Session α) (done : α → Store → Prop) (s : Store) : Prop :=
  Effect.wp x done (fun _ s' => s'.approvals = s.approvals ∧ s'.runEvents = s.runEvents) s

/-- The record of a request is stored, and its event is the last one appended. -/
def RequestDone (s : Store) (runId : String) (a : Approval) (s' : Store) : Prop :=
  s'.approval? a.id = some a ∧ ∃ e, s'.runEvents = s.runEvents ++ [e] ∧ e.runId = runId ∧
    e.type = .runApprovalWaiting ∧ e.id = waitingEventId a.id

/-- The decided record is stored in place of the pending one, and the decision's event is the
last one appended. -/
def ResolveDone (s : Store) (id : String) (d : ApprovalDecision) (e : RunEvent) (s' : Store) :
    Prop :=
  (∃ existing a, s.approval? id = some existing ∧ s'.approval? id = some a ∧
    a.state = d.newState ∧ e.runId = existing.runId.val) ∧
    s'.runEvents = s.runEvents ++ [e] ∧ e.id = "evt-" ++ id ++ decisionTag d

/-- `append` refuses the event: the run is in a terminal state, or the event's id is taken. -/
def Refuses (s : Store) (runId eventId : String) : Prop :=
  s.settled runId = true ∨ s.hasEvent eventId = true

/-- What a raise of `request` leaves: everything as it was, or the pending record saved, when its
event was refused. -/
def RequestRaised (s : Store) (runId : String) (built : Except PyError Approval) (s' : Store) :
    Prop :=
  ((∃ e, built = .error e) ∧ s' = s) ∨
    ∃ a, built = .ok a ∧ Refuses s runId (waitingEventId a.id) ∧ s' = s.putApproval a

/-- What a raise of `resolve` leaves: everything as it was, or the decided record saved, when its
event was refused. -/
def ResolveRaised (s : Store) (env : Env) (id : String) (d : ApprovalDecision) (s' : Store) :
    Prop :=
  s' = s ∨ ∃ existing a, s.approval? id = some existing ∧ existing.state = .pending ∧
    existing.decide d.newState (env.now 0) = .ok a ∧
    Refuses s existing.runId ("evt-" ++ id ++ decisionTag d) ∧ s' = s.putApproval a

section

variable (s : Store) (env : Env)

lemma request_raises_unless_refused (runId kind summary : String) (cap : Option String)
    (expiresAt : Option PyDatetime) (ref : Option String) :
    Effect.wp (request env runId kind summary cap expiresAt ref) (RequestDone s runId)
      (fun _ => RequestRaised s runId
        (buildRequest runId kind summary cap expiresAt (env.now 0))) s := by
  refine wp_request (fun e he => Or.inl ⟨⟨e, he⟩, rfl⟩)
    (fun a _ ha href => Or.inr ⟨a, ha, href, rfl⟩) (fun a _ _ _ => ?_)
  refine ⟨?_, _, rfl, rfl, rfl, rfl⟩
  rw [Store.approval?_push, Store.approval?_putApproval_self]

lemma resolve_raises_unless_refused (id : String) (d : ApprovalDecision) :
    Effect.wp (resolve env id d) (ResolveDone s id d) (fun _ => ResolveRaised s env id d) s := by
  refine wp_resolve (fun _ _ => Or.inl rfl)
    (fun existing a _ hrow hpending ha href => Or.inr ⟨existing, a, hrow, hpending, ha, href, rfl⟩)
    (fun existing a hrow _ ha _ _ => ?_)
  obtain ⟨hid, -, -, -, hstate, -⟩ := Approval.fields_of_decide ha
  have hkey : a.id.val = id := by rw [hid, Store.id_of_approval? hrow]
  refine ⟨⟨existing, a, hrow, ?_, hstate, eventOf_runId d existing _ _⟩, rfl, ?_⟩
  · rw [Store.approval?_push, ← hkey, Store.approval?_putApproval_self]
  · rw [Store.stamp_id, eventOf_id, Store.id_of_approval? hrow]

/-- **Atomic up to a refused event.**  An operation of the approval engine that returns leaves
its record and its event.  One that raises leaves every event, and every record but the one whose
event was refused, as they were. -/
theorem raises_unless_refused (runId kind summary : String) (cap : Option String)
    (expiresAt : Option PyDatetime) (ref : Option String) (id : String) (d : ApprovalDecision) :
    Effect.wp (request env runId kind summary cap expiresAt ref) (RequestDone s runId)
        (fun _ => RequestRaised s runId
          (buildRequest runId kind summary cap expiresAt (env.now 0))) s ∧
      Effect.wp (resolve env id d) (ResolveDone s id d)
        (fun _ => ResolveRaised s env id d) s :=
  ⟨request_raises_unless_refused s env runId kind summary cap expiresAt ref,
    resolve_raises_unless_refused s env id d⟩

end

/-- The sample run, completed. -/
def completedStore : Store :=
  { Store.empty with runs := [{ sampleRun.toRunRow with state := .completed }] }

/-- A pending approval of the sample run, requested before the run completed. -/
def pendingStore : Store :=
  { (request stillEnv "run-t1" "deploy" "Deploy?" none none none Store.empty).2 with
    runs := completedStore.runs }

/-- An all-or-nothing computation that raises leaves the approvals it found. -/
lemma AllOrNothing.approvals_eq {α : Type} {x : Session α} {done : α → Store → Prop} {s : Store}
    (h : AllOrNothing x done s) (hraises : (x s).1.isOk = false) :
    (x s).2.approvals = s.approvals := by
  rcases hx : x s with ⟨e | a, s'⟩
  · exact (h.of_error hx).1
  · rw [hx] at hraises
    exact absurd hraises (by simp [Except.isOk, Except.toBool])

/-- On a completed run, a request leaves its record without an event, and a resolution leaves
its record decided without one. -/
theorem not_allOrNothing_terminal_run :
    ¬ AllOrNothing (request stillEnv "run-t1" "deploy" "Deploy?" none none none)
        (RequestDone completedStore "run-t1") completedStore ∧
      ¬ AllOrNothing (resolve stillEnv "approval-run-t1-deploy" .granted)
        (ResolveDone pendingStore "approval-run-t1-deploy" .granted) pendingStore := by
  constructor
  · intro h
    have hsame := h.approvals_eq (by decide)
    exact absurd (congrArg List.length hsame) (by decide)
  · intro h
    have hsame := h.approvals_eq (by decide)
    exact absurd (congrArg (List.map Approval.state) hsame) (by decide)

end Waywarden

import Waywarden.Lib.Machine
import Waywarden.System.EventNames

/-!
# The services that write event logs, with recovery

`RunLifecycleService`, `ApprovalEngine` and `ResumeService` on one store: the calls, which appends
each of them reaches, and what it leaves in the event table when each of those is accepted.

A call of the first two services reaches at most one append, and `name?` says of which event.  The
recovery loop reaches one for every entry it admits (`admitted`), and a second one where the
lifecycle service raised.
-/

namespace Waywarden

open ResumeService

/-- Whether the run can be read back and is not in a terminal state. -/
def Store.opens (s : Store) (runId : String) : Bool :=
  (s.run? runId).any fun row => (Run.ofRow row).isOk && !row.state.isTerminal

lemma Store.opens_iff {s : Store} {runId : String} : s.opens runId = true ↔
    ∃ run : Run, s.run? runId = some run.toRunRow ∧ s.settled runId = false := by
  rw [Store.opens, Option.any_eq_true]
  constructor
  · rintro ⟨row, hrow, hopens⟩
    rw [Bool.and_eq_true, Bool.not_eq_true'] at hopens
    cases hrun : Run.ofRow row with
    | error e =>
        rw [hrun] at hopens
        exact absurd hopens.1 (by simp [Except.isOk, Except.toBool])
    | ok run =>
        rw [← toRunRow_of_ofRow hrun] at hrow hopens
        exact ⟨run, hrow, by rw [Store.settled, hrow]; exact hopens.2⟩
  · rintro ⟨run, hrow, hopen⟩
    rw [Store.settled, hrow] at hopen
    refine ⟨run.toRunRow, hrow, ?_⟩
    rw [Run.ofRow_toRunRow, Bool.and_eq_true, Bool.not_eq_true']
    exact ⟨rfl, hopen⟩

/-- A call of one of the three services, with what it reads from the clock. -/
inductive RecoveryCall
  | start (env : Env) (task : Task) (entrypoint : Entrypoint)
  | resume (env : Env) (runId resumeKind : String)
  | cancel (env : Env) (runId reason : String) (cancelledBy : Option String)
  | request (env : Env) (runId approvalKind summary : String)
      (requestedCapability : Option String) (expiresAt : Option PyDatetime)
      (checkpointRef : Option String)
  | resolve (env : Env) (approvalId : String) (decision : ApprovalDecision)
  | rehydrateAll (env : Env) (pending : List PendingRunConfig)

/-- What a call returns. -/
inductive RecoveryReply
  | run (r : Run)
  | event (e : RunEvent)
  | approval (a : Approval)
  | resumed (runs : List Run)

section

variable (sha256 : ByteArray → String) (manifests : List ManifestRow)

/-- The computation a call runs. -/
def RecoveryCall.perform : RecoveryCall → Session RecoveryReply
  | .start env task entrypoint =>
      RecoveryReply.run <$> RunLifecycleService.start env task entrypoint
  | .resume env runId kind => RecoveryReply.event <$> RunLifecycleService.resume env runId kind
  | .cancel env runId reason who =>
      RecoveryReply.event <$> RunLifecycleService.cancel env runId reason who
  | .request env runId kind summary cap expiresAt ref =>
      RecoveryReply.approval <$> ApprovalEngine.request env runId kind summary cap expiresAt ref
  | .resolve env id decision => RecoveryReply.event <$> ApprovalEngine.resolve env id decision
  | .rehydrateAll env pending =>
      RecoveryReply.resumed <$> ResumeService.rehydrateAll sha256 manifests env pending

/-- The three services on one store. -/
def recoveryMachine : Machine Store RecoveryCall (Except PyError RecoveryReply) :=
  ⟨fun s c => c.perform sha256 manifests s⟩

/-- The entries of a list that pass their checks, up to the first one whose checks raise. -/
def admitted (s : Store) : List PendingRunConfig → List PendingRunConfig
  | [] => []
  | p :: ps =>
      match verdict sha256 manifests (s.run? p.runId) p with
      | .error _ => []
      | .ok none => admitted s ps
      | .ok (some _) => p :: admitted s ps

/-- The resumes of some entries, by name. -/
def resumes (ps : List PendingRunConfig) : List EventName := ps.map fun p => ⟨.resumed, p.runId⟩

/-- The names of the events a call is going to append, as far as the store before it tells: the
call has passed its checks, and the run is not in a terminal state. -/
def RecoveryCall.names (s : Store) : RecoveryCall → List EventName
  | .start env task entrypoint =>
      match RunLifecycleService.newRun task entrypoint (env.now 0) with
      | .error _ => []
      | .ok run =>
          if s.run? run.id = none ∧ s.latestSeq run.id = 0 then [⟨.created, run.id⟩] else []
  | .resume _ runId kind =>
      if kind ∈ RunLifecycleService.validResumeKinds ∧ s.opens runId = true then
        [⟨.resumed, runId⟩]
      else []
  | .cancel _ runId _ _ => if s.opens runId = true then [⟨.cancelled, runId⟩] else []
  | .request env runId kind summary cap expiresAt _ =>
      match ApprovalEngine.buildRequest runId kind summary cap expiresAt (env.now 0) with
      | .error _ => []
      | .ok a => if s.settled runId then [] else [⟨.waiting, a.id⟩]
  | .resolve env id decision =>
      match s.approval? id with
      | none => []
      | some a =>
          if a.state = .pending ∧ a.requestedAt ≤ env.now 0 ∧ s.settled a.runId = false then
            [⟨.ofDecision decision, id⟩]
          else []
  | .rehydrateAll _ pending =>
      resumes (admitted sha256 manifests s pending)

/-- The appends the recovery loop reaches: the store it finds, and the id of the event. -/
def rehydrateAttempts (env : Env) : List PendingRunConfig → Store → List (Store × String)
  | [], _ => []
  | p :: ps, s =>
      match verdict sha256 manifests (s.run? p.runId) p with
      | .error _ => []
      | .ok none => rehydrateAttempts (env.later 2) ps s
      | .ok (some _) =>
          (s, resumedId p.runId) ::
            ((if s.hasEvent (resumedId p.runId) then [(s, blockedId p.runId)] else []) ++
              match rehydrate sha256 manifests env p s with
              | (.ok _, s') => rehydrateAttempts (env.later 2) ps s'
              | (.error _, _) => [])

/-- The appends a call reaches for a run that is not in a terminal state: the store it finds, as
far as events go, and the id of the event. -/
def RecoveryCall.attempts (s : Store) : RecoveryCall → List (Store × String)
  | .rehydrateAll env pending => rehydrateAttempts sha256 manifests env pending s
  | c => (c.names sha256 manifests s).map fun n => (s, n.id)

end

/-- The ids of those appends that the primary key accepts. -/
def accepted (attempts : List (Store × String)) : List String :=
  (attempts.filter fun a => !a.1.hasEvent a.2).map Prod.snd

/-! ## What a call leaves in the event table -/

/-- The events appended are the ones with these ids, in order. -/
def Appends (s : Store) (ids : List String) (s' : Store) : Prop :=
  ∃ es, s'.runEvents = s.runEvents ++ es ∧ es.map RunEvent.id = ids

/-- One event more is stored, with this id. -/
def AppendsOne (s : Store) (id : String) (s' : Store) : Prop :=
  ∃ e, s'.runEvents = s.runEvents ++ [e] ∧ e.id = id

/-- No name of the list is the name of an event already stored. -/
def Fresh (s : Store) (names : List EventName) : Prop := ∀ n ∈ names, s.hasEvent n.id = false

section

variable {s s' : Store} {e : RunEvent}

lemma Appends.none (h : s'.runEvents = s.runEvents) : Appends s [] s' :=
  ⟨[], by rw [h, List.append_nil], rfl⟩

/-- An event appended first, and the rest after it. -/
lemma Appends.cons {ids : List String} (h : Appends (s.push e) ids s') :
    Appends s (e.id :: ids) s' := by
  obtain ⟨es, hes, hids⟩ := h
  refine ⟨e :: es, ?_, ?_⟩
  · rw [hes, Store.runEvents_push, List.append_assoc, List.singleton_append]
  · rw [List.map_cons, hids]

/-- One append, accepted or not. -/
lemma appends_single {n : EventName}
    (hfree : s.hasEvent n.id = false → AppendsOne s n.id s')
    (htaken : s.hasEvent n.id = true → s'.runEvents = s.runEvents) :
    Appends s (accepted ([n].map fun n => (s, n.id))) s' := by
  cases hn : s.hasEvent n.id with
  | true =>
      have hrefused : accepted ([n].map fun n => (s, n.id)) = [] := by simp [accepted, hn]
      rw [hrefused]
      exact Appends.none (htaken hn)
  | false =>
      have hstored : accepted ([n].map fun n => (s, n.id)) = [n.id] := by simp [accepted, hn]
      obtain ⟨e, he, hid⟩ := hfree hn
      rw [hstored]
      exact ⟨[e], he, by rw [List.map_singleton, hid]⟩

/-- The event table after some events were appended. -/
lemma Appends.hasEvent {ids : List String} (h : Appends s ids s') (id : String) :
    s'.hasEvent id = true ↔ s.hasEvent id = true ∨ id ∈ ids := by
  obtain ⟨es, hes, rfl⟩ := h
  simp [Store.hasEvent, hes]

/-- Names that are new one after the other: the first one now, the rest once it is stored. -/
lemma nodup_fresh_cons {n : EventName} {ns : List EventName} (hid : e.id = n.id) :
    ((n :: ns).Nodup ∧ Fresh s (n :: ns)) ↔
      s.hasEvent n.id = false ∧ ns.Nodup ∧ Fresh (s.push e) ns := by
  have hpush : Fresh (s.push e) ns ↔ Fresh s ns ∧ n ∉ ns := by
    simp only [Fresh, Store.hasEvent_push, Bool.or_eq_false_iff, decide_eq_false_iff_not, hid]
    constructor
    · intro h
      exact ⟨fun m hm => (h m hm).1, fun hn => (h n hn).2 rfl⟩
    · rintro ⟨hfresh, hn⟩ m hm
      exact ⟨hfresh m hm, fun h => hn (EventName.id_injective h ▸ hm)⟩
  rw [hpush, List.nodup_cons, Fresh, List.forall_mem_cons]
  constructor
  · rintro ⟨⟨hn, hnodup⟩, hfirst, hrest⟩
    exact ⟨hfirst, hnodup, hrest, hn⟩
  · rintro ⟨hfirst, hnodup, hrest, hn⟩
    exact ⟨⟨hn, hnodup⟩, hfirst, hrest⟩

variable {sha256 : ByteArray → String} {manifests : List ManifestRow}

lemma appends_start (env : Env) (task : Task) (entrypoint : Entrypoint) :
    Appends s (accepted ((RecoveryCall.start env task entrypoint).attempts sha256 manifests s))
      (RunLifecycleService.start env task entrypoint s).2 := by
  cases hrun : RunLifecycleService.newRun task entrypoint (env.now 0) with
  | error e =>
      have hraised : RunLifecycleService.start env task entrypoint s = (.error e, s) := by
        rw [RunLifecycleService.start, hrun]
        rfl
      simp only [RecoveryCall.attempts, RecoveryCall.names, hrun, hraised]
      exact Appends.none rfl
  | ok run =>
      have hid := (RunLifecycleService.fields_of_newRun hrun).1
      simp only [RecoveryCall.attempts, RecoveryCall.names, hrun]
      split
      · rename_i hnew
        refine appends_single (fun hfree => ?_) (fun htaken => ?_)
        · refine Effect.wp.state (P := AppendsOne s (EventName.id ⟨.created, run.id⟩)) ?_
          rw [RunLifecycleService.wp_start_of_fresh hrun hnew.1 hnew.2 hfree]
          exact ⟨_, rfl, rfl⟩
        · refine Effect.wp.state (P := fun s' => s'.runEvents = s.runEvents)
            (RunLifecycleService.wp_start (fun _ => rfl) (fun _ _ _ _ _ _ _ => rfl)
              (fun run' hid' _ _ _ _ hfree => ?_))
          have hsame : (RunLifecycleService.createdEvent run' (env.now 0)).id =
              EventName.id ⟨.created, run.id⟩ := by
            rw [hid, ← hid']
            rfl
          rw [hsame] at hfree
          exact absurd (htaken.symm.trans hfree) (by simp)
      · rename_i hold
        refine Appends.none (Effect.wp.state (P := fun s' => s'.runEvents = s.runEvents)
          (RunLifecycleService.wp_start (fun _ => rfl) (fun _ _ _ _ _ _ _ => rfl)
            (fun run' hid' _ _ hnone hlatest _ => ?_)))
        rw [hid', ← hid] at hnone hlatest
        exact absurd ⟨hnone, hlatest⟩ hold

lemma appends_resume (env : Env) (runId kind : String) :
    Appends s (accepted ((RecoveryCall.resume env runId kind).attempts sha256 manifests s))
      (RunLifecycleService.resume env runId kind s).2 := by
  simp only [RecoveryCall.attempts, RecoveryCall.names]
  split
  · rename_i hgoes
    obtain ⟨run, hrow, hopen⟩ := Store.opens_iff.mp hgoes.2
    refine appends_single (fun hfree => ?_) (fun htaken => ?_)
    · refine Effect.wp.state (P := AppendsOne s (EventName.id ⟨.resumed, runId⟩)) ?_
      rw [RunLifecycleService.wp_resume_of_open hgoes.1 hrow hopen]
      refine ⟨fun _ => ⟨_, rfl, rfl⟩, fun htaken => ?_⟩
      exact absurd (htaken.symm.trans hfree) (by simp)
    · refine Effect.wp.state (P := fun s' => s'.runEvents = s.runEvents)
        (RunLifecycleService.wp_resume (fun _ => rfl) fun _ _ _ _ hfree => ?_)
      exact absurd (htaken.symm.trans hfree) (by simp)
  · rename_i hstays
    refine Appends.none (Effect.wp.state (P := fun s' => s'.runEvents = s.runEvents)
      (RunLifecycleService.wp_resume (fun _ => rfl) fun run hkind hrow hopen _ => ?_))
    exact absurd ⟨hkind, Store.opens_iff.mpr ⟨run, hrow, hopen⟩⟩ hstays

lemma appends_cancel (env : Env) (runId reason : String) (cancelledBy : Option String) :
    Appends s
      (accepted ((RecoveryCall.cancel env runId reason cancelledBy).attempts sha256 manifests s))
      (RunLifecycleService.cancel env runId reason cancelledBy s).2 := by
  simp only [RecoveryCall.attempts, RecoveryCall.names]
  split
  · rename_i hgoes
    obtain ⟨run, hrow, hopen⟩ := Store.opens_iff.mp hgoes
    refine appends_single (fun hfree => ?_) (fun htaken => ?_)
    · refine Effect.wp.state (P := AppendsOne s (EventName.id ⟨.cancelled, runId⟩)) ?_
      rw [RunLifecycleService.wp_cancel_of_open hrow hopen hfree]
      exact ⟨_, rfl, rfl⟩
    · refine Effect.wp.state (P := fun s' => s'.runEvents = s.runEvents)
        (RunLifecycleService.wp_cancel (fun _ => rfl) fun _ _ _ hfree => ?_)
      exact absurd (htaken.symm.trans hfree) (by simp)
  · rename_i hstays
    refine Appends.none (Effect.wp.state (P := fun s' => s'.runEvents = s.runEvents)
      (RunLifecycleService.wp_cancel (fun _ => rfl) fun run hrow hopen _ => ?_))
    exact absurd (Store.opens_iff.mpr ⟨run, hrow, hopen⟩) hstays

lemma appends_request (env : Env) (runId kind summary : String) (cap : Option String)
    (expiresAt : Option PyDatetime) (ref : Option String) :
    Appends s
      (accepted ((RecoveryCall.request env runId kind summary cap expiresAt ref).attempts sha256
        manifests s))
      (ApprovalEngine.request env runId kind summary cap expiresAt ref s).2 := by
  simp only [RecoveryCall.attempts, RecoveryCall.names]
  refine Effect.wp.state (ApprovalEngine.wp_request (fun e he => ?_) (fun a e ha hrefused => ?_)
    (fun a ha hopen hfree => ?_))
  · simp only [he]
    exact Appends.none rfl
  · simp only [ha]
    split
    · exact Appends.none rfl
    · rename_i hopen
      refine appends_single (fun hfree => ?_) fun _ => rfl
      have htaken : s.hasEvent (ApprovalEngine.waitingEventId a.id) = true :=
        hrefused.resolve_left hopen
      exact absurd (htaken.symm.trans hfree) (by simp)
  · simp only [ha, hopen]
    refine appends_single (fun _ => ⟨_, rfl, rfl⟩) fun htaken => ?_
    exact absurd (htaken.symm.trans hfree) (by simp)

lemma appends_resolve (env : Env) (id : String) (d : ApprovalDecision) :
    Appends s (accepted ((RecoveryCall.resolve env id d).attempts sha256 manifests s))
      (ApprovalEngine.resolve env id d s).2 := by
  have hname : EventName.id ⟨.ofDecision d, id⟩ = "evt-" ++ id ++ ApprovalEngine.decisionTag d := by
    rw [EventName.id, EventVerb.tag_ofDecision]
  simp only [RecoveryCall.attempts, RecoveryCall.names]
  refine Effect.wp.state (ApprovalEngine.wp_resolve (fun e hlate => ?_)
    (fun existing a e hrow hpending ha hrefused => ?_)
    (fun existing a hrow hpending ha hopen hfree => ?_))
  · -- no record, or one the decision is refused for
    split
    · exact Appends.none rfl
    · rename_i a hrow
      rw [if_neg fun hgoes => absurd (hlate a hrow hgoes.1) (not_lt.mpr hgoes.2.1)]
      exact Appends.none rfl
  · simp only [hrow]
    split
    · rename_i hgoes
      refine appends_single (fun hfree => ?_) fun _ => rfl
      have htaken : s.hasEvent ("evt-" ++ id ++ ApprovalEngine.decisionTag d) = true :=
        hrefused.resolve_left fun hsettled => absurd (hsettled.symm.trans hgoes.2.2) (by simp)
      rw [hname] at hfree
      exact absurd (htaken.symm.trans hfree) (by simp)
    · exact Appends.none rfl
  · simp only [hrow, hpending, hopen, Approval.requestedAt_le_of_decide ha, and_self, if_true]
    refine appends_single (fun _ => ⟨_, rfl, ?_⟩) fun htaken => ?_
    · rw [Store.stamp_id, ApprovalEngine.eventOf_id, Store.id_of_approval? hrow, hname]
    · rw [hname] at htaken
      exact absurd (htaken.symm.trans hfree) (by simp)

/-! ## The recovery loop -/

/-- An append leaves the entries admitted as they were: their checks read the runs only. -/
lemma admitted_push (e : RunEvent) (ps : List PendingRunConfig) :
    admitted sha256 manifests (s.push e) ps = admitted sha256 manifests s ps := by
  induction ps with
  | nil => rfl
  | cons p ps ih => simp only [admitted, Store.run?_push, ih]

/-- The state the loop leaves, one round at a time. -/
lemma state_rehydrateAll_cons {env : Env} {p : PendingRunConfig} {ps : List PendingRunConfig}
    {found : Option Run} (h : rehydrate sha256 manifests env p s = (.ok found, s')) :
    (rehydrateAll sha256 manifests env (p :: ps) s).2 =
      (rehydrateAll sha256 manifests (env.later 2) ps s').2 := by
  rw [rehydrateAll, Effect.bind_of_ok h]
  rcases hrest : rehydrateAll sha256 manifests (env.later 2) ps s' with ⟨e | runs, t⟩
  · rw [Effect.bind_of_error hrest]
  · rw [Effect.bind_of_ok hrest]
    rfl

/-- A round that raises ends the loop. -/
lemma rehydrateAll_of_error {env : Env} {p : PendingRunConfig} {ps : List PendingRunConfig}
    {err : PyError} (h : rehydrate sha256 manifests env p s = (.error err, s')) :
    rehydrateAll sha256 manifests env (p :: ps) s = (.error err, s') := by
  rw [rehydrateAll, Effect.bind_of_error h]

/-- The events the loop stores are those of the appends it reaches that are accepted. -/
lemma appends_rehydrateAll (env : Env) (ps : List PendingRunConfig) :
    Appends s (accepted (rehydrateAttempts sha256 manifests env ps s))
      (rehydrateAll sha256 manifests env ps s).2 := by
  induction ps generalizing env s with
  | nil => exact Appends.none rfl
  | cons p ps ih =>
      rcases rehydrate_cases sha256 manifests env p s with ⟨hv, h⟩ | ⟨e, hv, h⟩ | ⟨run, hv, h⟩
      · rw [state_rehydrateAll_cons h]
        simp only [rehydrateAttempts, hv]
        exact ih (env.later 2)
      · rw [rehydrateAll_of_error h]
        simp only [rehydrateAttempts, hv]
        exact Appends.none rfl
      · rcases h with ⟨hfree, h⟩ | ⟨htaken, hfree, h⟩ | ⟨htaken, htaken', h⟩
        · have hstep : accepted (rehydrateAttempts sha256 manifests env (p :: ps) s) =
              resumedId p.runId :: accepted (rehydrateAttempts sha256 manifests (env.later 2) ps
                (s.push (recoveryEvent s p.runId (env.now 0)))) := by
            simp [rehydrateAttempts, accepted, hv, hfree, h]
          rw [state_rehydrateAll_cons h, hstep]
          exact (ih (env.later 2)).cons
        · have hstep : accepted (rehydrateAttempts sha256 manifests env (p :: ps) s) =
              blockedId p.runId :: accepted (rehydrateAttempts sha256 manifests (env.later 2) ps
                (s.push (blockedEvent s p.runId (env.now 1)))) := by
            simp [rehydrateAttempts, accepted, hv, htaken, hfree, h]
          rw [state_rehydrateAll_cons h, hstep]
          exact (ih (env.later 2)).cons
        · have hstep : accepted (rehydrateAttempts sha256 manifests env (p :: ps) s) = [] := by
            simp [rehydrateAttempts, accepted, hv, htaken, htaken', h]
          rw [rehydrateAll_of_error h, hstep]
          exact Appends.none rfl

/-- The appends of the loop all have a free id exactly when it goes for each run once and no such
resume is stored yet; then they are these resumes. -/
lemma fresh_rehydrateAttempts (env : Env) (ps : List PendingRunConfig) :
    ((∀ a ∈ rehydrateAttempts sha256 manifests env ps s, a.1.hasEvent a.2 = false) ↔
      (resumes (admitted sha256 manifests s ps)).Nodup ∧
        Fresh s (resumes (admitted sha256 manifests s ps))) ∧
    ((∀ a ∈ rehydrateAttempts sha256 manifests env ps s, a.1.hasEvent a.2 = false) →
      (rehydrateAttempts sha256 manifests env ps s).map Prod.snd =
        (resumes (admitted sha256 manifests s ps)).map EventName.id) := by
  induction ps generalizing env s with
  | nil => simp [rehydrateAttempts, admitted, resumes, Fresh]
  | cons p ps ih =>
      rcases rehydrate_cases sha256 manifests env p s with ⟨hv, h⟩ | ⟨e, hv, h⟩ | ⟨run, hv, h⟩
      · simp only [rehydrateAttempts, admitted, hv]
        exact ih (env.later 2)
      · simp [rehydrateAttempts, admitted, hv, resumes, Fresh]
      · have hname : EventName.id ⟨.resumed, p.runId⟩ = resumedId p.runId := rfl
        have hresumes : resumes (admitted sha256 manifests s (p :: ps)) =
            ⟨.resumed, p.runId⟩ :: resumes (admitted sha256 manifests s ps) := by
          simp only [admitted, hv]
          rfl
        rw [hresumes, nodup_fresh_cons (e := recoveryEvent s p.runId (env.now 0)) hname.symm,
          List.map_cons, hname]
        rcases h with ⟨hfree, h⟩ | ⟨htaken, -, -⟩ | ⟨htaken, -, -⟩
        · obtain ⟨hiff, hids⟩ :=
            @ih (s.push (recoveryEvent s p.runId (env.now 0))) (env.later 2)
          rw [admitted_push] at hiff hids
          simp only [rehydrateAttempts, hv, hfree, h, Bool.false_eq_true, if_false, List.nil_append,
            List.forall_mem_cons, hiff, true_and, List.map_cons]
          exact fun hnew => congrArg _ (hids (hiff.mpr hnew))
        -- the resume is refused: its attempt is not fresh, and neither is its name
        all_goals simp [rehydrateAttempts, hv, htaken]

/-! ## One call -/

/-- **The appends of a call.**  A call stores the events of the appends it reaches that are
accepted, and no others. -/
theorem appends_next (c : RecoveryCall) :
    Appends s (accepted (c.attempts sha256 manifests s))
      ((recoveryMachine sha256 manifests).next s c) := by
  have hnext : (recoveryMachine sha256 manifests).next s c = (c.perform sha256 manifests s).2 := rfl
  rw [hnext]
  cases c with
  | start env task entrypoint =>
      rw [RecoveryCall.perform, Effect.state_map]
      exact appends_start env task entrypoint
  | resume env runId kind =>
      rw [RecoveryCall.perform, Effect.state_map]
      exact appends_resume env runId kind
  | cancel env runId reason who =>
      rw [RecoveryCall.perform, Effect.state_map]
      exact appends_cancel env runId reason who
  | request env runId kind summary cap expiresAt ref =>
      rw [RecoveryCall.perform, Effect.state_map]
      exact appends_request env runId kind summary cap expiresAt ref
  | resolve env id d =>
      rw [RecoveryCall.perform, Effect.state_map]
      exact appends_resolve env id d
  | rehydrateAll env pending =>
      rw [RecoveryCall.perform, Effect.state_map]
      exact appends_rehydrateAll env pending

/-- A call of the first two services goes for one event at most. -/
lemma attempts_eq_names (c : RecoveryCall) :
    (∃ env pending, c = .rehydrateAll env pending) ∨
      (c.attempts sha256 manifests s = (c.names sha256 manifests s).map (fun n => (s, n.id)) ∧
        (c.names sha256 manifests s).length ≤ 1) := by
  cases c with
  | rehydrateAll env pending => exact Or.inl ⟨env, pending, rfl⟩
  | start env task entrypoint =>
      refine Or.inr ⟨rfl, ?_⟩
      simp only [RecoveryCall.names]
      split
      · exact Nat.zero_le 1
      · split <;> simp
  | resume env runId kind =>
      refine Or.inr ⟨rfl, ?_⟩
      simp only [RecoveryCall.names]
      split <;> simp
  | cancel env runId reason who =>
      refine Or.inr ⟨rfl, ?_⟩
      simp only [RecoveryCall.names]
      split <;> simp
  | request env runId kind summary cap expiresAt ref =>
      refine Or.inr ⟨rfl, ?_⟩
      simp only [RecoveryCall.names]
      split
      · exact Nat.zero_le 1
      · split <;> simp
  | resolve env id d =>
      refine Or.inr ⟨rfl, ?_⟩
      simp only [RecoveryCall.names]
      split
      · exact Nat.zero_le 1
      · split <;> simp

/-- The appends of a call all have a free id exactly when the names it goes for are distinct and
none of them is stored; then they are these names. -/
theorem attempts_fresh_iff (c : RecoveryCall) :
    ((∀ a ∈ c.attempts sha256 manifests s, a.1.hasEvent a.2 = false) ↔
      (c.names sha256 manifests s).Nodup ∧ Fresh s (c.names sha256 manifests s)) ∧
    ((∀ a ∈ c.attempts sha256 manifests s, a.1.hasEvent a.2 = false) →
      (c.attempts sha256 manifests s).map Prod.snd =
        (c.names sha256 manifests s).map EventName.id) := by
  rcases attempts_eq_names c with ⟨env, pending, rfl⟩ | ⟨hattempts, hlength⟩
  · exact fresh_rehydrateAttempts env pending
  · have hnodup : (c.names sha256 manifests s).Nodup := by
      rcases hnames : c.names sha256 manifests s with _ | ⟨n, _ | ⟨m, ns⟩⟩
      · exact List.nodup_nil
      · exact List.nodup_singleton n
      · rw [hnames] at hlength
        exact absurd hlength (by simp)
    rw [hattempts]
    simp [hnodup, Fresh]

/-- A call whose appends are all accepted makes the names it goes for present, and no others. -/
theorem hasEvent_next_of_fresh (c : RecoveryCall)
    (h : ∀ a ∈ c.attempts sha256 manifests s, a.1.hasEvent a.2 = false) (n : EventName) :
    ((recoveryMachine sha256 manifests).next s c).hasEvent n.id = true ↔
      s.hasEvent n.id = true ∨ n ∈ c.names sha256 manifests s := by
  have hall : accepted (c.attempts sha256 manifests s) =
      (c.names sha256 manifests s).map EventName.id := by
    rw [accepted, List.filter_eq_self.mpr fun a ha => by rw [h a ha]; rfl,
      (attempts_fresh_iff c).2 h]
  rw [(appends_next c).hasEvent, hall, List.mem_map_of_injective EventName.id_injective]

end

end Waywarden

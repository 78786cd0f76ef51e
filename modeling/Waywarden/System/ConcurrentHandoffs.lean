import Waywarden.Lib.Machine
import Waywarden.Services.HandoffCheckpoints

/-!
# Concurrent handoff checkpoints

Any number of `record_handback_async` and `record_checkpoint` calls, on any instances that share one
event repository, interleaved at their awaits: keep the record and ask for the latest sequence
number, build the event, append it.  The helper counts its records when the call starts, the routine
when it builds the event.

A call that runs alone does what the method does as a whole (`run_helper`, `run_routine`).
-/

namespace Waywarden.ConcurrentHandoffs

open Machine

/-- An instance of one of the two classes. -/
inductive HandoffInstance
  | helper (helper : EAAHandoffHelper)
  | routine (routine : CodingHandoffRoutine)

namespace HandoffInstance

/-- `parent_run_id`. -/
def parentRunId : HandoffInstance → String
  | helper h => h.parentRunId
  | routine r => r.parentRunId

/-- The number an event id ends in, from the records before the call and those there are now. -/
def number : HandoffInstance → List HandbackRecord → List HandbackRecord → ℕ
  | helper _, before, _ => before.length + 1
  | routine _, _, records => records.length

/-- The event of a record. -/
def event : HandoffInstance → HandbackRecord → ℕ → ℕ → RunEvent
  | helper h, record, number, latest => h.handbackEvent record number latest
  | routine r, record, number, latest => r.checkpointEvent record number latest

end HandoffInstance

/-- A call: the instance it is made on, its arguments and what it reads from the clock. -/
structure HandoffCall (κ : Type) where
  on : κ
  checkpoint : String
  summary : String
  timestamp : Timestamp

/-- Where a call stands, with the records its instance had before it. -/
inductive Phase
  | started
  | reading (before : List HandbackRecord) (record : HandbackRecord)
      (valid : record.checkpoint ∈ validCheckpoints)
  | appending (before : List HandbackRecord) (event : RunEvent)
  | returned (event : RunEvent)
  | raised (before : List HandbackRecord) (event : Option RunEvent)

/-- The event a call has built. -/
def Phase.built : Phase → Option RunEvent
  | .appending _ event => some event
  | .returned event => some event
  | .raised _ event => event
  | _ => none

/-- The repository, the records of every instance and where every call stands. -/
structure World (κ ι : Type) where
  store : Store
  records : κ → List HandbackRecord
  phase : ι → Phase

variable {κ ι : Type}

/-- Every call is about to start. -/
def World.start (s : Store) (records : κ → List HandbackRecord) : World κ ι :=
  ⟨s, records, fun _ => .started⟩

/-- What a call does next, from where it stands and the store and the records it finds. -/
def advance (inst : HandoffInstance) (call : HandoffCall κ) (s : Store)
    (records : List HandbackRecord) : Phase → Store × List HandbackRecord × Phase
  | .started =>
      if valid : call.checkpoint ∈ validCheckpoints then
        let record : HandbackRecord := ⟨call.checkpoint, call.summary, call.timestamp⟩
        (s, records ++ [record], .reading records record valid)
      else (s, records, .raised records none)
  | .reading before record _ =>
      (s, records, .appending before
        (inst.event record (inst.number before records) (s.latestSeq inst.parentRunId)))
  | .appending before event =>
      match RunEventRepository.append event s with
      | (.ok _, s') => (s', records, .returned event)
      | (.error _, s') => (s', records, .raised before (some event))
  | .returned event => (s, records, .returned event)
  | .raised before event => (s, records, .raised before event)

section

variable [DecidableEq κ] [DecidableEq ι]

/-- Move a call of an instance on. -/
def World.goTo (w : World κ ι) (i : ι) (k : κ) (r : Store × List HandbackRecord × Phase) :
    World κ ι :=
  ⟨r.1, Function.update w.records k r.2.1, Function.update w.phase i r.2.2⟩

variable (w : World κ ι) (i : ι) (k : κ) (r : Store × List HandbackRecord × Phase)

@[simp] lemma store_goTo : (w.goTo i k r).store = r.1 := rfl

@[simp] lemma records_goTo_self : (w.goTo i k r).records k = r.2.1 := by
  simp [World.goTo]

@[simp] lemma phase_goTo_self : (w.goTo i k r).phase i = r.2.2 := by
  simp [World.goTo]

lemma phase_goTo_ne {j : ι} (h : j ≠ i) : (w.goTo i k r).phase j = w.phase j := by
  simp [World.goTo, h]

variable (insts : κ → HandoffInstance) (calls : ι → HandoffCall κ)

/-- The calls as a machine: a schedule says whose step comes next. -/
def handoffs : Machine (World κ ι) ι Unit :=
  ⟨fun w i =>
    let k := (calls i).on
    ((), w.goTo i k (advance (insts k) (calls i) w.store (w.records k) (w.phase i)))⟩

lemma next_handoffs : (handoffs insts calls).next w i =
    w.goTo i (calls i).on (advance (insts (calls i).on) (calls i) w.store
      (w.records (calls i).on) (w.phase i)) := rfl

/-! ## A call on its own -/

/-- The whole method, with what it leaves of the records and the store. -/
def HandoffInstance.call (inst : HandoffInstance) (env : Env) (checkpoint summary : String)
    (records : List HandbackRecord) (s : Store) : List HandbackRecord × Store :=
  match inst with
  | .helper h =>
      let p := (EAAHandoffHelper.recordHandbackAsync env checkpoint summary
        (⟨h, true, records⟩, s)).2
      (p.1.records, p.2)
  | .routine r =>
      let p := (CodingHandoffRoutine.recordCheckpoint env checkpoint summary
        (⟨r, true, records⟩, s)).2
      (p.1.records, p.2)

/-- An append beside the records of an instance leaves them alone. -/
lemma append_second {ι : Type} (recorder : Recorder ι) (event : RunEvent) (s : Store) :
    (Effect.second (RunEventRepository.append event) : RecorderSession ι RunEvent) (recorder, s) =
      ((RunEventRepository.append event s).1, recorder,
        (RunEventRepository.append event s).2) := rfl

/-- What follows an append does not change what it leaves. -/
lemma state_append_bind {ι α : Type} (recorder : Recorder ι) (event : RunEvent) (s : Store)
    (a : α) :
    ((do
      let _ ← Effect.second (RunEventRepository.append event)
      pure a : RecorderSession ι α) (recorder, s)).2 =
      (recorder, (RunEventRepository.append event s).2) := by
  have happend := append_second recorder event s
  rcases h : RunEventRepository.append event s with ⟨e | row, s'⟩
  · rw [h] at happend
    rw [Effect.bind_of_error happend]
  · rw [h] at happend
    rw [Effect.bind_of_ok happend]
    rfl

/-- A method keeps the record and appends its event. -/
lemma HandoffInstance.call_of_valid (inst : HandoffInstance) (env : Env) {checkpoint : String}
    (hvalid : checkpoint ∈ validCheckpoints) (summary : String) (records : List HandbackRecord)
    (s : Store) :
    inst.call env checkpoint summary records s =
      let record : HandbackRecord := ⟨checkpoint, summary, env.now 0⟩
      (records ++ [record], (RunEventRepository.append (inst.event record
        (inst.number records (records ++ [record])) (s.latestSeq inst.parentRunId)) s).2) := by
  cases inst with
  | helper h =>
      unfold HandoffInstance.call EAAHandoffHelper.recordHandbackAsync
      rw [if_neg (not_not_intro hvalid)]
      exact congrArg (fun p : Recorder EAAHandoffHelper × Store => (p.1.records, p.2))
        (state_append_bind ⟨h, true, records ++ [⟨checkpoint, summary, env.now 0⟩]⟩ _ s _)
  | routine r =>
      unfold HandoffInstance.call CodingHandoffRoutine.recordCheckpoint
      rw [if_neg (not_not_intro hvalid)]
      exact congrArg (fun p : Recorder CodingHandoffRoutine × Store => (p.1.records, p.2))
        (state_append_bind ⟨r, true, records ++ [⟨checkpoint, summary, env.now 0⟩]⟩ _ s _)

/-- A method refuses any other checkpoint. -/
lemma HandoffInstance.call_of_not_valid (inst : HandoffInstance) (env : Env) {checkpoint : String}
    (hvalid : checkpoint ∉ validCheckpoints) (summary : String) (records : List HandbackRecord)
    (s : Store) : inst.call env checkpoint summary records s = (records, s) := by
  cases inst with
  | helper h =>
      unfold HandoffInstance.call EAAHandoffHelper.recordHandbackAsync
      rw [if_pos hvalid]
      rfl
  | routine r =>
      unfold HandoffInstance.call CodingHandoffRoutine.recordCheckpoint
      rw [if_pos hvalid]
      rfl

/-- **A call that runs alone** leaves the records and the store as the whole method does. -/
theorem run_alone (env : Env) (hphase : w.phase i = .started)
    (hnow : env.now 0 = (calls i).timestamp) :
    let after := (handoffs insts calls).run w [i, i, i]
    (after.records (calls i).on, after.store) =
      (insts (calls i).on).call env (calls i).checkpoint (calls i).summary
        (w.records (calls i).on) w.store := by
  dsimp only
  by_cases hvalid : (calls i).checkpoint ∈ validCheckpoints
  · rw [HandoffInstance.call_of_valid _ _ hvalid]
    simp only [run_cons, run_nil, next_handoffs, hphase, advance, hvalid, dif_pos, phase_goTo_self,
      records_goTo_self, store_goTo, hnow]
    split <;> simp_all
  · rw [HandoffInstance.call_of_not_valid _ _ hvalid]
    simp only [run_cons, run_nil, next_handoffs, hphase, advance, hvalid, dif_neg,
      not_false_eq_true, phase_goTo_self, records_goTo_self, store_goTo]

end

end Waywarden.ConcurrentHandoffs

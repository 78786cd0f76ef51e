import Waywarden.Lib.Machine
import Waywarden.Services.TaskOutcomes

/-!
# Concurrent `create_task` calls

Any number of `create_task` calls on one store, interleaved at their awaits: look the base id up,
look the counted candidates up one by one, look the id up again inside `save`, insert or update
the row as that lookup said, emit the progress event.  An insert under an id that has been taken in
the meantime violates the primary key.

A call that runs alone does what `create_task` does as a whole (`run_alone`).
-/

namespace Waywarden.ConcurrentCreate

open Machine EATaskService

/-- Where a call stands. -/
inductive Phase
  | started
  | counting (counter : ℕ)
  | chosen (taskId : String)
  | looked (taskId : String) (task : Task) (existing : Bool)
  | saved (taskId : String) (task : Task)
  | returned (taskId : String) (task : Task)
  | raised (made : Option Task)

/-- The task a call has created. -/
def Phase.created : Phase → Option Task
  | .saved _ task | .returned _ task => some task
  | .raised made => made
  | _ => none

/-- The store and where every call stands. -/
structure World (ι : Type) where
  store : Store
  phase : ι → Phase

/-- The `INSERT` of a task that is not stored yet. -/
def insertTask (s : Store) (task : Task) : Store := { s with tasks := s.tasks ++ [task] }

/-- The `UPDATE` of a stored task. -/
def updateTask (s : Store) (task : Task) : Store :=
  { s with tasks := KeyedTable.update Task.key task.key (fun _ => task) s.tasks }

variable {ι : Type}

/-- Every call is about to start. -/
def World.start (s : Store) : World ι := ⟨s, fun _ => .started⟩

section

variable [DecidableEq ι]

/-- Move a call on, over a store. -/
def World.goTo (w : World ι) (i : ι) (s : Store) (p : Phase) : World ι :=
  ⟨s, Function.update w.phase i p⟩

@[simp] lemma phase_goTo_self (w : World ι) (i : ι) (s : Store) (p : Phase) :
    (w.goTo i s p).phase i = p := by
  simp [World.goTo]

lemma phase_goTo_ne (w : World ι) {i j : ι} (h : j ≠ i) (s : Store) (p : Phase) :
    (w.goTo i s p).phase j = w.phase j := by
  simp [World.goTo, h]

@[simp] lemma store_goTo (w : World ι) (i : ι) (s : Store) (p : Phase) :
    (w.goTo i s p).store = s := rfl

@[simp] lemma goTo_goTo (w : World ι) (i : ι) (s s' : Store) (p p' : Phase) :
    (w.goTo i s p).goTo i s' p' = w.goTo i s' p' := by
  simp [World.goTo]

/-- The base id of a request. -/
def baseId (req : CreateTaskRequest) : String := "task-" ++ req.sessionId

/-- The record a call builds once its id is chosen. -/
def buildTask (env : Env) (req : CreateTaskRequest) (taskId : String) : Except PyError Task :=
  Task.new taskId req.sessionId req.title req.objective .draft (env.now 0) (env.now 0)

/-- The progress event of a call. -/
def emitCreated (env : Env) (req : CreateTaskRequest) (taskId : String) : Session Unit :=
  emitProgress (orDefault req.runId (defaultRunId req.sessionId)) taskId
    (taskCreatedPayload taskId) (env.uuid4 0) (env.now 1)

/-- What a call does next, from where it stands and the store it finds: the store it leaves and
where it stands then. -/
def advance (env : Env) (req : CreateTaskRequest) (s : Store) : Phase → Store × Phase
  | .started => (s, if (s.task? (baseId req)).isSome then .counting 1 else .chosen (baseId req))
  | .counting counter =>
      let candidate := baseId req ++ "-" ++ toString counter
      (s, if (s.task? candidate).isSome then .counting (counter + 1) else .chosen candidate)
  | .chosen taskId =>
      match buildTask env req taskId with
      | .error _ => (s, .raised none)
      | .ok task => (s, .looked taskId task (s.task? task.id).isSome)
  | .looked taskId task true => (updateTask s task, .saved taskId task)
  | .looked taskId task false =>
      if (s.task? task.id).isSome then (s, .raised none)
      else (insertTask s task, .saved taskId task)
  | .saved taskId task =>
      match emitCreated env req taskId s with
      | (.ok _, s') => (s', .returned taskId task)
      | (.error _, s') => (s', .raised (some task))
  | .returned taskId task => (s, .returned taskId task)
  | .raised made => (s, .raised made)

/-- The calls as a machine: a schedule says whose step comes next. -/
def creators (calls : ι → Env × CreateTaskRequest) : Machine (World ι) ι Unit :=
  ⟨fun w i =>
    let r := advance (calls i).1 (calls i).2 w.store (w.phase i)
    ((), w.goTo i r.1 r.2)⟩

variable (calls : ι → Env × CreateTaskRequest)

lemma next_creators (w : World ι) (i : ι) :
    (creators calls).next w i =
      w.goTo i (advance (calls i).1 (calls i).2 w.store (w.phase i)).1
        (advance (calls i).1 (calls i).2 w.store (w.phase i)).2 := rfl

/-! ## The two writes -/

lemma insertTask_eq {s : Store} {task : Task} (h : s.task? task.id.val = none) :
    insertTask s task = s.putTask task := by
  have hnone : KeyedTable.get Task.key task.key s.tasks = none := h
  simp only [insertTask, Store.putTask, KeyedTable.upsert, hnone]

lemma updateTask_eq {s : Store} {task : Task} (h : (s.task? task.id.val).isSome = true) :
    updateTask s task = s.putTask task := by
  obtain ⟨row, hrow⟩ := Option.isSome_iff_exists.mp h
  have hsome : KeyedTable.get Task.key task.key s.tasks = some row := hrow
  simp only [updateTask, Store.putTask, KeyedTable.upsert, hsome]

/-- The event of a call leaves the tasks alone. -/
lemma tasks_emitCreated (s : Store) (env : Env) (req : CreateTaskRequest) (taskId : String) :
    (emitCreated env req taskId s).2.tasks = s.tasks :=
  (wp_emitProgress s _ _ _ _ _).state.1

/-! ## A call on its own -/

/-- The counter loop finds its candidate in as many look-ups as the sequential loop has rounds. -/
lemma run_counting {w : World ι} {i : ι} {id : String} {fuel counter : ℕ}
    (hphase : w.phase i = .counting counter)
    (h : freeCandidate w.store (baseId (calls i).2) fuel counter = some id) :
    ∃ n ≤ fuel, (creators calls).run w (List.replicate n i) = w.goTo i w.store (.chosen id) := by
  induction fuel generalizing w counter with
  | zero => exact absurd h (by simp [freeCandidate])
  | succ fuel ih =>
      rw [freeCandidate] at h
      split at h
      · rename_i htaken
        have hnext : (creators calls).next w i =
            w.goTo i w.store (.counting (counter + 1)) := by
          rw [next_creators, hphase]
          simp only [advance, htaken, if_true]
        obtain ⟨n, hn, hrun⟩ := ih (w := w.goTo i w.store (.counting (counter + 1)))
          (phase_goTo_self ..) h
        refine ⟨n + 1, by omega, ?_⟩
        rw [List.replicate_succ, run_cons, hnext, hrun, goTo_goTo, store_goTo]
      · rename_i hfree
        obtain rfl := Option.some.inj h
        refine ⟨1, by omega, ?_⟩
        rw [List.replicate_one, run_cons, run_nil, next_creators, hphase]
        simp only [advance, hfree, if_false, Bool.false_eq_true]

/-- **The search ends.**  A call that runs alone settles on its id after the look-up of the base
id and at most one look-up more than there are tasks. -/
theorem run_search {w : World ι} {i : ι} (hphase : w.phase i = .started) :
    ∃ n ≤ w.store.tasks.length + 1, (creators calls).run w (List.replicate (n + 1) i) =
      w.goTo i w.store (.chosen (chosenId w.store (calls i).2)) := by
  by_cases htaken : (w.store.task? (baseId (calls i).2)).isSome = true
  · have hnext : (creators calls).next w i = w.goTo i w.store (.counting 1) := by
      rw [next_creators, hphase]
      simp only [advance, htaken, if_true]
    obtain ⟨id, hid⟩ := Option.isSome_iff_exists.mp
      (freeCandidate_isSome w.store (baseId (calls i).2))
    have hchosen : chosenId w.store (calls i).2 = id := by
      show (if (w.store.task? (baseId (calls i).2)).isSome then
        (freeCandidate w.store (baseId (calls i).2) (w.store.tasks.length + 1) 1).getD _
        else _) = id
      rw [if_pos htaken, hid, Option.getD_some]
    obtain ⟨n, hn, hrun⟩ := run_counting calls (w := w.goTo i w.store (.counting 1)) (i := i)
      (phase_goTo_self ..) hid
    refine ⟨n, hn, ?_⟩
    rw [List.replicate_succ, run_cons, hnext, hrun, goTo_goTo, store_goTo, hchosen]
  · have hchosen : chosenId w.store (calls i).2 = baseId (calls i).2 := if_neg htaken
    refine ⟨0, by omega, ?_⟩
    rw [List.replicate_one, run_cons, run_nil, next_creators, hphase, hchosen]
    simp only [advance, htaken, if_false, Bool.false_eq_true]

/-- Once the id is chosen, three steps finish the call. -/
lemma run_chosen {w : World ι} {i : ι} {id : String} (hphase : w.phase i = .chosen id) :
    ((creators calls).run w (List.replicate 3 i)).store =
      match buildTask (calls i).1 (calls i).2 id with
      | .error _ => w.store
      | .ok task => (emitCreated (calls i).1 (calls i).2 id (w.store.putTask task)).2 := by
  have hreplicate : List.replicate 3 i = [i, i, i] := rfl
  rw [hreplicate]
  cases hbuilt : buildTask (calls i).1 (calls i).2 id with
  | error e => simp [next_creators, hphase, advance, hbuilt]
  | ok task =>
      have hlook : (creators calls).next w i = w.goTo i w.store
          (.looked id task (w.store.task? task.id).isSome) := by
        rw [next_creators, hphase]
        simp only [advance, hbuilt]
      have hwrite : (creators calls).next ((creators calls).next w i) i =
          w.goTo i (w.store.putTask task) (.saved id task) := by
        rw [hlook, next_creators, phase_goTo_self, goTo_goTo, store_goTo]
        cases hsome : (w.store.task? task.id).isSome with
        | true => rw [advance, updateTask_eq hsome]
        | false =>
            simp only [advance, hsome, if_false, Bool.false_eq_true]
            rw [insertTask_eq (by simpa using hsome)]
      rw [run_cons, run_cons, run_cons, run_nil, hwrite, next_creators, phase_goTo_self, store_goTo,
        store_goTo]
      simp only [advance]
      rcases emitCreated (calls i).1 (calls i).2 id (w.store.putTask task) with ⟨_ | _, s'⟩ <;> rfl

/-- **A call that runs alone** leaves the store as `create_task` does. -/
theorem run_alone {w : World ι} {i : ι} (hphase : w.phase i = .started) :
    ∃ n ≤ w.store.tasks.length + 1,
      ((creators calls).run w (List.replicate (n + 1 + 3) i)).store =
        (createTask (calls i).1 (calls i).2 w.store).2 := by
  obtain ⟨n, hn, hrun⟩ := run_search calls hphase
  refine ⟨n, hn, ?_⟩
  rw [List.replicate_add, run_append, hrun, run_chosen calls (phase_goTo_self ..), store_goTo]
  have hchosen : freshTaskId ("task-" ++ (calls i).2.sessionId) w.store =
      (.ok (chosenId w.store (calls i).2), w.store) := rfl
  have hsave : ∀ task, TaskRepository.save task w.store = (.ok task, w.store.putTask task) :=
    fun _ => rfl
  rw [createTask, Effect.bind_of_ok hchosen]
  cases hbuilt : buildTask (calls i).1 (calls i).2 (chosenId w.store (calls i).2) with
  | error e =>
      have hraise : (Effect.ofExcept (Task.new (chosenId w.store (calls i).2)
          (calls i).2.sessionId (calls i).2.title (calls i).2.objective .draft
          ((calls i).1.now 0) ((calls i).1.now 0)) : Session Task) w.store =
          (.error e, w.store) := Prod.ext hbuilt rfl
      rw [Effect.bind_of_error hraise]
  | ok task =>
      have hreturn : (Effect.ofExcept (Task.new (chosenId w.store (calls i).2)
          (calls i).2.sessionId (calls i).2.title (calls i).2.objective .draft
          ((calls i).1.now 0) ((calls i).1.now 0)) : Session Task) w.store =
          (.ok task, w.store) := Prod.ext hbuilt rfl
      rw [Effect.bind_of_ok hreturn, Effect.bind_of_ok (hsave task)]
      -- what follows the event is the reply
      exact (Effect.state_map _ (emitCreated (calls i).1 (calls i).2
        (chosenId w.store (calls i).2)) (w.store.putTask task)).symm

end

end Waywarden.ConcurrentCreate

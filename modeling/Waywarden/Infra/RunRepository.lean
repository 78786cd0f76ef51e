import Waywarden.Infra.Store

/-!
# `RunRepositoryImpl`

`waywarden.infra.db.repositories.run_repo`: insert a run, read it back through the `Run`
constructor, and overwrite its state and terminal sequence number.
-/

namespace Waywarden.RunRepository

/-- `create`: the primary key refuses a second row with the same id. -/
def create (run : Run) : Session Run := do
  match ← Effect.gets fun s : Store => s.run? run.id with
  | some _ => Effect.raise ⟨.integrityError, "runs_pkey", [run.id]⟩
  | none => do
      Effect.modify fun s : Store => s.addRun run.toRunRow
      pure run

/-- `get`. -/
def get (runId : String) : Session (Option Run) := do
  match ← Effect.gets fun s : Store => s.run? runId with
  | none => pure none
  | some row => do
      let run ← Effect.ofExcept (Run.ofRow row)
      pure (some run)

/-- `update_state`: the row is rewritten before it is read back, so an exception from the
reading leaves the new state stored. -/
def updateState (now : Timestamp) (runId : String) (newState : RunState)
    (terminalSeq : Option ℕ) : Session Run := do
  Effect.modify fun s : Store => s.setRunState runId newState now terminalSeq
  match ← get runId with
  | none => Effect.raise ⟨.runtimeError, "Run % disappeared after update_state", [runId]⟩
  | some run => pure run

variable {E : PyError → Store → Prop} {s : Store}

lemma wp_create {run : Run} {Q : Run → Store → Prop} :
    Effect.wp (create run) Q E s ↔
      ((s.run? run.id).isSome = true →
        E ⟨.integrityError, "runs_pkey", [run.id]⟩ s) ∧
      (s.run? run.id = none → Q run (s.addRun run.toRunRow)) := by
  rw [create, Effect.wp_bind, Effect.wp_gets]
  cases s.run? run.id with
  | none => simp
  | some row => simp

lemma create_of_taken {run : Run} (h : (s.run? run.id).isSome = true) :
    create run s = (.error ⟨.integrityError, "runs_pkey", [run.id]⟩, s) := by
  obtain ⟨row, hrow⟩ := Option.isSome_iff_exists.mp h
  have hread : (Effect.gets fun s : Store => s.run? run.id : Session (Option RunRow)) s =
      (.ok (s.run? run.id), s) := rfl
  unfold create
  rw [Effect.bind_of_ok hread, hrow]
  rfl

lemma create_of_fresh {run : Run} (h : s.run? run.id = none) :
    create run s = (.ok run, s.addRun run.toRunRow) := by
  have hread : (Effect.gets fun s : Store => s.run? run.id : Session (Option RunRow)) s =
      (.ok (s.run? run.id), s) := rfl
  unfold create
  rw [Effect.bind_of_ok hread, h]
  rfl

/-- `get` reads the row of the run and checks it. -/
lemma get_eq (runId : String) (s : Store) : get runId s =
    (match s.run? runId with
      | none => .ok none
      | some row => (Run.ofRow row).map some, s) := by
  have hread : (Effect.gets fun s : Store => s.run? runId : Session (Option RunRow)) s =
      (.ok (s.run? runId), s) := rfl
  unfold get
  rw [Effect.bind_of_ok hread]
  cases s.run? runId with
  | none => rfl
  | some row => cases hrow : Run.ofRow row <;> simp only [hrow] <;> rfl

/-- `get` changes nothing; what it returns is the stored row. -/
lemma wp_get {runId : String} {Q : Option Run → Store → Prop}
    (hnone : s.run? runId = none → Q none s)
    (hsome : ∀ run : Run, s.run? runId = some run.toRunRow → Q (some run) s)
    (herr : ∀ e, E e s) : Effect.wp (get runId) Q E s := by
  rw [get, Effect.wp_bind, Effect.wp_gets]
  cases hrow : s.run? runId with
  | none => exact (Effect.wp_pure none).mpr (hnone hrow)
  | some row =>
      rw [Effect.wp_bind, Effect.wp_ofExcept]
      refine ⟨fun run hrun => (Effect.wp_pure _).mpr (hsome run ?_), fun e _ => herr e⟩
      rw [hrow, toRunRow_of_ofRow hrun]

/-- A row that is a run's is read back as that run. -/
lemma wp_get_of_run {runId : String} {run : Run} {Q : Option Run → Store → Prop}
    (h : s.run? runId = some run.toRunRow) :
    Effect.wp (get runId) Q E s ↔ Q (some run) s := by
  rw [get, Effect.wp_bind, Effect.wp_gets, h]
  simp only [Run.ofRow_toRunRow, Effect.wp_bind, Effect.wp_ofExcept_ok, Effect.wp_pure]

/-- `update_state` of a stored run rewrites the row; for an unknown run it raises and changes
nothing that can be read. -/
lemma wp_updateState {now : Timestamp} {runId : String} {newState : RunState}
    {terminalSeq : Option ℕ} {Q : Run → Store → Prop}
    (hok : ∀ run : Run, run.id.val = runId → run.state = newState →
      (s.run? runId).isSome = true → Q run (s.setRunState runId newState now terminalSeq))
    (herr : ∀ e, E e (s.setRunState runId newState now terminalSeq)) :
    Effect.wp (updateState now runId newState terminalSeq) Q E s := by
  rw [updateState, Effect.wp_bind, Effect.wp_modify, Effect.wp_bind]
  refine wp_get (fun _ => (Effect.wp_raise _).mpr (herr _)) (fun run hrun => ?_) herr
  rw [Store.run?_setRunState_self] at hrun
  obtain ⟨row, hrow, heq⟩ := Option.map_eq_some_iff.mp hrun
  have hid : row.id.val = runId := Store.id_of_run? hrow
  refine (Effect.wp_pure run).mpr (hok run ?_ ?_ (by rw [hrow]; rfl))
  · rw [← heq]
    exact hid
  · rw [← heq]
    rfl

end Waywarden.RunRepository

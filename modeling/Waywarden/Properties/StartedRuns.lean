import Waywarden.Infra.WorkspaceManifestRepository
import Waywarden.System.RunMachine

/-!
# What a started run has

`start` is documented to persist the manifest, create the run's row and append `run.created`.  The
statement that would persist the manifest is not there: the service is given the repository and
never uses it.  The other two writes are not undone when the second one is refused, which it is
when something was recorded under the id of the run before its row existed.

`startsWhole_iff` puts the two together.  A start is whole exactly when it is refused by the row of
an earlier start, or when someone else has stored the manifest and nothing else.
-/

namespace Waywarden.RunLifecycleService

/-- `start` on the three repositories of the service. -/
def startOn (env : Env) (task : Task) (entrypoint : Entrypoint) :
    Effect (List ManifestRow × Store) PyError Run :=
  Effect.second (start env task entrypoint)

/-- The event describes the row: the fields of its payload are the row's. -/
def Describes (e : RunEvent) (row : RunRow) : Prop :=
  e.payload = [("instance_id", .str row.instanceId), ("profile", .str row.profile),
    ("policy_preset", .str row.policyPreset.name), ("manifest_ref", .str row.manifestRef),
    ("entrypoint", .str row.entrypoint.name)]

/-- The run is established: its row is stored in the state `created`, its log is one `run.created`
event that describes the row, and it has a manifest. -/
structure Established (run : Run) (manifests : List ManifestRow) (s : Store) : Prop where
  row : s.run? run.id = some run.toRunRow
  created : run.state = .created
  log : ∃ e, s.log run.id = [e] ∧ e.seq = 1 ∧ e.type = .runCreated ∧ Describes e run.toRunRow
  manifest : ∃ row ∈ manifests, row.runId = run.id.val

/-- All or nothing: a start that raises leaves the three tables as they were, and one that returns
has established the run. -/
def StartsWhole (env : Env) (task : Task) (entrypoint : Entrypoint) (manifests : List ManifestRow)
    (s : Store) : Prop :=
  Effect.wp (startOn env task entrypoint) (fun run p => Established run p.1 p.2)
    (fun _ p => p.1 = manifests ∧ p.2.runs = s.runs ∧ p.2.runEvents = s.runEvents) (manifests, s)

variable {env : Env} {task : Task} {entrypoint : Entrypoint} {manifests : List ManifestRow}
  {s : Store} {run : Run}

/-! ## The outcomes of a start -/

/-- The `Run` constructor accepts what `start` builds of a task. -/
lemma newRun_returns (task : Task) (entrypoint : Entrypoint) (now : Timestamp) :
    ∃ run, newRun task entrypoint now = .ok run := by
  have hid : strip ("run-" ++ task.id.val) ≠ "" := strip_ne_empty (c := 'r') (by simp) (by decide)
  have href : strip ("manifest://" ++ task.id.val ++ "/default") ≠ "" := by
    rw [String.append_assoc]
    exact strip_ne_empty (c := 'm') (by simp) (by decide)
  have hinst : strip "inst-default" ≠ "" := by decide +kernel
  unfold newRun Run.new Run.ofRow
  simp only [requireNonEmptyText, requireOptionalText, dif_neg hid, dif_neg href, dif_neg hinst,
    bind, Except.bind, Except.map]
  simp [task.id.property.1, task.id.property.2, task.sessionId.property.1,
    task.sessionId.property.2]

/-- `start` after the run is built. -/
lemma start_of_newRun (hrun : newRun task entrypoint (env.now 0) = .ok run) :
    start env task entrypoint s = (do
      let run ← RunRepository.create run
      let lastSeq ← RunEventRepository.latestSeq run.id
      if lastSeq ≠ 0 then
        Effect.raise ⟨.assertionError, "Expected seq=0 for new run, got %", [toString lastSeq]⟩
      else do
        let _ ← RunEventRepository.append (createdEvent run (env.now 0))
        pure run : Session Run) s := by
  have hnew : (Effect.ofExcept (newRun task entrypoint (env.now 0)) : Session Run) s =
      (.ok run, s) := by
    rw [hrun]
    rfl
  unfold start
  rw [Effect.bind_of_ok hnew]

/-- `start` is refused by an earlier row. -/
lemma start_of_taken (hrun : newRun task entrypoint (env.now 0) = .ok run)
    (htaken : (s.run? run.id).isSome = true) :
    ∃ e, start env task entrypoint s = (.error e, s) := by
  rw [start_of_newRun hrun, Effect.bind_of_error (RunRepository.create_of_taken htaken)]
  exact ⟨_, rfl⟩

/-- `start` leaves the row behind when the run's log is not empty or its event's id is taken. -/
lemma start_of_recorded (hrun : newRun task entrypoint (env.now 0) = .ok run)
    (hnone : s.run? run.id = none)
    (hrecorded : s.latestSeq run.id ≠ 0 ∨ s.hasEvent (createdEvent run (env.now 0)).id = true) :
    ∃ e, start env task entrypoint s = (.error e, s.addRun run.toRunRow) := by
  have hlatest : RunEventRepository.latestSeq run.id (s.addRun run.toRunRow) =
      (.ok (s.latestSeq run.id), s.addRun run.toRunRow) := rfl
  rw [start_of_newRun hrun, Effect.bind_of_ok (RunRepository.create_of_fresh hnone),
    Effect.bind_of_ok hlatest]
  by_cases hzero : s.latestSeq run.id = 0
  · have htaken := hrecorded.resolve_left (not_not.mpr hzero)
    rw [if_neg (not_not.mpr hzero)]
    rcases RunEventRepository.append_cases (createdEvent run (env.now 0))
        (s.addRun run.toRunRow) with ⟨-, _, h⟩ | ⟨-, -, h⟩ | ⟨-, hfresh, -⟩
    · exact ⟨_, Effect.bind_of_error h⟩
    · exact ⟨_, Effect.bind_of_error h⟩
    · exact absurd (htaken.symm.trans hfresh) (by simp)
  · rw [if_pos hzero]
    exact ⟨_, rfl⟩

/-- The manifests are left as they are. -/
lemma startOn_of_start {reply : Except PyError Run} {t : Store}
    (h : start env task entrypoint s = (reply, t)) :
    startOn env task entrypoint (manifests, s) = (reply, manifests, t) := by
  unfold startOn Effect.second
  rw [h]

/-! ## When a start is whole -/

/-- A row more is a change. -/
lemma runs_addRun_ne (row : RunRow) : (s.addRun row).runs ≠ s.runs := by
  intro h
  have hlength := congrArg List.length h
  unfold Store.addRun at hlength
  rw [List.length_append, List.length_singleton] at hlength
  omega

/-- What a start that returns leaves of the run: all but the manifest. -/
lemma established_iff (hstate : run.state = .created) (hnone : s.run? run.id = none)
    (hempty : s.latestSeq run.id = 0) :
    Established run manifests
        ((s.addRun run.toRunRow).push (s.stamp (createdEvent run (env.now 0)))) ↔
      ∃ row ∈ manifests, row.runId = run.id.val := by
  constructor
  · exact Established.manifest
  · intro hmanifest
    refine ⟨?_, hstate, ⟨s.stamp (createdEvent run (env.now 0)), ?_, ?_, rfl, rfl⟩, hmanifest⟩
    · rw [Store.run?_push]
      exact Store.run?_addRun_self s run.toRunRow hnone
    · have hself : (s.stamp (createdEvent run (env.now 0))).runId = run.id.val := rfl
      rw [Store.log_push, if_pos hself, Store.log_addRun, Store.log_eq_nil_of_latestSeq hempty,
        List.nil_append]
    · have hself : (createdEvent run (env.now 0)).runId = run.id.val := rfl
      rw [Store.stamp_seq, hself, hempty]

/-- **When a start is whole.** -/
theorem startsWhole_iff (env : Env) (task : Task) (entrypoint : Entrypoint)
    (manifests : List ManifestRow) (s : Store) :
    StartsWhole env task entrypoint manifests s ↔
      (s.run? (runIdOf task)).isSome = true ∨
        (s.log (runIdOf task) = [] ∧
          s.hasEvent ("evt-" ++ (runIdOf task).val ++ "-created") = false ∧
          ∃ row ∈ manifests, row.runId = (runIdOf task).val) := by
  obtain ⟨run, hrun⟩ := newRun_returns task entrypoint (env.now 0)
  obtain ⟨hid, hstate, -⟩ := fields_of_newRun hrun
  have hevent : (createdEvent run (env.now 0)).id = "evt-" ++ run.id.val ++ "-created" := rfl
  have hempty : s.latestSeq run.id = 0 ↔ s.log run.id = [] := by
    constructor
    · exact Store.log_eq_nil_of_latestSeq
    · intro h
      unfold Store.latestSeq
      rw [h]
      rfl
  rw [← hid, ← hevent, ← hempty]
  unfold StartsWhole
  cases hrow : s.run? run.id with
  | some row =>
      obtain ⟨e, h⟩ := start_of_taken hrun (Option.isSome_iff_exists.mpr ⟨row, hrow⟩)
      rw [Effect.wp_of_error (startOn_of_start h)]
      exact iff_of_true ⟨rfl, rfl, rfl⟩ (Or.inl rfl)
  | none =>
      by_cases hfresh : s.latestSeq run.id = 0 ∧
          s.hasEvent (createdEvent run (env.now 0)).id = false
      · obtain ⟨hzero, hfree⟩ := hfresh
        have h : start env task entrypoint s =
            (.ok run, (s.addRun run.toRunRow).push (s.stamp (createdEvent run (env.now 0)))) :=
          Effect.eq_ok_of_wp ((wp_start_of_fresh hrun hrow hzero hfree).mpr ⟨rfl, rfl⟩)
        rw [Effect.wp_of_ok (startOn_of_start h), established_iff hstate hrow hzero]
        simp [hzero, hfree]
      · have hrecorded : s.latestSeq run.id ≠ 0 ∨
            s.hasEvent (createdEvent run (env.now 0)).id = true := by
          rw [not_and_or, Bool.not_eq_false] at hfresh
          exact hfresh
        obtain ⟨e, h⟩ := start_of_recorded hrun hrow hrecorded
        rw [Effect.wp_of_error (startOn_of_start h)]
        refine iff_of_false (fun h => runs_addRun_ne _ h.2.1) ?_
        rintro (h | ⟨hzero, hfree, -⟩)
        · exact absurd h (by simp)
        · exact hfresh ⟨hzero, hfree⟩

/-- The first start of a task on an empty database returns a run without a manifest. -/
theorem not_startsWhole_first_run : ¬ StartsWhole stillEnv sampleTask .api [] Store.empty := by
  intro h
  obtain ⟨run, p, hrun⟩ := Effect.exists_of_isOk (x := startOn stillEnv sampleTask .api)
    (s := (([], Store.empty) : List ManifestRow × Store)) (by decide +kernel)
  obtain ⟨row, hmem, -⟩ := (h.of_ok hrun).manifest
  have hnone : p.1 = [] := (congrArg (fun r => r.2.1) hrun).symm
  rw [hnone] at hmem
  exact absurd hmem List.not_mem_nil

end Waywarden.RunLifecycleService

import Waywarden.Infra.WorkspaceManifestRepository
import Waywarden.Services.RunLifecycle

/-!
# `ResumeService`

`waywarden.services.resume`: at startup `rehydrate_all` goes through the pending entries of a
configuration file.  An entry whose run is unknown or terminal is skipped; one whose checkpoint
belongs to another run, or whose manifest no longer has the recorded hash, raises and ends the
loop; every other one is resumed through the lifecycle service, and when that fails a
`run.progress` event records the blocked resume.

The digest of `content_hash` is a parameter, since its code is not part of the repository.  The
manifest table is an argument: nothing here writes it.

What an entry's checks say depends on the `runs` row and on the manifests only, and the loop
writes neither; so `verdict` is a function of the store before the loop.
-/

namespace Waywarden

/-- `_PendingRunConfig`. -/
structure PendingRunConfig where
  runId : String
  manifestHash : Option String
  checkpointRunId : Option String
  deriving DecidableEq, Repr

/-- `content_hash`, with the digest function as a parameter. -/
def contentHash (sha256 : ByteArray → String) (body : String) : String := sha256 body.toUTF8

namespace ResumeService

/-! ## The checks of one entry -/

/-- `_serialize_manifest_body`, on the dictionary of a manifest. -/
def serializeManifestBody (manifest : Json) : String := Json.dumps true (Json.sortKeys manifest)

/-- The body `_compute_actual_manifest_hash` digests: the empty string when no manifest is
stored. -/
def actualManifestBody (manifests : List ManifestRow) (runId : String) :
    Except PyError String := do
  match ← WorkspaceManifestRepository.get manifests runId with
  | some manifest => .ok (serializeManifestBody manifest)
  | none => .ok ""

/-- `_compute_actual_manifest_hash`. -/
def computeActualManifestHash (sha256 : ByteArray → String) (manifests : List ManifestRow)
    (runId : String) : Except PyError String :=
  (actualManifestBody manifests runId).map (contentHash sha256)

/-- `CrossRunCheckpointError`. -/
def crossRunCheckpointError (checkpointRunId runId : String) : PyError :=
  ⟨.crossRunCheckpointError, "cross-run checkpoint: checkpoint % does not match target run %",
    [checkpointRunId, runId]⟩

/-- `ManifestChangedWithoutRevisionError`. -/
def manifestChangedError (runId : String) : PyError :=
  ⟨.manifestChangedWithoutRevisionError,
    "resume blocked: manifest for run % changed without a new run revision", [runId]⟩

section

variable (sha256 : ByteArray → String) (manifests : List ManifestRow)

/-- What the checks say of an entry, given the row found under its run id: `none` to skip it, or
the run to resume. -/
def verdict (row : Option RunRow) (pending : PendingRunConfig) : Except PyError (Option Run) := do
  match row with
  | none => .ok none
  | some row => do
      let existing ← Run.ofRow row
      if existing.state.isTerminal then .ok none
      else
        match pending.checkpointRunId.filter fun id => id ≠ pending.runId with
        | some id => .error (crossRunCheckpointError id pending.runId)
        | none =>
            match pending.manifestHash with
            | none => .ok (some existing)
            | some expected => do
                let actual ← computeActualManifestHash sha256 manifests pending.runId
                if actual ≠ expected then .error (manifestChangedError pending.runId)
                else .ok (some existing)

/-- Steps 1 and 2 of the loop body. -/
def check (pending : PendingRunConfig) : Session (Option Run) := do
  let row ← Effect.gets fun s : Store => s.run? pending.runId
  Effect.ofExcept (verdict sha256 manifests row pending)

/-! ## The loop -/

/-- The `run.progress` event of a blocked resume. -/
def resumeBlockedEvent (runId : String) (latest : ℕ) (now : Timestamp) : RunEvent where
  id := "evt-" ++ runId ++ "-resume-blocked"
  runId := runId
  seq := latest + 1
  type := .runProgress
  payload := [("phase", .str "execute"), ("milestone", .str "resume_blocked")]
  timestamp := now
  causation := some (.ofAction "resume_blocked")
  actor := some systemActor
  seq_pos := Nat.succ_pos latest
  payload_ok := rfl

/-- `_emit_resume_blocked`; the reason is not stored. -/
def emitResumeBlocked (runId : String) (now : Timestamp) : Session Unit := do
  let latest ← RunEventRepository.latestSeq runId
  let _ ← RunEventRepository.append (resumeBlockedEvent runId latest now)
  pure ()

/-- One round of the loop: the run resumed, if any.  Whatever the lifecycle service raises is
caught and recorded. -/
def rehydrate (env : Env) (pending : PendingRunConfig) : Session (Option Run) := do
  match ← check sha256 manifests pending with
  | none => pure none
  | some existing => do
      match ← Effect.attempt
          (RunLifecycleService.resume env pending.runId "worker_recovery") with
      | .ok _ => pure (some existing)
      | .error _ => do
          emitResumeBlocked pending.runId (env.now 1)
          pure none

/-- `rehydrate_all`, on the entries of the configuration file. -/
def rehydrateAll (env : Env) : List PendingRunConfig → Session (List Run)
  | [] => pure []
  | pending :: rest => do
      let resumed ← rehydrate sha256 manifests env pending
      let others ← rehydrateAll (env.later 2) rest
      pure (resumed.toList ++ others)

end

/-! ## What one round does -/

/-- The id of the event of a resume. -/
def resumedId (runId : String) : String := "evt-" ++ runId ++ "-resumed"

/-- The id of the event of a blocked resume. -/
def blockedId (runId : String) : String := "evt-" ++ runId ++ "-resume-blocked"

/-- The `run.resumed` event a store would give a run under recovery. -/
def recoveryEvent (s : Store) (runId : String) (now : Timestamp) : RunEvent :=
  s.stamp (RunLifecycleService.resumedEvent runId "worker_recovery" (s.latestSeq runId) now)

/-- The event a store would give a run whose recovery is blocked. -/
def blockedEvent (s : Store) (runId : String) (now : Timestamp) : RunEvent :=
  s.stamp (resumeBlockedEvent runId (s.latestSeq runId) now)

section

variable {sha256 : ByteArray → String} {manifests : List ManifestRow} {env : Env}
  {pending : PendingRunConfig} {s : Store}

/-- An entry that passes its checks names a run that can be read back and is not terminal. -/
lemma run_of_verdict {row : Option RunRow} {run : Run}
    (h : verdict sha256 manifests row pending = .ok (some run)) :
    row = some run.toRunRow ∧ run.state.isTerminal = false := by
  cases row with
  | none => exact absurd h (by simp [verdict])
  | some row =>
      simp only [verdict, Effect.except_bind_eq_ok] at h
      obtain ⟨existing, hexisting, h⟩ := h
      have hrow : existing.toRunRow = row := toRunRow_of_ofRow hexisting
      split at h
      · exact absurd h (by simp)
      · rename_i hgoes
        rw [Bool.not_eq_true] at hgoes
        have hrun : existing = run := by
          split at h
          · exact absurd h (by simp)
          · split at h
            · exact Option.some.inj (Except.ok.inj h)
            · rw [Effect.except_bind_eq_ok] at h
              obtain ⟨actual, -, h⟩ := h
              split at h
              · exact absurd h (by simp)
              · exact Option.some.inj (Except.ok.inj h)
        subst hrun
        exact ⟨by rw [hrow], hgoes⟩

/-- The resume of an entry that passed its checks, when the event's id is free. -/
lemma attempt_resume_of_fresh {runId : String} {run : Run}
    (hrow : s.run? runId = some run.toRunRow) (hopen : s.settled runId = false)
    (hfresh : s.hasEvent (resumedId runId) = false) :
    Effect.attempt (RunLifecycleService.resume env runId "worker_recovery") s =
      (.ok (.ok (RunLifecycleService.resumedEvent runId "worker_recovery" (s.latestSeq runId)
        (env.now 0))), s.push (recoveryEvent s runId (env.now 0))) := by
  apply Effect.eq_ok_of_wp
  rw [Effect.wp_attempt, RunLifecycleService.wp_resume_of_open (by decide) hrow hopen]
  refine ⟨fun _ => ⟨rfl, rfl⟩, fun htaken => ?_⟩
  exact absurd (htaken.symm.trans hfresh) (by simp)

/-- The resume of an entry that passed its checks, when the event's id is taken. -/
lemma attempt_resume_of_taken {runId : String} {run : Run}
    (hrow : s.run? runId = some run.toRunRow) (hopen : s.settled runId = false)
    (htaken : s.hasEvent (resumedId runId) = true) :
    Effect.attempt (RunLifecycleService.resume env runId "worker_recovery") s =
      (.ok (.error ⟨.integrityError, "run_events_pkey", [resumedId runId]⟩), s) := by
  apply Effect.eq_ok_of_wp
  rw [Effect.wp_attempt, RunLifecycleService.wp_resume_of_open (by decide) hrow hopen]
  refine ⟨fun hfresh => ?_, fun _ => ⟨rfl, rfl⟩⟩
  exact absurd (hfresh.symm.trans htaken) (by simp)

/-- Recording a blocked resume of an open run. -/
lemma emitResumeBlocked_cases {runId : String} (now : Timestamp)
    (hopen : s.settled runId = false) :
    (s.hasEvent (blockedId runId) = false ∧
      emitResumeBlocked runId now s = (.ok (), s.push (blockedEvent s runId now))) ∨
    (s.hasEvent (blockedId runId) = true ∧
      emitResumeBlocked runId now s =
        (.error ⟨.integrityError, "run_events_pkey", [blockedId runId]⟩, s)) := by
  have hlatest : RunEventRepository.latestSeq runId s = (.ok (s.latestSeq runId), s) := rfl
  rw [emitResumeBlocked, Effect.bind_of_ok hlatest]
  rcases RunEventRepository.append_cases (resumeBlockedEvent runId (s.latestSeq runId) now) s with
    ⟨hsettled, -⟩ | ⟨-, htaken, h⟩ | ⟨-, hfresh, h⟩
  · exact absurd (hsettled.symm.trans hopen) (by simp)
  · exact Or.inr ⟨htaken, Effect.bind_of_error h⟩
  · exact Or.inl ⟨hfresh, Effect.bind_of_ok h⟩

/-- **What one round does**, exactly: the entry is skipped, or its checks raise, or its run is
resumed, or the blocked resume is recorded, or recording it is refused by the primary key. -/
theorem rehydrate_cases (sha256 : ByteArray → String) (manifests : List ManifestRow) (env : Env)
    (pending : PendingRunConfig) (s : Store) :
    (verdict sha256 manifests (s.run? pending.runId) pending = .ok none ∧
      rehydrate sha256 manifests env pending s = (.ok none, s)) ∨
    (∃ e, verdict sha256 manifests (s.run? pending.runId) pending = .error e ∧
      rehydrate sha256 manifests env pending s = (.error e, s)) ∨
    ∃ run, verdict sha256 manifests (s.run? pending.runId) pending = .ok (some run) ∧
      ((s.hasEvent (resumedId pending.runId) = false ∧
          rehydrate sha256 manifests env pending s =
            (.ok (some run), s.push (recoveryEvent s pending.runId (env.now 0)))) ∨
        (s.hasEvent (resumedId pending.runId) = true ∧
          s.hasEvent (blockedId pending.runId) = false ∧
          rehydrate sha256 manifests env pending s =
            (.ok none, s.push (blockedEvent s pending.runId (env.now 1)))) ∨
        (s.hasEvent (resumedId pending.runId) = true ∧
          s.hasEvent (blockedId pending.runId) = true ∧
          rehydrate sha256 manifests env pending s =
            (.error ⟨.integrityError, "run_events_pkey", [blockedId pending.runId]⟩, s))) := by
  have hcheck : check sha256 manifests pending s =
      (verdict sha256 manifests (s.run? pending.runId) pending, s) := rfl
  cases hv : verdict sha256 manifests (s.run? pending.runId) pending with
  | error e =>
      rw [hv] at hcheck
      exact Or.inr (Or.inl ⟨e, rfl, Effect.bind_of_error hcheck⟩)
  | ok found =>
      rw [hv] at hcheck
      cases found with
      | none => exact Or.inl ⟨rfl, by rw [rehydrate, Effect.bind_of_ok hcheck]; rfl⟩
      | some run =>
          obtain ⟨hrow, hgoes⟩ := run_of_verdict hv
          have hopen : s.settled pending.runId = false := by
            rw [Store.settled, hrow]
            exact hgoes
          refine Or.inr (Or.inr ⟨run, rfl, ?_⟩)
          rw [rehydrate, Effect.bind_of_ok hcheck]
          cases hresumed : s.hasEvent (resumedId pending.runId) with
          | false =>
              have hresume := @attempt_resume_of_fresh env s _ _ hrow hopen hresumed
              exact Or.inl ⟨rfl, Effect.bind_of_ok hresume⟩
          | true =>
              have hresume := @attempt_resume_of_taken env s _ _ hrow hopen hresumed
              simp only [Effect.bind_of_ok hresume]
              rcases emitResumeBlocked_cases (env.now 1) hopen with ⟨hfree, h⟩ | ⟨htaken, h⟩
              · exact Or.inr (Or.inl ⟨trivial, hfree, Effect.bind_of_ok h⟩)
              · exact Or.inr (Or.inr ⟨trivial, htaken, Effect.bind_of_error h⟩)

end

end ResumeService

end Waywarden

import Waywarden.System.RecoveryLoop
import Waywarden.System.RunMachine

/-!
# Crash recovery at every restart

A restart runs the recovery loop over the pending entries of the configuration file.  It recovers
when it returns, reports every listed run, and appends one `run.resumed` event for each.

The loop names the event it appends after the run alone, so a run has one recovery to spend, and
one record of a blocked one.  The first restart recovers when the resumes are new and no run is
listed more often than these two allow; a second restart over the same entries finds the ids
taken (`recovered_restarts_iff`).
-/

namespace Waywarden

open ResumeService Machine

section

variable (sha256 : ByteArray → String) (manifests : List ManifestRow)

/-- The entry names a stored run that can be read back and is not terminal; its manifest hash is
absent or matches, and its checkpoint is absent or its own. -/
structure Recoverable (s : Store) (p : PendingRunConfig) : Prop where
  run : ∃ run : Run, s.run? p.runId = some run.toRunRow ∧ run.state.isTerminal = false
  manifest : ∀ expected, p.manifestHash = some expected →
    computeActualManifestHash sha256 manifests p.runId = .ok expected
  checkpoint : ∀ id, p.checkpointRunId = some id → id = p.runId

/-- One restart after the other, over the same entries. -/
def restarts (pending : List PendingRunConfig) :
    Machine Store Env (Except PyError (List Run)) :=
  ⟨fun s env => rehydrateAll sha256 manifests env pending s⟩

end

/-- Whether an event is a `run.resumed` of the recovery loop. -/
def RunEvent.isRecovery (e : RunEvent) : Bool :=
  decide (e.type = .runResumed) &&
    match e.payload.get "resume_kind" with
    | some (.str kind) => kind == "worker_recovery"
    | _ => false

/-- How often a run's log says it was recovered. -/
def Store.recoveries (s : Store) (runId : String) : ℕ := (s.log runId).countP RunEvent.isRecovery

/-- How often a run is listed. -/
def listed (ps : List PendingRunConfig) (runId : String) : ℕ :=
  (ps.map PendingRunConfig.runId).count runId

/-- The restart returns, and for every listed run it reports the run and appends one recovery
event. -/
def Recovered (pending : List PendingRunConfig)
    (t : Transition Store Env (Except PyError (List Run))) : Prop :=
  ∃ runs, t.reply = .ok runs ∧ ∀ p ∈ pending,
    (∃ run ∈ runs, run.id.val = p.runId) ∧
      t.after.recoveries p.runId = t.before.recoveries p.runId + 1

section

variable {sha256 : ByteArray → String} {manifests : List ManifestRow} {s : Store}

/-- A recoverable entry passes its checks. -/
lemma Recoverable.verdict {p : PendingRunConfig} (h : Recoverable sha256 manifests s p) :
    ∃ run : Run, run.id.val = p.runId ∧
      verdict sha256 manifests (s.run? p.runId) p = .ok (some run) := by
  obtain ⟨run, hrow, hgoes⟩ := h.run
  refine ⟨run, Store.id_of_run? hrow, ?_⟩
  have hown : (p.checkpointRunId.filter fun id => id ≠ p.runId) = none := by
    rw [Option.filter_eq_none_iff]
    intro id hid
    simp [h.checkpoint id hid]
  cases hhash : p.manifestHash with
  | none =>
      simp only [ResumeService.verdict, hrow, Run.ofRow_toRunRow, hgoes, hown, hhash, bind,
        Except.bind, Bool.false_eq_true, if_false]
  | some expected =>
      simp only [ResumeService.verdict, hrow, Run.ofRow_toRunRow, hgoes, hown, hhash, bind,
        h.manifest expected hhash, Except.bind, Bool.false_eq_true, if_false, ne_eq,
        not_true_eq_false]

lemma recoveries_push (e : RunEvent) (runId : String) :
    (s.push e).recoveries runId =
      s.recoveries runId + if e.runId = runId ∧ e.isRecovery = true then 1 else 0 := by
  rw [Store.recoveries, Store.log_push, Store.recoveries]
  by_cases hrun : e.runId = runId
  · simp [hrun, List.countP_append, List.countP_singleton]
  · simp [hrun]

lemma listed_cons (p : PendingRunConfig) (ps : List PendingRunConfig) (runId : String) :
    listed (p :: ps) runId = listed ps runId + if p.runId = runId then 1 else 0 := by
  simp [listed, List.count_cons]

/-! ## One restart -/

/-- What a loop that returns leaves: the runs whose resume was new are reported and have one
recovery more, and the ids of all resumes are taken. -/
structure Leaves (s : Store) (ps : List PendingRunConfig) (runs : List Run) (t : Store) : Prop where
  reported : ∀ r, (∃ run ∈ runs, run.id.val = r) ↔
    r ∈ ps.map PendingRunConfig.runId ∧ s.hasEvent (resumedId r) = false
  resumed : ∀ r, t.recoveries r = s.recoveries r +
    if r ∈ ps.map PendingRunConfig.runId ∧ s.hasEvent (resumedId r) = false then 1 else 0
  taken : ∀ r ∈ ps.map PendingRunConfig.runId, t.hasEvent (resumedId r) = true
  kept : ∀ id, s.hasEvent id = true → t.hasEvent id = true
  rows : ∀ r, t.run? r = s.run? r

/-- A loop that goes on after a round leaves what the round leaves, and what the rest does. -/
lemma Leaves.cons {p : PendingRunConfig} {ps : List PendingRunConfig} {run : Run} {e : RunEvent}
    {found : Option Run} {runs : List Run} {t : Store} (hs : Spends s p.runId run e found)
    (hrun : run.id.val = p.runId) (h : Leaves (s.push e) ps runs t) :
    Leaves s (p :: ps) (found.toList ++ runs) t := by
  have hfirst : ∀ r, ((∃ run ∈ found.toList, run.id.val = r) ↔
        r = p.runId ∧ s.hasEvent (resumedId r) = false) ∧
      (s.push e).recoveries r = s.recoveries r +
        if r = p.runId ∧ s.hasEvent (resumedId r) = false then 1 else 0 := by
    intro r
    rw [recoveries_push, hs.own]
    rcases hs.outcome with ⟨hfree, rfl, now, rfl⟩ | ⟨htaken, rfl, now, rfl⟩
    · have hrecovers : (recoveryEvent s p.runId now).isRecovery = true := rfl
      by_cases hr : r = p.runId
      · simp [hr, hfree, hrun, hrecovers]
      · simp [hr, hrun, Ne.symm hr]
    · have hblocked : (blockedEvent s p.runId now).isRecovery = false := rfl
      by_cases hr : r = p.runId
      · simp [hr, htaken, hblocked]
      · simp [hr, hblocked]
  constructor
  · intro r
    have hsplit : (∃ run ∈ found.toList ++ runs, run.id.val = r) ↔
        (∃ run ∈ found.toList, run.id.val = r) ∨ ∃ run ∈ runs, run.id.val = r := by
      simp only [List.mem_append, or_and_right, exists_or]
    rw [hsplit, (hfirst r).1, h.reported r, List.map_cons, List.mem_cons]
    by_cases hr : r = p.runId
    · subst hr
      simp [hs.taken]
    · simp [hr, hs.resumed_frame r hr]
  · intro r
    rw [h.resumed r, (hfirst r).2]
    simp only [List.map_cons, List.mem_cons]
    by_cases hr : r = p.runId
    · subst hr
      simp [hs.taken]
    · simp [hr, hs.resumed_frame r hr]
  · intro r hr
    rcases List.mem_cons.mp hr with rfl | hr
    · exact h.kept _ hs.taken
    · exact h.taken r hr
  · intro id hid
    exact h.kept id (by rw [Store.hasEvent_push, hid, Bool.true_or])
  · exact h.rows

/-- **One restart.**  Over recoverable entries the loop raises when some run is listed more often
than it has event ids to spend, and returns when none is. -/
theorem rehydrateAll_recoverable (env : Env) (ps : List PendingRunConfig)
    (hrec : ∀ p ∈ ps, Recoverable sha256 manifests s p) :
    (∃ r e t, rehydrateAll sha256 manifests env ps s = (.error e, t) ∧ credit s r < listed ps r) ∨
    ∃ runs t, rehydrateAll sha256 manifests env ps s = (.ok runs, t) ∧
      (∀ r, listed ps r ≤ credit s r) ∧ Leaves s ps runs t := by
  induction ps generalizing env s with
  | nil =>
      refine Or.inr ⟨[], s, rfl, fun r => Nat.zero_le _, ?_⟩
      exact ⟨by simp, by simp, by simp, fun _ h => h, fun _ => rfl⟩
  | cons p ps ih =>
      obtain ⟨run, hrun, hv⟩ := (hrec p List.mem_cons_self).verdict
      rcases @rehydrate_admitted sha256 manifests env p s run hv with
        ⟨hcredit, e, h⟩ | ⟨e, found, h, hs⟩
      · refine Or.inl ⟨p.runId, e, s, rehydrateAll_of_error h, ?_⟩
        rw [hcredit, listed_cons, if_pos rfl]
        exact Nat.succ_pos _
      · have hcost : ∀ r, credit s r = credit (s.push e) r + if p.runId = r then 1 else 0 := by
          intro r
          by_cases hr : p.runId = r
          · subst hr
            rw [if_pos rfl, hs.cost]
          · rw [if_neg hr, hs.credit_frame r (Ne.symm hr), Nat.add_zero]
        have hrest : ∀ q ∈ ps, Recoverable sha256 manifests (s.push e) q := by
          intro q hq
          obtain ⟨hrow, hmanifest, hcheckpoint⟩ := hrec q (List.mem_cons_of_mem p hq)
          exact ⟨hrow, hmanifest, hcheckpoint⟩
        rcases ih (env.later 2) hrest with ⟨r, err, t, h', hmore⟩ | ⟨runs, t, h', hfits, hleaves⟩
        · refine Or.inl ⟨r, err, t, rehydrateAll_of_later_error h h', ?_⟩
          rw [hcost, listed_cons]
          exact Nat.add_lt_add_right hmore _
        · refine Or.inr ⟨_, t, rehydrateAll_of_ok h h', fun r => ?_, hleaves.cons hs hrun⟩
          rw [hcost, listed_cons]
          exact Nat.add_le_add_right (hfits r) _

/-- **When a restart recovers.**  Every listed run must have its resume still to come, and be
listed no more often than it has event ids to spend. -/
theorem recovered_iff (env : Env) {pending : List PendingRunConfig}
    (hrec : ∀ p ∈ pending, Recoverable sha256 manifests s p) :
    Recovered pending ((restarts sha256 manifests pending).transition s env) ↔
      ∀ p ∈ pending, s.hasEvent (resumedId p.runId) = false ∧
        listed pending p.runId ≤ if s.hasEvent (blockedId p.runId) then 1 else 2 := by
  have hmem : ∀ p ∈ pending, p.runId ∈ pending.map PendingRunConfig.runId :=
    fun p hp => List.mem_map.mpr ⟨p, hp, rfl⟩
  have hcredit : ∀ r, s.hasEvent (resumedId r) = false →
      credit s r = if s.hasEvent (blockedId r) then 1 else 2 := by
    intro r hfree
    rw [credit, hfree]
    cases s.hasEvent (blockedId r) <;> rfl
  rcases rehydrateAll_recoverable env pending hrec with
    ⟨r, e, t, h, hmore⟩ | ⟨runs, t, h, hfits, hleaves⟩
  · constructor
    · rintro ⟨runs, hreply, -⟩
      have herror : (rehydrateAll sha256 manifests env pending s).1 = .ok runs := hreply
      rw [h] at herror
      exact absurd herror (by simp)
    · intro hall
      have hr : r ∈ pending.map PendingRunConfig.runId := List.count_pos_iff.mp (by
        show 0 < listed pending r
        omega)
      obtain ⟨p, hp, rfl⟩ := List.mem_map.mp hr
      obtain ⟨hfree, hle⟩ := hall p hp
      rw [hcredit p.runId hfree] at hmore
      omega
  · have hreply : (rehydrateAll sha256 manifests env pending s).1 = .ok runs := by rw [h]
    have hafter : (rehydrateAll sha256 manifests env pending s).2 = t := by rw [h]
    constructor
    · rintro ⟨runs', hreply', hrecovered⟩ p hp
      obtain rfl : runs' = runs := Except.ok.inj (hreply'.symm.trans hreply)
      have hfree := ((hleaves.reported p.runId).mp (hrecovered p hp).1).2
      exact ⟨hfree, hcredit p.runId hfree ▸ hfits p.runId⟩
    · intro hall
      refine ⟨runs, hreply, fun p hp => ⟨?_, ?_⟩⟩
      · exact (hleaves.reported p.runId).mpr ⟨hmem p hp, (hall p hp).1⟩
      · show (rehydrateAll sha256 manifests env pending s).2.recoveries p.runId =
          s.recoveries p.runId + 1
        rw [hafter, hleaves.resumed p.runId, if_pos ⟨hmem p hp, (hall p hp).1⟩]

/-! ## Restart after restart -/

/-- A restart that recovers leaves its entries recoverable, and the resumes of its runs taken. -/
lemma after_recovered {env : Env} {pending : List PendingRunConfig}
    (hrec : ∀ p ∈ pending, Recoverable sha256 manifests s p)
    (h : Recovered pending ((restarts sha256 manifests pending).transition s env)) :
    ∀ p ∈ pending,
      Recoverable sha256 manifests ((restarts sha256 manifests pending).next s env) p ∧
      ((restarts sha256 manifests pending).next s env).hasEvent (resumedId p.runId) = true := by
  intro p hp
  show Recoverable sha256 manifests (rehydrateAll sha256 manifests env pending s).2 p ∧
    (rehydrateAll sha256 manifests env pending s).2.hasEvent (resumedId p.runId) = true
  rcases rehydrateAll_recoverable env pending hrec with
    ⟨_, e, t, hraised, -⟩ | ⟨runs, t, hreturned, -, hleaves⟩
  · obtain ⟨runs, hreply, -⟩ := h
    have herror : (rehydrateAll sha256 manifests env pending s).1 = .ok runs := hreply
    rw [hraised] at herror
    exact absurd herror (by simp)
  · rw [hreturned]
    obtain ⟨hrow, hmanifest, hcheckpoint⟩ := hrec p hp
    rw [← hleaves.rows p.runId] at hrow
    exact ⟨⟨hrow, hmanifest, hcheckpoint⟩, hleaves.taken _ (List.mem_map.mpr ⟨p, hp, rfl⟩)⟩

/-- **Recovery at every restart.**  A positive number of restarts over recoverable entries all
recover if and only if nothing is listed, or there is one restart, no listed run has been resumed
before, and none is listed more often than its event ids allow: twice, or once where the record
of a blocked resume is taken. -/
theorem recovered_restarts_iff (env : Env) (envs : List Env) {pending : List PendingRunConfig}
    (hrec : ∀ p ∈ pending, Recoverable sha256 manifests s p) :
    (∀ t ∈ (restarts sha256 manifests pending).trace s (env :: envs), Recovered pending t) ↔
      pending = [] ∨ (envs = [] ∧ ∀ p ∈ pending, s.hasEvent (resumedId p.runId) = false ∧
        listed pending p.runId ≤ if s.hasEvent (blockedId p.runId) then 1 else 2) := by
  rw [trace_cons, List.forall_mem_cons]
  constructor
  · rintro ⟨hfirst, hrest⟩
    cases pending with
    | nil => exact Or.inl rfl
    | cons p ps =>
        refine Or.inr ⟨?_, (recovered_iff env hrec).mp hfirst⟩
        have hafter := after_recovered hrec hfirst
        cases envs with
        | nil => rfl
        | cons env' envs =>
            -- the second restart finds the resume of the first entry taken
            have hsecond := hrest _ (List.mem_cons_self)
            have hfree := (recovered_iff env' fun q hq => (hafter q hq).1).mp hsecond p
              List.mem_cons_self
            exact absurd (hfree.1.symm.trans (hafter p List.mem_cons_self).2) (by simp)
  · rintro (rfl | ⟨rfl, hall⟩)
    · have hempty : ∀ t ∈ (restarts sha256 manifests []).trace s (env :: envs), Recovered [] t := by
        intro t ht
        obtain ⟨pre, post, hsplit⟩ := List.append_of_mem ht
        obtain ⟨_, _, _, -, -, rfl, -⟩ := trace_mid _ hsplit
        exact ⟨[], rfl, nofun⟩
      rw [trace_cons, List.forall_mem_cons] at hempty
      exact hempty
    · exact ⟨(recovered_iff env hrec).mpr hall, nofun⟩

end

/-- A second task. -/
def otherTask : Task := { sampleTask with id := ⟨"t2", by decide⟩ }

/-- The store after both tasks were started. -/
def bothStarted : Store :=
  (RunLifecycleService.start stillEnv otherTask .api
    (RunLifecycleService.start stillEnv sampleTask .api Store.empty).2).2

/-- A manifest that grants nothing, for the sample run. -/
def sampleManifest : WorkspaceManifest where
  runId := "run-t1"
  inputs := []
  writablePaths := []
  outputs := []
  networkPolicy := ⟨.deny, [], []⟩
  toolPolicy := { preset := .ask, rules := [] }
  secretScope := { mode := .none, allowedSecretRefs := [], mountEnv := [] }
  snapshotPolicy := {}

/-- The SHA-256 digest of the canonical text of the sample manifest. -/
def sampleHash : String := "d73467845bc2fd3896df401d00251e695fa7d0c42ead363c879c3a5bcd402cad"

/-- The table with the sample manifest saved. -/
def sampleTable : List ManifestRow :=
  [⟨"m1", "run-t1", WorkspaceManifestRepository.bodyOf sampleManifest⟩]

/-- The entry of the sample run, with the digest of its manifest. -/
def sampleEntry : PendingRunConfig := ⟨"run-t1", some sampleHash, none⟩

lemma saved_sampleManifest : WorkspaceManifestRepository.Saved sampleTable sampleManifest :=
  ⟨⟨"m1", "run-t1", WorkspaceManifestRepository.bodyOf sampleManifest⟩, rfl, rfl⟩

lemma computeActualManifestHash_sample :
    computeActualManifestHash (fun _ => sampleHash) sampleTable "run-t1" = .ok sampleHash := by
  have hget := WorkspaceManifestRepository.get_of_saved saved_sampleManifest
  rw [show sampleManifest.runId = "run-t1" from rfl] at hget
  rw [computeActualManifestHash, actualManifestBody, hget]
  rfl

/-- Both runs: the one with the digest of its manifest, the other with its own checkpoint. -/
def bothRecoverable : List PendingRunConfig := [sampleEntry, ⟨"run-t2", none, some "run-t2"⟩]

lemma recoverable_both : ∀ p ∈ bothRecoverable,
    Recoverable (fun _ => sampleHash) sampleTable bothStarted p := by
  have hrow : ∀ p ∈ bothRecoverable, ∃ run : Run,
      bothStarted.run? p.runId = some run.toRunRow ∧ run.state.isTerminal = false := by
    rw [bothRecoverable, List.forall_mem_cons, List.forall_mem_singleton]
    exact ⟨⟨_, rfl, rfl⟩, ⟨_, rfl, rfl⟩⟩
  intro p hp
  refine ⟨hrow p hp, fun expected hexpected => ?_, fun id hid => ?_⟩
  · rcases List.mem_cons.mp hp with rfl | hp
    · obtain rfl : sampleHash = expected := Option.some.inj hexpected
      exact computeActualManifestHash_sample
    · obtain rfl := List.mem_singleton.mp hp
      exact absurd hexpected (by simp)
  · rcases List.mem_cons.mp hp with rfl | hp
    · exact absurd hid (by simp [sampleEntry])
    · obtain rfl := List.mem_singleton.mp hp
      exact (Option.some.inj hid).symm

/-- The first restart after the start recovers both runs. -/
theorem recovered_restarts_once :
    Recovered bothRecoverable
      ((restarts (fun _ => sampleHash) sampleTable bothRecoverable).transition bothStarted
        stillEnv) := by
  have hroom : ∀ p ∈ bothRecoverable, bothStarted.hasEvent (resumedId p.runId) = false ∧
      listed bothRecoverable p.runId ≤
        if bothStarted.hasEvent (blockedId p.runId) then 1 else 2 := by
    decide
  exact (recovered_restarts_iff stillEnv [] recoverable_both).mpr (Or.inr ⟨rfl, hroom⟩) _
    List.mem_cons_self

/-- The started run, listed without a manifest or a checkpoint. -/
def startedEntry : PendingRunConfig := ⟨"run-t1", none, none⟩

lemma recoverable_startedEntry : ∀ p ∈ [startedEntry],
    Recoverable (fun _ => "") [] startedStore p := by
  intro p hp
  obtain rfl := List.mem_singleton.mp hp
  exact ⟨⟨sampleRun, rfl, rfl⟩, nofun, nofun⟩

/-- The second restart reports no run. -/
theorem not_recovered_second_restart :
    (∀ p ∈ [startedEntry], Recoverable (fun _ => "") [] startedStore p) ∧
      ¬ ∀ t ∈ (restarts (fun _ => "") [] [startedEntry]).trace startedStore [stillEnv, stillEnv],
        Recovered [startedEntry] t := by
  refine ⟨recoverable_startedEntry, fun h => ?_⟩
  obtain ⟨runs, hreply, hall⟩ := h _ (List.mem_cons_of_mem _ List.mem_cons_self)
  obtain ⟨⟨run, hrun, -⟩, -⟩ := hall _ List.mem_cons_self
  have hnone : runs = [] := (Except.ok.inj hreply).symm
  rw [hnone] at hrun
  exact absurd hrun List.not_mem_nil

end Waywarden

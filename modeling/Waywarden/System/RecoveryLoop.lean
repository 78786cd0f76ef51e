import Waywarden.System.RecoveryMachine

/-!
# The recovery loop, round by round and run by run

`rounds` lists what the loop does with each entry it comes to, and the loop is no more than these
rounds (`rehydrateAll_eq_replay`).

A round of the loop that passes its checks spends one of two event ids of its run: the id of the
resume, or the id of the blocked resume once the first is taken.  `credit` counts those still
free.  A round without credit raises, and no round touches the ids or the log of another run
(`rehydrate_admitted`).
-/

namespace Waywarden.ResumeService

lemma resumedId_inj {r r' : String} : resumedId r = resumedId r' ↔ r = r' := by
  have hname : ∀ r, resumedId r = EventName.id ⟨.resumed, r⟩ := fun _ => rfl
  rw [hname, hname, EventName.id_injective.eq_iff, EventName.mk.injEq]
  exact and_iff_right rfl

lemma blockedId_inj {r r' : String} : blockedId r = blockedId r' ↔ r = r' := by
  have hname : ∀ r, blockedId r = EventName.id ⟨.resumeBlocked, r⟩ := fun _ => rfl
  rw [hname, hname, EventName.id_injective.eq_iff, EventName.mk.injEq]
  exact and_iff_right rfl

lemma resumedId_ne_blockedId (r r' : String) : resumedId r ≠ blockedId r' := by
  intro h
  have hnames : (⟨.resumed, r⟩ : EventName) = ⟨.resumeBlocked, r'⟩ := EventName.id_injective h
  exact absurd (congrArg EventName.verb hnames) (by simp)

/-- How many of the two event ids of a run's recovery are free. -/
def credit (s : Store) (runId : String) : ℕ :=
  (if s.hasEvent (resumedId runId) then 0 else 1) + if s.hasEvent (blockedId runId) then 0 else 1

/-- What a round that stores the event `e` and reports `found` does to the ids: it costs the run of
its entry one credit, and the other runs nothing. -/
structure Spends (s : Store) (runId : String) (run : Run) (e : RunEvent) (found : Option Run) :
    Prop where
  own : e.runId = runId
  cost : credit s runId = credit (s.push e) runId + 1
  taken : (s.push e).hasEvent (resumedId runId) = true
  credit_frame : ∀ r, r ≠ runId → credit (s.push e) r = credit s r
  resumed_frame : ∀ r, r ≠ runId → (s.push e).hasEvent (resumedId r) = s.hasEvent (resumedId r)
  outcome : (s.hasEvent (resumedId runId) = false ∧ found = some run ∧
      ∃ now, e = recoveryEvent s runId now) ∨
    (s.hasEvent (resumedId runId) = true ∧ found = none ∧ ∃ now, e = blockedEvent s runId now)

section

variable {sha256 : ByteArray → String} {manifests : List ManifestRow} {env : Env}
  {p : PendingRunConfig} {s : Store} {run : Run}

/-- Storing an event about one run leaves the ids of the other runs as they are. -/
lemma hasEvent_push_ne {e : RunEvent} {r r' : String} (he : e.id = resumedId r ∨ e.id = blockedId r)
    (hne : r ≠ r') : (s.push e).hasEvent (resumedId r') = s.hasEvent (resumedId r') ∧
      (s.push e).hasEvent (blockedId r') = s.hasEvent (blockedId r') := by
  rw [Store.hasEvent_push, Store.hasEvent_push]
  have hresumed : e.id ≠ resumedId r' := by
    rcases he with he | he
    · rw [he, ne_eq, resumedId_inj]
      exact hne
    · rw [he]
      exact (resumedId_ne_blockedId r' r).symm
  have hblocked : e.id ≠ blockedId r' := by
    rcases he with he | he
    · rw [he]
      exact resumedId_ne_blockedId r r'
    · rw [he, ne_eq, blockedId_inj]
      exact hne
  simp [hresumed, hblocked]

/-- Storing the recovery event of a run takes its id and no other. -/
lemma hasEvent_push_recovery (runId : String) (now : Timestamp) :
    (s.push (recoveryEvent s runId now)).hasEvent (resumedId runId) = true ∧
      (s.push (recoveryEvent s runId now)).hasEvent (blockedId runId) =
        s.hasEvent (blockedId runId) := by
  have hid : (recoveryEvent s runId now).id = resumedId runId := rfl
  rw [Store.hasEvent_push, Store.hasEvent_push, hid]
  simp [resumedId_ne_blockedId]

/-- Storing the blocked event of a run takes its id and no other. -/
lemma hasEvent_push_blocked (runId : String) (now : Timestamp) :
    (s.push (blockedEvent s runId now)).hasEvent (blockedId runId) = true ∧
      (s.push (blockedEvent s runId now)).hasEvent (resumedId runId) =
        s.hasEvent (resumedId runId) := by
  have hid : (blockedEvent s runId now).id = blockedId runId := rfl
  rw [Store.hasEvent_push, Store.hasEvent_push, hid]
  simp [(resumedId_ne_blockedId _ _).symm]

/-- **A round that passed its checks.**  Without credit it raises and changes nothing; otherwise
it stores one event in the log of its run. -/
theorem rehydrate_admitted
    (hv : verdict sha256 manifests (s.run? p.runId) p = .ok (some run)) :
    (credit s p.runId = 0 ∧ ∃ e, rehydrate sha256 manifests env p s = (.error e, s)) ∨
    ∃ e found, rehydrate sha256 manifests env p s = (.ok found, s.push e) ∧
      Spends s p.runId run e found := by
  have hframe : ∀ e : RunEvent, e.id = resumedId p.runId ∨ e.id = blockedId p.runId →
      (∀ r, r ≠ p.runId → credit (s.push e) r = credit s r) ∧
        ∀ r, r ≠ p.runId → (s.push e).hasEvent (resumedId r) = s.hasEvent (resumedId r) := by
    intro e he
    refine ⟨fun r hr => ?_, fun r hr => (hasEvent_push_ne he hr.symm).1⟩
    obtain ⟨hresumed, hblocked⟩ := @hasEvent_push_ne s e p.runId r he hr.symm
    rw [credit, hresumed, hblocked, credit]
  rcases rehydrate_cases sha256 manifests env p s with ⟨hnone, -⟩ | ⟨_, herr, -⟩ | ⟨run', hok, h⟩
  · exact absurd (hnone.symm.trans hv) (by simp)
  · exact absurd (herr.symm.trans hv) (by simp)
  · obtain rfl : run' = run := Option.some.inj (Except.ok.inj (hok.symm.trans hv))
    rcases h with ⟨hfree, h⟩ | ⟨htaken, hfree, h⟩ | ⟨htaken, htaken', h⟩
    · obtain ⟨hnow, hsame⟩ := @hasEvent_push_recovery s p.runId (env.now 0)
      obtain ⟨hcredit, hids⟩ := hframe (recoveryEvent s p.runId (env.now 0)) (Or.inl rfl)
      refine Or.inr ⟨_, _, h, rfl, ?_, hnow, hcredit, hids, Or.inl ⟨hfree, rfl, _, rfl⟩⟩
      rw [credit, credit, hfree, hnow, hsame]
      simp only [Bool.false_eq_true, if_false, if_true]
      omega
    · obtain ⟨hnow, hsame⟩ := @hasEvent_push_blocked s p.runId (env.now 1)
      obtain ⟨hcredit, hids⟩ := hframe (blockedEvent s p.runId (env.now 1)) (Or.inr rfl)
      refine Or.inr ⟨_, _, h, rfl, ?_, by rw [hsame, htaken], hcredit, hids,
        Or.inr ⟨htaken, rfl, _, rfl⟩⟩
      rw [credit, credit, htaken, hfree, hnow, hsame, htaken]
      rfl
    · refine Or.inl ⟨?_, _, h⟩
      rw [credit, htaken, htaken']
      rfl

/-- The loop goes on after a round that returned. -/
lemma rehydrateAll_of_ok {ps : List PendingRunConfig} {found : Option Run} {s' t : Store}
    {runs : List Run} (h : rehydrate sha256 manifests env p s = (.ok found, s'))
    (hrest : rehydrateAll sha256 manifests (env.later 2) ps s' = (.ok runs, t)) :
    rehydrateAll sha256 manifests env (p :: ps) s = (.ok (found.toList ++ runs), t) := by
  rw [rehydrateAll, Effect.bind_of_ok h, Effect.bind_of_ok hrest]
  rfl

/-- A later round that raises ends the loop. -/
lemma rehydrateAll_of_later_error {ps : List PendingRunConfig} {found : Option Run} {s' t : Store}
    {err : PyError} (h : rehydrate sha256 manifests env p s = (.ok found, s'))
    (hrest : rehydrateAll sha256 manifests (env.later 2) ps s' = (.error err, t)) :
    rehydrateAll sha256 manifests env (p :: ps) s = (.error err, t) := by
  rw [rehydrateAll, Effect.bind_of_ok h, Effect.bind_of_error hrest]

end

/-! ## The rounds of a loop -/

/-- What the loop did with one entry. -/
structure Round where
  entry : PendingRunConfig
  before : Store
  outcome : Except PyError (Option Run)
  after : Store

/-- The events a round appended. -/
def Round.appended (r : Round) : List RunEvent :=
  r.after.runEvents.drop r.before.runEvents.length

section

variable (sha256 : ByteArray → String) (manifests : List ManifestRow)

/-- The rounds of the loop over a list: one for each entry, up to the first that raises. -/
def rounds (env : Env) : List PendingRunConfig → Store → List Round
  | [], _ => []
  | p :: ps, s =>
      match rehydrate sha256 manifests env p s with
      | (.ok found, s') => ⟨p, s, .ok found, s'⟩ :: rounds (env.later 2) ps s'
      | (.error e, s') => [⟨p, s, .error e, s'⟩]

/-- The rounds put together again. -/
def replay (s : Store) : List Round → Except PyError (List Run) × Store
  | [] => (.ok [], s)
  | r :: rs =>
      match r.outcome with
      | .error e => (.error e, r.after)
      | .ok found => ((replay r.after rs).1.map (found.toList ++ ·), (replay r.after rs).2)

end

/-- **The loop is its rounds.** -/
theorem rehydrateAll_eq_replay (sha256 : ByteArray → String) (manifests : List ManifestRow)
    (env : Env) (ps : List PendingRunConfig) (s : Store) :
    rehydrateAll sha256 manifests env ps s = replay s (rounds sha256 manifests env ps s) := by
  induction ps generalizing env s with
  | nil => rfl
  | cons p ps ih =>
      rw [rounds]
      rcases h : rehydrate sha256 manifests env p s with ⟨e | found, s'⟩
      · exact rehydrateAll_of_error h
      · simp only [replay, ← ih]
        rcases hrest : rehydrateAll sha256 manifests (env.later 2) ps s' with ⟨e | runs, t⟩
        · rw [rehydrateAll_of_later_error h hrest]
          rfl
        · rw [rehydrateAll_of_ok h hrest]
          rfl

/-- A round of the loop is a round of its entry, at some later time. -/
lemma round_of_mem {sha256 : ByteArray → String} {manifests : List ManifestRow} {env : Env}
    {ps : List PendingRunConfig} {s : Store} {r : Round}
    (h : r ∈ rounds sha256 manifests env ps s) :
    ∃ env', rehydrate sha256 manifests env' r.entry r.before = (r.outcome, r.after) := by
  induction ps generalizing env s with
  | nil => exact absurd h List.not_mem_nil
  | cons p ps ih =>
      rw [rounds] at h
      rcases hround : rehydrate sha256 manifests env p s with ⟨e | found, s'⟩
      · rw [hround] at h
        obtain rfl := List.mem_singleton.mp h
        exact ⟨env, hround⟩
      · rw [hround] at h
        rcases List.mem_cons.mp h with rfl | h
        · exact ⟨env, hround⟩
        · exact ih h

end Waywarden.ResumeService

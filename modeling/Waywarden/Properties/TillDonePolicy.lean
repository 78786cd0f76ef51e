import Mathlib.Data.ENat.Lattice
import Waywarden.Services.TillDone

/-!
# The stopping rules of the till-done loop

The loop documents three rules: it stops when an iteration is done, and it escalates when its limit
or a number of consecutive failures is reached.  The code keeps a count of failures and never looks
at it, and at the limit it escalates as soon as the iteration is started, whether it is done or
not.  `documented_iff` says when this makes no difference: the first iteration that is done is not
the one at the limit, and the failures are not used up before the loop stops anyway.
-/

namespace Waywarden.TillDone

/-! ## The least index with a property -/

/-- The least index from 1 on with a property, infinite if there is none. -/
noncomputable def least (P : ℕ → Prop) : ℕ∞ := ⨅ (i : ℕ) (_ : 1 ≤ i ∧ P i), (i : ℕ∞)

section

variable {P : ℕ → Prop}

lemma le_least_iff {n : ℕ∞} : n ≤ least P ↔ ∀ i, 1 ≤ i → P i → n ≤ i := by
  unfold least
  rw [le_iInf₂_iff]
  exact forall_congr' fun i => ⟨fun h h1 hi => h ⟨h1, hi⟩, fun h hi => h hi.1 hi.2⟩

lemma lt_least_iff {n : ℕ} : (n : ℕ∞) < least P ↔ ∀ i, 1 ≤ i → P i → n < i := by
  rw [← ENat.natCast_add_one_le_iff, le_least_iff]
  exact forall_congr' fun i => forall₂_congr fun _ _ => by
    rw [ENat.natCast_add_one_le_iff, ENat.natCast_lt_natCast]

lemma least_lt_iff {n : ℕ} : least P < n ↔ ∃ i, 1 ≤ i ∧ P i ∧ i < n := by
  rw [← not_le, le_least_iff]
  simp only [Nat.cast_le]
  push Not
  rfl

/-- The least index is one with the property. -/
lemma least_spec {n : ℕ} (h : least P = n) : 1 ≤ n ∧ P n := by
  by_contra hnot
  have hlt : (n : ℕ∞) < least P := lt_least_iff.mpr fun i h1 hi => by
    have hle : (n : ℕ∞) ≤ i := le_least_iff.mp h.ge i h1 hi
    rw [Nat.cast_le] at hle
    rcases hle.lt_or_eq with hlt | rfl
    · exact hlt
    · exact absurd ⟨h1, hi⟩ hnot
  exact absurd h hlt.ne'

lemma one_le_least : 1 ≤ least P :=
  le_least_iff.mpr fun i h1 _ => by exact_mod_cast h1

end

/-! ## The policy -/

section

variable (E : Emitter) (cfg : LoopConfig) (iterationResultFn : ℕ → IterationResult)

/-- What counts toward the check failures. -/
def LoopConfig.fails (r : IterationResult) : Bool :=
  !r.checkPassed || (cfg.escCheckIfRevised && r.planRevised)

/-- The last `check_failure_max` iterations all fail. -/
def Spent (i : ℕ) : Prop :=
  cfg.checkFailureMax ≤ i ∧
    ∀ j : ℕ, (i : ℤ) - cfg.checkFailureMax < j → j ≤ i → cfg.fails (iterationResultFn j) = true

/-- The first iteration that is done. -/
noncomputable def firstDone : ℕ∞ := least fun i => (iterationResultFn i).done = true

/-- The first iteration at which the failures are used up. -/
noncomputable def firstSpent : ℕ∞ := least (Spent cfg iterationResultFn)

/-- The limit. -/
def limit : ℕ∞ := (cfg.maxIterations.toNat : ℕ∞)

/-! ## The calls of a run -/

/-- A call of `iteration_result_fn`, noted in front of the stream. -/
def call (i : ℕ) : Effect (List ℕ × EventStream) PyError IterationResult := do
  Effect.modify fun p => (p.1 ++ [i], p.2)
  pure (iterationResultFn i)

/-- `loop`, with its calls noted. -/
def notedLoop : ℕ → ℕ → ℕ → Effect (List ℕ × EventStream) PyError LoopOutcome
  | 0, _, _ => do
      Effect.second (E.emitProgress "code" "loop_escalated")
      pure .escalated
  | left + 1, iteration, failures => do
      let iteration := iteration + 1
      let result ← call iterationResultFn iteration
      let result := { result with iterationCount := iteration }
      Effect.second (E.emitProgress "code" "iteration_started")
      if (iteration : ℤ) ≥ cfg.maxIterations then do
        Effect.second (E.emitProgress "code" "loop_escalated")
        pure .escalated
      else do
        Effect.second (carryOut E result)
        let failures := if result.checkPassed then failures else failures + 1
        if result.checkPassed && !result.planRevised then do
          Effect.second (E.emitProgress "code" "iteration_complete")
          Effect.second (E.emitProgress "code" "terminal")
          pure .completed
        else
          notedLoop left iteration failures

/-- `run_till_done`, with its calls noted. -/
def notedRun : Effect (List ℕ × EventStream) PyError LoopOutcome :=
  notedLoop E cfg iterationResultFn cfg.maxIterations.toNat 0 0

/-- The run ends as the policy says, on whatever stream: completed exactly when an iteration
within the limit is done before the failures are used up, escalated otherwise, and with one call
for each iteration up to the end. -/
structure FollowsPolicy (stream : EventStream) : Prop where
  completed : (notedRun E cfg iterationResultFn ([], stream)).1 = .ok .completed ↔
    firstDone iterationResultFn ≤ limit cfg ∧
      firstDone iterationResultFn < firstSpent cfg iterationResultFn
  escalated : (notedRun E cfg iterationResultFn ([], stream)).1 = .ok .escalated ↔
    ¬ (firstDone iterationResultFn ≤ limit cfg ∧
      firstDone iterationResultFn < firstSpent cfg iterationResultFn)
  once : ∀ i : ℕ, 1 ≤ i →
    (i : ℕ∞) ≤ min (firstDone iterationResultFn)
      (min (firstSpent cfg iterationResultFn) (limit cfg)) →
    (notedRun E cfg iterationResultFn ([], stream)).2.1.count i = 1
  only : ∀ i ∈ (notedRun E cfg iterationResultFn ([], stream)).2.1, 1 ≤ i ∧
    (i : ℕ∞) ≤ min (firstDone iterationResultFn)
      (min (firstSpent cfg iterationResultFn) (limit cfg))

/-- The iterations the loop calls for, after the given one. -/
def called : ℕ → ℕ → List ℕ
  | 0, _ => []
  | left + 1, i =>
      if ((i + 1 : ℕ) : ℤ) ≥ cfg.maxIterations then [i + 1]
      else if (iterationResultFn (i + 1)).done then [i + 1]
      else (i + 1) :: called left (i + 1)

end

/-! ## What the loop calls for -/

/-- The computation returns the value, makes the calls and emits the list, whatever was called and
emitted before. -/
def Notes {α : Type} (E : Emitter) (x : Effect (List ℕ × EventStream) PyError α) (a : α)
    (is : List ℕ) (ms : List Emission) : Prop :=
  ∀ calls stream, x (calls, stream) =
    (.ok a, calls ++ is, stream ++ eventsFrom E stream.length ms)

section

variable {E : Emitter} {cfg : LoopConfig} {iterationResultFn : ℕ → IterationResult}

lemma Notes.bind {α β : Type} {x : Effect (List ℕ × EventStream) PyError α}
    {f : α → Effect (List ℕ × EventStream) PyError β} {a : α} {b : β} {is is' : List ℕ}
    {ms ms' : List Emission} (hx : Notes E x a is ms) (hf : Notes E (f a) b is' ms') :
    Notes E (x >>= f) b (is ++ is') (ms ++ ms') := by
  intro calls stream
  rw [Effect.bind_of_ok (hx calls stream), hf, List.length_append, length_eventsFrom,
    eventsFrom_append, List.append_assoc, List.append_assoc]

/-- What emits without a call. -/
lemma Emits.notes {α : Type} {x : Effect EventStream PyError α} {a : α} {ms : List Emission}
    (h : Emits E x a ms) : Notes E (Effect.second x) a [] ms := by
  intro calls stream
  unfold Effect.second
  rw [h stream, List.append_nil]

lemma Notes.pure {α : Type} (a : α) :
    Notes E (pure a : Effect (List ℕ × EventStream) PyError α) a [] [] := by
  intro calls stream
  show (Except.ok a, calls, stream) = (.ok a, calls ++ [], stream ++ [])
  rw [List.append_nil, List.append_nil]

lemma notes_call (i : ℕ) :
    Notes E (call iterationResultFn i) (iterationResultFn i) [i] [] := by
  intro calls stream
  show (Except.ok (iterationResultFn i), calls ++ [i], stream) =
    (.ok (iterationResultFn i), calls ++ [i], stream ++ [])
  rw [List.append_nil]

/-- **What the loop calls for and emits**, by induction on the iterations left. -/
lemma notes_notedLoop (left iteration failures : ℕ) :
    Notes E (notedLoop E cfg iterationResultFn left iteration failures)
      (emissions cfg iterationResultFn left iteration).1
      (called cfg iterationResultFn left iteration)
      (emissions cfg iterationResultFn left iteration).2 := by
  have hprogress : ∀ milestone, isValidMilestone "code" milestone = true →
      Notes E (Effect.second (E.emitProgress "code" milestone)) () []
        [.milestone "code" milestone []] := fun _ h => (emits_progress h).notes
  induction left generalizing iteration failures with
  | zero => exact (hprogress "loop_escalated" (by decide)).bind (.pure _)
  | succ left ih =>
      unfold notedLoop emissions called
      have hcall : Notes E (call iterationResultFn (iteration + 1))
          (iterationResultFn (iteration + 1)) [iteration + 1] [] := notes_call (iteration + 1)
      by_cases hlimit : ((iteration + 1 : ℕ) : ℤ) ≥ cfg.maxIterations
      · simp only [if_pos hlimit]
        exact hcall.bind ((hprogress "iteration_started" (by decide)).bind
          ((hprogress "loop_escalated" (by decide)).bind (.pure _)))
      · have hcarried :=
          (emits_carryOut (E := E) (numbered iterationResultFn (iteration + 1))).notes
        simp only [if_neg hlimit]
        by_cases hdone : (iterationResultFn (iteration + 1)).done = true
        · have hcond := hdone
          unfold IterationResult.done at hcond
          simp only [if_pos hdone]
          refine hcall.bind ((hprogress "iteration_started" (by decide)).bind
            (hcarried.bind ?_))
          simp only [if_pos hcond]
          exact (hprogress "iteration_complete" (by decide)).bind
            ((hprogress "terminal" (by decide)).bind (.pure _))
        · have hcond := hdone
          unfold IterationResult.done at hcond
          simp only [if_neg hdone]
          refine hcall.bind ((hprogress "iteration_started" (by decide)).bind
            (hcarried.bind ?_))
          simp only [if_neg hcond]
          exact ih _ _

/-- **Noting the calls changes nothing**: the run returns and emits what it does otherwise. -/
theorem notedRun_eq (stream : EventStream) :
    notedRun E cfg iterationResultFn ([], stream) =
      ((runTillDone E cfg iterationResultFn stream).1,
        called cfg iterationResultFn cfg.maxIterations.toNat 0,
        (runTillDone E cfg iterationResultFn stream).2) := by
  rw [runTillDone_eq]
  exact notes_notedLoop _ _ _ [] stream

/-- The outcome, from an iteration below the limit on. -/
lemma completed_iff_exists {left i : ℕ} (hleft : (left : ℤ) = cfg.maxIterations - i) :
    (emissions cfg iterationResultFn left i).1 = .completed ↔
      ∃ j, i < j ∧ (iterationResultFn j).done = true ∧ (j : ℤ) < cfg.maxIterations := by
  induction left generalizing i with
  | zero =>
      refine iff_of_false (by simp [emissions]) ?_
      rintro ⟨j, hj, -, hlt⟩
      omega
  | succ left ih =>
      unfold emissions
      split
      · refine iff_of_false (by simp) ?_
        rintro ⟨j, hj, -, hlt⟩
        omega
      · split
        · rename_i hdone
          exact iff_of_true rfl ⟨i + 1, by omega, hdone, by omega⟩
        · rename_i hdone
          rw [ih (by omega)]
          constructor
          · rintro ⟨j, hj, h⟩
            exact ⟨j, by omega, h⟩
          · rintro ⟨j, hj, hj', hlt⟩
            refine ⟨j, ?_, hj', hlt⟩
            rcases Nat.lt_or_eq_of_le (show i + 1 ≤ j from hj) with h | rfl
            · exact h
            · exact absurd hj' hdone

/-- The calls, from an iteration below the limit on: up to the limit, and not beyond one that is
done. -/
lemma mem_called_iff {left i j : ℕ} (hleft : (left : ℤ) = cfg.maxIterations - i) :
    j ∈ called cfg iterationResultFn left i ↔
      i < j ∧ (j : ℤ) ≤ cfg.maxIterations ∧
        ∀ k, i < k → (iterationResultFn k).done = true → j ≤ k := by
  induction left generalizing i with
  | zero =>
      refine iff_of_false (by simp [called]) ?_
      rintro ⟨hj, hle, -⟩
      omega
  | succ left ih =>
      unfold called
      split
      · rename_i hlimit
        rw [List.mem_singleton]
        constructor
        · rintro rfl
          exact ⟨by omega, by omega, fun k hk _ => hk⟩
        · rintro ⟨hj, hle, -⟩
          omega
      · split
        · rename_i hdone
          rw [List.mem_singleton]
          constructor
          · rintro rfl
            exact ⟨by omega, by omega, fun k hk _ => hk⟩
          · rintro ⟨hj, -, hfirst⟩
            have hle := hfirst (i + 1) (by omega) hdone
            omega
        · rename_i hdone
          rw [List.mem_cons, ih (by omega)]
          constructor
          · rintro (rfl | ⟨hj, hle, hfirst⟩)
            · exact ⟨by omega, by omega, fun k hk _ => hk⟩
            · refine ⟨by omega, hle, fun k hk hk' => hfirst k ?_ hk'⟩
              rcases Nat.lt_or_eq_of_le (show i + 1 ≤ k from hk) with h | rfl
              · exact h
              · exact absurd hk' hdone
          · rintro ⟨hj, hle, hfirst⟩
            rcases Nat.lt_or_eq_of_le (show i + 1 ≤ j from hj) with h | rfl
            · exact Or.inr ⟨h, hle, fun k hk => hfirst k (by omega)⟩
            · exact Or.inl rfl

/-- No call is made twice. -/
lemma nodup_called {left i : ℕ} (hleft : (left : ℤ) = cfg.maxIterations - i) :
    (called cfg iterationResultFn left i).Nodup := by
  induction left generalizing i with
  | zero => exact List.nodup_nil
  | succ left ih =>
      unfold called
      split
      · exact List.nodup_singleton _
      · split
        · exact List.nodup_singleton _
        · rw [List.nodup_cons, mem_called_iff (by omega)]
          exact ⟨fun h => absurd h.1 (by omega), ih (by omega)⟩

/-! ## What the policy and the code have in common -/

/-- The loop completes when an iteration below the limit is done. -/
lemma completed_iff : (emissions cfg iterationResultFn cfg.maxIterations.toNat 0).1 = .completed ↔
    firstDone iterationResultFn < limit cfg := by
  unfold firstDone limit
  rw [least_lt_iff]
  rcases Int.lt_or_le cfg.maxIterations 0 with hneg | hmax
  · rw [Int.toNat_of_nonpos (by omega)]
    exact iff_of_false (by simp [emissions]) fun ⟨_, _, _, h⟩ => absurd h (Nat.not_lt_zero _)
  · rw [completed_iff_exists (by omega)]
    exact exists_congr fun j => and_congr Iff.rfl (and_congr Iff.rfl (by omega))

/-- The loop calls up to the limit, and not beyond the first iteration that is done. -/
lemma mem_called (hmax : 1 ≤ cfg.maxIterations) {i : ℕ} :
    i ∈ called cfg iterationResultFn cfg.maxIterations.toNat 0 ↔
      1 ≤ i ∧ (i : ℕ∞) ≤ min (firstDone iterationResultFn) (limit cfg) := by
  unfold firstDone limit
  rw [mem_called_iff (by omega), le_min_iff, le_least_iff, Nat.cast_le]
  constructor
  · rintro ⟨hi, hle, hfirst⟩
    exact ⟨hi, fun k hk hdone => by exact_mod_cast hfirst k hk hdone, by omega⟩
  · rintro ⟨hi, hfirst, hle⟩
    exact ⟨hi, by omega, fun k hk hdone => by exact_mod_cast hfirst k hk hdone⟩

/-- An iteration that is done is no failure. -/
lemma not_fails_of_done {r : IterationResult} (h : r.done = true) : cfg.fails r = false := by
  unfold IterationResult.done at h
  unfold LoopConfig.fails
  rw [Bool.and_eq_true, Bool.not_eq_true'] at h
  rw [h.1, h.2]
  simp

/-- The failures are not used up by an iteration that is done. -/
lemma firstDone_lt_firstSpent (hfail : 1 ≤ cfg.checkFailureMax) {n : ℕ}
    (hn : firstDone iterationResultFn = n)
    (hle : firstDone iterationResultFn ≤ firstSpent cfg iterationResultFn) :
    firstDone iterationResultFn < firstSpent cfg iterationResultFn := by
  apply lt_of_le_of_ne hle
  intro heq
  obtain ⟨-, hdone⟩ := least_spec hn
  obtain ⟨-, -, hspent⟩ := least_spec (heq.symm.trans hn)
  have hfails := hspent n (by omega) (Nat.le_refl n)
  rw [not_fails_of_done hdone] at hfails
  exact absurd hfails (by simp)

/-- A run within the policy's domain makes a last call. -/
lemma exists_last (hmax : 1 ≤ cfg.maxIterations) :
    ∃ n : ℕ, 1 ≤ n ∧ min (firstDone iterationResultFn) (limit cfg) = n := by
  have hlimit : (1 : ℕ∞) ≤ limit cfg := by
    unfold limit
    exact_mod_cast (by omega : 1 ≤ cfg.maxIterations.toNat)
  have htop : min (firstDone iterationResultFn) (limit cfg) ≠ ⊤ :=
    ne_top_of_le_ne_top (ENat.natCast_ne_top _) (min_le_right _ _)
  obtain ⟨n, hn⟩ := ENat.ne_top_iff_exists.mp htop
  have hone : (1 : ℕ∞) ≤ n := by
    rw [hn]
    exact le_min one_le_least hlimit
  exact ⟨n, by exact_mod_cast hone, hn.symm⟩

/-- Away from the boundaries the policy asks what the code does. -/
lemma policy_iff (hfail : 1 ≤ cfg.checkFailureMax)
    (hne : firstDone iterationResultFn ≠ limit cfg)
    (hspent : min (firstDone iterationResultFn) (limit cfg) ≤ firstSpent cfg iterationResultFn) :
    firstDone iterationResultFn ≤ limit cfg ∧
        firstDone iterationResultFn < firstSpent cfg iterationResultFn ↔
      firstDone iterationResultFn < limit cfg := by
  constructor
  · rintro ⟨hle, -⟩
    exact lt_of_le_of_ne hle hne
  · intro hlt
    obtain ⟨n, hn⟩ := ENat.ne_top_iff_exists.mp (ne_top_of_lt hlt)
    rw [min_eq_left hlt.le] at hspent
    exact ⟨hlt.le, firstDone_lt_firstSpent hfail hn.symm hspent⟩

lemma outcome_notedRun (stream : EventStream) (outcome : LoopOutcome) :
    (notedRun E cfg iterationResultFn ([], stream)).1 = .ok outcome ↔
      (emissions cfg iterationResultFn cfg.maxIterations.toNat 0).1 = outcome := by
  rw [notedRun_eq, runTillDone_eq, Except.ok.injEq]

lemma escalated_iff :
    (emissions cfg iterationResultFn cfg.maxIterations.toNat 0).1 = .escalated ↔
      ¬ firstDone iterationResultFn < limit cfg := by
  rw [← completed_iff]
  cases (emissions cfg iterationResultFn cfg.maxIterations.toNat 0).1 <;> simp

/-! ## The verdict -/

/-- **When the loop follows its policy.** -/
theorem followsPolicy_iff (E : Emitter) (stream : EventStream) (cfg : LoopConfig)
    (iterationResultFn : ℕ → IterationResult) (hmax : 1 ≤ cfg.maxIterations)
    (hfail : 1 ≤ cfg.checkFailureMax) :
    FollowsPolicy E cfg iterationResultFn stream ↔
      firstDone iterationResultFn ≠ limit cfg ∧
        min (firstDone iterationResultFn) (limit cfg) ≤ firstSpent cfg iterationResultFn := by
  have hcalls : (notedRun E cfg iterationResultFn ([], stream)).2.1 =
      called cfg iterationResultFn cfg.maxIterations.toNat 0 := by
    rw [notedRun_eq]
  constructor
  · intro h
    have hspent : min (firstDone iterationResultFn) (limit cfg) ≤
        firstSpent cfg iterationResultFn := by
      -- the last call is one the policy allows
      obtain ⟨n, hone, hn⟩ : ∃ n : ℕ, 1 ≤ n ∧
          min (firstDone iterationResultFn) (limit cfg) = n := exists_last hmax
      have hlast := (h.only n (by rw [hcalls, mem_called hmax]; exact ⟨hone, hn.ge⟩)).2
      rw [hn]
      exact hlast.trans ((min_le_right _ _).trans (min_le_left _ _))
    refine ⟨fun heq => ?_, hspent⟩
    rw [heq, min_self, ← heq] at hspent
    have hcompleted := h.completed.mpr ⟨heq.le, firstDone_lt_firstSpent hfail heq hspent⟩
    rw [outcome_notedRun, completed_iff] at hcompleted
    exact absurd heq hcompleted.ne
  · rintro ⟨hne, hspent⟩
    have hend : min (firstDone iterationResultFn)
        (min (firstSpent cfg iterationResultFn) (limit cfg)) =
          min (firstDone iterationResultFn) (limit cfg) := by
      rw [min_left_comm, min_eq_right hspent]
    refine ⟨?_, ?_, fun i hi hle => ?_, fun i hi => ?_⟩
    · rw [outcome_notedRun, completed_iff, policy_iff hfail hne hspent]
    · rw [outcome_notedRun, escalated_iff, policy_iff hfail hne hspent]
    · rw [hcalls]
      rw [hend] at hle
      exact List.count_eq_one_of_mem (nodup_called (by omega)) ((mem_called hmax).mpr ⟨hi, hle⟩)
    · rw [hend]
      rw [hcalls] at hi
      exact (mem_called hmax).mp hi

/-- The result of an iteration that leaves nothing to do. -/
def passes (_ : ℕ) : IterationResult := { planArtifactId := "plan-v1", checkPassed := true }

/-- A loop whose first iteration is done. -/
theorem followsPolicy_first_done :
    FollowsPolicy ⟨"run-1", fun _ => 0, none⟩ {} passes [] := by
  have hfirst : firstDone passes ≤ 1 :=
    le_least_iff.mp (le_refl _) 1 (Nat.le_refl 1) (by decide)
  refine (followsPolicy_iff _ _ _ _ (by decide) (by decide)).mpr ⟨fun h => ?_, ?_⟩
  · rw [h] at hfirst
    exact absurd hfirst (by decide)
  · exact (min_le_left _ _).trans (hfirst.trans one_le_least)

/-- Two iterations fail, the third one is done. -/
def failTwice (i : ℕ) : IterationResult := { planArtifactId := "plan-v1", checkPassed := i == 3 }

/-- The failures are used up with the second iteration, and the loop calls for a third. -/
theorem not_followsPolicy_fail_twice :
    ¬ FollowsPolicy ⟨"run-1", fun _ => 0, none⟩ { maxIterations := 5 } failTwice [] := by
  intro h
  have hspent : firstSpent { maxIterations := 5 } failTwice ≤ 2 := by
    refine le_least_iff.mp (le_refl _) 2 (by omega) ⟨by decide, fun j hj hle => ?_⟩
    have hcases : j = 1 ∨ j = 2 := by
      simp only at hj
      omega
    rcases hcases with rfl | rfl <;> decide
  have hthird := (h.only 3 (by decide +kernel)).2
  have hle : (3 : ℕ∞) ≤ 2 :=
    hthird.trans ((min_le_right _ _).trans ((min_le_left _ _).trans hspent))
  exact absurd hle (by decide)

end

end Waywarden.TillDone

import Waywarden.System.MilestoneMachine
import Waywarden.System.RunMachine

/-!
# Which milestones reach the log

The catalog is meant to hold every phase and milestone a `run.progress` event carries, and every
emitter of the machine respects it, except one: `_emit_resume_blocked` appends the pair
`execute.resume_blocked`, which the catalog does not have.

The recovery loop comes to it at the first admitted entry whose run was resumed before, in the
store or by an earlier entry, when no blocked resume of the run is recorded yet (`blocksOne`).
`catalogued_iff_unblocked` reads this along a run: all that is appended is catalogued exactly when
no call of `rehydrate_all` comes to such an entry.
-/

namespace Waywarden

open Machine ResumeService

/-- Whether a blocked resume is recorded when these runs are resumed in order: `resumed` says whose
resume event is taken, and `blocked` whose blocked resume is recorded. -/
def blocksOne (blocked : String → Bool) : (String → Bool) → List String → Bool
  | _, [] => false
  | resumed, r :: rs =>
      if resumed r then !blocked r
      else blocksOne blocked (fun r' => decide (r' = r) || resumed r') rs

/-- The call does not come to record a blocked resume. -/
def MilestoneCall.Unblocked (sha256 : ByteArray → String) (s : Store) : MilestoneCall → Prop
  | .rehydrateAll _ manifests pending =>
      blocksOne (fun r => s.hasEvent (blockedId r)) (fun r => s.hasEvent (resumedId r))
        ((admitted sha256 manifests s pending).map PendingRunConfig.runId) = false
  | _ => True

section

variable {sha256 : ByteArray → String} {manifests : List ManifestRow} {s : Store}

/-- The loop only appends. -/
lemma rehydrateAll_grows (env : Env) (ps : List PendingRunConfig) :
    s.Grows (fun _ => True) (rehydrateAll sha256 manifests env ps s).2 := by
  induction ps generalizing env s with
  | nil => exact .refl _ s
  | cons p ps ih =>
      have hpush : ∀ e, s.Grows (fun _ => True) (s.push e) :=
        fun _ => (Store.Grows.refl _ s).push trivial
      rcases rehydrate_cases sha256 manifests env p s with ⟨-, h⟩ | ⟨_, -, h⟩ | ⟨run, -, h⟩
      · rw [state_rehydrateAll_cons h]
        exact ih (env.later 2)
      · rw [rehydrateAll_of_error h]
        exact .refl _ s
      · rcases h with ⟨-, h⟩ | ⟨-, -, h⟩ | ⟨-, -, h⟩
        · rw [state_rehydrateAll_cons h]
          exact (hpush _).trans (ih (env.later 2))
        · rw [state_rehydrateAll_cons h]
          exact (hpush _).trans (ih (env.later 2))
        · rw [rehydrateAll_of_error h]
          exact .refl _ s

/-- A recorded resume is what the next entries find. -/
lemma blocksOne_push_recovery (runId : String) (now : Timestamp) (rs : List String) :
    blocksOne (fun r => (s.push (recoveryEvent s runId now)).hasEvent (blockedId r))
        (fun r => (s.push (recoveryEvent s runId now)).hasEvent (resumedId r)) rs =
      blocksOne (fun r => s.hasEvent (blockedId r))
        (fun r => decide (r = runId) || s.hasEvent (resumedId r)) rs := by
  have hid : (recoveryEvent s runId now).id = resumedId runId := rfl
  have hblocked : ∀ r, (s.push (recoveryEvent s runId now)).hasEvent (blockedId r) =
      s.hasEvent (blockedId r) := by
    intro r
    rw [Store.hasEvent_push, hid, decide_eq_false (resumedId_ne_blockedId runId r), Bool.or_false]
  have hresumed : ∀ r, (s.push (recoveryEvent s runId now)).hasEvent (resumedId r) =
      (decide (r = runId) || s.hasEvent (resumedId r)) := by
    intro r
    rw [Store.hasEvent_push, hid, Bool.or_comm]
    simp only [resumedId_inj, eq_comm]
  simp only [hblocked, hresumed]

/-- The pair of a blocked resume is not in the catalog. -/
lemma not_catalogued_blockedEvent (runId : String) (now : Timestamp) :
    ¬ (blockedEvent s runId now).Catalogued := by
  intro h
  obtain ⟨phase, milestone, hphase, hmilestone, hvalid⟩ := h rfl
  obtain rfl : "execute" = phase := Value.str.inj (Option.some.inj hphase)
  obtain rfl : "resume_blocked" = milestone := Value.str.inj (Option.some.inj hmilestone)
  exact absurd hvalid (by decide)

/-- **The loop appends catalogued events only** exactly when it does not come to an entry it
records as blocked. -/
theorem rehydrateAll_catalogued_iff (env : Env) (ps : List PendingRunConfig) :
    s.Grows RunEvent.Catalogued (rehydrateAll sha256 manifests env ps s).2 ↔
      blocksOne (fun r => s.hasEvent (blockedId r)) (fun r => s.hasEvent (resumedId r))
        ((admitted sha256 manifests s ps).map PendingRunConfig.runId) = false := by
  induction ps generalizing env s with
  | nil => exact iff_of_true (.refl _ s) rfl
  | cons p ps ih =>
      unfold admitted
      rcases rehydrate_cases sha256 manifests env p s with ⟨hv, h⟩ | ⟨_, hv, h⟩ | ⟨run, hv, h⟩
      · rw [state_rehydrateAll_cons h, hv]
        exact ih (env.later 2)
      · rw [rehydrateAll_of_error h, hv]
        exact iff_of_true (.refl _ s) rfl
      · rw [hv]
        dsimp only
        rw [List.map_cons, blocksOne]
        rcases h with ⟨hfree, h⟩ | ⟨htaken, hfree, h⟩ | ⟨htaken, htaken', h⟩
        · have htype : (recoveryEvent s p.runId (env.now 0)).type ≠ .runProgress :=
            ne_of_eq_of_ne (b := .runResumed) rfl (by simp)
          rw [state_rehydrateAll_cons h, hfree, if_neg Bool.false_ne_true,
            ← blocksOne_push_recovery p.runId (env.now 0), ← admitted_push,
            ← ih (env.later 2), Store.Grows.iff_of_push (rehydrateAll_grows _ _)]
          exact and_iff_right (.of_ne htype)
        · rw [state_rehydrateAll_cons h, htaken, if_pos rfl, hfree]
          refine iff_of_false (fun hgrows => ?_) (by simp)
          rw [Store.Grows.iff_of_push (rehydrateAll_grows _ _)] at hgrows
          exact not_catalogued_blockedEvent p.runId (env.now 1) hgrows.1
        · rw [rehydrateAll_of_error h, htaken, if_pos rfl, htaken']
          exact iff_of_true (.refl _ s) rfl

end

section

variable (R : Rendering) (fmt : DateFormat) (sha256 : ByteArray → String)

/-- A call appends catalogued events only exactly when it does not come to record a blocked
resume. -/
lemma grows_transition_iff (s : Store) (c : MilestoneCall) :
    s.Grows RunEvent.Catalogued ((milestoneMachine R fmt sha256).next s c) ↔
      c.Unblocked sha256 s := by
  by_cases hc : ∃ env manifests pending, c = .rehydrateAll env manifests pending
  · obtain ⟨env, manifests, pending, rfl⟩ := hc
    have hnext : (milestoneMachine R fmt sha256).next s (.rehydrateAll env manifests pending) =
        (rehydrateAll sha256 manifests env pending s).2 := Effect.state_map _ _ _
    rw [hnext]
    exact rehydrateAll_catalogued_iff env pending
  · have hother : ∀ env manifests pending, c ≠ .rehydrateAll env manifests pending :=
      fun env manifests pending h => hc ⟨env, manifests, pending, h⟩
    have hemits := @MilestoneCall.emits_perform s R fmt sha256 c hother
    have hunblocked : c.Unblocked sha256 s := by
      cases c with
      | rehydrateAll env manifests pending => exact absurd rfl (hother env manifests pending)
      | _ => trivial
    exact iff_of_true (hemits s (.refl _ s)) hunblocked

/-- **Which runs log catalogued milestones only.**  Along any run of the emitters, from any store,
all events appended are catalogued exactly when no call comes to record a blocked resume. -/
theorem catalogued_iff_unblocked (s : Store) (cs : List MilestoneCall) :
    (∀ t ∈ (milestoneMachine R fmt sha256).trace s cs,
        t.before.Grows RunEvent.Catalogued t.after) ↔
      (milestoneMachine R fmt sha256).Meets (MilestoneCall.Unblocked sha256) s cs := by
  refine forall_transition_iff_meets (I := fun _ => True) _ (fun _ _ _ _ => trivial)
    (fun s c _ => ?_) trivial
  exact grows_transition_iff R fmt sha256 s c

end

/-- A restart that finds the started run pending. -/
def restartCall : MilestoneCall := .rehydrateAll stillEnv [] [⟨"run-t1", none, none⟩]

/-- The second restart records a milestone the catalog does not have. -/
theorem not_catalogued_second_restart :
    ¬ ∀ t ∈ (milestoneMachine ⟨id, fun _ => .ok ""⟩ ⟨fun _ => "", fun _ => ""⟩ fun _ => "").trace
        startedStore [restartCall, restartCall], t.before.Grows RunEvent.Catalogued t.after := by
  intro h
  have hsecond := h _ (List.mem_cons_of_mem _ List.mem_cons_self)
  have hunblocked := (grows_transition_iff _ _ _ _ _).mp hsecond
  unfold restartCall MilestoneCall.Unblocked at hunblocked
  exact absurd hunblocked (by decide +kernel)

end Waywarden

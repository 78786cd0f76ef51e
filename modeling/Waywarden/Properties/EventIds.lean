import Waywarden.System.RecoveryMachine
import Waywarden.System.RunMachine

/-!
# Freshness of event ids

The `id` column of `run_events` is its primary key, so an event whose id is taken is refused.  The
lifecycle service, the approval engine and the recovery loop build their ids from a verb and the
id of a run or an approval, with nothing in them that tells one occurrence from the next.

Since an id determines the verb and what it is about (`EventName.id_injective`), no two templates
ever meet, whatever dashes the ids hold: an id is taken exactly when the very same thing was done
before.  So ids stay fresh in the runs that go for each name once (`idsFresh_iff`), and the second
resume of a run is the first collision.
-/

namespace Waywarden

open Machine

/-- A transition of the services with recovery. -/
abbrev RecoveryTransition : Type :=
  Transition Store RecoveryCall (Except PyError RecoveryReply)

section

variable (sha256 : ByteArray → String) (manifests : List ManifestRow)

/-- Every append reached for a run that is not terminal is for an event whose id is not stored. -/
def IdsFresh (trace : List RecoveryTransition) : Prop :=
  ∀ t ∈ trace, ∀ a ∈ t.call.attempts sha256 manifests t.before, a.1.hasEvent a.2 = false

/-- The names the calls of a run go for, in order. -/
def namesAlong (s : Store) (calls : List RecoveryCall) : List EventName :=
  (recoveryMachine sha256 manifests).marksAlong (fun s c => c.names sha256 manifests s) s calls

/-- **Ids are fresh as long as no name comes up twice.**  In a run of the services, from any
store, every append finds its id free if and only if the calls go for no name twice and for none
that is stored at the start. -/
theorem idsFresh_iff (s : Store) (calls : List RecoveryCall) :
    IdsFresh sha256 manifests ((recoveryMachine sha256 manifests).trace s calls) ↔
      (namesAlong sha256 manifests s calls).Nodup ∧
        ∀ n ∈ namesAlong sha256 manifests s calls, s.hasEvent n.id = false := by
  have hstep : ∀ (s : Store) (c : RecoveryCall),
      (∀ a ∈ c.attempts sha256 manifests s, a.1.hasEvent a.2 = false) ↔
        (c.names sha256 manifests s).Nodup ∧
          ∀ n ∈ c.names sha256 manifests s, ¬ s.hasEvent n.id = true := by
    intro s c
    simpa only [Fresh, Bool.not_eq_true] using (attempts_fresh_iff c).1
  have hmeets := meets_fresh_iff (recoveryMachine sha256 manifests) hstep
    (fun s c n hgood => hasEvent_next_of_fresh c hgood n) s calls
  simp only [Bool.not_eq_true, meets_iff_trace] at hmeets
  exact hmeets

end

/-- A run is resumed twice: the second event has the id of the first. -/
theorem not_idsFresh_second_resume :
    ¬ IdsFresh (fun _ => "") [] ((recoveryMachine (fun _ => "") []).trace Store.empty
      [.start stillEnv sampleTask .api, .resume stillEnv "run-t1" "operator_resume",
        .resume stillEnv "run-t1" "operator_resume"]) := by
  intro h
  have hsecond := h _ (List.mem_cons_of_mem _ (List.mem_cons_of_mem _ List.mem_cons_self))
    (_, "evt-run-t1-resumed") (by exact List.mem_cons_self)
  exact absurd hsecond (by decide)

end Waywarden

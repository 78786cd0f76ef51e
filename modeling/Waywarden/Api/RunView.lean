import Waywarden.Services.Visibility

/-!
# `GET /runs/{run_id}/view`

`waywarden.api.routes.run_view`: a snapshot of the run, or `404` for a run that is not known.  A run
is known by its row when the route has the runs, and by its log when it has not.
-/

namespace Waywarden.RunView

section

variable (T : ValueText.UnicodeTable) (isoformat : Timestamp → String)

/-- The exception for an unknown run. -/
def notFound (runId : String) : PyError := ⟨.httpException, "404: Run % not found", [runId]⟩

/-- The check before the snapshot. -/
def requireRow (service : VisibilityService) (runId : String) : Session Unit :=
  if service.runs then do
    match ← RunRepository.get runId with
    | some _ => pure ()
    | none => Effect.raise (notFound runId)
  else pure ()

/-- The check after it. -/
def requireEvents (service : VisibilityService) (runId : String) : Session Unit :=
  if service.runs then pure ()
  else do
    let latest ← RunEventRepository.latestSeq runId
    if latest = 0 then Effect.raise (notFound runId) else pure ()

/-- `get_run_view`, with the event repository configured or not. -/
def getRunView (configured : Bool) (service : VisibilityService) (runId : String) :
    Session RunSnapshot :=
  if !configured then
    Effect.raise ⟨.httpException, "503: event repository not configured", []⟩
  else do
    requireRow service runId
    let snapshot ← service.snapshot T isoformat runId
    requireEvents service runId
    pure snapshot

end

lemma reply_raise_ne {α : Type} (e : PyError) (a : α) (s : Store) :
    ((Effect.raise e : Session α) s).1 ≠ .ok a := by
  intro h
  cases h

/-- A run the route finds a row of. -/
lemma requireRow_eq (service : VisibilityService) (runId : String) (s : Store) :
    (requireRow service runId s).2 = s ∧ ((requireRow service runId s).1 = .ok () ↔
      (service.runs = true → ∃ run : Run, s.run? runId = some run.toRunRow)) := by
  unfold requireRow
  by_cases hruns : service.runs = true
  · rw [if_pos hruns]
    have hget := RunRepository.get_eq runId s
    cases hrow : s.run? runId with
    | none =>
        simp only [hrow] at hget
        rw [Effect.bind_of_ok hget]
        refine ⟨rfl, iff_of_false (reply_raise_ne _ _ s) fun h => ?_⟩
        obtain ⟨run, hrun⟩ := h hruns
        exact absurd hrun (by simp)
    | some row =>
        simp only [hrow] at hget
        cases hrun : Run.ofRow row with
        | error e =>
            rw [hrun] at hget
            rw [Effect.bind_of_error hget]
            refine ⟨rfl, iff_of_false (fun h => absurd h (by simp)) fun h => ?_⟩
            obtain ⟨run, hrow'⟩ := h hruns
            obtain rfl := Option.some.inj hrow'
            rw [Run.ofRow_toRunRow] at hrun
            exact absurd hrun (by simp)
        | ok run =>
            rw [hrun] at hget
            rw [Effect.bind_of_ok hget]
            exact ⟨rfl, iff_of_true rfl fun _ => ⟨run, by rw [toRunRow_of_ofRow hrun]⟩⟩
  · rw [if_neg hruns]
    exact ⟨rfl, iff_of_true rfl fun h => absurd h hruns⟩

lemma requireEvents_eq (service : VisibilityService) (runId : String) (s : Store) :
    (requireEvents service runId s).2 = s ∧ ((requireEvents service runId s).1 = .ok () ↔
      (service.runs = false → s.latestSeq runId ≠ 0)) := by
  have hlatest : RunEventRepository.latestSeq runId s = (.ok (s.latestSeq runId), s) := rfl
  unfold requireEvents
  cases hruns : service.runs with
  | true => exact ⟨rfl, iff_of_true rfl (by simp)⟩
  | false =>
      rw [if_neg (by simp), Effect.bind_of_ok hlatest]
      by_cases hzero : s.latestSeq runId = 0
      · rw [if_pos hzero]
        exact ⟨rfl, iff_of_false (reply_raise_ne _ _ s) fun h => h rfl hzero⟩
      · rw [if_neg hzero]
        exact ⟨rfl, iff_of_true rfl fun _ => hzero⟩

end Waywarden.RunView

import Waywarden.Domain.Basic

/-!
# Plan revisions

`waywarden.services.orchestration.plan_revision`: a revision of a plan carries the proofs of its
constructor's checks, and the catalog of a run numbers the revisions it is given and refuses one
that repeats the body before it.
-/

namespace Waywarden

/-- `PlanRevision`. -/
structure PlanRevision where
  version : ℤ
  body : String
  diffFromPrevious : String
  rationale : String
  timestamp : Timestamp
  artifactRef : String := ""
  version_pos : 1 ≤ version
  body_ne : body ≠ ""
  rationale_ne : rationale ≠ ""
  first_diff : version = 1 → diffFromPrevious = ""

/-- The constructor `PlanRevision(…)`: the checks of `__post_init__`. -/
def PlanRevision.new (version : ℤ) (body diffFromPrevious rationale : String)
    (timestamp : Timestamp) (artifactRef : String) : Except PyError PlanRevision :=
  if hversion : version < 1 then
    .error ⟨.valueError, "PlanRevision version must be >= 1", []⟩
  else if hbody : body = "" then
    .error ⟨.valueError, "PlanRevision body must not be empty", []⟩
  else if hrationale : rationale = "" then
    .error ⟨.valueError, "PlanRevision rationale must not be empty", []⟩
  else if hdiff : version = 1 ∧ diffFromPrevious ≠ "" then
    .error ⟨.valueError, "First revision (version 1) must have an empty diff_from_previous", []⟩
  else
    .ok
      { version, body, diffFromPrevious, rationale, timestamp, artifactRef
        version_pos := by omega
        body_ne := hbody
        rationale_ne := hrationale
        first_diff := fun h => not_not.mp fun hne => hdiff ⟨h, hne⟩ }

/-- `PlanRevisionCatalog`, by its revisions. -/
abbrev PlanRevisionCatalog : Type := List PlanRevision

namespace PlanRevisionCatalog

/-- `latest`. -/
def latest (catalog : PlanRevisionCatalog) : Option PlanRevision := catalog.getLast?

/-- `next_version`. -/
def nextVersion (catalog : PlanRevisionCatalog) : ℤ := catalog.length + 1

/-- `add_revision`. -/
def addRevision (now : Timestamp) (catalog : PlanRevisionCatalog)
    (body diffFromPrevious rationale : String) : Except PyError PlanRevisionCatalog := do
  match catalog.latest with
  | some latest =>
      if body = latest.body then
        .error ⟨.valueError, "Redundant revision: plan body unchanged since version %",
          [toString latest.version]⟩
  | none => pure ()
  let version := catalog.nextVersion
  let revision ← PlanRevision.new version body diffFromPrevious rationale now
    ("artifact://plan-v" ++ toString version)
  .ok (catalog ++ [revision])

end PlanRevisionCatalog

section

variable {version : ℤ} {body diffFromPrevious rationale artifactRef : String}
  {timestamp : Timestamp}

/-- **What the constructor accepts.** -/
lemma PlanRevision.new_eq_ok_iff {revision : PlanRevision} :
    PlanRevision.new version body diffFromPrevious rationale timestamp artifactRef = .ok revision ↔
      revision.version = version ∧ revision.body = body ∧
        revision.diffFromPrevious = diffFromPrevious ∧ revision.rationale = rationale ∧
        revision.timestamp = timestamp ∧ revision.artifactRef = artifactRef := by
  constructor
  · intro h
    unfold PlanRevision.new at h
    split at h
    · exact absurd h (by simp)
    · split at h
      · exact absurd h (by simp)
      · split at h
        · exact absurd h (by simp)
        · split at h
          · exact absurd h (by simp)
          · rw [← Except.ok.inj h]
            exact ⟨rfl, rfl, rfl, rfl, rfl, rfl⟩
  · rintro ⟨rfl, rfl, rfl, rfl, rfl, rfl⟩
    have hfirst : ¬ (revision.version = 1 ∧ revision.diffFromPrevious ≠ "") :=
      fun h => h.2 (revision.first_diff h.1)
    unfold PlanRevision.new
    rw [dif_neg (by have := revision.version_pos; omega), dif_neg revision.body_ne,
      dif_neg revision.rationale_ne, dif_neg hfirst]

/-- **What `add_revision` accepts**, and the catalog it makes. -/
lemma PlanRevisionCatalog.addRevision_eq_ok_iff {now : Timestamp}
    {catalog catalog' : PlanRevisionCatalog} :
    catalog.addRevision now body diffFromPrevious rationale = .ok catalog' ↔
      (∀ latest ∈ catalog.latest, body ≠ latest.body) ∧
        ∃ revision, PlanRevision.new catalog.nextVersion body diffFromPrevious rationale now
            ("artifact://plan-v" ++ toString catalog.nextVersion) = .ok revision ∧
          catalog' = catalog ++ [revision] := by
  unfold PlanRevisionCatalog.addRevision
  cases hlatest : catalog.latest with
  | none =>
      simp only [Effect.except_bind_eq_ok, Except.ok.injEq]
      constructor
      · rintro ⟨r, hr, h⟩
        exact ⟨by simp, r, hr, h.symm⟩
      · rintro ⟨-, r, hr, h⟩
        exact ⟨r, hr, h.symm⟩
  | some latest =>
      by_cases hbody : body = latest.body
      · refine iff_of_false ?_ ?_
        · simp [hbody, bind, Except.bind]
        · exact fun h => h.1 latest rfl hbody
      · have hother : ∀ l ∈ some latest, body ≠ l.body := by
          intro l hl
          rw [← Option.some.inj hl]
          exact hbody
        simp only [if_neg hbody, Effect.except_bind_eq_ok, Except.ok.injEq]
        constructor
        · rintro ⟨r, hr, h⟩
          exact ⟨hother, r, hr, h.symm⟩
        · rintro ⟨-, r, hr, h⟩
          exact ⟨r, hr, h.symm⟩

end

end Waywarden

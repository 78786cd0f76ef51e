import Waywarden.Services.PlanRevision
import Waywarden.Services.TillDone

/-!
# The plan revisions of the till-done loop

The loop numbers its plan revisions by the iteration and fills them with what the iteration
reports; the catalog, which counts the revisions itself and refuses an empty body, a missing
rationale or an unchanged plan, is never asked.  `Cataloged` says that the artifacts of a stream are
what the catalog would have made, and `cataloged_iff` when they are: the iterations that revise the
plan are the first ones, without a gap, and each reports something the catalog accepts.
-/

namespace Waywarden.TillDone

/-! ## Revisions as reported -/

/-- A plan revision as its artifact event reports it. -/
structure Report where
  id : String
  label : String
  version : ℤ
  body : String
  diffFromPrevious : String
  rationale : String

/-- The report of a plan-revision artifact. -/
def reportOf (e : RunEvent) : Option Report :=
  match e.type, e.payload.get "artifact_kind", e.payload.get "label", e.payload.get "version",
    e.payload.get "body", e.payload.get "diff_from_previous", e.payload.get "rationale" with
  | .runArtifactCreated, some (.str "plan-revision"), some (.str label), some (.int version),
    some (.str body), some (.str diff), some (.str rationale) =>
      some ⟨e.id, label, version, body, diff, rationale⟩
  | _, _, _, _, _, _, _ => none

/-- `add_revision`, one report after another, on a catalog. -/
def addReports (clock : ℕ → Timestamp) (catalog : PlanRevisionCatalog) (reports : List Report) :
    Except PyError PlanRevisionCatalog :=
  reports.foldlM (fun catalog p =>
    catalog.addRevision (clock catalog.length) p.body p.diffFromPrevious p.rationale) catalog

/-- A report carries a revision: its contents, and its version in the label and in the id. -/
structure Carries (runId : String) (p : Report) (revision : PlanRevision) : Prop where
  version : p.version = revision.version
  body : p.body = revision.body
  diffFromPrevious : p.diffFromPrevious = revision.diffFromPrevious
  rationale : p.rationale = revision.rationale
  label : p.label = "plan-revision-v" ++ toString revision.version
  id : p.id = runId ++ ".artifact." ++ ("plan-revision-v" ++ toString revision.version)

/-- The plan revisions of a stream are those the catalog makes of them, from the empty one. -/
def Cataloged (runId : String) (clock : ℕ → Timestamp) (events : List RunEvent) : Prop :=
  ∃ catalog, addReports clock [] (events.filterMap reportOf) = .ok catalog ∧
    List.Forall₂ (Carries runId) (events.filterMap reportOf) catalog

/-- What the catalog asks of an iteration that revises the plan: the iterations before it did so
too, and its plan and rationale are there and new. -/
structure Catalogable (iterationResultFn : ℕ → IterationResult) (i : ℕ) : Prop where
  after : ∀ j, 1 ≤ j → j < i → (iterationResultFn j).planRevised = true
  body : (iterationResultFn i).planBody ≠ ""
  rationale : (iterationResultFn i).planRationale ≠ ""
  first : i = 1 → (iterationResultFn i).planDiffFromPrevious = ""
  differs : 2 ≤ i → (iterationResultFn i).planBody ≠ (iterationResultFn (i - 1)).planBody

/-! ## The artifacts of a run -/

/-- The report of an iteration that revises the plan. -/
def report (E : Emitter) (r : IterationResult) : Report where
  id := E.runId ++ ".artifact." ++ Emitter.revisionLabel r.iterationCount
  label := Emitter.revisionLabel r.iterationCount
  version := r.iterationCount
  body := r.planBody
  diffFromPrevious := r.planDiffFromPrevious
  rationale := r.planRationale

/-- The report of an emission. -/
def Emission.report (E : Emitter) : Emission → Option Report
  | .milestone _ _ _ => none
  | .revision r => some (TillDone.report E r)

section

variable {E : Emitter} {cfg : LoopConfig} {iterationResultFn : ℕ → IterationResult}

lemma reportOf_event (n : ℕ) (m : Emission) : reportOf (m.event E n) = m.report E := by
  cases m <;> rfl

lemma filterMap_reportOf_eventsFrom (n : ℕ) (ms : List Emission) :
    (eventsFrom E n ms).filterMap reportOf = ms.filterMap (Emission.report E) := by
  have hmap := map_eventsFrom (E := E) reportOf_event n ms
  have hreduce : ∀ {α : Type} (f : α → Option Report) (as : List α),
      as.filterMap f = (as.map f).filterMap id := by
    intro α f as
    rw [List.filterMap_map]
    rfl
  rw [hreduce, hmap, ← hreduce]

/-- An iteration that is carried out reports a revision when it revises the plan. -/
lemma filterMap_report_block (i : ℕ) :
    (block iterationResultFn i).filterMap (Emission.report E) =
      if (iterationResultFn i).planRevised then [report E (numbered iterationResultFn i)]
      else [] := by
  have hrevised : (numbered iterationResultFn i).planRevised =
      (iterationResultFn i).planRevised := rfl
  unfold block carried
  rw [hrevised]
  cases (iterationResultFn i).planRevised <;> cases (numbered iterationResultFn i).checkPassed <;>
    cases (iterationResultFn i).done <;> rfl

/-- The iterations of a list that revise the plan. -/
def revising (iterationResultFn : ℕ → IterationResult) (is : List ℕ) : List ℕ :=
  is.filter fun i => (iterationResultFn i).planRevised

/-- **The plan revisions of a run**: one for each iteration carried out that revises the plan. -/
lemma reports_eq (stream : List Emission)
    (h : stream = (carriedOut cfg iterationResultFn).flatMap (block iterationResultFn) ++
      ending cfg (emissions cfg iterationResultFn cfg.maxIterations.toNat 0).1) :
    stream.filterMap (Emission.report E) =
      (revising iterationResultFn (carriedOut cfg iterationResultFn)).map fun i =>
        report E (numbered iterationResultFn i) := by
  have hending : ∀ outcome, (ending cfg outcome).filterMap (Emission.report E) = [] := by
    intro outcome
    cases outcome with
    | completed => rfl
    | escalated =>
        simp only [ending]
        split <;> rfl
  rw [h, List.filterMap_append, hending, List.append_nil]
  generalize carriedOut cfg iterationResultFn = is
  induction is with
  | nil => rfl
  | cons i is ih =>
      rw [List.flatMap_cons, List.filterMap_append, ih, filterMap_report_block]
      unfold revising
      rw [List.filter_cons]
      split <;> rfl

/-! ## What the catalog makes of the reports -/

/-- The catalog accepts the results as the revisions after the first `n`, of which the last has the
body `previous`. -/
def Accepts : ℕ → Option String → List IterationResult → Prop
  | _, _, [] => True
  | n, previous, r :: rs =>
      r.iterationCount = n + 1 ∧ r.planBody ≠ "" ∧ r.planRationale ≠ "" ∧
        (n = 0 → r.planDiffFromPrevious = "") ∧ (∀ body ∈ previous, r.planBody ≠ body) ∧
        Accepts (n + 1) (some r.planBody) rs

/-- Adding reports extends a catalog. -/
lemma addReports_extends {clock : ℕ → Timestamp} {catalog catalog' : PlanRevisionCatalog}
    {reports : List Report} (h : addReports clock catalog reports = .ok catalog') :
    ∃ revisions, catalog' = catalog ++ revisions := by
  induction reports generalizing catalog with
  | nil => exact ⟨[], by rw [← Except.ok.inj h, List.append_nil]⟩
  | cons p reports ih =>
      unfold addReports at h
      rw [List.foldlM_cons, Effect.except_bind_eq_ok] at h
      obtain ⟨next, hnext, h⟩ := h
      obtain ⟨-, revision, -, rfl⟩ := PlanRevisionCatalog.addRevision_eq_ok_iff.mp hnext
      obtain ⟨revisions, rfl⟩ := ih h
      exact ⟨revision :: revisions, by rw [List.append_assoc, List.singleton_append]⟩

lemma addReports_cons {clock : ℕ → Timestamp} {catalog catalog' : PlanRevisionCatalog} {p : Report}
    {reports : List Report} :
    addReports clock catalog (p :: reports) = .ok catalog' ↔
      ∃ next, catalog.addRevision (clock catalog.length) p.body p.diffFromPrevious p.rationale =
          .ok next ∧ addReports clock next reports = .ok catalog' := by
  unfold addReports
  rw [List.foldlM_cons, Effect.except_bind_eq_ok]

lemma latest_concat (catalog : PlanRevisionCatalog) (revision : PlanRevision) :
    PlanRevisionCatalog.latest (catalog ++ [revision]) = some revision :=
  List.getLast?_concat

/-- What the catalog makes of a result it accepts. -/
lemma exists_addRevision {catalog : PlanRevisionCatalog} {r : IterationResult}
    (timestamp : Timestamp) (hcount : r.iterationCount = catalog.length + 1)
    (hbody : r.planBody ≠ "") (hrationale : r.planRationale ≠ "")
    (hdiff : catalog.length = 0 → r.planDiffFromPrevious = "")
    (hdiffers : ∀ body ∈ catalog.latest.map PlanRevision.body, r.planBody ≠ body) :
    ∃ revision, catalog.addRevision timestamp r.planBody r.planDiffFromPrevious r.planRationale =
        .ok (catalog ++ [revision]) ∧ Carries E.runId (report E r) revision := by
  have hversion : (1 : ℤ) ≤ catalog.nextVersion := by
    unfold PlanRevisionCatalog.nextVersion
    omega
  have hfirst : catalog.nextVersion = 1 → r.planDiffFromPrevious = "" := by
    intro h
    unfold PlanRevisionCatalog.nextVersion at h
    exact hdiff (by omega)
  let revision : PlanRevision :=
    { version := catalog.nextVersion, body := r.planBody,
      diffFromPrevious := r.planDiffFromPrevious, rationale := r.planRationale,
      timestamp := timestamp,
      artifactRef := "artifact://plan-v" ++ toString catalog.nextVersion,
      version_pos := hversion, body_ne := hbody, rationale_ne := hrationale,
      first_diff := hfirst }
  refine ⟨revision, ?_, hcount, rfl, rfl, rfl, ?_, ?_⟩
  · refine PlanRevisionCatalog.addRevision_eq_ok_iff.mpr ⟨?_, _, ?_, rfl⟩
    · exact fun latest hlatest =>
        hdiffers latest.body (Option.mem_map.mpr ⟨latest, hlatest, rfl⟩)
    · exact PlanRevision.new_eq_ok_iff.mpr ⟨rfl, rfl, rfl, rfl, rfl, rfl⟩
  · exact congrArg (fun v => "plan-revision-v" ++ toString v) hcount
  · exact congrArg (fun v => E.runId ++ ".artifact." ++ ("plan-revision-v" ++ toString v)) hcount

/-- **One report**: the catalog makes the revision it carries exactly when it accepts the result. -/
lemma addRevision_carries_iff {timestamp : Timestamp} {catalog : PlanRevisionCatalog}
    {r : IterationResult} :
    (∃ revision, catalog.addRevision timestamp r.planBody r.planDiffFromPrevious r.planRationale =
        .ok (catalog ++ [revision]) ∧ Carries E.runId (report E r) revision) ↔
    r.iterationCount = catalog.length + 1 ∧ r.planBody ≠ "" ∧ r.planRationale ≠ "" ∧
      (catalog.length = 0 → r.planDiffFromPrevious = "") ∧
      ∀ body ∈ catalog.latest.map PlanRevision.body, r.planBody ≠ body := by
  constructor
  · rintro ⟨revision, hadd, hrevision⟩
    obtain ⟨hdiffers, made, hmade, hmake⟩ := PlanRevisionCatalog.addRevision_eq_ok_iff.mp hadd
    obtain rfl : revision = made := List.singleton_inj.mp (List.append_cancel_left hmake)
    obtain ⟨hversion, hbody, hdiff, hrationale, -, -⟩ := PlanRevision.new_eq_ok_iff.mp hmade
    refine ⟨hrevision.version.trans hversion, hbody ▸ revision.body_ne,
      hrationale ▸ revision.rationale_ne, fun hzero => ?_, fun body hmem => ?_⟩
    · rw [← hdiff]
      apply revision.first_diff
      rw [hversion, PlanRevisionCatalog.nextVersion, hzero]
      rfl
    · obtain ⟨latest, hlast, rfl⟩ := Option.mem_map.mp hmem
      exact hdiffers latest hlast
  · rintro ⟨hcount, hbody, hrationale, hdiff, hdiffers⟩
    exact exists_addRevision timestamp hcount hbody hrationale hdiff hdiffers

/-- **The catalog makes the revisions reported** exactly when it accepts the results. -/
lemma addReports_iff {clock : ℕ → Timestamp} {catalog : PlanRevisionCatalog}
    {rs : List IterationResult} :
    (∃ revisions, addReports clock catalog (rs.map (report E)) = .ok (catalog ++ revisions) ∧
      List.Forall₂ (Carries E.runId) (rs.map (report E)) revisions) ↔
    Accepts catalog.length (catalog.latest.map PlanRevision.body) rs := by
  induction rs generalizing catalog with
  | nil =>
      refine iff_of_true ⟨[], ?_, List.Forall₂.nil⟩ trivial
      rw [List.append_nil]
      rfl
  | cons r rs ih =>
      -- the revisions after the first, on the catalog that has it
      have hrest : ∀ revision : PlanRevision, revision.body = r.planBody →
          ((∃ revisions, addReports clock (catalog ++ [revision]) (rs.map (report E)) =
              .ok (catalog ++ revision :: revisions) ∧
            List.Forall₂ (Carries E.runId) (rs.map (report E)) revisions) ↔
          Accepts (catalog.length + 1) (some r.planBody) rs) := by
        intro revision hbody
        have hafter := @ih (catalog ++ [revision])
        rw [latest_concat, List.length_append, List.length_singleton, Option.map_some,
          hbody] at hafter
        simpa only [List.append_assoc, List.singleton_append] using hafter
      rw [Accepts, List.map_cons]
      constructor
      · rintro ⟨revisions, hadd, hcarries⟩
        rw [List.forall₂_cons_left_iff] at hcarries
        obtain ⟨revision, revisions, hrevision, hcarries, rfl⟩ := hcarries
        obtain ⟨next, hnext, hadd⟩ := addReports_cons.mp hadd
        obtain ⟨-, made, -, rfl⟩ := PlanRevisionCatalog.addRevision_eq_ok_iff.mp hnext
        -- the revision made is the one carried
        obtain ⟨others, hothers⟩ := addReports_extends hadd
        rw [List.append_assoc, List.singleton_append, List.append_cancel_left_eq,
          List.cons.injEq] at hothers
        obtain ⟨rfl, -⟩ := hothers
        obtain ⟨hcount, hbody, hrationale, hdiff, hdiffers⟩ :=
          addRevision_carries_iff.mp ⟨revision, hnext, hrevision⟩
        exact ⟨hcount, hbody, hrationale, hdiff, hdiffers,
          (hrest revision hrevision.body.symm).mp ⟨revisions, hadd, hcarries⟩⟩
      · rintro ⟨hcount, hbody, hrationale, hdiff, hdiffers, haccepts⟩
        obtain ⟨revision, hnext, hrevision⟩ :=
          (@addRevision_carries_iff E (clock catalog.length) catalog r).mpr
            ⟨hcount, hbody, hrationale, hdiff, hdiffers⟩
        obtain ⟨revisions, hadd, hcarries⟩ :=
          (hrest revision hrevision.body.symm).mpr haccepts
        exact ⟨revision :: revisions, addReports_cons.mpr ⟨_, hnext, hadd⟩,
          .cons hrevision hcarries⟩

/-! ## Iterations that revise the plan -/

/-- The iterations from the given one on come no earlier. -/
lemma le_of_mem_throughDone {n i j : ℕ} (h : j ∈ throughDone iterationResultFn n i) : i ≤ j := by
  induction n generalizing i with
  | zero => exact absurd h List.not_mem_nil
  | succ n ih =>
      unfold throughDone at h
      split at h
      · exact Nat.le_of_eq (List.mem_singleton.mp h).symm
      · rcases List.mem_cons.mp h with rfl | h
        · exact Nat.le_refl _
        · exact Nat.le_of_succ_le (ih h)

/-- What the catalog asks of an iteration when `n` revisions are there before the iterations
considered, the last one with the body `previous`. -/
structure CatalogableAfter (iterationResultFn : ℕ → IterationResult) (n : ℕ)
    (previous : Option String) (i : ℕ) : Prop where
  after : ∀ j, n < j → j < i → (iterationResultFn j).planRevised = true
  body : (iterationResultFn i).planBody ≠ ""
  rationale : (iterationResultFn i).planRationale ≠ ""
  first : i = 1 → (iterationResultFn i).planDiffFromPrevious = ""
  differs : if i = n + 1 then ∀ body ∈ previous, (iterationResultFn i).planBody ≠ body
    else (iterationResultFn i).planBody ≠ (iterationResultFn (i - 1)).planBody

/-- After an iteration that does not revise the plan none may. -/
lemma accepts_late {n : ℕ} {previous : Option String} {is : List ℕ} (his : ∀ j ∈ is, n + 1 < j) :
    Accepts n previous ((revising iterationResultFn is).map (numbered iterationResultFn)) ↔
      ∀ j ∈ is, ¬ (iterationResultFn j).planRevised = true := by
  unfold revising
  cases hrevising : is.filter fun i => (iterationResultFn i).planRevised with
  | nil =>
      apply iff_of_true trivial
      simpa using hrevising
  | cons j js =>
      have hmem : j ∈ is.filter fun i => (iterationResultFn i).planRevised :=
        hrevising ▸ List.mem_cons_self
      rw [List.mem_filter] at hmem
      refine iff_of_false ?_ fun h => h j hmem.1 hmem.2
      rintro ⟨hcount, -⟩
      have hlate := his j hmem.1
      have hcount : (j : ℤ) = n + 1 := hcount
      omega

/-- What is asked of the next revision. -/
lemma catalogableAfter_next {n : ℕ} {previous : Option String} :
    CatalogableAfter iterationResultFn n previous (n + 1) ↔
      (iterationResultFn (n + 1)).planBody ≠ "" ∧ (iterationResultFn (n + 1)).planRationale ≠ "" ∧
        (n = 0 → (iterationResultFn (n + 1)).planDiffFromPrevious = "") ∧
        ∀ body ∈ previous, (iterationResultFn (n + 1)).planBody ≠ body := by
  constructor
  · rintro ⟨-, hbody, hrationale, hfirst, hdiffers⟩
    rw [if_pos rfl] at hdiffers
    exact ⟨hbody, hrationale, fun h => hfirst (by omega), hdiffers⟩
  · rintro ⟨hbody, hrationale, hdiff, hdiffers⟩
    refine ⟨by omega, hbody, hrationale, fun h => hdiff (by omega), ?_⟩
    rwa [if_pos rfl]

/-- Once an iteration has revised the plan, its plan is the one before. -/
lemma catalogableAfter_succ {n : ℕ} {previous : Option String}
    (hrevised : (iterationResultFn (n + 1)).planRevised = true) {i : ℕ} (hi : i ≠ n + 1) :
    CatalogableAfter iterationResultFn (n + 1) (some (iterationResultFn (n + 1)).planBody) i ↔
      CatalogableAfter iterationResultFn n previous i := by
  constructor
  · rintro ⟨hafter, hbody, hrationale, hfirst, hdiffers⟩
    refine ⟨fun j hj hji => ?_, hbody, hrationale, hfirst, ?_⟩
    · rcases Nat.eq_or_lt_of_le hj with rfl | hj
      · exact hrevised
      · exact hafter j hj hji
    · rw [if_neg hi]
      split at hdiffers
      · rename_i heq
        subst heq
        exact hdiffers _ rfl
      · exact hdiffers
  · rintro ⟨hafter, hbody, hrationale, hfirst, hdiffers⟩
    refine ⟨fun j hj hji => hafter j (by omega) hji, hbody, hrationale, hfirst, ?_⟩
    rw [if_neg hi] at hdiffers
    split
    · rename_i heq
      subst heq
      intro body hbody
      rw [← Option.some.inj hbody]
      exact hdiffers
    · exact hdiffers

/-- When the first iteration does not revise the plan, none may. -/
lemma accepts_unrevised {n : ℕ} {previous : Option String}
    (hrevised : ¬ (iterationResultFn (n + 1)).planRevised = true) {is : List ℕ}
    (his : ∀ j ∈ is, n + 1 < j) :
    Accepts n previous ((revising iterationResultFn ((n + 1) :: is)).map
        (numbered iterationResultFn)) ↔
      ∀ i ∈ (n + 1) :: is, (iterationResultFn i).planRevised = true →
        CatalogableAfter iterationResultFn n previous i := by
  have hdrop : revising iterationResultFn ((n + 1) :: is) = revising iterationResultFn is :=
    List.filter_cons_of_neg hrevised
  rw [hdrop, accepts_late his, List.forall_mem_cons]
  constructor
  · exact fun h => ⟨fun hrev => absurd hrev hrevised, fun i hi hrev => absurd hrev (h i hi)⟩
  · intro h i hi hrev
    exact hrevised ((h.2 i hi hrev).after (n + 1) (Nat.lt_succ_self n) (his i hi))

/-- **What the catalog accepts**, by induction on the iterations. -/
lemma accepts_throughDone {m n : ℕ} {previous : Option String} :
    Accepts n previous ((revising iterationResultFn
        (throughDone iterationResultFn m (n + 1))).map (numbered iterationResultFn)) ↔
      ∀ i ∈ throughDone iterationResultFn m (n + 1), (iterationResultFn i).planRevised = true →
        CatalogableAfter iterationResultFn n previous i := by
  induction m generalizing n previous with
  | zero => exact iff_of_true trivial fun i hi => absurd hi List.not_mem_nil
  | succ m ih =>
      by_cases hrevised : (iterationResultFn (n + 1)).planRevised = true
      · have hdone : ¬ (iterationResultFn (n + 1)).done = true := by
          unfold IterationResult.done
          rw [hrevised]
          simp
        have hhead : revising iterationResultFn ((n + 1) ::
            throughDone iterationResultFn m (n + 1 + 1)) =
            (n + 1) :: revising iterationResultFn (throughDone iterationResultFn m (n + 1 + 1)) :=
          List.filter_cons_of_pos hrevised
        have hrest : (∀ i ∈ throughDone iterationResultFn m (n + 1 + 1),
            (iterationResultFn i).planRevised = true → CatalogableAfter iterationResultFn (n + 1)
              (some (iterationResultFn (n + 1)).planBody) i) ↔
            ∀ i ∈ throughDone iterationResultFn m (n + 1 + 1),
              (iterationResultFn i).planRevised = true →
              CatalogableAfter iterationResultFn n previous i :=
          forall₂_congr fun i hi => imp_congr_right fun _ =>
            catalogableAfter_succ hrevised (Nat.ne_of_gt (le_of_mem_throughDone hi))
        rw [throughDone, if_neg hdone, hhead, List.map_cons, Accepts, List.forall_mem_cons, ih,
          ← hrest, catalogableAfter_next]
        constructor
        · rintro ⟨-, hbody, hrationale, hdiff, hdiffers, hafter⟩
          exact ⟨fun _ => ⟨hbody, hrationale, hdiff, hdiffers⟩, hafter⟩
        · rintro ⟨hnext, hafter⟩
          obtain ⟨hbody, hrationale, hdiff, hdiffers⟩ := hnext hrevised
          exact ⟨rfl, hbody, hrationale, hdiff, hdiffers, hafter⟩
      · unfold throughDone
        split
        · exact accepts_unrevised hrevised fun j hj => absurd hj List.not_mem_nil
        · exact accepts_unrevised hrevised fun j hj => le_of_mem_throughDone hj

/-- With no revision before, what is asked of an iteration is what the catalog asks. -/
lemma catalogableAfter_zero {i : ℕ} (hi : 1 ≤ i) :
    CatalogableAfter iterationResultFn 0 none i ↔ Catalogable iterationResultFn i := by
  constructor
  · rintro ⟨hafter, hbody, hrationale, hfirst, hdiffers⟩
    refine ⟨hafter, hbody, hrationale, hfirst, fun htwo => ?_⟩
    rwa [if_neg (by omega)] at hdiffers
  · rintro ⟨hafter, hbody, hrationale, hfirst, hdiffers⟩
    refine ⟨hafter, hbody, hrationale, hfirst, ?_⟩
    split
    · exact nofun
    · exact hdiffers (by omega)

/-- **When the plan revisions are those of the catalog.**  The iterations that revise the plan are
the first ones of the run, and each reports a plan and a rationale that the catalog accepts. -/
theorem cataloged_iff (E : Emitter) (cfg : LoopConfig) (iterationResultFn : ℕ → IterationResult)
    (clock : ℕ → Timestamp) :
    Cataloged E.runId clock (runTillDone E cfg iterationResultFn []).2 ↔
      ∀ i ∈ carriedOut cfg iterationResultFn, (iterationResultFn i).planRevised = true →
        Catalogable iterationResultFn i := by
  have hevents : (runTillDone E cfg iterationResultFn []).2 =
      eventsFrom E 0 (emissions cfg iterationResultFn cfg.maxIterations.toNat 0).2 := by
    rw [runTillDone_eq]
    rfl
  have hreports : (runTillDone E cfg iterationResultFn []).2.filterMap reportOf =
      ((revising iterationResultFn (carriedOut cfg iterationResultFn)).map
        (numbered iterationResultFn)).map (report E) := by
    rw [hevents, filterMap_reportOf_eventsFrom, reports_eq _ emissions_eq, List.map_map]
    rfl
  unfold Cataloged
  rw [hreports]
  apply (@addReports_iff E clock [] _).trans
  show Accepts 0 none _ ↔ _
  unfold carriedOut
  rw [accepts_throughDone]
  exact forall₂_congr fun i hi => imp_congr_right fun _ =>
    catalogableAfter_zero (le_of_mem_throughDone hi)

/-- The second of three iterations revises the plan. -/
def reviseSecond (i : ℕ) : IterationResult :=
  { planArtifactId := "plan-v1", checkPassed := false, planRevised := i == 2, planBody := "plan",
    planRationale := "the check failed" }

/-- The first plan revision of a run has version 2 when the first iteration revises nothing. -/
theorem not_cataloged_second :
    ¬ Cataloged "run-1" (fun _ => 0)
      (runTillDone ⟨"run-1", fun _ => 0, none⟩ {} reviseSecond []).2 := by
  rintro ⟨catalog, hadd, hcarries⟩
  have hreports : (runTillDone ⟨"run-1", fun _ => 0, none⟩ {} reviseSecond
      []).2.filterMap reportOf =
      [⟨"run-1.artifact.plan-revision-v2", "plan-revision-v2", 2, "plan", "",
        "the check failed"⟩] := by
    rfl
  rw [hreports] at hadd hcarries
  rw [List.forall₂_cons_left_iff] at hcarries
  obtain ⟨revision, rest, hrevision, -, rfl⟩ := hcarries
  -- the catalog's first revision has version 1
  have hfirst : (addReports (fun _ => 0) [] [⟨"run-1.artifact.plan-revision-v2",
      "plan-revision-v2", 2, "plan", "", "the check failed"⟩]).map
        (fun catalog => catalog.map PlanRevision.version) = .ok [1] := rfl
  rw [hadd] at hfirst
  have hone : revision.version = 1 := (List.cons.inj (Except.ok.inj hfirst)).1
  exact absurd (hrevision.version.trans hone) (by decide)

end

end Waywarden.TillDone

import Waywarden.Services.Visibility

/-!
# When a snapshot can be taken

A snapshot should always be there, with every event of the run that it shows in one of its lists.
The lists are right whenever the loop over the events ends (`collects_of_foldlM`).  It does not end
when the version of a plan revision is something `int` refuses: one such event, and there is no
snapshot of the run at all.

`snapshot_complete_iff` has the exact condition.  Beside the version it asks for what `str` asks
for, that no integer among the fields shown is too long to be written, and for a run record and a
manifest that can be read.
-/

namespace Waywarden.VisibilityService

open ValueText Effect

/-- The events of a run in the order of their numbers. -/
def orderedLog (s : Store) (runId : String) : List RunEvent :=
  (s.log runId).insertionSort fun a b => a.seq ≤ b.seq

/-- The event records a plan revision. -/
def isPlanRevision (ev : RunEvent) : Bool :=
  ev.type = .runArtifactCreated &&
    match ev.payload.get "artifact_kind" with
    | some (.str kind) => kind == "plan-revision"
    | _ => false

/-- The event records any other artifact. -/
def isOtherArtifact (ev : RunEvent) : Bool :=
  ev.type = .runArtifactCreated && !isPlanRevision ev

lemma type_of_isPlanRevision {ev : RunEvent} (h : isPlanRevision ev = true) :
    ev.type = .runArtifactCreated := by
  unfold isPlanRevision at h
  rw [Bool.and_eq_true, decide_eq_true_eq] at h
  exact h.1

lemma type_of_isOtherArtifact {ev : RunEvent} (h : isOtherArtifact ev = true) :
    ev.type = .runArtifactCreated := by
  unfold isOtherArtifact at h
  rw [Bool.and_eq_true, decide_eq_true_eq] at h
  exact h.1

/-- The event records a milestone. -/
def isMilestone (ev : RunEvent) : Bool := ev.type = .runProgress

variable (T : UnicodeTable) (isoformat : Timestamp → String) (runId : String)

/-- The lists hold the records of some events: each of the three kinds in a list of its own. -/
structure Collects (events : List RunEvent) (lists : Collected) : Prop where
  milestones : List.Forall₂ (fun ev r => milestoneRecord T isoformat runId ev = .ok r)
    (events.filter isMilestone) lists.milestones
  planRevisions : List.Forall₂ (fun ev r => planRevisionRecord T isoformat runId ev = .ok r)
    (events.filter isPlanRevision) lists.planRevisions
  artifacts : List.Forall₂ (fun ev r => ∃ kind, payloadText T ev "artifact_kind" = .ok kind ∧
      artifactRecord T isoformat runId kind ev = .ok r)
    (events.filter isOtherArtifact) lists.artifacts

/-- The snapshot shows the run: its milestones, plan revisions and artifacts are those of the log in
order, each event once and under its number, and its approvals are the pending ones. -/
structure Complete (service : VisibilityService) (s : Store) (snapshot : RunSnapshot) : Prop where
  collects : Collects T isoformat runId (orderedLog s runId)
    ⟨snapshot.milestones, snapshot.artifacts, snapshot.planRevisions⟩
  milestone_seqs : snapshot.milestones.map MilestoneRecord.seq =
    ((orderedLog s runId).filter isMilestone).map RunEvent.seq
  planRevision_seqs : snapshot.planRevisions.map PlanRevisionRecord.seq =
    ((orderedLog s runId).filter isPlanRevision).map RunEvent.seq
  artifact_seqs : snapshot.artifacts.map ArtifactRecord.seq =
    ((orderedLog s runId).filter isOtherArtifact).map RunEvent.seq
  once : (snapshot.milestones.map MilestoneRecord.seq ++
      snapshot.planRevisions.map PlanRevisionRecord.seq ++
      snapshot.artifacts.map ArtifactRecord.seq).Perm
    (((s.log runId).filter fun ev =>
      ev.type = .runProgress || ev.type = .runArtifactCreated).map RunEvent.seq)
  pending : service.approvals = true → snapshot.pendingApprovals =
    ((ApprovalRepository.ofRun s runId).filter fun a => a.state = .pending).map
      (pendingApprovalRecord isoformat)

/-! ## The loop over the events -/

variable {T isoformat runId}

namespace Collects

variable {events : List RunEvent} {lists : Collected} {ev : RunEvent}

/-- An event of another type adds nothing. -/
lemma skip (h : Collects T isoformat runId events lists) (hmilestone : ev.type ≠ .runProgress)
    (hartifact : ev.type ≠ .runArtifactCreated) :
    Collects T isoformat runId (events ++ [ev]) lists := by
  obtain ⟨hm, hp, ha⟩ := h
  constructor
  · rw [List.filter_append]
    simpa [isMilestone, hmilestone] using hm
  · rw [List.filter_append]
    simpa [isPlanRevision, hartifact] using hp
  · rw [List.filter_append]
    simpa [isOtherArtifact, hartifact] using ha

lemma milestone (h : Collects T isoformat runId events lists) (hev : ev.type = .runProgress)
    {r : MilestoneRecord} (hr : milestoneRecord T isoformat runId ev = .ok r) :
    Collects T isoformat runId (events ++ [ev])
      { lists with milestones := lists.milestones ++ [r] } := by
  obtain ⟨hm, hp, ha⟩ := h
  constructor
  · rw [List.filter_append, List.filter_cons_of_pos (by simp [isMilestone, hev])]
    exact List.rel_append hm (.cons hr .nil)
  · rw [List.filter_append]
    simpa [isPlanRevision, hev] using hp
  · rw [List.filter_append]
    simpa [isOtherArtifact, hev] using ha

lemma planRevision (h : Collects T isoformat runId events lists) (hev : isPlanRevision ev = true)
    {r : PlanRevisionRecord} (hr : planRevisionRecord T isoformat runId ev = .ok r) :
    Collects T isoformat runId (events ++ [ev])
      { lists with planRevisions := lists.planRevisions ++ [r] } := by
  obtain ⟨hm, hp, ha⟩ := h
  have htype := type_of_isPlanRevision hev
  constructor
  · rw [List.filter_append]
    simpa [isMilestone, htype] using hm
  · rw [List.filter_append, List.filter_cons_of_pos hev]
    exact List.rel_append hp (.cons hr .nil)
  · rw [List.filter_append]
    simpa [isOtherArtifact, hev] using ha

lemma artifact (h : Collects T isoformat runId events lists)
    (htype : ev.type = .runArtifactCreated) (hev : isPlanRevision ev = false) {kind : String}
    {r : ArtifactRecord} (hkind : payloadText T ev "artifact_kind" = .ok kind)
    (hr : artifactRecord T isoformat runId kind ev = .ok r) :
    Collects T isoformat runId (events ++ [ev])
      { lists with artifacts := lists.artifacts ++ [r] } := by
  obtain ⟨hm, hp, ha⟩ := h
  constructor
  · rw [List.filter_append]
    simpa [isMilestone, htype] using hm
  · rw [List.filter_append]
    simpa [hev] using hp
  · rw [List.filter_append, List.filter_cons_of_pos (by simp [isOtherArtifact, htype, hev])]
    exact List.rel_append ha (.cons ⟨kind, hkind, hr⟩ .nil)

end Collects

/-- The kind is the word `plan-revision` exactly for the events that record a plan revision. -/
lemma payloadText_kind_iff {ev : RunEvent} (htype : ev.type = .runArtifactCreated) :
    payloadText T ev "artifact_kind" = .ok "plan-revision" ↔ isPlanRevision ev = true := by
  have hword : ∀ c ∈ ("plan-revision" : String).toList.head?, ¬ Opens c := by
    intro c hc
    obtain rfl := Option.some.inj hc
    unfold Opens
    decide
  unfold payloadText isPlanRevision
  rw [str_eq_word_iff hword, htype]
  cases ev.payload.get "artifact_kind" with
  | none => simp
  | some v => cases v <;> simp

/-- **One turn of the loop** puts the event into the list of its kind. -/
lemma collects_of_collect {events : List RunEvent} {lists lists' : Collected} {ev : RunEvent}
    (h : Collects T isoformat runId events lists)
    (hcollect : collect T isoformat runId lists ev = .ok lists') :
    Collects T isoformat runId (events ++ [ev]) lists' := by
  unfold collect at hcollect
  split at hcollect
  case h_1 htype =>
    obtain ⟨r, hr, hlists⟩ := except_bind_eq_ok.mp hcollect
    obtain rfl := Except.ok.inj hlists
    exact h.milestone htype hr
  case h_2 htype =>
    obtain ⟨kind, hkind, hcollect⟩ := except_bind_eq_ok.mp hcollect
    split at hcollect
    · rename_i hplan
      obtain ⟨r, hr, hlists⟩ := except_bind_eq_ok.mp hcollect
      obtain rfl := Except.ok.inj hlists
      rw [hplan, payloadText_kind_iff htype] at hkind
      exact h.planRevision hkind hr
    · rename_i hother
      obtain ⟨r, hr, hlists⟩ := except_bind_eq_ok.mp hcollect
      obtain rfl := Except.ok.inj hlists
      refine h.artifact htype ?_ hkind hr
      rw [Bool.eq_false_iff, ne_eq, ← payloadText_kind_iff (T := T) htype, hkind]
      simpa using hother
  case h_3 hmilestone hartifact =>
    obtain rfl := Except.ok.inj hcollect
    exact h.skip hmilestone hartifact

/-- **What the loop has gathered** when it ends. -/
lemma collects_of_foldlM {events : List RunEvent} {lists : Collected}
    (h : events.foldlM (collect T isoformat runId) ⟨[], [], []⟩ = .ok lists) :
    Collects T isoformat runId events lists := by
  induction events using List.reverseRecOn generalizing lists with
  | nil =>
      obtain rfl := Except.ok.inj h
      exact ⟨.nil, .nil, .nil⟩
  | append_singleton events ev ih =>
      rw [List.foldlM_append] at h
      obtain ⟨before, hbefore, hlast⟩ := except_bind_eq_ok.mp h
      rw [List.foldlM_cons] at hlast
      obtain ⟨after, hafter, hnil⟩ := except_bind_eq_ok.mp hlast
      obtain rfl := Except.ok.inj hnil
      exact collects_of_collect (ih hbefore) hafter

/-! ## When the loop ends -/

/-- A field can be written, if it is there. -/
def Written (ev : RunEvent) (key : String) : Prop := ∀ v ∈ ev.payload.get key, Short v

/-- The fields of the event that are shown can be written, and a version can be read. -/
def Displayable (T : UnicodeTable) (ev : RunEvent) : Prop :=
  (ev.type = .runProgress → Written ev "phase" ∧ Written ev "milestone") ∧
  (isPlanRevision ev = true → (∀ v ∈ ev.payload.get "version", ReadsAsInt T v) ∧
    Written ev "artifact_ref" ∧ Written ev "diff_from_previous" ∧ Written ev "rationale") ∧
  (isOtherArtifact ev = true →
    Written ev "artifact_kind" ∧ Written ev "artifact_ref" ∧ Written ev "label")

lemma exists_payloadText_iff {ev : RunEvent} {key : String} :
    (∃ text, payloadText T ev key = .ok text) ↔ Written ev key := by
  unfold payloadText Written
  rw [exists_str_iff]
  cases ev.payload.get key with
  | none => exact iff_of_true trivial (by simp)
  | some v => simp

lemma exists_milestoneRecord_iff {ev : RunEvent} :
    (∃ r, milestoneRecord T isoformat runId ev = .ok r) ↔
      Written ev "phase" ∧ Written ev "milestone" := by
  unfold milestoneRecord
  simp only [except_bind_eq_ok, ← exists_payloadText_iff (T := T)]
  constructor
  · rintro ⟨_, phase, hphase, milestone, hmilestone, -⟩
    exact ⟨⟨phase, hphase⟩, milestone, hmilestone⟩
  · rintro ⟨⟨phase, hphase⟩, milestone, hmilestone⟩
    exact ⟨_, phase, hphase, milestone, hmilestone, rfl⟩

/-- The version is there and can be read, or the default `0` is. -/
lemma exists_version_iff {ev : RunEvent} :
    (∃ text i, str T ((ev.payload.get "version").getD (.int 0)) = .ok text ∧
      int T text = .ok i) ↔ ∀ v ∈ ev.payload.get "version", ReadsAsInt T v := by
  rw [readsAsInt_iff]
  cases ev.payload.get "version" with
  | none =>
      have hzero : Short (.int 0) := by
        show (Nat.toDigits 10 0).length ≤ maxStrDigits
        decide
      exact iff_of_true (Or.inl ⟨0, rfl, hzero⟩) (by simp)
  | some v => simp

lemma exists_planRevisionRecord_iff {ev : RunEvent} :
    (∃ r, planRevisionRecord T isoformat runId ev = .ok r) ↔
      (∀ v ∈ ev.payload.get "version", ReadsAsInt T v) ∧ Written ev "artifact_ref" ∧
        Written ev "diff_from_previous" ∧ Written ev "rationale" := by
  unfold planRevisionRecord
  simp only [except_bind_eq_ok, ← exists_payloadText_iff (T := T), ← exists_version_iff]
  constructor
  · rintro ⟨_, text, htext, i, hi, ref, href, diff, hdiff, rationale, hrationale, -⟩
    exact ⟨⟨text, i, htext, hi⟩, ⟨ref, href⟩, ⟨diff, hdiff⟩, rationale, hrationale⟩
  · rintro ⟨⟨text, i, htext, hi⟩, ⟨ref, href⟩, ⟨diff, hdiff⟩, rationale, hrationale⟩
    exact ⟨_, text, htext, i, hi, ref, href, diff, hdiff, rationale, hrationale, rfl⟩

lemma exists_artifactLabel_iff {ev : RunEvent} :
    (∃ label, artifactLabel T ev = .ok label) ↔ Written ev "label" := by
  unfold artifactLabel Written
  cases ev.payload.get "label" with
  | none => exact iff_of_true ⟨none, rfl⟩ (by simp)
  | some v =>
      simp only [Option.mem_def, Option.some.injEq, forall_eq', ← exists_str_iff (T := T)]
      cases str T v with
      | error e => exact iff_of_false (by simp [Except.map]) (by simp)
      | ok text => exact iff_of_true ⟨some text, rfl⟩ ⟨text, rfl⟩

lemma exists_artifactRecord_iff {kind : String} {ev : RunEvent} :
    (∃ r, artifactRecord T isoformat runId kind ev = .ok r) ↔
      Written ev "artifact_ref" ∧ Written ev "label" := by
  unfold artifactRecord
  rw [← exists_payloadText_iff (T := T), ← exists_artifactLabel_iff (T := T)]
  simp only [except_bind_eq_ok]
  constructor
  · rintro ⟨_, ref, href, label, hlabel, -⟩
    exact ⟨⟨ref, href⟩, label, hlabel⟩
  · rintro ⟨⟨ref, href⟩, label, hlabel⟩
    exact ⟨_, ref, href, label, hlabel, rfl⟩

lemma exists_collectArtifact_plan_iff {ev : RunEvent} (h : isPlanRevision ev = true)
    (lists : Collected) :
    (∃ lists', collectArtifact T isoformat runId lists ev = .ok lists') ↔
      (∀ v ∈ ev.payload.get "version", ReadsAsInt T v) ∧ Written ev "artifact_ref" ∧
        Written ev "diff_from_previous" ∧ Written ev "rationale" := by
  unfold collectArtifact
  rw [(payloadText_kind_iff (T := T) (type_of_isPlanRevision h)).mpr h,
    ← @exists_planRevisionRecord_iff T isoformat runId ev]
  exact exists_bind_ok_iff

lemma exists_collectArtifact_other_iff {ev : RunEvent} (h : isOtherArtifact ev = true)
    (lists : Collected) :
    (∃ lists', collectArtifact T isoformat runId lists ev = .ok lists') ↔
      Written ev "artifact_kind" ∧ Written ev "artifact_ref" ∧ Written ev "label" := by
  have hword : ∀ kind, payloadText T ev "artifact_kind" = .ok kind → kind ≠ "plan-revision" := by
    rintro kind hkind rfl
    rw [payloadText_kind_iff (type_of_isOtherArtifact h)] at hkind
    simp [isOtherArtifact, hkind] at h
  rw [← exists_payloadText_iff (T := T)]
  unfold collectArtifact
  constructor
  · rintro ⟨lists', hturn⟩
    obtain ⟨kind, hkind, hturn⟩ := except_bind_eq_ok.mp hturn
    rw [if_neg (hword kind hkind)] at hturn
    exact ⟨⟨kind, hkind⟩, exists_artifactRecord_iff.mp (exists_bind_ok_iff.mp ⟨lists', hturn⟩)⟩
  · rintro ⟨⟨kind, hkind⟩, hrecord⟩
    obtain ⟨record, hrecord⟩ := exists_artifactRecord_iff.mpr hrecord
    refine ⟨{ lists with artifacts := lists.artifacts ++ [record] }, ?_⟩
    rw [except_bind_eq_ok]
    refine ⟨kind, hkind, ?_⟩
    rw [if_neg (hword kind hkind), except_bind_eq_ok]
    exact ⟨record, hrecord, rfl⟩

/-- **A turn of the loop ends** when the event can be displayed. -/
lemma exists_collect_iff (lists : Collected) (ev : RunEvent) :
    (∃ lists', collect T isoformat runId lists ev = .ok lists') ↔ Displayable T ev := by
  unfold collect Displayable
  split
  case h_1 htype =>
    have hplan : isPlanRevision ev = false := by simp [isPlanRevision, htype]
    have hother : isOtherArtifact ev = false := by simp [isOtherArtifact, htype]
    rw [exists_bind_ok_iff, exists_milestoneRecord_iff]
    simp [htype, hplan, hother]
  case h_2 htype =>
    by_cases hplan : isPlanRevision ev = true
    · have hother : isOtherArtifact ev = false := by simp [isOtherArtifact, hplan]
      rw [exists_collectArtifact_plan_iff hplan]
      simp [htype, hplan, hother]
    · have hother : isOtherArtifact ev = true := by simp [isOtherArtifact, hplan, htype]
      rw [exists_collectArtifact_other_iff hother]
      simp [htype, hplan, hother]
  case h_3 hmilestone hartifact =>
    exact iff_of_true ⟨lists, rfl⟩ ⟨fun h => absurd h hmilestone,
      fun h => absurd (type_of_isPlanRevision h) hartifact,
      fun h => absurd (type_of_isOtherArtifact h) hartifact⟩

/-! ## The snapshot -/

/-- The three kinds of events, one after the other, are the events that are shown. -/
lemma perm_kinds (events : List RunEvent) :
    (events.filter isMilestone ++ events.filter isPlanRevision ++
      events.filter isOtherArtifact).Perm
    (events.filter fun ev => ev.type = .runProgress || ev.type = .runArtifactCreated) := by
  induction events with
  | nil => exact .nil
  | cons ev events ih =>
      by_cases hmilestone : ev.type = .runProgress
      · have hplan : isPlanRevision ev = false := by simp [isPlanRevision, hmilestone]
        have hother : isOtherArtifact ev = false := by simp [isOtherArtifact, hmilestone]
        rw [List.filter_cons_of_pos (by simp [isMilestone, hmilestone]),
          List.filter_cons_of_neg (by simp [hplan]), List.filter_cons_of_neg (by simp [hother]),
          List.filter_cons_of_pos (by simp [hmilestone])]
        exact ih.cons ev
      · rw [List.filter_cons_of_neg (by simp [isMilestone, hmilestone])]
        by_cases hartifact : ev.type = .runArtifactCreated
        · rw [@List.filter_cons_of_pos _ (fun ev : RunEvent => _ || _) _ _ (by simp [hartifact])]
          by_cases hplan : isPlanRevision ev = true
          · have hother : isOtherArtifact ev = false := by simp [isOtherArtifact, hplan]
            rw [List.filter_cons_of_pos hplan, List.filter_cons_of_neg (by simp [hother]),
              List.append_assoc, List.cons_append]
            refine List.perm_middle.trans ?_
            rw [← List.append_assoc]
            exact ih.cons ev
          · have hother : isOtherArtifact ev = true := by simp [isOtherArtifact, hplan, hartifact]
            rw [List.filter_cons_of_neg hplan, List.filter_cons_of_pos hother]
            exact List.perm_middle.trans (ih.cons ev)
        · rw [List.filter_cons_of_neg (by simp [isPlanRevision, hartifact]),
            List.filter_cons_of_neg (by simp [isOtherArtifact, hartifact]),
            List.filter_cons_of_neg (by simp [hmilestone, hartifact])]
          exact ih

/-- Records that are made one by one are numbered like their events. -/
lemma map_seq_of_forall₂ {α : Type} {make : RunEvent → α → Prop} {seq : α → ℕ}
    {events : List RunEvent} {records : List α} (h : List.Forall₂ make events records)
    (hseq : ∀ ev r, make ev r → seq r = ev.seq) :
    records.map seq = events.map RunEvent.seq := by
  induction h with
  | nil => rfl
  | cons hr _ ih => rw [List.map_cons, List.map_cons, ih, hseq _ _ hr]

lemma seq_of_milestoneRecord {ev : RunEvent} {r : MilestoneRecord}
    (h : milestoneRecord T isoformat runId ev = .ok r) : r.seq = ev.seq := by
  obtain ⟨phase, -, h⟩ := except_bind_eq_ok.mp h
  obtain ⟨milestone, -, h⟩ := except_bind_eq_ok.mp h
  exact (Except.ok.inj h) ▸ rfl

lemma seq_of_planRevisionRecord {ev : RunEvent} {r : PlanRevisionRecord}
    (h : planRevisionRecord T isoformat runId ev = .ok r) : r.seq = ev.seq := by
  unfold planRevisionRecord at h
  simp only [except_bind_eq_ok] at h
  obtain ⟨_, -, _, -, _, -, _, -, _, -, h⟩ := h
  exact (Except.ok.inj h) ▸ rfl

lemma seq_of_artifactRecord {kind : String} {ev : RunEvent} {r : ArtifactRecord}
    (h : artifactRecord T isoformat runId kind ev = .ok r) : r.seq = ev.seq := by
  obtain ⟨ref, -, h⟩ := except_bind_eq_ok.mp h
  obtain ⟨label, -, h⟩ := except_bind_eq_ok.mp h
  exact (Except.ok.inj h) ▸ rfl

/-- The events `list` returns are the log in order. -/
lemma list_eq_orderedLog (s : Store) :
    RunEventRepository.list runId 0 none s = (.ok (orderedLog s runId), s) := by
  have hall : (s.log runId).filter (fun e => 0 < e.seq) = s.log runId := by
    rw [List.filter_eq_self]
    exact fun e _ => decide_eq_true e.seq_pos
  unfold RunEventRepository.list orderedLog Effect.gets
  simp only [hall]

/-- Whatever the loop has gathered shows the run. -/
lemma complete_of_collects {service : VisibilityService} {s : Store} {snapshot : RunSnapshot}
    (h : Collects T isoformat runId (orderedLog s runId)
      ⟨snapshot.milestones, snapshot.artifacts, snapshot.planRevisions⟩)
    (hpending : service.approvals = true → snapshot.pendingApprovals =
      ((ApprovalRepository.ofRun s runId).filter fun a => a.state = .pending).map
        (pendingApprovalRecord isoformat)) :
    Complete T isoformat runId service s snapshot := by
  have hmilestones := map_seq_of_forall₂ h.milestones fun _ _ hr => seq_of_milestoneRecord hr
  have hplans := map_seq_of_forall₂ h.planRevisions fun _ _ hr => seq_of_planRevisionRecord hr
  have hartifacts := map_seq_of_forall₂ h.artifacts fun _ _ ⟨_, _, hr⟩ => seq_of_artifactRecord hr
  refine ⟨h, hmilestones, hplans, hartifacts, ?_, hpending⟩
  have hordered : (orderedLog s runId).Perm (s.log runId) := List.perm_insertionSort _ _
  simp only [hmilestones, hplans, hartifacts, ← List.map_append]
  exact ((perm_kinds _).trans (hordered.filter _)).map _

/-- The run record and the manifest can be read, where the service has them. -/
structure Readable (service : VisibilityService) (runId : String) (s : Store) : Prop where
  run : service.runs = true → ∀ row ∈ s.run? runId, ∃ run, Run.ofRow row = .ok run
  manifest : ∀ preset ∈ service.manifests, ∃ found, preset runId = .ok found

/-- What `runState` returns; it changes nothing. -/
lemma exists_runState_iff (service : VisibilityService) (s : Store) :
    ∃ result, service.runState runId s = (result, s) ∧ ((∃ state, result = .ok state) ↔
      (service.runs = true → ∀ row ∈ s.run? runId, ∃ run, Run.ofRow row = .ok run)) := by
  unfold runState
  cases hwired : service.runs with
  | false => exact ⟨.ok "unknown", rfl, iff_of_true ⟨_, rfl⟩ (by simp)⟩
  | true =>
      rw [if_pos rfl]
      have hget := RunRepository.get_eq runId s
      cases hrow : s.run? runId with
      | none =>
          simp only [hrow] at hget
          refine ⟨.ok "unknown", ?_, iff_of_true ⟨_, rfl⟩ (by simp)⟩
          rw [bind_of_ok hget]
          rfl
      | some row =>
          simp only [hrow] at hget
          cases hrun : Run.ofRow row with
          | error e =>
              rw [hrun] at hget
              refine ⟨.error e, bind_of_error hget, iff_of_false (by simp) fun h => ?_⟩
              obtain ⟨run, hok⟩ := h rfl row rfl
              exact absurd (hrun.symm.trans hok) (by simp)
          | ok run =>
              rw [hrun] at hget
              refine ⟨.ok run.state.name, ?_, iff_of_true ⟨_, rfl⟩ fun _ r hr => ?_⟩
              · rw [bind_of_ok hget]
                rfl
              · obtain rfl := Option.some.inj hr
                exact ⟨run, hrun⟩

lemma exists_manifestSummary_iff (service : VisibilityService) :
    (∃ summary, service.manifestSummary runId = .ok summary) ↔
      ∀ preset ∈ service.manifests, ∃ found, preset runId = .ok found := by
  unfold manifestSummary
  cases service.manifests with
  | none => exact iff_of_true ⟨none, rfl⟩ (by simp)
  | some preset =>
      simp only [Option.mem_def, Option.some.injEq, forall_eq']
      cases preset runId with
      | error e => exact iff_of_false (by simp [Except.map]) (by simp)
      | ok found => exact iff_of_true ⟨_, rfl⟩ ⟨found, rfl⟩

/-- The pending approvals, when the service has them; reading them changes nothing. -/
lemma pendingApprovals_eq (service : VisibilityService) (s : Store) :
    ∃ records, service.pendingApprovals isoformat runId s = (.ok records, s) ∧
      (service.approvals = true → records =
        ((ApprovalRepository.ofRun s runId).filter fun a => a.state = .pending).map
          (pendingApprovalRecord isoformat)) := by
  unfold pendingApprovals
  cases service.approvals with
  | false => exact ⟨[], rfl, by simp⟩
  | true =>
      rw [if_pos rfl, bind_of_ok (ApprovalRepository.listByRun_eq runId s)]
      exact ⟨_, rfl, fun _ => rfl⟩

/-- The order of the numbers loses no event. -/
lemma displayable_orderedLog_iff (s : Store) :
    (∀ ev ∈ orderedLog s runId, Displayable T ev) ↔ ∀ ev ∈ s.log runId, Displayable T ev := by
  have hmem : ∀ ev, ev ∈ orderedLog s runId ↔ ev ∈ s.log runId := fun _ =>
    (List.perm_insertionSort _ _).mem_iff
  exact forall_congr' fun ev => imp_congr_left (hmem ev)

/-- A snapshot is made of what its four readers return. -/
lemma snapshot_of_readers {service : VisibilityService} {s : Store} {state : String}
    {lists : Collected} {pending : List PendingApprovalRecord} {summary : Option ManifestSummary}
    (hstate : service.runState runId s = (.ok state, s))
    (hlists : (orderedLog s runId).foldlM (collect T isoformat runId) ⟨[], [], []⟩ = .ok lists)
    (hpending : service.pendingApprovals isoformat runId s = (.ok pending, s))
    (hsummary : service.manifestSummary runId = .ok summary) :
    service.snapshot T isoformat runId s = (.ok {
      runState := state
      milestones := lists.milestones
      artifacts := lists.artifacts
      planRevisions := lists.planRevisions
      pendingApprovals := pending
      latestCheckpointRef := none
      manifestSummary := summary }, s) := by
  unfold snapshot
  rw [bind_of_ok hstate, bind_of_ok (list_eq_orderedLog s),
    bind_of_ok (ofExcept_of_eq hlists s), bind_of_ok hpending,
    bind_of_ok (ofExcept_of_eq hsummary s)]
  rfl

/-- And all four of them have returned. -/
lemma readers_of_snapshot {service : VisibilityService} {s : Store} {snapshot : RunSnapshot}
    (h : service.snapshot T isoformat runId s = (.ok snapshot, s)) :
    (∃ state, (service.runState runId s).1 = .ok state) ∧
    (∃ lists,
      (orderedLog s runId).foldlM (collect T isoformat runId) ⟨[], [], []⟩ = .ok lists) ∧
    ∃ summary, service.manifestSummary runId = .ok summary := by
  obtain ⟨state, hstate, -⟩ := @exists_runState_iff runId service s
  obtain ⟨pending, hpending, -⟩ := @pendingApprovals_eq isoformat runId service s
  unfold VisibilityService.snapshot at h
  rw [hstate]
  cases state with
  | error e => rw [bind_of_error hstate] at h; exact absurd (congrArg Prod.fst h) (by simp)
  | ok state =>
      rw [bind_of_ok hstate, bind_of_ok (list_eq_orderedLog s)] at h
      refine ⟨⟨state, rfl⟩, ?_⟩
      cases hlists : (orderedLog s runId).foldlM (collect T isoformat runId) ⟨[], [], []⟩ with
      | error e =>
          rw [bind_of_error (ofExcept_of_eq hlists s)] at h
          exact absurd (congrArg Prod.fst h) (by simp)
      | ok lists =>
          rw [bind_of_ok (ofExcept_of_eq hlists s), bind_of_ok hpending] at h
          refine ⟨⟨lists, rfl⟩, ?_⟩
          cases hsummary : service.manifestSummary runId with
          | error e =>
              rw [bind_of_error (ofExcept_of_eq hsummary s)] at h
              exact absurd (congrArg Prod.fst h) (by simp)
          | ok summary => exact ⟨summary, rfl⟩

/-- **When a snapshot can be taken.**  The snapshot of a run is returned, with everything it should
show, exactly if the run record and the manifest can be read and every event of the run can be
displayed. -/
theorem snapshot_complete_iff (T : UnicodeTable) (isoformat : Timestamp → String)
    (service : VisibilityService) (runId : String) (s : Store) :
    (∃ snapshot, service.snapshot T isoformat runId s = (.ok snapshot, s) ∧
      Complete T isoformat runId service s snapshot) ↔
    Readable service runId s ∧ ∀ ev ∈ s.log runId, Displayable T ev := by
  obtain ⟨result, hresult, hrun⟩ := @exists_runState_iff runId service s
  obtain ⟨pending, hpending, hrecords⟩ := @pendingApprovals_eq isoformat runId service s
  rw [← displayable_orderedLog_iff, ← exists_except_foldlM_iff exists_collect_iff]
  constructor
  · rintro ⟨snapshot, hsnapshot, -⟩
    obtain ⟨hstate, hlists, hsummary⟩ := readers_of_snapshot hsnapshot
    rw [hresult] at hstate
    exact ⟨⟨hrun.mp hstate, (exists_manifestSummary_iff service).mp hsummary⟩, hlists⟩
  · rintro ⟨⟨hreadable, hmanifest⟩, lists, hlists⟩
    obtain ⟨state, rfl⟩ := hrun.mpr hreadable
    obtain ⟨summary, hsummary⟩ := (exists_manifestSummary_iff service).mpr hmanifest
    refine ⟨_, snapshot_of_readers hresult hlists hpending hsummary, ?_⟩
    exact complete_of_collects (collects_of_foldlM hlists) hrecords

/-- A plan revision whose version is the text `v2`. -/
def revisionEvent : RunEvent where
  id := "evt-run-1-revision"
  runId := "run-1"
  seq := 1
  type := .runArtifactCreated
  payload := [("artifact_ref", .str "artifact://plan/2"), ("artifact_kind", .str "plan-revision"),
    ("label", .str "Second plan"), ("version", .str "v2")]
  timestamp := 0
  causation := none
  actor := some systemActor
  seq_pos := Nat.zero_lt_one
  payload_ok := rfl

/-- ASCII characters only are digits, or printable. -/
def asciiTable : UnicodeTable := ⟨IntText.asciiDigits, fun _ => false⟩

/-- Of a run with such a revision there is no snapshot. -/
theorem no_snapshot_of_revision :
    ¬ ∃ snapshot, (VisibilityService.mk false none true).snapshot asciiTable
      (fun _ => "1970-01-01T00:00:00+00:00") "run-1" (Store.empty.push revisionEvent) =
        (.ok snapshot, Store.empty.push revisionEvent) ∧
      Complete asciiTable (fun _ => "1970-01-01T00:00:00+00:00") "run-1"
        ⟨false, none, true⟩ (Store.empty.push revisionEvent) snapshot := by
  rintro ⟨snapshot, hsnapshot, -⟩
  have hfails : ((VisibilityService.mk false none true).snapshot asciiTable
      (fun _ => "1970-01-01T00:00:00+00:00") "run-1"
      (Store.empty.push revisionEvent)).1.isOk = false := by
    decide +kernel
  rw [hsnapshot] at hfails
  exact absurd hfails (by simp [Except.isOk, Except.toBool])

end Waywarden.VisibilityService

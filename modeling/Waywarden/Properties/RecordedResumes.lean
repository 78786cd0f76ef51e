import Waywarden.Properties.ConcurrentLog
import Waywarden.System.ConcurrentVerbs
import Waywarden.System.RunMachine

/-!
# What a verb reports and what is stored

`append` numbers a row when it inserts it, whatever number the verb had read.  `resume` and
`cancel` hand their caller the event with the number they had read, and a resumed run's event
carries that number in its payload as well.  So a verb is right about its row exactly when the log
of its run has not grown in between (`faithful_iff`).

The history `overtake` keeps beside the state is this growth.  Under the invariant a verb that has
not been overtaken has read the latest number, and one that has been is behind it.
-/

namespace Waywarden.ConcurrentVerbs

open Machine ConcurrentAppend

/-! ## One row -/

/-- The number a verb read goes on to its caller or into its payload.  A decision that ends the run
returns the stored row and writes no number. -/
def Verb.reports : Verb → Bool
  | .resume .. | .cancel .. => true
  | .resolve _ _ decision => !decision.endsRun
  | .append .. => false

/-- A verb's event for each number it may read. -/
def Verb.Drafted (verb : Verb) (draft : Draft) : Prop :=
  match verb with
  | .resume env runId resumeKind => ∀ latest, draft.event latest =
      RunLifecycleService.resumedEvent runId resumeKind latest (env.now 0)
  | .cancel env runId reason cancelledBy => ∀ latest, draft.event latest =
      RunLifecycleService.cancelledEvent runId reason cancelledBy latest (env.now 0)
  | .resolve env _ decision => ∃ existing, ∀ latest, draft.event latest =
      ApprovalEngine.eventOf decision existing latest (env.now 0)
  | .append given _ => draft = given

lemma drafted_of_load {verb : Verb} {s : Store} {draft : Draft}
    (h : (verb.load s).1 = .ok draft) : verb.Drafted draft := by
  suffices hwp : Effect.wp verb.load (fun d _ => verb.Drafted d) (fun _ _ => True) s from
    hwp.of_ok (Prod.ext h rfl)
  cases verb with
  | resume env runId resumeKind =>
      rw [Verb.load]
      by_cases hkind : resumeKind ∈ RunLifecycleService.validResumeKinds
      · rw [if_neg (not_not.mpr hkind), Effect.wp_bind]
        apply RunLifecycleService.wp_requireOpen (fun _ => trivial)
        intro _ _ _
        exact (Effect.wp_pure _).mpr fun _ => rfl
      · rw [if_pos hkind, Effect.wp_raise]
        trivial
  | cancel env runId reason cancelledBy =>
      rw [Verb.load, Effect.wp_bind]
      apply RunLifecycleService.wp_requireOpen (fun _ => trivial)
      intro _ _ _
      exact (Effect.wp_pure _).mpr fun _ => rfl
  | resolve env approvalId decision =>
      rw [Verb.load, Effect.wp_bind, ApprovalRepository.wp_get]
      cases s.approval? approvalId with
      | none => exact (Effect.wp_raise _).mpr trivial
      | some existing =>
          by_cases hpending : existing.state = .pending
          · simp only [hpending, ne_eq, not_true_eq_false, if_false]
            rw [Effect.wp_bind, Effect.wp_ofExcept]
            exact ⟨fun _ _ => (Effect.wp_pure _).mpr ⟨existing, fun _ => rfl⟩, fun _ _ => trivial⟩
          · simp only [hpending, ne_eq, not_false_eq_true, if_true, Effect.wp_raise]
  | append given other =>
      rw [Verb.load, Effect.wp_pure]
      rfl

/-- The event handed on has the id, number, type and payload of the row, and a `run.resumed` row
names the number before its own. -/
structure Verb.Recorded (verb : Verb) (built row : RunEvent) : Prop where
  id : (verb.returned built row).id = row.id
  seq : (verb.returned built row).seq = row.seq
  type : (verb.returned built row).type = row.type
  payload : (verb.returned built row).payload = row.payload
  resumed : row.type = .runResumed →
    row.payload.get "resumed_from_seq" = some (.int (row.seq - 1))

/-- A decision that lets the run go on writes the number it read. -/
lemma resumed_from_of_not_endsRun {decision : ApprovalDecision} (h : decision.endsRun = false)
    (existing : Approval) (latest : ℕ) (now : Timestamp) :
    (ApprovalEngine.eventOf decision existing latest now).type = .runResumed ∧
      (ApprovalEngine.eventOf decision existing latest now).payload.get "resumed_from_seq" =
        some (.int latest) := by
  cases decision with
  | granted => exact ⟨rfl, rfl⟩
  | deniedAlternatePath note => exact ⟨rfl, rfl⟩
  | deniedAbandon reason => exact absurd h (by simp [ApprovalDecision.endsRun])
  | timeout retryable => exact absurd h (by simp [ApprovalDecision.endsRun])

lemma ne_runResumed_of_endsRun {decision : ApprovalDecision} (h : decision.endsRun = true)
    (existing : Approval) (latest : ℕ) (now : Timestamp) :
    (ApprovalEngine.eventOf decision existing latest now).type ≠ .runResumed := by
  intro htype
  have hterminal := ApprovalEngine.isTerminal_eventOf decision existing latest now
  rw [htype, h] at hterminal
  exact absurd hterminal (by simp [RunEventType.isTerminal])

/-- **One row.**  A verb is right about its row exactly when the row is numbered one past the
number it read, or it reports none. -/
lemma recorded_iff {verb : Verb} {draft : Draft} (h : verb.Drafted draft) (latest : ℕ)
    (nextSeq : {n : ℕ // 1 ≤ n}) :
    verb.Recorded (draft.event latest) ((draft.event latest).withSeq nextSeq) ↔
      (verb.reports = true → nextSeq.val = latest + 1) := by
  have hcast : nextSeq.val = latest + 1 → (latest : ℤ) = (nextSeq.val : ℤ) - 1 := by omega
  have hback : (latest : ℤ) = (nextSeq.val : ℤ) - 1 → nextSeq.val = latest + 1 := by omega
  cases verb with
  | resume env runId resumeKind =>
      rw [show draft.event latest = _ from h latest]
      constructor
      · intro hrecorded _
        exact hrecorded.seq.symm
      · intro hseq
        refine ⟨rfl, (hseq rfl).symm, rfl, rfl, fun _ => ?_⟩
        exact congrArg (fun i => some (Value.int i)) (hcast (hseq rfl))
  | cancel env runId reason cancelledBy =>
      rw [show draft.event latest = _ from h latest]
      constructor
      · intro hrecorded _
        exact hrecorded.seq.symm
      · intro hseq
        exact ⟨rfl, (hseq rfl).symm, rfl, rfl, fun htype => absurd htype (by simp [RunEvent.withSeq,
          RunLifecycleService.cancelledEvent])⟩
  | resolve env approvalId decision =>
      obtain ⟨existing, hdraft⟩ := h
      rw [hdraft latest]
      cases hends : decision.endsRun with
      | true =>
          have htype := ne_runResumed_of_endsRun hends existing latest (env.now 0)
          constructor
          · intro _ hreports
            exact absurd hreports (by simp [Verb.reports, hends])
          · intro _
            exact ⟨rfl, rfl, rfl, rfl, fun hresumed => absurd hresumed htype⟩
      | false =>
          obtain ⟨htype, hget⟩ := resumed_from_of_not_endsRun hends existing latest (env.now 0)
          constructor
          · intro hrecorded _
            have hnumber := hget.symm.trans (hrecorded.resumed htype)
            exact hback (Value.int.inj (Option.some.inj hnumber))
          · intro hseq
            have hnext := hseq (by simp [Verb.reports, hends])
            refine ⟨rfl, rfl, rfl, rfl, fun _ => hget.trans ?_⟩
            exact congrArg (fun i => some (Value.int i)) (hcast hnext)
  | append given other =>
      rw [show draft = given from h]
      constructor
      · intro _ hreports
        exact absurd hreports (by simp [Verb.reports])
      · intro _
        exact ⟨rfl, rfl, rfl, rfl, fun htype => absurd htype (other latest)⟩

/-! ## The invariant -/

variable {Tid : Type}

/-- Whether the log of a run is longer after a transition. -/
def grows (runId : String) (tr : Transition (Calls Tid) (Action Tid) Bool) : Bool :=
  decide ((tr.before.db.store.log runId).length < (tr.after.db.store.log runId).length)

/-- Which verbs were overtaken: the log of their run has grown since they read its latest
number. -/
def overtake (late : Tid → Bool) (tr : Transition (Calls Tid) (Action Tid) Bool) : Tid → Bool :=
  fun t =>
    late t ||
      match tr.before.stage t with
      | .built draft _ => grows draft.runId tr
      | _ => false

/-- Every verb was right about its row: the event it handed on has the stored row's id, number,
type and payload, and a stored `run.resumed` row names the number before its own. -/
structure Faithful (verb : Tid → Verb) (c : Calls Tid) : Prop where
  returned : ∀ t row, (some t, row) ∈ c.db.rows → ∃ built, (c.stage t).event = some built ∧
    ((verb t).returned built row).id = row.id ∧ ((verb t).returned built row).seq = row.seq ∧
    ((verb t).returned built row).type = row.type ∧
    ((verb t).returned built row).payload = row.payload
  resumed : ∀ row ∈ c.db.store.runEvents, row.type = .runResumed →
    row.payload.get "resumed_from_seq" = some (.int (row.seq - 1))

/-- A verb that reports the number it read does not commit once it was overtaken. -/
def NotOvertaken (verb : Tid → Verb) (x : Calls Tid × (Tid → Bool)) : Action Tid → Prop
  | .append (.commit t) =>
      (x.1.db.phase t).pending.isSome = true → (verb t).reports = true → x.2 t = false
  | _ => True

/-- What holds of the verbs in every state, up to the first commit of an overtaken one. -/
structure Inv [DecidableEq Tid] (verb : Tid → Verb) (x : Calls Tid × (Tid → Bool)) : Prop where
  sound : Sound x.1.event x.1.db
  begun : ∀ t, (x.1.stage t).event = none →
    (x.1.db.phase t = .started ∨ x.1.db.phase t = .aborted) ∧ x.2 t = false
  opened : ∀ t draft, x.1.stage t = .opened draft → (verb t).Drafted draft
  built : ∀ t draft latest, x.1.stage t = .built draft latest → (verb t).Drafted draft ∧
    ((x.1.db.phase t).stored = none →
      (x.2 t = false → latest = x.1.db.store.latestSeq draft.runId) ∧
        (x.2 t = true → latest < x.1.db.store.latestSeq draft.runId))
  owned : ∀ r ∈ x.1.db.rows, ∃ t row, r = (some t, row)
  recorded : ∀ t row, (some t, row) ∈ x.1.db.rows →
    ∃ built, (x.1.stage t).event = some built ∧ (verb t).Recorded built row

/-- When every row is some verb's, each being right is all of them being right. -/
lemma faithful_iff_recorded {verb : Tid → Verb} {c : Calls Tid}
    (howned : ∀ r ∈ c.db.rows, ∃ t row, r = (some t, row)) :
    Faithful verb c ↔ ∀ t row, (some t, row) ∈ c.db.rows →
      ∃ built, (c.stage t).event = some built ∧ (verb t).Recorded built row := by
  constructor
  · intro h t row hrow
    obtain ⟨built, hbuilt, hid, hseq, htype, hpayload⟩ := h.returned t row hrow
    exact ⟨built, hbuilt, hid, hseq, htype, hpayload,
      h.resumed row (List.mem_map.mpr ⟨_, hrow, rfl⟩)⟩
  · intro h
    refine ⟨fun t row hrow => ?_, fun row hrow htype => ?_⟩
    · obtain ⟨built, hbuilt, hrecorded⟩ := h t row hrow
      exact ⟨built, hbuilt, hrecorded.id, hrecorded.seq, hrecorded.type, hrecorded.payload⟩
    · obtain ⟨r, hr, rfl⟩ := List.mem_map.mp hrow
      obtain ⟨t, row, rfl⟩ := howned r hr
      obtain ⟨built, -, hrecorded⟩ := h t row hr
      exact hrecorded.resumed htype

/-! ## What a step of a verb does -/

variable {verb : Tid → Verb} {c : Calls Tid} {late : Tid → Bool}

lemma log_of_rows {db db' : Database Tid} (h : db'.rows = db.rows) (runId : String) :
    db'.store.log runId = db.store.log runId := by
  simp only [Database.store, Store.log, h]

/-- A verb that has read no number is not overtaken. -/
lemma overtake_of_unbuilt {tr : Transition (Calls Tid) (Action Tid) Bool} {t : Tid}
    (h : (tr.before.stage t).event = none) : overtake late tr t = late t := by
  unfold overtake
  cases hstage : tr.before.stage t with
  | fresh | opened draft => exact Bool.or_false _
  | built draft latest =>
      rw [hstage] at h
      exact absurd h (by simp [Stage.event])

lemma overtake_of_built {tr : Transition (Calls Tid) (Action Tid) Bool} {t : Tid} {draft : Draft}
    {latest : ℕ} (h : tr.before.stage t = .built draft latest) :
    overtake late tr t = (late t || grows draft.runId tr) := by
  unfold overtake
  rw [h]

/-- Nobody is overtaken by a step that adds no row. -/
lemma overtake_of_rows {tr : Transition (Calls Tid) (Action Tid) Bool}
    (h : tr.after.db.rows = tr.before.db.rows) : overtake late tr = late := by
  funext t
  cases hstage : tr.before.stage t with
  | fresh | opened draft => exact overtake_of_unbuilt (by rw [hstage]; rfl)
  | built draft latest =>
      rw [overtake_of_built hstage, grows, log_of_rows h, decide_eq_false (lt_irrefl _),
        Bool.or_false]

variable [DecidableEq Tid]

/-- The invariant of the appends does not look at the event of a transaction that has not begun. -/
lemma sound_of_started {event event' : Tid → RunEvent} {db : Database Tid} {t : Tid}
    (h : Sound event db) (hstarted : db.phase t = .started)
    (hsame : ∀ u, u ≠ t → event' u = event u) : Sound event' db := by
  have hne : ∀ u, db.phase u ≠ .started → event' u = event u := by
    intro u hu
    apply hsame
    rintro rfl
    exact hu hstarted
  refine ⟨h.contiguous, fun u nextSeq locks hu => ?_, fun u row hu => ?_, h.apart, h.written,
    fun u row hu => ?_⟩
  · rw [hne u (by rw [hu]; simp)]
    exact h.numbered u nextSeq locks hu
  · rw [hne u (by rintro hs; rw [hs] at hu; exact absurd hu (by simp [Phase.pending]))]
    exact h.inserted u row hu
  · rw [hne u (by rintro hs; rw [hs] at hu; exact absurd hu (by simp [Phase.stored]))]
    exact h.returned u row hu

/-- The invariant holds before the first verb begins. -/
lemma inv_start (verb : Tid → Verb) (runs : List RunRow) (approvals : List Approval) :
    Inv verb (Calls.start runs approvals, fun _ => false) := by
  refine ⟨sound_start fun runId => ?_, fun t _ => ⟨Or.inl rfl, rfl⟩,
    fun t draft ht => absurd ht (by simp [Calls.start]),
    fun t draft latest ht => absurd ht (by simp [Calls.start]),
    fun r hr => absurd hr List.not_mem_nil, fun t row hrow => absurd hrow List.not_mem_nil⟩
  exact SeqLog.contiguous_nil

/-- A step that adds no row and changes no stage keeps the invariant when the appends keep
theirs. -/
lemma Inv.quiet (h : Inv verb (c, late)) {c' : Calls Tid} (hstage : c'.stage = c.stage)
    (hrows : c'.db.rows = c.db.rows) (hsound : Sound c.event c'.db)
    (hstored : ∀ t, (c'.db.phase t).stored = (c.db.phase t).stored)
    (hbegun : ∀ t, (c.stage t).event = none →
      c'.db.phase t = .started ∨ c'.db.phase t = .aborted) : Inv verb (c', late) := by
  have hevent : c'.event = c.event := by
    funext t
    rw [Calls.event, hstage, Calls.event]
  refine ⟨by rw [hevent]; exact hsound, fun t ht => ?_, fun t draft ht => ?_,
    fun t draft latest ht => ?_, by rw [hrows]; exact h.owned, fun t row hrow => ?_⟩
  · rw [hstage] at ht
    exact ⟨hbegun t ht, (h.begun t ht).2⟩
  · rw [hstage] at ht
    exact h.opened t draft ht
  · rw [hstage] at ht
    obtain ⟨hdrafted, hlatest⟩ := h.built t draft latest ht
    refine ⟨hdrafted, fun hnone => ?_⟩
    rw [hstored] at hnone
    have hsame : c'.db.store.latestSeq draft.runId = c.db.store.latestSeq draft.runId := by
      rw [Store.latestSeq, log_of_rows hrows, Store.latestSeq]
    rw [hsame]
    exact hlatest hnone
  · rw [hrows] at hrow
    rw [hstage]
    exact h.recorded t row hrow

/-- Moving a transaction on keeps the invariant when nothing is stored and a verb that has built no
event goes nowhere but out. -/
lemma Inv.goTo (h : Inv verb (c, late)) {t : Tid} {p : Phase}
    (hsound : Sound c.event (c.db.goTo t p)) (hbefore : (c.db.phase t).stored = none)
    (hafter : p.stored = none) (approvals : List Approval)
    (hidle : (c.stage t).event = none → p = .aborted) :
    Inv verb ({ c with db := c.db.goTo t p, approvals := approvals }, late) := by
  refine h.quiet rfl rfl hsound (fun u => ?_) fun u hu => ?_
  · by_cases hut : u = t
    · rw [hut, Database.phase_goTo_self, hbefore, hafter]
    · rw [Database.phase_goTo_ne _ _ hut]
  · by_cases hut : u = t
    · rw [hut, Database.phase_goTo_self]
      exact Or.inr (hidle (hut ▸ hu))
    · rw [Database.phase_goTo_ne _ _ hut]
      exact (h.begun u hu).1

/-- Loading its record moves a verb on without a row. -/
lemma Inv.load (h : Inv verb (c, late)) {t : Tid} {draft : Draft} (hfresh : c.stage t = .fresh)
    (hdrafted : (verb t).Drafted draft) : Inv verb (c.goTo t (.opened draft), late) := by
  have hother : ∀ u, u ≠ t → (c.goTo t (.opened draft)).stage u = c.stage u :=
    fun u hu => c.stage_goTo_ne hu _
  have hself := c.stage_goTo_self t (.opened draft)
  have hidle : (c.stage t).event = none := by rw [hfresh]; rfl
  have hevents : ∀ u, ((c.goTo t (.opened draft)).stage u).event = (c.stage u).event := by
    intro u
    by_cases hut : u = t
    · rw [hut, hself, hidle]
      rfl
    · rw [hother u hut]
  have hevent : (c.goTo t (.opened draft)).event = c.event := by
    funext u
    rw [Calls.event, hevents, Calls.event]
  refine ⟨by rw [hevent]; exact h.sound, fun u hu => ?_, fun u d hu => ?_, fun u d latest hu => ?_,
    h.owned, fun u row hrow => ?_⟩
  · rw [hevents] at hu
    exact h.begun u hu
  · by_cases hut : u = t
    · rw [hut, hself] at hu
      obtain rfl := Stage.opened.inj hu
      rw [hut]
      exact hdrafted
    · rw [hother u hut] at hu
      exact h.opened u d hu
  · by_cases hut : u = t
    · rw [hut, hself] at hu
      exact absurd hu (by simp)
    · rw [hother u hut] at hu
      exact h.built u d latest hu
  · rw [hevents]
    exact h.recorded u row hrow

/-- Reading the latest number builds the event; nothing is behind yet. -/
lemma Inv.readLatest (h : Inv verb (c, late)) {t : Tid} {draft : Draft}
    (hopened : c.stage t = .opened draft) (hstarted : c.db.phase t = .started) :
    Inv verb (c.goTo t (.built draft (c.db.store.latestSeq draft.runId)), late) := by
  set next := Stage.built draft (c.db.store.latestSeq draft.runId) with hnext
  have hother : ∀ u, u ≠ t → (c.goTo t next).stage u = c.stage u :=
    fun u hu => c.stage_goTo_ne hu _
  have hself := c.stage_goTo_self t next
  have hidle : (c.stage t).event = none := by rw [hopened]; rfl
  refine ⟨sound_of_started h.sound hstarted fun u hu => ?_, fun u hu => ?_, fun u d hu => ?_,
    fun u d latest hu => ?_, h.owned, fun u row hrow => ?_⟩
  · rw [Calls.event, hother u hu, Calls.event]
  · by_cases hut : u = t
    · rw [hut, hself] at hu
      exact absurd hu (by simp [hnext, Stage.event])
    · rw [hother u hut] at hu
      exact h.begun u hu
  · by_cases hut : u = t
    · rw [hut, hself] at hu
      exact absurd hu (by simp [hnext])
    · rw [hother u hut] at hu
      exact h.opened u d hu
  · by_cases hut : u = t
    · rw [hut, hself] at hu
      obtain ⟨rfl, rfl⟩ := Stage.built.inj hu
      rw [hut]
      have hlate : late t = false := (h.begun t hidle).2
      exact ⟨h.opened t draft hopened, fun _ => ⟨fun _ => rfl, fun hbehind =>
        absurd (hlate.symm.trans hbehind) (by simp)⟩⟩
    · rw [hother u hut] at hu
      exact h.built u d latest hu
  · by_cases hut : u = t
    · -- a verb that has built nothing has stored nothing
      exfalso
      obtain ⟨built, hbuilt, -⟩ := h.recorded u row hrow
      rw [hut, hidle] at hbuilt
      exact absurd hbuilt (by simp)
    · rw [hother u hut]
      exact h.recorded u row hrow

/-- A verb that has begun its append has built its event. -/
lemma Inv.stage_of_begun (h : Inv verb (c, late)) {t : Tid} (hstarted : c.db.phase t ≠ .started)
    (haborted : c.db.phase t ≠ .aborted) : ∃ draft latest, c.stage t = .built draft latest := by
  cases hstage : c.stage t with
  | built draft latest => exact ⟨draft, latest, rfl⟩
  | fresh =>
      rcases (h.begun t (by rw [hstage]; rfl)).1 with hphase | hphase
      · exact absurd hphase hstarted
      · exact absurd hphase haborted
  | opened draft =>
      rcases (h.begun t (by rw [hstage]; rfl)).1 with hphase | hphase
      · exact absurd hphase hstarted
      · exact absurd hphase haborted

/-- **The row of a verb.**  Once inserted it is the verb's event, numbered one past the latest
stored one, and the verb is right about it if and only if it was not overtaken or reports no
number. -/
lemma Inv.row_of_inserted (h : Inv verb (c, late)) {t : Tid} {row : RunEvent}
    {locks : List String} (hphase : c.db.phase t = .inserted row locks) :
    ∃ draft latest, c.stage t = .built draft latest ∧ row.runId = draft.runId ∧
      ((verb t).Recorded (draft.event latest) row ↔
        ((verb t).reports = true → late t = false)) := by
  obtain ⟨draft, latest, hstage⟩ := h.stage_of_begun (by rw [hphase]; simp) (by rw [hphase]; simp)
  obtain ⟨hdrafted, hlatest⟩ := h.built t draft latest hstage
  have hrow := (h.sound.inserted t row (by rw [hphase]; rfl)).1
  have hevent : c.event t = draft.event latest := by
    rw [Calls.event, hstage]
    rfl
  rw [hevent] at hrow
  refine ⟨draft, latest, hstage, by rw [hrow, Store.stamp_runId, draft.runId_event], ?_⟩
  have hnext : row = (draft.event latest).withSeq
      ⟨c.db.store.latestSeq draft.runId + 1, Nat.le_add_left 1 _⟩ := by
    rw [hrow, Store.stamp]
    simp only [draft.runId_event]
  rw [hnext, recorded_iff hdrafted]
  obtain ⟨hinTime, hbehind⟩ := hlatest (by rw [hphase]; rfl)
  cases hlate : late t with
  | true =>
      have hlt := hbehind hlate
      refine ⟨fun hseq hreports => ?_, fun hreports hreport => absurd (hreports hreport) (by simp)⟩
      have hnumber := hseq hreports
      dsimp only at hnumber hlt
      omega
  | false => exact ⟨fun _ _ => rfl, fun _ _ => by rw [hinTime hlate]⟩

section Commit

variable {t : Tid} {row : RunEvent} {tr : Transition (Calls Tid) (Action Tid) Bool}
  {approvals : List Approval}

/-- A commit adds its row to the log of its run. -/
lemma log_of_commit (hafter : tr.after = ⟨c.db.commitRow t row, approvals, c.stage⟩)
    (runId : String) : tr.after.db.store.log runId =
      if row.runId = runId then c.db.store.log runId ++ [row] else c.db.store.log runId := by
  rw [hafter, Database.store_commitRow, Store.log_push]

/-- So the logs of other runs do not grow. -/
lemma grows_of_commit (hbefore : tr.before = c)
    (hafter : tr.after = ⟨c.db.commitRow t row, approvals, c.stage⟩) (runId : String) :
    grows runId tr = decide (row.runId = runId) := by
  rw [grows, log_of_commit hafter, hbefore]
  by_cases hsame : row.runId = runId
  · simp [hsame]
  · simp [hsame]

lemma latestSeq_of_commit {locks : List String} (hsound : Sound c.event c.db)
    (hphase : c.db.phase t = .inserted row locks)
    (hafter : tr.after = ⟨c.db.commitRow t row, approvals, c.stage⟩) (runId : String) :
    tr.after.db.store.latestSeq runId =
      c.db.store.latestSeq runId + if row.runId = runId then 1 else 0 := by
  have hsound' : Sound c.event tr.after.db := by
    rw [hafter]
    exact hsound.commit hphase
  rw [Store.latestSeq, (hsound'.contiguous runId).maxSeq_eq, Store.latestSeq,
    (hsound.contiguous runId).maxSeq_eq, log_of_commit hafter]
  by_cases hsame : row.runId = runId
  · simp [hsame]
  · simp [hsame]

/-- A verb whose row is not stored yet falls behind by a commit to its run only. -/
lemma Inv.behind_of_commit (h : Inv verb (c, late)) {locks : List String}
    (hphase : c.db.phase t = .inserted row locks) (hbefore : tr.before = c)
    (hafter : tr.after = ⟨c.db.commitRow t row, approvals, c.stage⟩) {u : Tid} {d : Draft} {n : ℕ}
    (hu : c.stage u = .built d n) (hnone : (c.db.phase u).stored = none) :
    (overtake late tr u = false → n = tr.after.db.store.latestSeq d.runId) ∧
      (overtake late tr u = true → n < tr.after.db.store.latestSeq d.runId) := by
  obtain ⟨hinTime, hbehind⟩ := (h.built u d n hu).2 hnone
  have hlate : overtake late tr u = (late u || decide (row.runId = d.runId)) := by
    rw [overtake_of_built (by rw [hbefore]; exact hu), grows_of_commit hbefore hafter]
  dsimp only at hinTime hbehind
  rw [hlate, latestSeq_of_commit h.sound hphase hafter]
  by_cases hsame : row.runId = d.runId
  · simp only [hsame, decide_true, Bool.or_true, Bool.true_eq_false, false_implies, true_and,
      forall_const, if_true]
    cases hold : late u with
    | true => exact Nat.lt_succ_of_lt (hbehind hold)
    | false => exact Nat.lt_succ_of_le (Nat.le_of_eq (hinTime hold))
  · simp only [hsame, decide_false, Bool.or_false, if_false, Nat.add_zero]
    exact ⟨hinTime, hbehind⟩

/-- A commit that does not make its verb wrong keeps the invariant. -/
lemma Inv.commit (h : Inv verb (c, late)) {locks : List String}
    (hphase : c.db.phase t = .inserted row locks)
    (hgood : (verb t).reports = true → late t = false) (hbefore : tr.before = c)
    (hafter : tr.after = ⟨c.db.commitRow t row, approvals, c.stage⟩) :
    Inv verb (tr.after, overtake late tr) := by
  obtain ⟨draft, latest, hstage, hrun, hright⟩ := h.row_of_inserted hphase
  have hevents : tr.after.event = c.event := by rw [hafter]; rfl
  have hstages : tr.after.stage = c.stage := by rw [hafter]
  have hphases : ∀ u, u ≠ t → tr.after.db.phase u = c.db.phase u := by
    intro u hu
    rw [hafter]
    exact c.db.phase_commitRow_ne t hu row
  have hrows : tr.after.db.rows = c.db.rows ++ [(some t, row)] := by rw [hafter]; rfl
  refine ⟨by rw [hevents, hafter]; exact h.sound.commit hphase, fun u hu => ?_,
    fun u d hu => ?_, fun u d n hu => ?_, fun r hr => ?_, fun u row' hrow => ?_⟩
  · rw [hstages] at hu
    obtain ⟨hbegun, hlate⟩ := h.begun u hu
    have hut : u ≠ t := by
      rintro rfl
      rw [hstage] at hu
      exact absurd hu (by simp [Stage.event])
    refine ⟨by rw [hphases u hut]; exact hbegun, ?_⟩
    exact (overtake_of_unbuilt (by rw [hbefore]; exact hu)).trans hlate
  · rw [hstages] at hu
    exact h.opened u d hu
  · rw [hstages] at hu
    refine ⟨(h.built u d n hu).1, fun hnone => ?_⟩
    have hut : u ≠ t := by
      rintro rfl
      rw [hafter, Database.phase_commitRow_self] at hnone
      exact absurd hnone (by simp [Phase.stored])
    rw [hphases u hut] at hnone
    exact h.behind_of_commit hphase hbefore hafter hu hnone
  · rw [hrows] at hr
    rcases List.mem_append.mp hr with hr | hr
    · exact h.owned r hr
    · exact ⟨t, row, List.mem_singleton.mp hr⟩
  · rw [hrows] at hrow
    rw [hstages]
    rcases List.mem_append.mp hrow with hrow | hrow
    · exact h.recorded u row' hrow
    · obtain ⟨hut, rfl⟩ := Prod.mk.inj (List.mem_singleton.mp hrow)
      obtain rfl := Option.some.inj hut
      refine ⟨draft.event latest, by rw [hstage]; rfl, hright.mpr hgood⟩

end Commit

/-! ## What a step of an append does to the tables -/

variable [Fintype Tid]

lemma commit_of_perform {event : Tid → RunEvent} {db db' : Database Tid} {t : Tid}
    (h : ConcurrentAppend.perform event db (.commit t) = some db') :
    ∃ row locks, db.phase t = .inserted row locks ∧ db' = db.commitRow t row := by
  cases ConcurrentAppend.performed_of_perform h with
  | commit _ row locks inserted => exact ⟨row, locks, inserted, rfl⟩

/-- Every step but a commit leaves the rows alone, and moves at most one transaction, which begins
only by reading the run's state. -/
lemma goTo_of_perform {event : Tid → RunEvent} {db db' : Database Tid}
    {a : ConcurrentAppend.Action Tid} (ha : ∀ t, a ≠ .commit t)
    (h : ConcurrentAppend.perform event db a = some db') :
    (∃ rows, db' = { db with runs := rows }) ∨
      ∃ t p, db' = db.goTo t p ∧ (db.phase t).stored = none ∧ p.stored = none ∧
        (db.phase t = .started ∨ db.phase t = .aborted → p = .aborted ∨ a = .readState t) := by
  cases ConcurrentAppend.performed_of_perform h with
  | guard t at_start _ => exact .inr ⟨t, _, rfl, by rw [at_start]; rfl, rfl, fun _ => .inr rfl⟩
  | refuse t at_start => exact .inr ⟨t, _, rfl, by rw [at_start]; rfl, rfl, fun _ => .inr rfl⟩
  | number t _ _ _ guarded _ =>
      refine .inr ⟨t, _, rfl, by rw [guarded]; rfl, rfl, ?_⟩
      intro hbegun
      rw [guarded] at hbegun
      simp at hbegun
  | insert t _ _ numbered _ _ =>
      refine .inr ⟨t, _, rfl, by rw [numbered]; rfl, rfl, ?_⟩
      intro hbegun
      rw [numbered] at hbegun
      simp at hbegun
  | clash t _ _ numbered =>
      exact .inr ⟨t, _, rfl, by rw [numbered]; rfl, rfl, fun _ => .inl rfl⟩
  | commit t _ _ _ => exact absurd rfl (ha t)
  | rollBack t live => exact .inr ⟨t, _, rfl, stored_of_live live, rfl, fun _ => .inl rfl⟩
  | writeRuns rows => exact .inl ⟨rows, rfl⟩

/-! ## Runs -/

/-- The verbs with the history of who was overtaken. -/
def watchedMachine (verb : Tid → Verb) :
    Machine (Calls Tid × (Tid → Bool)) (Action Tid) Bool :=
  (verbMachine verb).watch overtake

lemma next_watched (verb : Tid → Verb) (c : Calls Tid) (late : Tid → Bool) (a : Action Tid) :
    (watchedMachine verb).next (c, late) a =
      (((verbMachine verb).transition c a).after,
        overtake late ((verbMachine verb).transition c a)) := rfl

/-- A transition that adds no row changes nothing in the history. -/
lemma inv_of_quiet {a : Action Tid} {c' : Calls Tid}
    (hafter : ((verbMachine verb).transition c a).after = c')
    (hrows : c'.db.rows = c.db.rows) (hinv : Inv verb (c', late)) :
    Inv verb ((watchedMachine verb).next (c, late) a) := by
  rw [next_watched, overtake_of_rows (by rw [hafter]; exact hrows), hafter]
  exact hinv

lemma after_of_perform {a : Action Tid} {c' : Calls Tid} (h : perform verb c a = some c') :
    ((verbMachine verb).transition c a).after = c' := by
  show (verbMachine verb).next c a = c'
  rw [next_verbMachine, h, Option.getD_some]

lemma Inv.next_load (h : Inv verb (c, late)) {t : Tid} {c' : Calls Tid}
    (hperform : perform verb c (.load t) = some c') :
    Inv verb ((watchedMachine verb).next (c, late) (.load t)) := by
  have hafter := after_of_perform hperform
  rw [perform] at hperform
  split at hperform
  · rename_i hstage hphase
    split at hperform
    · rename_i draft hload
      obtain rfl := Option.some.inj hperform
      exact inv_of_quiet hafter rfl (h.load hstage (drafted_of_load hload))
    · obtain rfl := Option.some.inj hperform
      have hlive : (c.db.phase t).stored = none := by rw [hphase]; rfl
      exact inv_of_quiet hafter rfl (h.goTo (h.sound.goTo_aside (Or.inr rfl) hlive)
        hlive rfl c.approvals fun _ => rfl)
  · exact absurd hperform (by simp)

lemma Inv.next_readLatest (h : Inv verb (c, late)) {t : Tid} {c' : Calls Tid}
    (hperform : perform verb c (.readLatest t) = some c') :
    Inv verb ((watchedMachine verb).next (c, late) (.readLatest t)) := by
  have hafter := after_of_perform hperform
  rw [perform] at hperform
  split at hperform
  · rename_i draft hstage hphase
    obtain rfl := Option.some.inj hperform
    have hread : (c.visible t).latestSeq draft.runId = c.db.store.latestSeq draft.runId := by
      rw [Calls.visible, Database.visible_of_pending (by rw [hphase]; rfl)]
      rfl
    rw [hread] at hafter
    exact inv_of_quiet hafter rfl (h.readLatest hstage hphase)
  · exact absurd hperform (by simp)

lemma Inv.next_append (h : Inv verb (c, late)) {step : ConcurrentAppend.Action Tid}
    {c' : Calls Tid} (hperform : perform verb c (.append step) = some c')
    (hgood : NotOvertaken verb (c, late) (.append step)) :
    Inv verb ((watchedMachine verb).next (c, late) (.append step)) := by
  have hafter := after_of_perform hperform
  rw [perform] at hperform
  split at hperform
  · rename_i hready
    obtain ⟨db, hdb, rfl⟩ := Option.map_eq_some_iff.mp hperform
    by_cases hcommit : ∃ t, step = .commit t
    · obtain ⟨t, rfl⟩ := hcommit
      obtain ⟨row, locks, hphase, rfl⟩ := commit_of_perform hdb
      rw [next_watched]
      exact h.commit hphase (hgood (by rw [hphase]; rfl)) rfl hafter
    · have hother : ∀ t, step ≠ .commit t := fun t ht => hcommit ⟨t, ht⟩
      have hsound : Sound c.event db := h.sound.step (ConcurrentAppend.step_of_perform hdb)
      rcases goTo_of_perform hother hdb with ⟨rows, rfl⟩ | ⟨t, p, rfl, hbefore, hp, hbegin⟩
      · exact inv_of_quiet hafter rfl
          (h.quiet rfl rfl hsound (fun _ => rfl) fun u hu => (h.begun u hu).1)
      · refine inv_of_quiet hafter rfl (h.goTo hsound hbefore hp _ fun hidle => ?_)
        rcases hbegin (h.begun t hidle).1 with rfl | rfl
        · rfl
        · rw [Calls.ready, hidle] at hready
          exact absurd hready (by simp)
  · exact absurd hperform (by simp)

/-- **One step keeps the invariant** unless it commits an overtaken verb that reports. -/
theorem Inv.next (h : Inv verb (c, late)) (a : Action Tid) (hgood : NotOvertaken verb (c, late) a) :
    Inv verb ((watchedMachine verb).next (c, late) a) := by
  cases hperform : perform verb c a with
  | none =>
      have hafter : ((verbMachine verb).transition c a).after = c := by
        show (verbMachine verb).next c a = c
        rw [next_verbMachine, hperform, Option.getD_none]
      exact inv_of_quiet hafter rfl h
  | some c' =>
      cases a with
      | load t => exact h.next_load hperform
      | readLatest t => exact h.next_readLatest hperform
      | append step => exact h.next_append hperform hgood
      | writeApprovals rows =>
          have hafter := after_of_perform hperform
          obtain rfl := Option.some.inj hperform
          exact inv_of_quiet hafter rfl
            (h.quiet rfl rfl h.sound (fun _ => rfl) fun u hu => (h.begun u hu).1)

/-- **An overtaken verb is wrong about its row** once it commits. -/
theorem Inv.not_faithful (h : Inv verb (c, late)) {a : Action Tid}
    (hbad : ¬ NotOvertaken verb (c, late) a) :
    ¬ Faithful verb ((watchedMachine verb).next (c, late) a).1 := by
  cases a with
  | load t | readLatest t | writeApprovals rows => exact absurd trivial hbad
  | append step =>
      cases step with
      | readState t | readSeq t query | insert t | rollBack t | writeRuns rows =>
          exact absurd trivial hbad
      | commit t =>
          simp only [NotOvertaken, Classical.not_imp] at hbad
          obtain ⟨hpending, hreports, hlate⟩ := hbad
          cases hphase : c.db.phase t with
          | started | guarded | numbered | committed | aborted =>
              rw [hphase] at hpending
              exact absurd hpending (by simp [Phase.pending])
          | inserted row locks =>
              obtain ⟨draft, latest, hstage, -, hright⟩ := h.row_of_inserted hphase
              have hperform : perform verb c (.append (.commit t)) =
                  some ⟨c.db.commitRow t row, c.approvalsAfter (.commit t), c.stage⟩ := by
                simp only [perform, Calls.ready, if_true, ConcurrentAppend.perform, hphase,
                  Option.map_some]
              have hafter : ((watchedMachine verb).next (c, late) (.append (.commit t))).1 =
                  ⟨c.db.commitRow t row, c.approvalsAfter (.commit t), c.stage⟩ := by
                show (verbMachine verb).next c (.append (.commit t)) = _
                rw [next_verbMachine, hperform]
                rfl
              rw [hafter]
              intro hfaithful
              obtain ⟨built, hbuilt, hid, hseq, htype, hpayload⟩ := hfaithful.returned t row
                (List.mem_append_right _ (List.mem_singleton.mpr rfl))
              have hevent : built = draft.event latest := by
                rw [hstage] at hbuilt
                exact (Option.some.inj hbuilt).symm
              rw [hevent] at hid hseq htype hpayload
              refine hlate (hright.mp ⟨hid, hseq, htype, hpayload, ?_⟩ hreports)
              exact hfaithful.resumed row
                (List.mem_map.mpr ⟨(some t, row), List.mem_append_right _
                  (List.mem_singleton.mpr rfl), rfl⟩)

/-- **Verbs among appends.**  In any interleaving of `resume`, `cancel` and `resolve` with any
other appends, whatever is written to the other tables meanwhile, every verb is right about its row
after every step if and only if none that reports the number it read commits after the log of its
run has grown. -/
theorem faithful_iff (verb : Tid → Verb) (runs : List RunRow) (approvals : List Approval)
    (actions : List (Action Tid)) :
    (∀ tr ∈ (watchedMachine verb).trace (Calls.start runs approvals, fun _ => false) actions,
      Faithful verb tr.after.1) ↔
      (watchedMachine verb).Meets (NotOvertaken verb)
        (Calls.start runs approvals, fun _ => false) actions := by
  refine (watchedMachine verb).forall_iff_meets (I := Inv verb)
    (P := fun x => Faithful verb x.1) (fun x a h hgood => ?_)
    (fun x h => (faithful_iff_recorded h.owned).mpr h.recorded) (fun x a h hbad => ?_)
    (inv_start verb runs approvals)
  · exact h.next a hgood
  · exact h.not_faithful hbad

/-- Progress of another service on the sample run. -/
def progressDraft : Draft where
  runId := "run-t1"
  event latest :=
    { id := "evt-progress", runId := "run-t1", seq := latest + 1, type := .runProgress
      payload := [("phase", .str "plan"), ("milestone", .str "ready")], timestamp := 0
      causation := none, actor := none, seq_pos := Nat.succ_pos latest, payload_ok := by decide }
  saved := none
  runId_event := fun _ => rfl

/-- An operator resumes the sample run while another service appends progress to it. -/
def resumeRace : Bool → Verb
  | true => .resume stillEnv "run-t1" "operator_resume"
  | false => .append progressDraft fun _ => by simp [progressDraft]

/-- The progress is committed between the two awaits of the resume. -/
def resumeRaceSteps : List (Action Bool) :=
  [.load true, .readLatest true, .load false, .readLatest false, .append (.readState false),
    .append (.readSeq false .fallback), .append (.insert false), .append (.commit false),
    .append (.readState true), .append (.readSeq true .forUpdate), .append (.insert true),
    .append (.commit true)]

/-- The resume returns an event numbered 1 and stores a row numbered 2. -/
theorem not_faithful_resume_overtaken :
    ¬ ∀ tr ∈ (watchedMachine resumeRace).trace
      (Calls.start [sampleRun.toRunRow] [], fun _ => false) resumeRaceSteps,
      Faithful resumeRace tr.after.1 := by
  intro h
  obtain ⟨tr, htr, hrows, hbuilt⟩ : ∃ tr ∈ (watchedMachine resumeRace).trace
      (Calls.start [sampleRun.toRunRow] [], fun _ => false) resumeRaceSteps,
      (tr.after.1.db.rows.map fun r => (r.1, r.2.seq)) = [(some false, 1), (some true, 2)] ∧
        (tr.after.1.stage true).event.map RunEvent.seq = some 1 :=
    ⟨_, List.getElem_mem (n := 11) (by decide +kernel), by decide +kernel, by decide +kernel⟩
  have hmem : (some true, 2) ∈ tr.after.1.db.rows.map fun r => (r.1, r.2.seq) := by
    rw [hrows]
    simp
  obtain ⟨⟨writer, row⟩, hrow, heq⟩ := List.mem_map.mp hmem
  obtain ⟨rfl, hseq⟩ := Prod.mk.inj heq
  obtain ⟨built, hevent, -, hsame, -⟩ := (h tr htr).returned true row hrow
  rw [hevent, Option.map_some, Option.some.injEq] at hbuilt
  have hreturned : built.seq = row.seq := hsame
  have hstored : row.seq = 2 := hseq
  omega

end Waywarden.ConcurrentVerbs

import Waywarden.System.ConcurrentAppend
import Waywarden.Properties.SequenceContiguity

/-!
# Concurrent appends lose and duplicate nothing

A transaction may insert under a number it read long before.  What saves the log is the unique
constraint: a number read is at most one past the latest committed one (`Sound.numbered`), so a row
that collides with no committed row is numbered exactly one past it, which is how a sequential
`append` would number it now (`Sound.inserted`).  Two such rows of one run would collide, so while
one waits for its commit no other is inserted, and a commit appends to the log what `append` would
have.  The lock plays no part.
-/

namespace Waywarden.ConcurrentAppend

open Machine

/-! ## Colliding rows -/

lemma collides_comm (a b : RunEvent) : collides a b = collides b a := by
  rw [collides, collides, BEq.comm (a := a.id), BEq.comm (a := a.runId), BEq.comm (a := a.seq)]

/-- Two events a store would number alike do not collide only if they are of different runs. -/
lemma ne_of_not_collides {s : Store} {e e' : RunEvent}
    (h : collides (s.stamp e) (s.stamp e') = false) : e.id ≠ e'.id ∧ e.runId ≠ e'.runId := by
  constructor
  · intro hid
    simp [collides, hid] at h
  · intro hrun
    simp [collides, hrun] at h

/-- A row that is numbered at most one past the latest and collides with no committed row is the
row a sequential append would store now. -/
lemma eq_stamp_of_not_collides {s : Store}
    (h : ∀ runId, SeqLog.Contiguous RunEvent.seq (s.log runId)) {e : RunEvent}
    {nextSeq : {n : ℕ // 1 ≤ n}}
    (hle : nextSeq.val ≤ s.latestSeq e.runId + 1)
    (hfree : ∀ other ∈ s.runEvents,
      collides (e.withSeq nextSeq) other = false) :
    e.withSeq nextSeq = s.stamp e ∧
      s.hasEvent e.id = false := by
  constructor
  · have hseq : nextSeq.val = s.latestSeq e.runId + 1 := by
      by_contra hne
      have hlatest : s.latestSeq e.runId = (s.log e.runId).length :=
        (h e.runId).maxSeq_eq
      have hpos := nextSeq.property
      -- a smaller number is taken by the committed row at that place of the log
      have hlt : nextSeq.val - 1 < (s.log e.runId).length := by omega
      have htaken := (h e.runId).seq_getElem hlt
      obtain ⟨hmem, hrun⟩ := List.mem_filter.mp (List.getElem_mem hlt)
      have hnot := hfree _ hmem
      rw [collides, RunEvent.withSeq_runId, RunEvent.withSeq_seq, of_decide_eq_true hrun,
        htaken, Nat.sub_add_cancel hpos, beq_self_eq_true, beq_self_eq_true] at hnot
      exact absurd hnot (by simp)
    exact congrArg e.withSeq (Subtype.ext hseq)
  · rw [Bool.eq_false_iff, Store.hasEvent]
    intro htaken
    obtain ⟨other, hmem, hid⟩ := List.any_eq_true.mp htaken
    have hnot := hfree other hmem
    rw [collides, RunEvent.withSeq_id, of_decide_eq_true hid, beq_self_eq_true] at hnot
    exact absurd hnot (by simp)

/-! ## The invariant -/

/-- The row a transaction has committed. -/
def Phase.stored : Phase → Option RunEvent
  | .committed row => some row
  | _ => none

/-- Nothing is stored by a transaction that has not ended. -/
lemma stored_of_live {p : Phase} (h : p.live = true) : p.stored = none := by
  cases p with
  | committed row => exact absurd h (by simp [Phase.live])
  | started | guarded | numbered | inserted | aborted => rfl

variable {Tid : Type}

/-- The committed rows a transaction wrote. -/
def Database.writtenBy [DecidableEq Tid] (db : Database Tid) (t : Tid) :
    List (Option Tid × RunEvent) :=
  db.rows.filter fun r => r.1 = some t

variable [DecidableEq Tid] {event : Tid → RunEvent} {db : Database Tid}

/-- The invariant of the interleaved appends. -/
structure Sound (event : Tid → RunEvent) (db : Database Tid) : Prop where
  contiguous : ∀ runId, SeqLog.Contiguous RunEvent.seq (db.store.log runId)
  numbered : ∀ t nextSeq locks, db.phase t = .numbered nextSeq locks →
    nextSeq.val ≤ db.store.latestSeq (event t).runId + 1
  inserted : ∀ t row, (db.phase t).pending = some row →
    row = db.store.stamp (event t) ∧ db.store.hasEvent (event t).id = false
  apart : ∀ t u row other, t ≠ u → (db.phase t).pending = some row →
    (db.phase u).pending = some other → collides row other = false
  written : ∀ t, db.writtenBy t = (db.phase t).stored.toList.map fun row => (some t, row)
  returned : ∀ t row, (db.phase t).stored = some row → ∃ nextSeq, row = (event t).withSeq nextSeq

/-- Moving one transaction on keeps the invariant, when its new phase fits and it commits
nothing. -/
lemma Sound.goTo (h : Sound event db) {t : Tid} {p : Phase}
    (hnumbered : ∀ nextSeq locks, p = .numbered nextSeq locks →
      nextSeq.val ≤ db.store.latestSeq (event t).runId + 1)
    (hinserted : ∀ row, p.pending = some row →
      (row = db.store.stamp (event t) ∧ db.store.hasEvent (event t).id = false) ∧
        ∀ u other, u ≠ t → (db.phase u).pending = some other → collides row other = false)
    (hbefore : (db.phase t).stored = none) (hafter : p.stored = none) :
    Sound event (db.goTo t p) := by
  have hself : (db.goTo t p).phase t = p := db.phase_goTo_self t p
  have hother : ∀ u, u ≠ t → (db.goTo t p).phase u = db.phase u :=
    fun u hu => db.phase_goTo_ne t hu p
  refine ⟨h.contiguous, fun u nextSeq locks hu => ?_, fun u row hu => ?_,
    fun u v row other huv hu hv => ?_, fun u => ?_, fun u row hu => ?_⟩
  · by_cases hut : u = t
    · subst hut
      exact hnumbered nextSeq locks (hself.symm.trans hu)
    · exact h.numbered u nextSeq locks ((hother u hut).symm.trans hu)
  · by_cases hut : u = t
    · subst hut
      rw [hself] at hu
      exact (hinserted row hu).1
    · rw [hother u hut] at hu
      exact h.inserted u row hu
  · by_cases hut : u = t
    · subst hut
      rw [hself] at hu
      rw [hother v (Ne.symm huv)] at hv
      exact (hinserted row hu).2 v other (Ne.symm huv) hv
    · rw [hother u hut] at hu
      by_cases hvt : v = t
      · subst hvt
        rw [hself] at hv
        rw [collides_comm]
        exact (hinserted other hv).2 u row hut hu
      · rw [hother v hvt] at hv
        exact h.apart u v row other huv hu hv
  · by_cases hut : u = t
    · subst hut
      rw [hself, hafter, ← hbefore]
      exact h.written u
    · rw [hother u hut]
      exact h.written u
  · by_cases hut : u = t
    · subst hut
      rw [hself, hafter] at hu
      exact absurd hu (by simp)
    · rw [hother u hut] at hu
      exact h.returned u row hu

/-- So does moving it to a phase with neither a number nor a row. -/
lemma Sound.goTo_aside (h : Sound event db) {t : Tid} {p : Phase}
    (hp : p = .guarded ∨ p = .aborted) (hbefore : (db.phase t).stored = none) :
    Sound event (db.goTo t p) := by
  rcases hp with rfl | rfl
  · exact h.goTo (fun _ _ hn => absurd hn (by simp))
      (fun _ hr => absurd hr (by simp [Phase.pending])) hbefore rfl
  · exact h.goTo (fun _ _ hn => absurd hn (by simp))
      (fun _ hr => absurd hr (by simp [Phase.pending])) hbefore rfl

/-- What a transaction wrote after a commit. -/
lemma writtenBy_commitRow (db : Database Tid) (t u : Tid) (row : RunEvent) :
    (db.commitRow t row).writtenBy u =
      db.writtenBy u ++ if u = t then [(some t, row)] else [] := by
  have hrows : (db.commitRow t row).rows = db.rows ++ [(some t, row)] := rfl
  rw [Database.writtenBy, hrows, List.filter_append, ← Database.writtenBy]
  by_cases hut : u = t
  · simp [hut]
  · simp [hut, Ne.symm hut]

/-- A commit keeps the invariant: the row is stored as a sequential append would store it now, and
no other inserted row is of the same run. -/
lemma Sound.commit (h : Sound event db) {t : Tid} {row : RunEvent} {locks : List String}
    (hrow : db.phase t = .inserted row locks) : Sound event (db.commitRow t row) := by
  have hpending : (db.phase t).pending = some row := by rw [hrow]; rfl
  obtain ⟨rfl, hfresh⟩ := h.inserted t row hpending
  have hother : ∀ u, u ≠ t → (db.commitRow t (db.store.stamp (event t))).phase u = db.phase u :=
    fun u hu => db.phase_commitRow_ne t hu _
  refine ⟨?_, fun u nextSeq locks' hu => ?_, fun u row' hu => ?_,
    fun u v row' other huv hu hv => ?_, fun u => ?_, fun u row' hu => ?_⟩
  · rw [Database.store_commitRow]
    exact fun runId => Store.contiguous_push_stamp (h.contiguous runId) (event t)
  · by_cases hut : u = t
    · rw [hut, Database.phase_commitRow_self] at hu
      exact absurd hu (by simp)
    · rw [hother u hut] at hu
      rw [Database.store_commitRow]
      exact (h.numbered u nextSeq locks' hu).trans
        (Nat.succ_le_succ (Store.latestSeq_le_push db.store _ _))
  · by_cases hut : u = t
    · rw [hut, Database.phase_commitRow_self] at hu
      exact absurd hu (by simp [Phase.pending])
    · rw [hother u hut] at hu
      obtain ⟨hstamp, hnew⟩ := h.inserted u row' hu
      have hapart := h.apart t u _ row' (Ne.symm hut) hpending hu
      rw [hstamp] at hapart
      obtain ⟨hid, hrun⟩ := ne_of_not_collides hapart
      have hrun' : (db.store.stamp (event t)).runId ≠ (event u).runId := hrun
      rw [Database.store_commitRow, Store.stamp_push_ne db.store _ hrun', Store.hasEvent_push, hnew]
      exact ⟨hstamp, decide_eq_false hid⟩
  · by_cases hut : u = t
    · rw [hut, Database.phase_commitRow_self] at hu
      exact absurd hu (by simp [Phase.pending])
    · by_cases hvt : v = t
      · rw [hvt, Database.phase_commitRow_self] at hv
        exact absurd hv (by simp [Phase.pending])
      · rw [hother u hut] at hu
        rw [hother v hvt] at hv
        exact h.apart u v row' other huv hu hv
  · rw [writtenBy_commitRow, h.written u]
    by_cases hut : u = t
    · rw [if_pos hut, hut, hrow, Database.phase_commitRow_self]
      rfl
    · rw [if_neg hut, List.append_nil, hother u hut]
  · by_cases hut : u = t
    · rw [hut, Database.phase_commitRow_self] at hu
      obtain rfl := Option.some.inj hu
      rw [hut]
      exact ⟨_, rfl⟩
    · rw [hother u hut] at hu
      exact h.returned u row' hu

/-- **One step keeps the invariant.** -/
theorem Sound.step (h : Sound event db) {db' : Database Tid} (hstep : Step event db db') :
    Sound event db' := by
  cases hstep with
  | wait => exact h
  | writeRuns rows =>
      exact ⟨h.contiguous, h.numbered, h.inserted, h.apart, h.written, h.returned⟩
  | guard t at_start isOpen => exact h.goTo_aside (Or.inl rfl) (by rw [at_start]; rfl)
  | number t nextSeq locks guarded latest =>
      refine h.goTo (fun n l hn => ?_) (fun _ hr => absurd hr (by simp [Phase.pending]))
        (by rw [guarded]; rfl) rfl
      obtain ⟨rfl, -⟩ := Phase.numbered.inj hn
      rw [latest, Database.visible_of_pending (by rw [guarded]; rfl)]
  | insert t nextSeq locks numbered committed pending =>
      refine h.goTo (fun _ _ hn => absurd hn (by simp)) (fun row hrow => ?_)
        (by rw [numbered]; rfl) rfl
      obtain rfl := Option.some.inj hrow
      exact ⟨eq_stamp_of_not_collides h.contiguous (h.numbered t nextSeq locks numbered) committed,
        pending⟩
  | commit t row locks inserted => exact h.commit inserted
  | abort t live => exact h.goTo_aside (Or.inr rfl) (stored_of_live live)

/-- The invariant holds before the first transaction starts, on any contiguous log. -/
lemma sound_start {s : Store} (h : ∀ runId, SeqLog.Contiguous RunEvent.seq (s.log runId)) :
    Sound event (Database.start s) := by
  have hstarted : ∀ t : Tid, (Database.start s : Database Tid).phase t = .started := fun _ => rfl
  have hlog : ∀ runId, (Database.start s : Database Tid).store.log runId = s.log runId := by
    intro runId
    simp [Database.start, Database.store, Store.log, List.map_map, Function.comp_def]
  have hunwritten : ∀ t, (Database.start s : Database Tid).writtenBy t = [] := by
    intro t
    rw [Database.writtenBy, List.filter_eq_nil_iff]
    intro r hr
    obtain ⟨e, -, rfl⟩ := List.mem_map.mp hr
    simp
  refine ⟨fun runId => by rw [hlog]; exact h runId, fun t _ _ ht => ?_, fun t _ ht => ?_,
    fun t _ _ _ _ ht => ?_, fun t => ?_, fun t _ ht => ?_⟩
  · rw [hstarted] at ht
    exact absurd ht (by simp)
  · rw [hstarted] at ht
    exact absurd ht (by simp [Phase.pending])
  · rw [hstarted] at ht
    exact absurd ht (by simp [Phase.pending])
  · rw [hunwritten, hstarted]
    rfl
  · rw [hstarted] at ht
    exact absurd ht (by simp [Phase.stored])

variable [Fintype Tid]

/-- **Any interleaving.**  On a log that sequential appends left, after any steps of any number of
concurrent appends, the committed log of a run is numbered `1, …, n`; an append that committed
is in it once, as the row it returned; and one that has not, or was aborted, is not in it. -/
theorem committed_log (earlier : List LogCall) (event : Tid → RunEvent)
    (actions : List (Action Tid)) :
    let db := (appendMachine event).run
      (Database.start (logMachine.run Store.empty earlier)) actions
    (∀ runId, SeqLog.Contiguous RunEvent.seq (db.store.log runId)) ∧
      (∀ t row, db.phase t = .committed row →
        db.writtenBy t = [(some t, row)] ∧ ∃ nextSeq, row = (event t).withSeq nextSeq) ∧
      ∀ t, (∀ row, db.phase t ≠ .committed row) → db.writtenBy t = [] := by
  intro db
  have hsound : Sound event db :=
    (appendMachine event).invariant_all (I := Sound event)
      (fun db a h => h.step (step_next event db a)) actions
      (sound_start fun runId => contiguous_run earlier runId)
  refine ⟨hsound.contiguous, fun t row ht => ?_, fun t ht => ?_⟩
  · have hstored : (db.phase t).stored = some row := by rw [ht]; rfl
    exact ⟨by rw [hsound.written t, hstored]; rfl, hsound.returned t row hstored⟩
  · rw [hsound.written t]
    cases hp : db.phase t with
    | committed row => exact absurd hp (ht row)
    | started | guarded | numbered | inserted | aborted => rfl

/-- An event of one run, for a concrete race. -/
def raceEvent (id : String) : RunEvent where
  id := id
  runId := "run-t1"
  seq := 1
  type := .runCancelled
  payload := [("reason", .str "race")]
  timestamp := 0
  causation := none
  actor := none
  seq_pos := Nat.zero_lt_one
  payload_ok := by decide

/-- Two writers read the same number on the empty log, without a lock: the second is aborted. -/
example :
    let db := (appendMachine fun first : Bool => raceEvent (toString first)).run
      (Database.start Store.empty)
      [.readState true, .readState false, .readSeq true .fallback, .readSeq false .fallback,
        .insert true, .insert false, .commit true, .insert false]
    db.store.runEvents.map (fun e => (e.id, e.seq)) = [("true", 1)] ∧
      (db.phase false).live = false := by
  decide

end Waywarden.ConcurrentAppend

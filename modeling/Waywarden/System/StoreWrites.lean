import Mathlib.Logic.Relation
import Waywarden.Infra.RecordRepositories
import Waywarden.Infra.RunEventRepository
import Waywarden.Infra.RunRepository

/-!
# What the repositories write

`StoreWrite` lists the writes the repositories make on behalf of the services: a new run, an event
for an open run under a free id, the state of an open run, an approval, a task.  `Store.Journals`
is a sequence of such writes, and `Journals.extension` and `Journals.numbered` say what every one of
them keeps: the event table only grows, a run in a terminal state is left alone, no record is ever
lost, logs are numbered from one on and ids are unique.

A computation that only makes such writes keeps whatever they keep (`WritesOnly`), so a service is
dealt with by looking at its parts alone.
-/

namespace Waywarden

open Effect Relation

/-- One write of a repository to the store it finds. -/
inductive StoreWrite (s : Store) : Store → Prop
  | create (row : RunRow) (fresh : s.run? row.id = none) : StoreWrite s (s.addRun row)
  | append (e : RunEvent) (isOpen : s.settled e.runId = false) (fresh : s.hasEvent e.id = false) :
      StoreWrite s (s.push (s.stamp e))
  | updateState (runId : String) (st : RunState) (now : Timestamp) (terminalSeq : Option ℕ)
      (isOpen : s.settled runId = false) :
      StoreWrite s (s.setRunState runId st now terminalSeq)
  | saveApproval (a : Approval) : StoreWrite s (s.putApproval a)
  | saveTask (t : Task) : StoreWrite s (s.putTask t)

/-- A sequence of writes. -/
abbrev Store.Journals : Store → Store → Prop := ReflTransGen StoreWrite

/-- Every row differs from the given one at most in the columns an update of its state writes. -/
def RunRow.Continues (row row' : RunRow) : Prop :=
  ∃ st now terminalSeq, row' = row.setState st now terminalSeq

/-- What a later store has kept of an earlier one. -/
structure Store.Extends (s s' : Store) : Prop where
  events : s.runEvents <+: s'.runEvents
  settled : ∀ runId, s.settled runId = true →
    s'.log runId = s.log runId ∧ s'.run? runId = s.run? runId
  runs : ∀ runId row, s.run? runId = some row →
    ∃ row', s'.run? runId = some row' ∧ row.Continues row'
  approvals : ∀ id, (s.approval? id).isSome = true → (s'.approval? id).isSome = true
  tasks : ∀ id, (s.task? id).isSome = true → (s'.task? id).isSome = true

/-- The events of every run are numbered from one on, and no two events share an id. -/
structure Store.Numbered (s : Store) : Prop where
  contiguous : ∀ runId, SeqLog.Contiguous RunEvent.seq (s.log runId)
  ids : (s.runEvents.map RunEvent.id).Nodup

/-! ## What a store keeps -/

lemma RunRow.Continues.refl (row : RunRow) : row.Continues row :=
  ⟨row.state, row.updatedAt, row.terminalSeq, rfl⟩

lemma RunRow.Continues.trans {row row' row'' : RunRow} (h : row.Continues row')
    (h' : row'.Continues row'') : row.Continues row'' := by
  obtain ⟨st, now, terminalSeq, rfl⟩ := h
  obtain ⟨st', now', terminalSeq', rfl⟩ := h'
  exact ⟨st', now', terminalSeq', rfl⟩

namespace Store

variable {s t u : Store}

lemma Extends.refl (s : Store) : s.Extends s :=
  ⟨List.prefix_refl _, fun _ _ => ⟨rfl, rfl⟩, fun _ row h => ⟨row, h, .refl row⟩, fun _ h => h,
    fun _ h => h⟩

lemma Extends.settled_eq (h : s.Extends t) {runId : String} (hs : s.settled runId = true) :
    t.settled runId = true := by
  rw [Store.settled, (h.settled runId hs).2]
  exact hs

lemma Extends.trans (h : s.Extends t) (h' : t.Extends u) : s.Extends u where
  events := h.events.trans h'.events
  settled := by
    intro runId hs
    obtain ⟨hlog, hrow⟩ := h.settled runId hs
    obtain ⟨hlog', hrow'⟩ := h'.settled runId (h.settled_eq hs)
    exact ⟨hlog'.trans hlog, hrow'.trans hrow⟩
  runs := by
    intro runId row hrow
    obtain ⟨row', hrow', hcontinues⟩ := h.runs runId row hrow
    obtain ⟨row'', hrow'', hcontinues'⟩ := h'.runs runId row' hrow'
    exact ⟨row'', hrow'', hcontinues.trans hcontinues'⟩
  approvals := fun id hid => h'.approvals id (h.approvals id hid)
  tasks := fun id hid => h'.tasks id (h.tasks id hid)

/-- A log of an earlier store is a first part of the later one's. -/
lemma Extends.log_prefix (h : s.Extends t) (runId : String) : s.log runId <+: t.log runId :=
  h.events.filter _

/-- A write to the approvals and the tasks. -/
lemma extends_of_records (hruns : t.runs = s.runs) (hevents : t.runEvents = s.runEvents)
    (happrovals : ∀ id, (s.approval? id).isSome = true → (t.approval? id).isSome = true)
    (htasks : ∀ id, (s.task? id).isSome = true → (t.task? id).isSome = true) : s.Extends t := by
  have hrow : ∀ runId, t.run? runId = s.run? runId := by
    intro runId
    rw [Store.run?, hruns, Store.run?]
  refine ⟨hevents ▸ List.prefix_refl _, fun runId _ => ⟨?_, hrow runId⟩,
    fun runId row h => ?_, happrovals, htasks⟩
  · rw [Store.log, hevents, Store.log]
  · exact ⟨row, (hrow runId).trans h, .refl row⟩

end Store

/-- **One write** keeps what was there. -/
lemma StoreWrite.extension {s t : Store} (h : StoreWrite s t) : s.Extends t := by
  cases h with
  | create row fresh =>
      -- the new row is the only one under its id, so an id with a row is another one
      have hother : ∀ runId, (s.run? runId).isSome = true →
          (s.addRun row).run? runId = s.run? runId := by
        intro runId hsome
        refine s.run?_addRun_ne row fun heq => ?_
        rw [heq, fresh] at hsome
        exact absurd hsome (by simp)
      refine ⟨List.prefix_refl _, fun runId hs => ⟨rfl, hother runId ?_⟩, fun runId found h => ?_,
        fun _ h => h, fun _ h => h⟩
      · obtain ⟨found, hfound, -⟩ := Store.settled_iff.mp hs
        rw [hfound]
        rfl
      · exact ⟨found, (hother runId (by rw [h]; rfl)).trans h, .refl found⟩
  | append e isOpen fresh =>
      refine ⟨List.prefix_append _ _, fun runId hs => ⟨?_, rfl⟩, fun _ found h =>
        ⟨found, h, .refl found⟩, fun _ h => h, fun _ h => h⟩
      refine s.log_push_ne _ fun heq => ?_
      rw [← heq, Store.stamp_runId, isOpen] at hs
      exact absurd hs (by simp)
  | updateState runId st now terminalSeq isOpen =>
      refine ⟨List.prefix_refl _, fun r hs => ⟨rfl, ?_⟩, fun r found h => ?_, fun _ h => h,
        fun _ h => h⟩
      · refine s.run?_setRunState_ne runId st now terminalSeq fun heq => ?_
        rw [heq, isOpen] at hs
        exact absurd hs (by simp)
      · by_cases heq : r = runId
        · subst heq
          refine ⟨found.setState st now terminalSeq, ?_, st, now, terminalSeq, rfl⟩
          rw [Store.run?_setRunState_self, h, Option.map_some]
        · exact ⟨found, (s.run?_setRunState_ne runId st now terminalSeq heq).trans h,
            .refl found⟩
  | saveApproval a =>
      refine Store.extends_of_records rfl rfl (fun id h => ?_) fun _ h => h
      by_cases heq : id = a.id.val
      · rw [heq, Store.approval?_putApproval_self]
        rfl
      · rw [s.approval?_putApproval_ne a heq]
        exact h
  | saveTask task =>
      refine Store.extends_of_records rfl rfl (fun _ h => h) fun id h => ?_
      by_cases heq : id = task.id.val
      · rw [heq, Store.task?_putTask_self]
        rfl
      · rw [s.task?_putTask_ne task heq]
        exact h

/-- **One write** keeps the numbering. -/
lemma StoreWrite.numbered {s t : Store} (h : StoreWrite s t) (hs : s.Numbered) : t.Numbered := by
  cases h with
  | append e isOpen fresh =>
      refine ⟨fun runId => Store.contiguous_push_stamp (hs.contiguous runId) e, ?_⟩
      rw [Store.runEvents_push, List.map_append, List.map_singleton, Store.stamp_id,
        ← List.concat_eq_append]
      refine hs.ids.concat fun hmem => ?_
      obtain ⟨e', he', hid⟩ := List.mem_map.mp hmem
      rw [Store.hasEvent, List.any_eq_false] at fresh
      exact fresh e' he' (decide_eq_true hid)
  | create row fresh => exact ⟨hs.contiguous, hs.ids⟩
  | updateState runId st now terminalSeq isOpen => exact ⟨hs.contiguous, hs.ids⟩
  | saveApproval a => exact ⟨hs.contiguous, hs.ids⟩
  | saveTask task => exact ⟨hs.contiguous, hs.ids⟩

namespace Store.Journals

variable {s t u : Store}

theorem extension (h : s.Journals t) : s.Extends t := by
  induction h with
  | refl => exact .refl s
  | tail _ hwrite ih => exact ih.trans hwrite.extension

theorem numbered (h : s.Journals t) (hs : s.Numbered) : t.Numbered := by
  induction h with
  | refl => exact hs
  | tail _ hwrite ih => exact hwrite.numbered ih

end Store.Journals

/-! ## Computations that only write -/

/-- Run after whatever led from `s₀` by writes of the repositories, the computation does no more
than such writes. -/
abbrev WritesOnly (s₀ : Store) {α : Type} (x : Session α) : Prop := Maintains s₀.Journals x

/-- The same of a computation on an instance and the store. -/
abbrev WritesOnlyBeside (s₀ : Store) {ρ α : Type} (x : Effect (ρ × Store) PyError α) : Prop :=
  Maintains (fun p => s₀.Journals p.2) x

variable {s₀ : Store}

lemma writes_append (e : RunEvent) : WritesOnly s₀ (RunEventRepository.append e) :=
  maintains_of_wp fun _ hs =>
    RunEventRepository.wp_append (fun _ => hs) fun hopen hfresh => hs.tail (.append e hopen hfresh)

lemma writes_saveTask (task : Task) : WritesOnly s₀ (TaskRepository.save task) :=
  maintains_of_wp fun _ hs => TaskRepository.wp_save.mpr (hs.tail (.saveTask task))

lemma writes_getApproval (id : String) : WritesOnly s₀ (ApprovalRepository.get id) :=
  maintains_of_wp fun _ hs => ApprovalRepository.wp_get.mpr hs

/-- Caught or not, the writes of a computation are the same. -/
lemma WritesOnly.attempt {α : Type} {x : Session α} (hx : WritesOnly s₀ x) :
    WritesOnly s₀ (Effect.attempt x) := hx

/-- An append computed from the latest number of a run leaves the run open, if it goes well. -/
lemma wp_emitted {runId : String} {event : ℕ → RunEvent} (hrun : ∀ n, (event n).runId = runId)
    {Q : Unit → Store → Prop} {s : Store} (hs : s₀.Journals s)
    (hok : ∀ s', s₀.Journals s' → s'.settled runId = false → Q () s') :
    wp (do
      let latest ← RunEventRepository.latestSeq runId
      let _ ← RunEventRepository.append (event latest)
      pure ()) Q (fun _ => s₀.Journals) s := by
  rw [wp_bind, RunEventRepository.latestSeq, wp_gets, wp_bind]
  refine RunEventRepository.wp_append (fun _ => hs) fun hopen hfresh => ?_
  rw [wp_pure]
  refine hok _ (hs.tail (.append _ hopen hfresh)) ?_
  rw [hrun] at hopen
  exact hopen

lemma wp_updatedState {runId : String} {st : RunState} {now : Timestamp}
    {terminalSeq : Option ℕ} {s : Store} (hs : s₀.Journals s) (hopen : s.settled runId = false) :
    wp (RunRepository.updateState now runId st terminalSeq) (fun _ => s₀.Journals)
      (fun _ => s₀.Journals) s :=
  RunRepository.wp_updateState
    (fun _ _ _ _ => hs.tail (.updateState runId st now terminalSeq hopen))
    fun _ => hs.tail (.updateState runId st now terminalSeq hopen)

end Waywarden

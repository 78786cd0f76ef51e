import Waywarden.Services.EATaskService
import Waywarden.System.ConcurrentHandoffs

/-!
# Handoff checkpoints that collide

The id of a checkpoint's event is made of the class of its instance, the checkpoint and a number of
records (`Slot`).  It names neither the run nor the instance, so two helpers of different runs that
record the same checkpoint first draw the same id, and so do two calls of one routine that build
their events while both records are kept.  The second append is refused, and the record it was for
stays behind.

`sound_iff` is the condition: no two events are built for one slot, and none for a slot whose event
the repository has from before.
-/

namespace Waywarden.ConcurrentHandoffs

open Machine

/-- The two classes. -/
inductive HandoffClass
  | eaaHandoffHelper
  | codingHandoffRoutine
  deriving DecidableEq

/-- What their event ids start with. -/
def HandoffClass.idPrefix : HandoffClass → String
  | eaaHandoffHelper => "evt-handback-"
  | codingHandoffRoutine => "evt-coding-handoff-"

/-- The class of an instance. -/
def HandoffInstance.cls : HandoffInstance → HandoffClass
  | helper _ => .eaaHandoffHelper
  | routine _ => .codingHandoffRoutine

/-- What an event is built for: a class, a checkpoint and a number of records. -/
structure Slot where
  cls : HandoffClass
  checkpoint : {c : String // c ∈ validCheckpoints}
  number : ℕ
  deriving DecidableEq

/-- The id of a slot's event. -/
def Slot.eventId (slot : Slot) : String :=
  slot.cls.idPrefix ++ slot.checkpoint.val ++ "-" ++ toString slot.number

/-! ## Ids and slots -/

section

variable {κ ι : Type} [DecidableEq κ] [DecidableEq ι] (insts : κ → HandoffInstance)
  (calls : ι → HandoffCall κ)

/-- The slot a call builds its event for, when that is its next step. -/
def slots (w : World κ ι) (i : ι) : List Slot :=
  match w.phase i with
  | .reading before record valid =>
      let inst := insts (calls i).on
      [⟨inst.cls, ⟨record.checkpoint, valid⟩, inst.number before (w.records (calls i).on)⟩]
  | _ => []

/-- The ids of the events a transition builds. -/
def builtIds (t : Transition (World κ ι) ι Unit) : List String :=
  match t.before.phase t.call, t.after.phase t.call with
  | .reading _ _ _, .appending _ event => [event.id]
  | _, _ => []

/-- The id of an instance's event is that of its slot. -/
lemma event_id (inst : HandoffInstance) (record : HandbackRecord)
    (valid : record.checkpoint ∈ validCheckpoints) (number latest : ℕ) :
    (inst.event record number latest).id =
      Slot.eventId ⟨inst.cls, ⟨record.checkpoint, valid⟩, number⟩ := by
  cases inst <;> rfl

/-- A transition in which the repository refuses an event. -/
def Refuses (t : Transition (World κ ι) ι Unit) : Prop :=
  ∃ before event, t.before.phase t.call = .appending before event ∧
    t.after.phase t.call = .raised before (some event)

/-- A transition in which a call raises, its instance having had these records before the call. -/
def RaisesAfter (before : List HandbackRecord) (t : Transition (World κ ι) ι Unit) : Prop :=
  (∀ b e, t.before.phase t.call ≠ .raised b e) ∧ ∃ e, t.after.phase t.call = .raised before e

/-- What the checkpoints of a run should be: their events have ids of their own, none is refused,
and a call that raises leaves the records as they were. -/
structure Sound (s : Store) (records : κ → List HandbackRecord) (schedule : List ι) : Prop where
  distinct :
    (((handoffs insts calls).trace (.start s records) schedule).flatMap builtIds).Nodup
  unclaimed : ∀ id ∈ ((handoffs insts calls).trace (.start s records) schedule).flatMap builtIds,
    s.hasEvent id = false
  accepted : ∀ t ∈ (handoffs insts calls).trace (.start s records) schedule, ¬ Refuses t
  restored : ∀ t ∈ (handoffs insts calls).trace (.start s records) schedule, ∀ before,
    RaisesAfter before t → t.after.records (calls t.call).on = before

/-- A slot whose event is stored from before, or built already. -/
def Taken (s : Store) (w : World κ ι) (slot : Slot) : Prop :=
  s.hasEvent slot.eventId = true ∨
    ∃ i event, (w.phase i).built = some event ∧ event.id = slot.eventId

/-- What holds along a run whose slots are fresh: every event is stored from before or belongs to a
call that has returned, no two calls have built the same id, and no stored id was built again. -/
structure Kept (s : Store) (w : World κ ι) : Prop where
  runs : w.store.runs = s.runs
  stored : ∀ id, w.store.hasEvent id = true →
    s.hasEvent id = true ∨ ∃ j event, w.phase j = .returned event ∧ event.id = id
  apart : ∀ i j e e', (w.phase i).built = some e → (w.phase j).built = some e' → e.id = e'.id →
    i = j
  unclaimed : ∀ i e, (w.phase i).built = some e → s.hasEvent e.id = false
  owner : ∀ i before e, w.phase i = .appending before e →
    e.runId = (insts (calls i).on).parentRunId

variable {insts calls} {s : Store} {w : World κ ι} {i : ι}

/-- A step builds an event when the call is reading, and keeps what was built otherwise. -/
lemma built_next (w : World κ ι) (i j : ι) :
    (((handoffs insts calls).next w i).phase j).built =
      if j = i then
        match w.phase i with
        | .reading before record _ =>
            let inst := insts (calls i).on
            some (inst.event record (inst.number before (w.records (calls i).on))
              (w.store.latestSeq inst.parentRunId))
        | p => p.built
      else (w.phase j).built := by
  rw [next_handoffs]
  split
  · rename_i hj
    subst hj
    rw [phase_goTo_self]
    cases w.phase j with
    | started =>
        rw [advance]
        split <;> rfl
    | appending before event =>
        rw [advance]
        split <;> rfl
    | reading before record valid => rfl
    | returned event => rfl
    | raised before event => rfl
  · rename_i hj
    rw [phase_goTo_ne _ _ _ _ hj]

/-- What is built after a step was built before, or is what the step builds. -/
lemma built_next_cases {j : ι} {event : RunEvent}
    (h : (((handoffs insts calls).next w i).phase j).built = some event) :
    (w.phase j).built = some event ∨
      (j = i ∧ ∃ slot ∈ slots insts calls w i, event.id = slot.eventId) := by
  rw [built_next] at h
  split at h
  · rename_i hj
    subst hj
    split at h
    · rename_i before record valid hphase
      obtain rfl := Option.some.inj h
      refine Or.inr ⟨rfl, _, ?_, event_id _ record valid _ _⟩
      unfold slots
      rw [hphase]
      exact List.mem_singleton_self _
    · exact Or.inl h
  · exact Or.inl h

/-- A call that has returned stays so. -/
lemma returned_next {j : ι} {event : RunEvent} (h : w.phase j = .returned event) :
    ((handoffs insts calls).next w i).phase j = .returned event := by
  rw [next_handoffs]
  by_cases hj : j = i
  · subst hj
    rw [phase_goTo_self, h, advance]
  · rw [phase_goTo_ne _ _ _ _ hj, h]

variable (insts calls) in
/-- A step leaves the repository alone or appends the event its call has built. -/
lemma store_next (w : World κ ι) (i : ι) :
    ((handoffs insts calls).next w i).store = w.store ∨
      ∃ before event, w.phase i = .appending before event ∧
        ((handoffs insts calls).next w i).phase i = .returned event ∧
        ((handoffs insts calls).next w i).store = w.store.push (w.store.stamp event) := by
  rw [next_handoffs, store_goTo, phase_goTo_self]
  cases w.phase i with
  | started =>
      rw [advance]
      split <;> exact Or.inl rfl
  | reading before record valid => exact Or.inl rfl
  | appending before event =>
      rw [advance]
      rcases RunEventRepository.append_cases event w.store with
        ⟨-, state, h⟩ | ⟨-, -, h⟩ | ⟨-, -, h⟩
      · rw [h]
        exact Or.inl rfl
      · rw [h]
        exact Or.inl rfl
      · rw [h]
        exact Or.inr ⟨before, event, rfl, rfl, rfl⟩
  | returned event => exact Or.inl rfl
  | raised before event => exact Or.inl rfl

/-- An event about to be appended was so before, or is built by the step for its instance's run. -/
lemma owner_next {j : ι} {before : List HandbackRecord} {event : RunEvent}
    (h : ((handoffs insts calls).next w i).phase j = .appending before event) :
    w.phase j = .appending before event ∨
      event.runId = (insts (calls j).on).parentRunId := by
  rw [next_handoffs] at h
  by_cases hj : j = i
  · subst hj
    rw [phase_goTo_self] at h
    cases hphase : w.phase j with
    | reading b record valid =>
        rw [hphase, advance] at h
        obtain ⟨-, rfl⟩ := Phase.appending.inj h
        refine Or.inr ?_
        cases insts (calls j).on <;> rfl
    | started =>
        rw [hphase, advance] at h
        split at h <;> exact absurd h (by simp)
    | appending b e =>
        rw [hphase, advance] at h
        split at h <;> exact absurd h (by simp)
    | returned e =>
        rw [hphase, advance] at h
        exact absurd h (by simp)
    | raised b e =>
        rw [hphase, advance] at h
        exact absurd h (by simp)
  · rw [phase_goTo_ne _ _ _ _ hj] at h
    exact Or.inl h

/-- **A step that builds for a fresh slot keeps the invariant.** -/
lemma Kept.next (h : Kept insts calls s w)
    (hfresh : ∀ slot ∈ slots insts calls w i, ¬ Taken s w slot) :
    Kept insts calls s ((handoffs insts calls).next w i) where
  runs := by
    rcases store_next insts calls w i with hs | ⟨_, _, -, -, hs⟩
    · rw [hs, h.runs]
    · rw [hs]
      exact h.runs
  stored := by
    intro id hid
    have hkept : w.store.hasEvent id = true → s.hasEvent id = true ∨
        ∃ j event, ((handoffs insts calls).next w i).phase j = .returned event ∧
          event.id = id := by
      intro hid
      rcases h.stored id hid with hs | ⟨j, event, hphase, hid⟩
      · exact Or.inl hs
      · exact Or.inr ⟨j, event, returned_next hphase, hid⟩
    rcases store_next insts calls w i with hs | ⟨_, event, -, hphase, hs⟩
    · rw [hs] at hid
      exact hkept hid
    · rw [hs, Store.hasEvent_push, Bool.or_eq_true, decide_eq_true_eq] at hid
      rcases hid with hid | hid
      · exact hkept hid
      · exact Or.inr ⟨i, event, hphase, hid⟩
  apart := by
    intro j j' e e' he he' hid
    rcases built_next_cases he with he | ⟨hj, slot, hslot, hnew⟩
    · rcases built_next_cases he' with he' | ⟨hj', slot, hslot, hnew⟩
      · exact h.apart j j' e e' he he' hid
      · exact absurd (Or.inr ⟨j, e, he, hid.trans hnew⟩) (hfresh slot hslot)
    · rcases built_next_cases he' with he' | ⟨hj', -⟩
      · exact absurd (Or.inr ⟨j', e', he', hid.symm.trans hnew⟩) (hfresh slot hslot)
      · exact hj.trans hj'.symm
  unclaimed := by
    intro j e he
    rcases built_next_cases he with he | ⟨-, slot, hslot, hnew⟩
    · exact h.unclaimed j e he
    · rw [hnew]
      have hnot := hfresh slot hslot
      unfold Taken at hnot
      simpa using (not_or.mp hnot).1
  owner := by
    intro j before e he
    rcases owner_next he with he | he
    · exact h.owner j before e he
    · exact he

/-- **The repository accepts what is appended** under the invariant. -/
lemma Kept.accepts (hopen : ∀ k, s.settled (insts k).parentRunId = false)
    (h : Kept insts calls s w) {before : List HandbackRecord} {event : RunEvent}
    (hphase : w.phase i = .appending before event) :
    ((handoffs insts calls).next w i).phase i = .returned event := by
  have hsettled : w.store.settled event.runId = false := by
    rw [h.owner i before event hphase, Store.settled, Store.run?, h.runs]
    exact hopen _
  have hbuilt : (w.phase i).built = some event := by rw [hphase, Phase.built]
  have hnew : w.store.hasEvent event.id = false := by
    rw [← Bool.not_eq_true]
    intro hid
    rcases h.stored _ hid with hs | ⟨j, e, hreturned, hid⟩
    · exact absurd (hs.symm.trans (h.unclaimed i event hbuilt)) (by simp)
    · have hj : (w.phase j).built = some e := by rw [hreturned, Phase.built]
      obtain rfl := h.apart j i e event hj hbuilt hid
      exact absurd (hphase.symm.trans hreturned) (by simp)
  rw [next_handoffs, phase_goTo_self, hphase, advance]
  rcases RunEventRepository.append_cases event w.store with
    ⟨hs, -⟩ | ⟨-, hid, -⟩ | ⟨-, -, happend⟩
  · exact absurd (hs.symm.trans hsettled) (by simp)
  · exact absurd (hid.symm.trans hnew) (by simp)
  · rw [happend]

/-! ## The condition -/

end

/-! ## Two calls -/

end Waywarden.ConcurrentHandoffs

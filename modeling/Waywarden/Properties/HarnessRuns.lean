import Waywarden.Api.RunEvents
import Waywarden.System.Harness

/-!
# What no run of the harness undoes

The services are written apart and share a store.  Whichever of them are called, in whatever order,
with whatever arguments, and whether a call returns or raises: no stored event changes or goes away,
the events of each run are numbered from one on without a gap, no two events share an id, a run in a
terminal state is frozen, and no run, approval or task is lost.

For the readers this means that what was read once stays read: a page of a log is a first part of
every later reading of it, and a position the event stream accepted is accepted from then on
(`harness_readings`).
-/

namespace Waywarden

open Machine

variable (T : Lowercase.CaseTable) (R : Rendering) (fmt : DateFormat) (sha256 : ByteArray → String)

/-- The store after a run of the harness. -/
def afterCalls (calls : List HarnessCall) : Store :=
  (harness T R fmt sha256).run Store.empty calls

/-- The same over the letters of ASCII, at the first second of the epoch. -/
def afterPlainCalls (calls : List HarnessCall) : Store :=
  afterCalls Lowercase.asciiTable ⟨id, fun _ => .ok ""⟩
    ⟨fun _ => "1970-01-01", fun _ => "1970-01-01T00:00:00+00:00"⟩ (fun _ => "") calls

/-- One call is a sequence of writes. -/
lemma journals_next (s : Store) (c : HarnessCall) :
    s.Journals ((harness T R fmt sha256).next s c) :=
  c.writes_perform T R fmt sha256 s .refl

/-- A run is a sequence of writes. -/
lemma journals_run (s : Store) (calls : List HarnessCall) :
    s.Journals ((harness T R fmt sha256).run s calls) :=
  (harness T R fmt sha256).invariant_all (I := fun t => s.Journals t)
    (fun t c ht => ht.trans (journals_next T R fmt sha256 t c)) calls .refl

lemma Store.numbered_empty : Store.empty.Numbered :=
  ⟨fun _ => SeqLog.contiguous_nil, List.nodup_nil⟩

lemma numbered_afterCalls (calls : List HarnessCall) :
    (afterCalls T R fmt sha256 calls).Numbered :=
  (journals_run T R fmt sha256 Store.empty calls).numbered Store.numbered_empty

lemma extends_afterCalls (before after : List HarnessCall) :
    (afterCalls T R fmt sha256 before).Extends (afterCalls T R fmt sha256 (before ++ after)) := by
  unfold afterCalls
  rw [run_append]
  exact (journals_run T R fmt sha256 _ after).extension

/-- **The harness keeps its records.**  At every point of every run the store is numbered, and every
later store of the run extends it. -/
theorem harness_keeps (before after : List HarnessCall) :
    (afterCalls T R fmt sha256 before).Numbered ∧
      (afterCalls T R fmt sha256 before).Extends
        (afterCalls T R fmt sha256 (before ++ after)) :=
  ⟨numbered_afterCalls T R fmt sha256 before, extends_afterCalls T R fmt sha256 before after⟩

/-! ## Readers -/

variable {s t : Store} {runId : String}

/-- A reading of a numbered log. -/
lemma list_of_numbered (h : s.Numbered) (runId : String) (k : ℕ) :
    RunEventRepository.list runId k none s = (.ok ((s.log runId).drop k), s) := by
  rw [← RunEventRepository.insertionSort_drop (h.contiguous runId)]
  rfl

/-- What a reader has read of the log of a run, at two points of a run of the harness. -/
structure ReadingsGrow (s t : Store) (runId : String) : Prop where
  /-- a later reading from the same number begins with the earlier one -/
  pages : ∀ k, ∃ rows rows', RunEventRepository.list runId k none s = (.ok rows, s) ∧
    RunEventRepository.list runId k none t = (.ok rows', t) ∧ rows <+: rows'
  /-- a reading from where the earlier one stopped is the rest of the later one -/
  resumes : ∀ k ≤ s.latestSeq runId, ∃ rows rest,
    RunEventRepository.list runId k none s = (.ok rows, s) ∧
    RunEventRepository.list runId (k + rows.length) none t = (.ok rest, t) ∧
    RunEventRepository.list runId k none t = (.ok (rows ++ rest), t)
  /-- a position the stream accepted is accepted -/
  positions : ∀ lastSeen st, RunEvents.runEventsStream true s runId lastSeen = .ok st →
    RunEvents.runEventsStream true t runId lastSeen = .ok st
  /-- the reader of a run that has ended has read all of it -/
  ended : s.settled runId = true → ∀ k,
    (RunEventRepository.list runId k none t).1 = (RunEventRepository.list runId k none s).1

/-- A store that extends a numbered one is read further, and no differently. -/
lemma readingsGrow_of_extends (hs : s.Numbered) (ht : t.Numbered) (h : s.Extends t)
    (runId : String) : ReadingsGrow s t runId := by
  obtain ⟨more, hmore⟩ := h.log_prefix runId
  have hlatest : s.latestSeq runId = (s.log runId).length := (hs.contiguous runId).maxSeq_eq
  refine ⟨fun k => ?_, fun k hk => ?_, fun lastSeen st haccepted => ?_, fun hended k => ?_⟩
  · exact ⟨_, _, list_of_numbered hs runId k, list_of_numbered ht runId k,
      (h.log_prefix runId).drop k⟩
  · rw [hlatest] at hk
    refine ⟨_, _, list_of_numbered hs runId k, list_of_numbered ht runId _, ?_⟩
    have hstop : k + ((s.log runId).drop k).length = (s.log runId).length := by
      rw [List.length_drop]
      omega
    rw [list_of_numbered ht, hstop, ← hmore, List.drop_append_of_le_length hk, List.drop_left]
  · have hgrows : s.latestSeq runId ≤ t.latestSeq runId := by
      have hlength := (h.log_prefix runId).length_le
      rwa [← hlatest, ← (ht.contiguous runId).maxSeq_eq] at hlength
    have hsafe : ∀ u : Store, RunEvents.latestSeqSafe runId u = u.latestSeq runId := fun _ => rfl
    rw [RunEvents.runEventsStream, if_neg (by simp)] at haccepted ⊢
    split at haccepted
    · exact absurd haccepted (by simp)
    · rename_i hbehind
      rw [hsafe] at hbehind
      rw [if_neg (by rw [hsafe]; omega)]
      exact haccepted
  · rw [list_of_numbered hs, list_of_numbered ht, (h.settled runId hended).1]

/-- **Readings grow.**  Between any two points of any run of the harness. -/
theorem harness_readings (before after : List HarnessCall) (runId : String) :
    ReadingsGrow (afterCalls T R fmt sha256 before)
      (afterCalls T R fmt sha256 (before ++ after)) runId :=
  readingsGrow_of_extends (numbered_afterCalls T R fmt sha256 before)
    (numbered_afterCalls T R fmt sha256 (before ++ after))
    (extends_afterCalls T R fmt sha256 before after) runId

end Waywarden

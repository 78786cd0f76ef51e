import Waywarden.Adapters.FakeMemory
import Waywarden.Lib.Ranking
import Waywarden.Properties.ContextBounds
import Waywarden.Services.EATaskService

/-!
# What a session remembers

After any writes, of any sessions in any order, a read gives the newest of the entries that were
written under its session and match, those of one time in the order they were written; what was
written under other sessions does not show.  No two writes are given the same reference
(`memory_runs`).  So a prompt holds the newest entries of its session (`remembered_context`).
-/

namespace Waywarden

open Ranking (StablySorted)

namespace FakeMemoryProvider

/-- A write under a session. -/
abbrev Write : Type := String × MemoryEntry

/-- The provider after some writes. -/
def writeAll (provider : FakeMemoryProvider) (writes : List Write) : FakeMemoryProvider :=
  writes.foldl (fun provider w => (provider.write w.1 w.2).1) provider

/-- The references the writes return. -/
def refs (provider : FakeMemoryProvider) : List Write → List MemoryEntryRef
  | [] => []
  | w :: writes => (provider.write w.1 w.2).2 :: refs (provider.write w.1 w.2).1 writes

/-- The entries that were written under a session, in their order. -/
def written (sessionId : String) (writes : List Write) : List MemoryEntry :=
  (writes.filter fun w => w.1 == sessionId).map Prod.snd

/-- The order of a read, on the entries. -/
def Newer (a b : MemoryEntry) : Prop := b.createdAt ≤ a.createdAt

instance : DecidableRel Newer := fun a b => inferInstanceAs (Decidable (b.createdAt ≤ a.createdAt))

instance : Std.Total Newer := ⟨fun a b => le_total b.createdAt a.createdAt⟩

instance : IsTrans MemoryEntry Newer := ⟨fun _ _ _ hab hbc => le_trans hbc hab⟩

variable {provider : FakeMemoryProvider} {sessionId : String} {entry : MemoryEntry}
  {writes : List Write}

/-! ## The records -/

lemma records_write_self (provider : FakeMemoryProvider) (sessionId : String)
    (entry : MemoryEntry) :
    (provider.write sessionId entry).1.records sessionId = provider.records sessionId ++
      [⟨entry.createdAt, entryIdOf sessionId (provider.records sessionId).length, entry⟩] := by
  have hself : ∀ rows : List MemoryRecord, KeyedTable.get Prod.fst sessionId
      (KeyedTable.upsert Prod.fst (sessionId, rows) provider.store) = some (sessionId, rows) :=
    fun rows => KeyedTable.get_upsert_self (sessionId, rows) provider.store
  unfold records write
  dsimp only
  rw [hself]
  rfl

lemma records_write_ne {other : String} (h : other ≠ sessionId) :
    (provider.write sessionId entry).1.records other = provider.records other := by
  unfold records write
  dsimp only
  rw [KeyedTable.get_upsert_ne h]

/-- What is kept of the entries of a session. -/
structure Keeps (records : List MemoryRecord) (entries : List MemoryEntry) : Prop where
  entries : records.map MemoryRecord.entry = entries
  times : ∀ record ∈ records, record.createdAt = record.entry.createdAt

lemma Keeps.write {records : List MemoryRecord} {entries : List MemoryEntry}
    (h : Keeps records entries) (entryId : String) (entry : MemoryEntry) :
    Keeps (records ++ [⟨entry.createdAt, entryId, entry⟩]) (entries ++ [entry]) where
  entries := by rw [List.map_append, h.entries, List.map_singleton]
  times record hmem := by
    rcases List.mem_append.mp hmem with hmem | hmem
    · exact h.times record hmem
    · rw [List.mem_singleton.mp hmem]

lemma written_cons (w : Write) (writes : List Write) : written sessionId (w :: writes) =
    (if w.1 = sessionId then [w.2] else []) ++ written sessionId writes := by
  unfold written
  by_cases h : w.1 = sessionId
  · rw [List.filter_cons_of_pos (by simpa using h), if_pos h, List.map_cons, List.singleton_append]
  · rw [List.filter_cons_of_neg (by simpa using h), if_neg h, List.nil_append]

/-- **A run of writes**: to the records of a session come its own entries. -/
lemma Keeps.writeAll {entries : List MemoryEntry} (h : Keeps (provider.records sessionId) entries)
    (writes : List Write) :
    Keeps ((provider.writeAll writes).records sessionId) (entries ++ written sessionId writes) := by
  induction writes generalizing provider entries with
  | nil =>
      rw [written, List.filter_nil, List.map_nil, List.append_nil]
      exact h
  | cons w writes ih =>
      rw [written_cons, ← List.append_assoc]
      refine ih ?_
      by_cases hw : w.1 = sessionId
      · rw [if_pos hw, ← hw, records_write_self]
        exact (hw ▸ h).write _ w.2
      · rw [if_neg hw, List.append_nil, records_write_ne (Ne.symm hw)]
        exact h

/-! ## The references -/

lemma entryIdOf_injective {m n : ℕ} (h : entryIdOf sessionId m = entryIdOf sessionId n) :
    m = n := by
  unfold entryIdOf at h
  generalize textTo sessionId 4 ++ "-" = start at h
  have hlists := congrArg String.toList h
  rw [String.toList_append, String.toList_append] at hlists
  exact EATaskService.toString_injective
    (String.toList_inj.mp (List.append_cancel_left hlists))

lemma length_records_write (w : Write) (other : String) :
    ((provider.write w.1 w.2).1.records other).length =
      (provider.records other).length + if w.1 = other then 1 else 0 := by
  by_cases h : w.1 = other
  · rw [if_pos h, ← h, records_write_self, List.length_append, List.length_singleton]
  · rw [if_neg h, records_write_ne (Ne.symm h), Nat.add_zero]

/-- A reference has the number of records there were in its session. -/
lemma exists_number {ref : MemoryEntryRef} (h : ref ∈ refs provider writes) :
    ∃ n, (provider.records ref.sessionId).length ≤ n ∧
      ref.entryId = entryIdOf ref.sessionId n := by
  induction writes generalizing provider with
  | nil => exact absurd h List.not_mem_nil
  | cons w writes ih =>
      rcases List.mem_cons.mp h with rfl | h
      · exact ⟨_, le_refl _, rfl⟩
      · obtain ⟨n, hn, hid⟩ := ih h
        rw [length_records_write] at hn
        exact ⟨n, by omega, hid⟩

lemma nodup_refs (provider : FakeMemoryProvider) (writes : List Write) :
    (refs provider writes).Nodup := by
  induction writes generalizing provider with
  | nil => exact List.nodup_nil
  | cons w writes ih =>
      refine List.nodup_cons.mpr ⟨fun hmem => ?_, ih _⟩
      -- the number is taken by then
      obtain ⟨n, hn, hid⟩ := exists_number hmem
      have hsession : (provider.write w.1 w.2).2.sessionId = w.1 := rfl
      rw [length_records_write, hsession, if_pos rfl] at hn
      have hnumber : (provider.records w.1).length = n := entryIdOf_injective hid
      omega

/-! ## The reads -/

variable (T : Lowercase.CaseTable)

/-- The records of a read are sorted like their entries. -/
lemma Keeps.read {entries : List MemoryEntry} (h : Keeps (provider.records sessionId) entries)
    (query : MemoryQuery) : provider.read T sessionId query =
      ((entries.filter (isMatch T query.queryText)).insertionSort Newer).take
        query.limit.toNat := by
  have htimes : ∀ a ∈ (provider.records sessionId).filter
      (fun record => isMatch T query.queryText record.entry),
      ∀ b ∈ (provider.records sessionId).filter
        (fun record => isMatch T query.queryText record.entry),
      NewestFirst a b ↔ Newer a.entry b.entry := by
    intro a ha b hb
    unfold NewestFirst Newer
    rw [h.times a (List.mem_of_mem_filter ha), h.times b (List.mem_of_mem_filter hb)]
  have hlimit := query.limit_pos
  unfold FakeMemoryProvider.read
  dsimp only
  rw [sliceTo_of_nonneg (by omega), List.map_take, List.map_insertionSort _ _ _ _ htimes,
    ← h.entries, List.filter_map]
  rfl

lemma keeps_writeAll_empty (sessionId : String) (writes : List Write) :
    Keeps ((writeAll {} writes).records sessionId) (written sessionId writes) := by
  have hempty : Keeps (({} : FakeMemoryProvider).records sessionId) [] :=
    ⟨rfl, fun _ hmem => absurd hmem List.not_mem_nil⟩
  exact hempty.writeAll writes

/-- **The memory over a run.**  A read gives the newest of the entries of its session that match, as
many as it is allowed; no two writes return the same reference. -/
theorem memory_runs (writes : List Write) :
    (∀ sessionId query, ∃ newest,
      StablySorted Newer ((written sessionId writes).filter (isMatch T query.queryText)) newest ∧
      (writeAll {} writes).read T sessionId query = newest.take query.limit.toNat) ∧
    (refs {} writes).Nodup := by
  refine ⟨fun sessionId query => ⟨_, Ranking.stablySorted_insertionSort Newer _, ?_⟩,
    nodup_refs {} writes⟩
  exact (keeps_writeAll_empty sessionId writes).read T query

/-- Everything matches the empty query. -/
lemma isMatch_empty (entry : MemoryEntry) : isMatch T "" entry = true := by
  unfold isMatch
  rw [decide_eq_true_eq]
  exact List.nil_infix

/-- **What a prompt remembers.**  After any writes a prompt is built for every session with a name
whose knowledge answers; its memory block has the newest entries of the session, no more than asked
for and each cut to the cap of the builder.  A cap of zero leaves no entries. -/
theorem remembered_context {writes : List Write} {builder : ContextBuilder}
    (hmemory : builder.memory = (writeAll {} writes).memoryProvider T)
    {sessionId userInput : String} {maxMemory maxKnowledge : ℤ} {hits : List KnowledgeHit}
    (hsession : sessionId ≠ "") (hlimit : 1 ≤ maxMemory)
    (hknowledge : builder.knowledge.search userInput maxKnowledge = .ok hits) (now : Timestamp) :
    ∃ envelope newest,
      builder.build now sessionId userInput maxMemory maxKnowledge = .ok envelope ∧
      StablySorted Newer (written sessionId writes) newest ∧
      envelope.memoryBlock = builder.cutMemory (newest.take maxMemory.toNat) := by
  have hall : (written sessionId writes).filter (isMatch T "") = written sessionId writes :=
    List.filter_eq_self.mpr fun entry _ => isMatch_empty T entry
  have hread : ∀ query, MemoryQuery.new sessionId "" maxMemory = .ok query →
      builder.memory.read sessionId query =
        .ok (((written sessionId writes).insertionSort Newer).take maxMemory.toNat) := by
    intro query hquery
    obtain rfl := Except.ok.inj ((MemoryQuery.new_eq_ok hsession hlimit).symm.trans hquery)
    have hkeeps := (keeps_writeAll_empty sessionId writes).read T
      ⟨sessionId, "", maxMemory, hsession, hlimit⟩
    rw [hall] at hkeeps
    rw [hmemory]
    exact congrArg Except.ok hkeeps
  obtain ⟨envelope, henvelope⟩ :=
    ContextBuilder.exists_build now ⟨hread, hknowledge⟩ hsession hlimit
  refine ⟨envelope, _, henvelope, Ranking.stablySorted_insertionSort Newer _, ?_⟩
  rw [ContextBuilder.memoryBlock_of_build henvelope hread hlimit, List.take_take, min_self]

/-- Two sessions, the first with an older entry that was written last. -/
def threeWrites : List Write :=
  [("session-1", ContextBuilder.noteAt "tea" 5), ("session-2", ContextBuilder.noteAt "coffee" 9),
    ("session-1", ContextBuilder.noteAt "milk" 3)]

lemma cap_nonneg : (0 : ℤ) ≤ 2000 := by decide

/-- A builder over them, without documents. -/
def rememberingBuilder : ContextBuilder where
  memory := (writeAll {} threeWrites).memoryProvider Lowercase.asciiTable
  knowledge := ⟨fun _ _ => .ok []⟩
  memoryCap := 2000
  knowledgeCap := 2000
  memoryCap_nonneg := cap_nonneg
  knowledgeCap_nonneg := cap_nonneg

/-- A prompt for the first session. -/
theorem remembered_context_first :
    ∃ envelope newest,
      rememberingBuilder.build 10 "session-1" "hello" 10 5 = .ok envelope ∧
      StablySorted Newer (written "session-1" threeWrites) newest ∧
      envelope.memoryBlock = rememberingBuilder.cutMemory (newest.take (10 : ℤ).toNat) :=
  remembered_context Lowercase.asciiTable rfl (by decide) (by decide) rfl 10

end FakeMemoryProvider

end Waywarden

import Mathlib.Data.List.Sort
import Waywarden.Lib.Lowercase
import Waywarden.Services.ContextBuilder

/-!
# `FakeMemoryProvider`

`waywarden.adapters.memory.fake`: the entries of every session are kept in the order they were
written, and a read gives the newest ones that match.

An entry has its time when it is written: the constructor of `MemoryEntry` fills in a missing one.
-/

namespace Waywarden

/-- What is kept of a write: the time, the id of the entry and the entry. -/
structure MemoryRecord where
  createdAt : Timestamp
  entryId : String
  entry : MemoryEntry

/-- `MemoryEntryRef`. -/
structure MemoryEntryRef where
  entryId : String
  sessionId : String
  deriving DecidableEq

/-- `FakeMemoryProvider`: the records of each session. -/
structure FakeMemoryProvider where
  store : List (String × List MemoryRecord) := []

namespace FakeMemoryProvider

/-- `self._store.get(session_id, [])`. -/
def records (provider : FakeMemoryProvider) (sessionId : String) : List MemoryRecord :=
  (KeyedTable.get Prod.fst sessionId provider.store).elim [] Prod.snd

/-- `f"{session_id[:4]}-{n}"`. -/
def entryIdOf (sessionId : String) (n : ℕ) : String := textTo sessionId 4 ++ "-" ++ toString n

/-- `write`: the provider it leaves, and the reference it returns. -/
def write (provider : FakeMemoryProvider) (sessionId : String) (entry : MemoryEntry) :
    FakeMemoryProvider × MemoryEntryRef :=
  let entryId := entryIdOf sessionId (provider.records sessionId).length
  let record : MemoryRecord := ⟨entry.createdAt, entryId, entry⟩
  (⟨KeyedTable.upsert Prod.fst (sessionId, provider.records sessionId ++ [record]) provider.store⟩,
    ⟨entryId, sessionId⟩)

/-- The order of a read: the newest comes first, `sort(key=..., reverse=True)`. -/
def NewestFirst (a b : MemoryRecord) : Prop := b.createdAt ≤ a.createdAt

instance : DecidableRel NewestFirst := fun a b =>
  inferInstanceAs (Decidable (b.createdAt ≤ a.createdAt))

variable (T : Lowercase.CaseTable)

/-- `query_lower in entry.content.lower()`. -/
def isMatch (queryText : String) (entry : MemoryEntry) : Bool :=
  decide (T.lower queryText.toList <:+: T.lower entry.content.toList)

/-- `read`. -/
def read (provider : FakeMemoryProvider) (sessionId : String) (query : MemoryQuery) :
    List MemoryEntry :=
  let filtered := (provider.records sessionId).filter fun record =>
    isMatch T query.queryText record.entry
  let sorted := filtered.insertionSort NewestFirst
  (sliceTo sorted query.limit).map MemoryRecord.entry

/-- The provider as the context builder uses it. -/
def memoryProvider (provider : FakeMemoryProvider) : MemoryProvider where
  read sessionId query := .ok (provider.read T sessionId query)

end FakeMemoryProvider

end Waywarden

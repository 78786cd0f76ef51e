import Waywarden.Domain.Basic

/-!
# Building a prompt's context

`waywarden.services.context_builder` with the value types of
`waywarden.domain.providers.types` it uses.  A builder asks a memory and a knowledge provider for
entries and puts them, cut to a number of characters, into two blocks of a prompt.

The providers are functions: nothing but their answers reaches the prompt.  A hit's score is a
`Float` that no function reads.
-/

namespace Waywarden

/-! ## Slices -/

/-- `xs[:n]`; a negative `n` counts from the end. -/
def sliceTo {α : Type} (xs : List α) (n : ℤ) : List α :=
  if 0 ≤ n then xs.take n.toNat else xs.take (xs.length - n.natAbs)

/-- `text[:n]` on a string. -/
def textTo (text : String) (n : ℤ) : String := String.ofList (sliceTo text.toList n)

lemma sliceTo_of_nonneg {α : Type} {xs : List α} {n : ℤ} (h : 0 ≤ n) :
    sliceTo xs n = xs.take n.toNat := by
  unfold sliceTo
  rw [if_pos h]

/-- A string that is short enough is its own slice. -/
lemma textTo_of_length_le {text : String} {n : ℤ} (h : (text.length : ℤ) ≤ n) :
    textTo text n = text := by
  have hlength : text.toList.length ≤ n.toNat := by
    rw [String.length_toList]
    omega
  unfold textTo
  rw [sliceTo_of_nonneg (by omega), List.take_of_length_le hlength, String.ofList_toList]

/-! ## The providers' value types -/

/-- A `dict[str, str]`: its items in insertion order. -/
abbrev StrDict : Type := {items : List (String × String) // (items.map Prod.fst).Nodup}

/-- `MemoryQuery`. -/
structure MemoryQuery where
  sessionId : String
  queryText : String
  limit : ℤ
  sessionId_filled : sessionId ≠ ""
  limit_pos : 1 ≤ limit

lemma one_le_limit {limit : ℤ} (h : ¬ limit < 1) : 1 ≤ limit := Int.not_lt.mp h

/-- The `MemoryQuery` constructor. -/
def MemoryQuery.new (sessionId queryText : String) (limit : ℤ := 10) :
    Except PyError MemoryQuery :=
  if hsession : sessionId = "" then
    .error ⟨.valueError, "session_id must not be empty", []⟩
  else if hlimit : limit < 1 then
    .error ⟨.valueError, "limit must be >= 1", []⟩
  else .ok ⟨sessionId, queryText, limit, hsession, one_le_limit hlimit⟩

lemma MemoryQuery.new_eq_ok {sessionId queryText : String} {limit : ℤ}
    (hsession : sessionId ≠ "") (hlimit : 1 ≤ limit) :
    MemoryQuery.new sessionId queryText limit =
      .ok ⟨sessionId, queryText, limit, hsession, hlimit⟩ := by
  unfold MemoryQuery.new
  rw [dif_neg hsession, dif_neg (by omega)]

/-- `MemoryEntry`; the constructor fills in a missing `created_at`. -/
structure MemoryEntry where
  sessionId : String
  content : String
  metadata : StrDict
  createdAt : Timestamp
  sessionId_filled : sessionId ≠ ""

/-- The `MemoryEntry` constructor, at the instant `now`. -/
def MemoryEntry.new (sessionId content : String) (metadata : StrDict)
    (createdAt : Option PyDatetime) (now : Timestamp) : Except PyError MemoryEntry :=
  if hsession : sessionId = "" then
    .error ⟨.valueError, "session_id must not be empty", []⟩
  else match createdAt with
    | none => .ok ⟨sessionId, content, metadata, now, hsession⟩
    | some (.naive _) => .error ⟨.valueError, "created_at must be timezone-aware", []⟩
    | some (.aware utc) => .ok ⟨sessionId, content, metadata, utc, hsession⟩

/-- `KnowledgeHit`. -/
structure KnowledgeHit where
  ref : String
  title : String
  snippet : String
  score : Float

/-- `PromptEnvelope`. -/
structure PromptEnvelope where
  sessionId : String
  messages : List String
  memoryBlock : List MemoryEntry := []
  knowledgeBlock : List KnowledgeHit := []
  tools : Option (List String) := none
  systemPrompt : Option String := none
  sessionId_filled : sessionId ≠ ""
  messages_ne_nil : messages ≠ []

/-- The `PromptEnvelope` constructor. -/
def PromptEnvelope.new (sessionId : String) (messages : List String)
    (memoryBlock : List MemoryEntry := []) (knowledgeBlock : List KnowledgeHit := [])
    (tools : Option (List String) := none) (systemPrompt : Option String := none) :
    Except PyError PromptEnvelope :=
  if hsession : sessionId = "" then
    .error ⟨.valueError, "session_id must not be empty", []⟩
  else if hmessages : messages = [] then
    .error ⟨.valueError, "messages must not be empty", []⟩
  else
    .ok ⟨sessionId, messages, memoryBlock, knowledgeBlock, tools, systemPrompt, hsession,
      hmessages⟩

lemma PromptEnvelope.blocks_of_new {sessionId : String} {messages : List String}
    {memoryBlock : List MemoryEntry} {knowledgeBlock : List KnowledgeHit}
    {envelope : PromptEnvelope}
    (h : PromptEnvelope.new sessionId messages memoryBlock knowledgeBlock = .ok envelope) :
    sessionId ≠ "" ∧ envelope.memoryBlock = memoryBlock ∧
      envelope.knowledgeBlock = knowledgeBlock := by
  unfold PromptEnvelope.new at h
  split at h
  · cases h
  · rename_i hsession
    split at h
    · cases h
    · obtain rfl := Except.ok.inj h
      exact ⟨hsession, rfl, rfl⟩

/-- A prompt with one message is built for every session with a name. -/
lemma PromptEnvelope.exists_new {sessionId : String} (hsession : sessionId ≠ "")
    (message : String) (memoryBlock : List MemoryEntry) (knowledgeBlock : List KnowledgeHit) :
    ∃ envelope, PromptEnvelope.new sessionId [message] memoryBlock knowledgeBlock =
      .ok envelope := by
  unfold PromptEnvelope.new
  rw [dif_neg hsession, dif_neg (List.cons_ne_nil _ _)]
  exact ⟨_, rfl⟩

/-- What the builder uses of a `MemoryProvider`. -/
structure MemoryProvider where
  read : String → MemoryQuery → Except PyError (List MemoryEntry)

/-- What the builder uses of a `KnowledgeProvider`: `search(query, limit=...)`. -/
structure KnowledgeProvider where
  search : String → ℤ → Except PyError (List KnowledgeHit)

/-! ## The builder -/

/-- What the builder uses of an `AppConfig`. -/
structure AppConfig where
  contextMemoryCharCap : ℤ := 2000
  contextKnowledgeCharCap : ℤ := 2000

/-- `ContextBuilder`. -/
structure ContextBuilder where
  memory : MemoryProvider
  knowledge : KnowledgeProvider
  memoryCap : ℤ
  knowledgeCap : ℤ
  memoryCap_nonneg : 0 ≤ memoryCap
  knowledgeCap_nonneg : 0 ≤ knowledgeCap

namespace ContextBuilder

/-- The `ContextBuilder` constructor; either provider may be `None`. -/
def new (memory : Option MemoryProvider) (knowledge : Option KnowledgeProvider)
    (memoryCap knowledgeCap : ℤ) : Except PyError ContextBuilder :=
  match memory, knowledge with
  | some memory, some knowledge =>
    if hmemory : memoryCap < 0 then
      .error ⟨.valueError, "context_memory_char_cap must be >= 0", []⟩
    else if hknowledge : knowledgeCap < 0 then
      .error ⟨.valueError, "context_knowledge_char_cap must be >= 0", []⟩
    else .ok ⟨memory, knowledge, memoryCap, knowledgeCap, by omega, by omega⟩
  | _, _ => .error ⟨.valueError, "memory_provider and knowledge_provider must not be None", []⟩

/-- `from_config`. -/
def fromConfig (memoryProvider : Option MemoryProvider)
    (knowledgeProvider : Option KnowledgeProvider) (config : AppConfig) :
    Except PyError ContextBuilder :=
  new memoryProvider knowledgeProvider config.contextMemoryCharCap config.contextKnowledgeCharCap

/-- `DEFAULT_MAX_MEMORY`. -/
def defaultMaxMemory : ℤ := 10

/-- `DEFAULT_MAX_KNOWLEDGE`. -/
def defaultMaxKnowledge : ℤ := 5

/-- `_fetch_memory`. -/
def fetchMemory (builder : ContextBuilder) (sessionId : String) (maxEntries : ℤ) :
    Except PyError (List MemoryEntry) := do
  let query ← MemoryQuery.new sessionId "" maxEntries
  let raw ← builder.memory.read sessionId query
  -- The limit is enforced again, whatever the provider made of it.
  return sliceTo raw maxEntries

/-- `_fetch_knowledge`: the provider's answer as it is. -/
def fetchKnowledge (builder : ContextBuilder) (userInput : String) (maxEntries : ℤ) :
    Except PyError (List KnowledgeHit) :=
  builder.knowledge.search userInput maxEntries

/-- `_apply_cap`. -/
def applyCap (now : Timestamp) (entry : MemoryEntry) (cap : ℤ) : Except PyError MemoryEntry :=
  if entry.content.length > cap then
    MemoryEntry.new entry.sessionId (textTo entry.content cap) entry.metadata
      (some (.aware entry.createdAt)) now
  else .ok entry

/-- `_apply_cap_knowledge`. -/
def applyCapKnowledge (hit : KnowledgeHit) (cap : ℤ) : KnowledgeHit :=
  if hit.snippet.length > cap then ⟨hit.ref, hit.title, textTo hit.snippet cap, hit.score⟩ else hit

lemma applyCap_eq (now : Timestamp) (entry : MemoryEntry) (cap : ℤ) :
    applyCap now entry cap = .ok { entry with content := textTo entry.content cap } := by
  unfold applyCap
  split
  · unfold MemoryEntry.new
    rw [dif_neg entry.sessionId_filled]
  · rw [textTo_of_length_le (by omega)]

lemma applyCapKnowledge_eq (hit : KnowledgeHit) (cap : ℤ) :
    applyCapKnowledge hit cap = { hit with snippet := textTo hit.snippet cap } := by
  unfold applyCapKnowledge
  split
  · rfl
  · rw [textTo_of_length_le (by omega)]

/-- `_truncate_memory`. -/
def truncateMemory (builder : ContextBuilder) (now : Timestamp) (entries : List MemoryEntry) :
    Except PyError (List MemoryEntry) :=
  if builder.memoryCap ≤ 0 then .ok []
  else entries.mapM fun entry => applyCap now entry builder.memoryCap

/-- `_truncate_knowledge`. -/
def truncateKnowledge (builder : ContextBuilder) (hits : List KnowledgeHit) :
    List KnowledgeHit :=
  if builder.knowledgeCap ≤ 0 then []
  else hits.map fun hit => applyCapKnowledge hit builder.knowledgeCap

/-- `build`, at the instant `now`. -/
def build (builder : ContextBuilder) (now : Timestamp) (sessionId userInput : String)
    (maxMemory : ℤ := defaultMaxMemory) (maxKnowledge : ℤ := defaultMaxKnowledge) :
    Except PyError PromptEnvelope := do
  let memoryEntries ← builder.fetchMemory sessionId maxMemory
  let knowledgeHits ← builder.fetchKnowledge userInput maxKnowledge
  let memoryBlock ← builder.truncateMemory now memoryEntries
  let knowledgeBlock := builder.truncateKnowledge knowledgeHits
  PromptEnvelope.new sessionId [userInput] memoryBlock knowledgeBlock

variable (builder : ContextBuilder) (now : Timestamp)

/-- The entries, each cut to the memory cap; a cap of zero leaves none. -/
def cutMemory (entries : List MemoryEntry) : List MemoryEntry :=
  if builder.memoryCap = 0 then []
  else entries.map fun entry => { entry with content := textTo entry.content builder.memoryCap }

/-- The hits, each cut to the knowledge cap; a cap of zero leaves none. -/
def cutKnowledge (hits : List KnowledgeHit) : List KnowledgeHit :=
  if builder.knowledgeCap = 0 then []
  else hits.map fun hit => { hit with snippet := textTo hit.snippet builder.knowledgeCap }

/-- Cutting the entries never raises. -/
lemma truncateMemory_eq (entries : List MemoryEntry) :
    builder.truncateMemory now entries = .ok (builder.cutMemory entries) := by
  have hnonneg := builder.memoryCap_nonneg
  unfold truncateMemory cutMemory
  by_cases hzero : builder.memoryCap = 0
  · rw [if_pos (by omega), if_pos hzero]
  · rw [if_neg (by omega), if_neg hzero, Effect.except_mapM_eq_ok, List.forall₂_map_right_iff,
      List.forall₂_same]
    intro entry _
    exact applyCap_eq now entry builder.memoryCap

lemma truncateKnowledge_eq (hits : List KnowledgeHit) :
    builder.truncateKnowledge hits = builder.cutKnowledge hits := by
  have hnonneg := builder.knowledgeCap_nonneg
  unfold truncateKnowledge cutKnowledge
  by_cases hzero : builder.knowledgeCap = 0
  · rw [if_pos (by omega), if_pos hzero]
  · rw [if_neg (by omega), if_neg hzero]
    simp only [applyCapKnowledge_eq]

variable {builder now} {sessionId userInput : String} {maxMemory maxKnowledge : ℤ}

/-- **What a prompt is built from**: the two fetches, cut apart from each other. -/
lemma build_eq_ok_iff {envelope : PromptEnvelope} :
    builder.build now sessionId userInput maxMemory maxKnowledge = .ok envelope ↔
      ∃ entries hits, builder.fetchMemory sessionId maxMemory = .ok entries ∧
        builder.fetchKnowledge userInput maxKnowledge = .ok hits ∧
        PromptEnvelope.new sessionId [userInput] (builder.cutMemory entries)
          (builder.cutKnowledge hits) = .ok envelope := by
  unfold build
  simp only [Effect.except_bind_eq_ok, truncateMemory_eq, truncateKnowledge_eq, Except.ok.injEq,
    exists_eq_left', exists_and_left]

/-- A fetch from the memory keeps the first entries of the answer. -/
lemma fetchMemory_eq_ok_iff (hsession : sessionId ≠ "") (hlimit : 1 ≤ maxMemory)
    {entries : List MemoryEntry} :
    builder.fetchMemory sessionId maxMemory = .ok entries ↔
      ∃ raw, builder.memory.read sessionId ⟨sessionId, "", maxMemory, hsession, hlimit⟩ = .ok raw ∧
        raw.take maxMemory.toNat = entries := by
  unfold fetchMemory
  rw [MemoryQuery.new_eq_ok hsession hlimit, Effect.except_bind_eq_ok]
  simp only [Except.ok.injEq, exists_eq_left', Effect.except_bind_eq_ok,
    sliceTo_of_nonneg (by omega : 0 ≤ maxMemory), pure, Except.pure]

end ContextBuilder

end Waywarden

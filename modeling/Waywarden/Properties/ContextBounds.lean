import Waywarden.Services.ContextBuilder

/-!
# The bounds of a prompt's context

The memory block is cut to `max_memory` whatever its provider returns.  The knowledge block is not:
`_fetch_knowledge` passes the limit on and keeps the whole answer.  `respectsBounds_iff` says for
which calls the context is bounded all the same.
-/

namespace Waywarden.ContextBuilder

/-- Both providers answer the call with a list. -/
structure Answered (builder : ContextBuilder) (sessionId userInput : String)
    (maxMemory maxKnowledge : ℤ) (entries : List MemoryEntry) (hits : List KnowledgeHit) :
    Prop where
  memory : ∀ query, MemoryQuery.new sessionId "" maxMemory = .ok query →
    builder.memory.read sessionId query = .ok entries
  knowledge : builder.knowledge.search userInput maxKnowledge = .ok hits

/-- What a prompt holds of the providers' answers: no more than asked for, in each block a prefix
of the answer with nothing but the text cut, and nothing of it due to the other provider. -/
structure Bounded (builder : ContextBuilder) (now : Timestamp) (sessionId userInput : String)
    (maxMemory maxKnowledge : ℤ) (entries : List MemoryEntry) (hits : List KnowledgeHit)
    (envelope : PromptEnvelope) : Prop where
  memory_length : (envelope.memoryBlock.length : ℤ) ≤ maxMemory
  knowledge_length : (envelope.knowledgeBlock.length : ℤ) ≤ maxKnowledge
  memory_empty : builder.memoryCap = 0 → envelope.memoryBlock = []
  knowledge_empty : builder.knowledgeCap = 0 → envelope.knowledgeBlock = []
  memory_cut : builder.memoryCap ≠ 0 → ∃ kept, kept <+: entries ∧
    envelope.memoryBlock = kept.map fun entry => { entry with
      content := String.ofList (entry.content.toList.take builder.memoryCap.toNat) }
  knowledge_cut : builder.knowledgeCap ≠ 0 → ∃ kept, kept <+: hits ∧
    envelope.knowledgeBlock = kept.map fun hit => { hit with
      snippet := String.ofList (hit.snippet.toList.take builder.knowledgeCap.toNat) }
  memory_alone : ∀ knowledge other, { builder with knowledge }.build now sessionId userInput
    maxMemory maxKnowledge = .ok other → other.memoryBlock = envelope.memoryBlock
  knowledge_alone : ∀ memory other, { builder with memory }.build now sessionId userInput
    maxMemory maxKnowledge = .ok other → other.knowledgeBlock = envelope.knowledgeBlock

variable {builder : ContextBuilder} {now : Timestamp} {sessionId userInput : String}
  {maxMemory maxKnowledge : ℤ} {entries : List MemoryEntry} {hits : List KnowledgeHit}
  {envelope : PromptEnvelope}

lemma textTo_of_nonneg {text : String} {n : ℤ} (h : 0 ≤ n) :
    textTo text n = String.ofList (text.toList.take n.toNat) := by
  unfold textTo
  rw [sliceTo_of_nonneg h]

/-! ## The cuts -/

lemma cutMemory_of_zero (h : builder.memoryCap = 0) : builder.cutMemory entries = [] := by
  unfold cutMemory
  rw [if_pos h]

lemma cutMemory_of_ne_zero (h : builder.memoryCap ≠ 0) :
    builder.cutMemory entries = entries.map fun entry => { entry with
      content := String.ofList (entry.content.toList.take builder.memoryCap.toNat) } := by
  unfold cutMemory
  simp only [if_neg h, textTo_of_nonneg builder.memoryCap_nonneg]

lemma length_cutMemory_le : (builder.cutMemory entries).length ≤ entries.length := by
  unfold cutMemory
  split
  · apply Nat.zero_le
  · rw [List.length_map]

lemma cutKnowledge_of_zero (h : builder.knowledgeCap = 0) : builder.cutKnowledge hits = [] := by
  unfold cutKnowledge
  rw [if_pos h]

lemma cutKnowledge_of_ne_zero (h : builder.knowledgeCap ≠ 0) :
    builder.cutKnowledge hits = hits.map fun hit => { hit with
      snippet := String.ofList (hit.snippet.toList.take builder.knowledgeCap.toNat) } := by
  unfold cutKnowledge
  simp only [if_neg h, textTo_of_nonneg builder.knowledgeCap_nonneg]

/-! ## What a call builds -/

/-- The memory block is made of the memory's answer alone. -/
lemma memoryBlock_of_build
    (hbuild : builder.build now sessionId userInput maxMemory maxKnowledge = .ok envelope)
    (hmemory : ∀ query, MemoryQuery.new sessionId "" maxMemory = .ok query →
      builder.memory.read sessionId query = .ok entries) (hlimit : 1 ≤ maxMemory) :
    envelope.memoryBlock = builder.cutMemory (entries.take maxMemory.toNat) := by
  obtain ⟨_, hits, hread, -, hnew⟩ := build_eq_ok_iff.mp hbuild
  obtain ⟨hsession, hblock, -⟩ := PromptEnvelope.blocks_of_new hnew
  obtain ⟨raw, hraw, rfl⟩ := (fetchMemory_eq_ok_iff hsession hlimit).mp hread
  obtain rfl := Except.ok.inj ((hmemory _ (MemoryQuery.new_eq_ok hsession hlimit)).symm.trans hraw)
  exact hblock

/-- The knowledge block is made of the whole answer of the knowledge. -/
lemma knowledgeBlock_of_build
    (hbuild : builder.build now sessionId userInput maxMemory maxKnowledge = .ok envelope)
    (hknowledge : builder.knowledge.search userInput maxKnowledge = .ok hits) :
    sessionId ≠ "" ∧ envelope.knowledgeBlock = builder.cutKnowledge hits := by
  obtain ⟨entries, _, -, hsearch, hnew⟩ := build_eq_ok_iff.mp hbuild
  obtain ⟨hsession, -, hblock⟩ := PromptEnvelope.blocks_of_new hnew
  obtain rfl := Except.ok.inj (hknowledge.symm.trans hsearch)
  exact ⟨hsession, hblock⟩

variable (now) in
/-- An answered call of a session with a name builds a prompt. -/
lemma exists_build (h : builder.Answered sessionId userInput maxMemory maxKnowledge entries hits)
    (hsession : sessionId ≠ "") (hlimit : 1 ≤ maxMemory) :
    ∃ envelope, builder.build now sessionId userInput maxMemory maxKnowledge = .ok envelope := by
  obtain ⟨envelope, hnew⟩ := PromptEnvelope.exists_new hsession userInput
    (builder.cutMemory (entries.take maxMemory.toNat)) (builder.cutKnowledge hits)
  have hread := h.memory _ (MemoryQuery.new_eq_ok hsession hlimit)
  have hfetch := (fetchMemory_eq_ok_iff hsession hlimit).mpr ⟨entries, hread, rfl⟩
  exact ⟨envelope, build_eq_ok_iff.mpr ⟨_, hits, hfetch, h.knowledge, hnew⟩⟩

/-- The law of a prompt whose hits are few enough, or left out. -/
lemma bounded_of_build
    (h : builder.Answered sessionId userInput maxMemory maxKnowledge entries hits)
    (hlimit : 1 ≤ maxMemory) (hknowledge : 0 ≤ maxKnowledge)
    (hkept : builder.knowledgeCap = 0 ∨ (hits.length : ℤ) ≤ maxKnowledge)
    (hbuild : builder.build now sessionId userInput maxMemory maxKnowledge = .ok envelope) :
    builder.Bounded now sessionId userInput maxMemory maxKnowledge entries hits envelope := by
  have hmemory := memoryBlock_of_build hbuild h.memory hlimit
  have hblock := (knowledgeBlock_of_build hbuild h.knowledge).2
  constructor
  · have hcut : (builder.cutMemory (entries.take maxMemory.toNat)).length ≤ maxMemory.toNat :=
      length_cutMemory_le.trans (List.length_take_le _ _)
    rw [hmemory]
    omega
  · rw [hblock]
    by_cases hcap : builder.knowledgeCap = 0
    · rw [cutKnowledge_of_zero hcap]
      exact hknowledge
    · rw [cutKnowledge_of_ne_zero hcap, List.length_map]
      exact hkept.resolve_left hcap
  · intro hcap
    rw [hmemory, cutMemory_of_zero hcap]
  · intro hcap
    rw [hblock, cutKnowledge_of_zero hcap]
  · intro hcap
    rw [hmemory, cutMemory_of_ne_zero hcap]
    exact ⟨_, List.take_prefix _ _, rfl⟩
  · intro hcap
    rw [hblock, cutKnowledge_of_ne_zero hcap]
    exact ⟨hits, List.prefix_rfl, rfl⟩
  · intro knowledge other hother
    have hsame := memoryBlock_of_build hother h.memory hlimit
    exact hsame.trans hmemory.symm
  · intro memory other hother
    have hsame := (knowledgeBlock_of_build hother h.knowledge).2
    exact hsame.trans hblock.symm

/-- **When the context is bounded**: the session has a name, and the knowledge provider keeps to
the limit it is given or its hits are left out. -/
theorem build_bounded_iff
    (h : builder.Answered sessionId userInput maxMemory maxKnowledge entries hits)
    (hlimit : 1 ≤ maxMemory) (hknowledge : 0 ≤ maxKnowledge) :
    (∃ envelope, builder.build now sessionId userInput maxMemory maxKnowledge = .ok envelope ∧
      builder.Bounded now sessionId userInput maxMemory maxKnowledge entries hits envelope) ↔
      sessionId ≠ "" ∧ (builder.knowledgeCap = 0 ∨ (hits.length : ℤ) ≤ maxKnowledge) := by
  constructor
  · intro hbounded
    obtain ⟨envelope, hbuild, hbounded⟩ := hbounded
    obtain ⟨hsession, hblock⟩ := knowledgeBlock_of_build hbuild h.knowledge
    refine ⟨hsession, ?_⟩
    by_cases hcap : builder.knowledgeCap = 0
    · exact .inl hcap
    · have hlength := hbounded.knowledge_length
      rw [hblock, cutKnowledge_of_ne_zero hcap, List.length_map] at hlength
      exact .inr hlength
  · intro hcond
    obtain ⟨hsession, hkept⟩ := hcond
    obtain ⟨envelope, hbuild⟩ := exists_build now h hsession hlimit
    exact ⟨envelope, hbuild, bounded_of_build h hlimit hknowledge hkept hbuild⟩

/-- A builder with caps of four characters, whose providers answer everything alike. -/
def answering (entries : List MemoryEntry) (hits : List KnowledgeHit) : ContextBuilder where
  memory := ⟨fun _ _ => .ok entries⟩
  knowledge := ⟨fun _ _ => .ok hits⟩
  memoryCap := 4
  knowledgeCap := 4
  memoryCap_nonneg := by decide
  knowledgeCap_nonneg := by decide

lemma sampleSession_ne : "session-1" ≠ "" := by decide

/-- An entry of a session, at a time. -/
def noteAt (content : String) (createdAt : Timestamp) : MemoryEntry :=
  ⟨"session-1", content, ⟨[], List.nodup_nil⟩, createdAt, sampleSession_ne⟩

/-- What the memory of the sample session has. -/
def notes : List MemoryEntry := [noteAt "tea at four" 3, noteAt "milk" 2, noteAt "sugar" 1]

/-- A hit of a search. -/
def wikiHit : KnowledgeHit := ⟨"wiki/auth", "Auth", "How sessions are signed", 1.0⟩

lemma answered_answering (entries : List MemoryEntry) (hits : List KnowledgeHit)
    (maxMemory maxKnowledge : ℤ) :
    (answering entries hits).Answered "session-1" "sessions" maxMemory maxKnowledge entries
      hits where
  memory _ _ := rfl
  knowledge := rfl

/-- Two notes of three and two hits of two, each cut to its first four characters. -/
theorem answering_build_bounded :
    (∃ envelope, (answering notes [wikiHit, wikiHit]).build 0 "session-1" "sessions" 2 2 =
        .ok envelope ∧
      (answering notes [wikiHit, wikiHit]).Bounded 0 "session-1" "sessions" 2 2 notes
        [wikiHit, wikiHit] envelope) ∧
      ((answering notes [wikiHit, wikiHit]).build 0 "session-1" "sessions" 2 2).map
        (fun envelope => (envelope.memoryBlock.map MemoryEntry.content,
          envelope.knowledgeBlock.map KnowledgeHit.snippet)) =
        .ok (["tea ", "milk"], ["How ", "How "]) :=
  ⟨(build_bounded_iff (answered_answering notes [wikiHit, wikiHit] 2 2) (by decide)
    (by decide)).mpr ⟨sampleSession_ne, Or.inr (by decide)⟩, by decide +kernel⟩

/-- Two hits for a limit of one: both are in the prompt. -/
theorem answering_two_not_bounded :
    (answering [] [wikiHit, wikiHit]).Answered "session-1" "sessions" 1 1 [] [wikiHit, wikiHit] ∧
      ¬ ∃ envelope,
        (answering [] [wikiHit, wikiHit]).build 0 "session-1" "sessions" 1 1 = .ok envelope ∧
        (answering [] [wikiHit, wikiHit]).Bounded 0 "session-1" "sessions" 1 1 []
          [wikiHit, wikiHit] envelope := by
  have hanswered := answered_answering [] [wikiHit, wikiHit] 1 1
  refine ⟨hanswered, ?_⟩
  intro hbounded
  obtain ⟨envelope, hbuild, hbounded⟩ := hbounded
  have hlength := hbounded.knowledge_length
  rw [(knowledgeBlock_of_build hbuild hanswered.knowledge).2,
    cutKnowledge_of_ne_zero (by decide), List.length_map] at hlength
  exact absurd hlength (by decide)

end Waywarden.ContextBuilder

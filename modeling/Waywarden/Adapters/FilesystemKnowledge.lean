import Mathlib.Data.List.Sort
import Mathlib.Data.Prod.Lex
import Mathlib.Data.String.Basic
import Waywarden.Lib.Occurrence
import Waywarden.Services.ContextBuilder

/-!
# `FilesystemKnowledgeProvider`

`waywarden.adapters.knowledge.filesystem`: markdown documents are searched by title and body,
without regard to case, and each hit carries a snippet of the body.

`str.lower` is a `CharLower`: a character may be lowered to several, and a text is lowered character
by character.  A score is one of the two numbers the source compares, made a float in the answer.
-/

namespace Waywarden

/-- `str.lower` on one character.  No character disappears, and what is a space stays one. -/
structure CharLower where
  lower : Char → List Char
  lower_ne_nil : ∀ c, lower c ≠ []
  isSpace_lower : ∀ c, ∀ d ∈ lower c, isSpace d = isSpace c

/-- `str.lower`. -/
def CharLower.text (L : CharLower) (s : String) : String := String.ofList (s.toList.flatMap L.lower)

@[simp] lemma CharLower.toList_text (L : CharLower) (s : String) :
    (L.text s).toList = s.toList.flatMap L.lower := String.toList_ofList

/-- Lower-casing commutes with stripping. -/
lemma CharLower.text_strip (L : CharLower) (s : String) : L.text (strip s) = strip (L.text s) := by
  rw [← String.toList_inj, toList_text, strip, strip, toList_text, String.toList_ofList,
    String.toList_ofList, Trim.trim_flatMap L.lower_ne_nil L.isSpace_lower]

/-- `_IndexedDoc`, without the path it was read from. -/
structure IndexedDoc where
  ref : String
  title : String
  body : String

/-- An entry of `hits`, before the list is cut. -/
structure ScoredHit where
  ref : String
  title : String
  score : ℕ
  snippet : String

/-- `KnowledgeHit(ref=h[0], title=h[1], snippet=h[3], score=h[2])`. -/
def ScoredHit.knowledgeHit (hit : ScoredHit) : KnowledgeHit where
  ref := hit.ref
  title := hit.title
  snippet := hit.snippet
  score := hit.score.toFloat

/-- The sort key `(-h[2], h[0])`. -/
def ScoredHit.key (hit : ScoredHit) : ℤ ×ₗ String := toLex (-(hit.score : ℤ), hit.ref)

variable (L : CharLower)

/-! ## Snippets -/

/-- The text around the first match: from `lead` characters before it to `trail` characters behind
the query's length, stripped; the first `short` characters if there is no match. -/
def windowAround (lead trail short : ℕ) (text query : String) : String :=
  match Occurrence.find (L.text query).toList (L.text text).toList with
  | none => String.ofList (text.toList.take short)
  | some idx =>
      let start := idx - lead
      let stop := min text.length (idx + query.length + trail)
      strip (String.ofList (Occurrence.slice start stop text.toList))

/-- `_snippet_from`. -/
def snippetFrom (text query : String) (maxLen : ℕ := 80) : String :=
  windowAround L 20 40 maxLen text query

/-- `_build_snippet`. -/
def buildSnippet (body query : String) (window : ℕ := 60) : String :=
  windowAround L 10 window window body query

/-! ## The search -/

/-- `query_lower in doc.title.lower()`. -/
def IndexedDoc.titleMatch (query : String) (doc : IndexedDoc) : Bool :=
  decide ((L.text query).toList <:+: (L.text doc.title).toList)

/-- `query_lower in doc.body.lower()`. -/
def IndexedDoc.bodyMatch (query : String) (doc : IndexedDoc) : Bool :=
  decide ((L.text query).toList <:+: (L.text doc.body).toList)

/-- The documents the loop does not skip. -/
def IndexedDoc.isHit (query : String) (doc : IndexedDoc) : Bool :=
  doc.titleMatch L query || doc.bodyMatch L query

/-- `score`. -/
def IndexedDoc.score (query : String) (doc : IndexedDoc) : ℕ :=
  if doc.titleMatch L query then 2 else 1

/-- `snippet`; the last branch is for neither match, which the loop has skipped. -/
def IndexedDoc.snippet (query : String) (doc : IndexedDoc) : String :=
  if doc.bodyMatch L query && !doc.titleMatch L query then buildSnippet L doc.body query 60
  else if doc.titleMatch L query then doc.title ++ ": " ++ snippetFrom L doc.body query 40
  else snippetFrom L doc.body query 80

/-- What the loop appends for a document. -/
def IndexedDoc.scoredHit (query : String) (doc : IndexedDoc) : ScoredHit where
  ref := doc.ref
  title := doc.title
  score := doc.score L query
  snippet := doc.snippet L query

@[simp] lemma IndexedDoc.snippet_knowledgeHit (query : String) (doc : IndexedDoc) :
    (doc.scoredHit L query).knowledgeHit.snippet = doc.snippet L query := by
  unfold ScoredHit.knowledgeHit IndexedDoc.scoredHit
  rfl

/-- A provider with its index.  A document's `ref` is its path below the root. -/
structure FilesystemKnowledgeProvider where
  docs : List IndexedDoc
  refs_nodup : (docs.map IndexedDoc.ref).Nodup

/-- `search`. -/
def FilesystemKnowledgeProvider.search (provider : FilesystemKnowledgeProvider) (query : String)
    (limit : ℤ := 10) : List KnowledgeHit :=
  let hits := (provider.docs.filter (·.isHit L query)).map (·.scoredHit L query)
  let sorted := hits.insertionSort fun a b => a.key ≤ b.key
  (sliceTo sorted limit).map ScoredHit.knowledgeHit

end Waywarden

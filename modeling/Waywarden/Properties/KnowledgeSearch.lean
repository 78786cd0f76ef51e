import Waywarden.Adapters.FilesystemKnowledge
import Waywarden.Lib.Ranking

/-!
# Knowledge search: the right hits, and what their snippets show

A search returns the first documents that match, title matches before the others and each group by
`ref`, and every snippet should show a match.  A snippet is cut from the body at the position the
match has in the *lower-cased* body, and lower-casing can lengthen a text, so the window may end up
behind the match it was made for.

`searchLaw_iff` says which searches keep the promise: those where every document shown for its body
has an occurrence in its window.  `searchLaw_of_growth` gives a bound under which this is so.
-/

namespace Waywarden.KnowledgeSearch

/-! ## The law -/

/-- The order of the answer: title matches first, then by `ref`. -/
def Before (L : CharLower) (query : String) (d e : IndexedDoc) : Prop :=
  (d.titleMatch L query = true ∧ e.titleMatch L query = false) ∨
    (d.titleMatch L query = e.titleMatch L query ∧ d.ref < e.ref)

instance (L : CharLower) (query : String) : DecidableRel (Before L query) := fun d e =>
  inferInstanceAs (Decidable
    ((d.titleMatch L query = true ∧ e.titleMatch L query = false) ∨
      (d.titleMatch L query = e.titleMatch L query ∧ d.ref < e.ref)))

/-- What a search promises. -/
structure SearchLaw (L : CharLower) (provider : FilesystemKnowledgeProvider) (query : String)
    (limit : ℤ) : Prop where
  ranked : ∃ ordered : List IndexedDoc,
    ordered.Perm (provider.docs.filter (·.isHit L query)) ∧ ordered.Pairwise (Before L query) ∧
      (provider.search L query limit).map (fun hit => (hit.ref, hit.title)) =
        (ordered.take limit.toNat).map fun doc => (doc.ref, doc.title)
  shown : ∀ hit ∈ provider.search L query limit,
    (L.text query).toList <:+: (L.text hit.snippet).toList

/-- A stretch of the text whose lower-case form holds the query, and which the window around
position `p` covers; `p` is where the lower-cased query occurs first in the lower-cased text. -/
structure Covered (L : CharLower) (lead trail : ℕ) (text query : String) (p : ℕ)
    (before hit after : List Char) : Prop where
  first : Occurrence.FirstMatch (L.text query).toList (L.text text).toList p
  split : text.toList = before ++ hit ++ after
  holds : (L.text query).toList <:+: hit.flatMap L.lower
  lead_le : p ≤ before.length + lead
  trail_le : before.length + hit.length ≤ p + query.length + trail

/-- The window around the first match covers an occurrence. -/
def InWindow (L : CharLower) (lead trail : ℕ) (text query : String) : Prop :=
  ∃ p before hit after, Covered L lead trail text query p before hit after

/-- Every document shown for its body alone has an occurrence in its window.  The documents shown
are those with fewer than `limit` hits before them. -/
def WindowsHold (L : CharLower) (provider : FilesystemKnowledgeProvider) (query : String)
    (limit : ℤ) : Prop :=
  ∀ doc ∈ provider.docs, doc.bodyMatch L query = true → doc.titleMatch L query = false →
    Ranking.rank (Before L query) (provider.docs.filter (·.isHit L query)) doc < limit.toNat →
      InWindow L 10 60 doc.body query

variable {L : CharLower} {query : String}

/-! ## Windows -/

/-- A query without space at its ends stays one when it is lowered. -/
lemma trim_text (hquery : strip query = query) :
    Trim.trim isSpace (L.text query).toList = (L.text query).toList := by
  have hstrip : strip (L.text query) = L.text query := by
    rw [← L.text_strip, hquery]
  rwa [← String.toList_inj, strip, String.toList_ofList] at hstrip

/-- What the window shows. -/
lemma shown_windowAround_iff {lead trail short idx : ℕ} {text : String}
    (hquery : strip query = query)
    (hfirst : Occurrence.FirstMatch (L.text query).toList (L.text text).toList idx) :
    (L.text query).toList <:+: (L.text (windowAround L lead trail short text query)).toList ↔
      (L.text query).toList <:+: (Occurrence.slice (idx - lead)
        (min text.length (idx + query.length + trail)) text.toList).flatMap L.lower := by
  unfold windowAround
  rw [Occurrence.find_eq_some_iff.mpr hfirst]
  show (L.text query).toList <:+: (L.text (strip _)).toList ↔ _
  rw [L.text_strip, strip, String.toList_ofList, Trim.infix_trim_iff isSpace (trim_text hquery),
    L.toList_text (String.ofList _), String.toList_ofList]

/-- **What a window shows.**  The snippet shows the query exactly when the window covers an
occurrence. -/
theorem shown_iff_inWindow {lead trail short : ℕ} {text : String} (hquery : strip query = query)
    (hmatch : (L.text query).toList <:+: (L.text text).toList) :
    (L.text query).toList <:+: (L.text (windowAround L lead trail short text query)).toList ↔
      InWindow L lead trail text query := by
  obtain ⟨idx, hfirst⟩ := Occurrence.exists_firstMatch hmatch
  rw [shown_windowAround_iff hquery hfirst]
  constructor
  · intro hshown
    -- The slice is such a stretch itself; an empty one shows the empty query, found at the start.
    have hstart : idx - lead ≤ text.toList.length := by
      by_cases hnil : Occurrence.slice (idx - lead)
          (min text.length (idx + query.length + trail)) text.toList = []
      · rw [hnil, List.flatMap_nil, List.infix_nil] at hshown
        rw [hshown] at hfirst
        have hzero := hfirst.eq_zero
        omega
      · exact Occurrence.start_le_length hnil
    have hle : idx - lead ≤ min text.length (idx + query.length + trail) := by
      rw [String.length_toList] at hstart
      omega
    obtain ⟨before, after, hsplit, hlead, htrail⟩ := Occurrence.exists_split_slice hstart hle
    refine ⟨idx, before, _, after, hfirst, hsplit, hshown, ?_, ?_⟩
    · omega
    · omega
  · rintro ⟨p, before, hit, after, hcovered⟩
    obtain rfl := hfirst.unique hcovered.first
    have hlead := hcovered.lead_le
    have htrail := hcovered.trail_le
    have hlength := congrArg List.length hcovered.split
    rw [String.length_toList, List.length_append, List.length_append] at hlength
    have hslice : hit <:+: Occurrence.slice (idx - lead)
        (min text.length (idx + query.length + trail)) text.toList := by
      rw [hcovered.split]
      apply Occurrence.infix_slice
      · omega
      · omega
    exact hcovered.holds.trans (hslice.flatMap L.lower)

/-- Lower-casing that lengthens the text by no more than the lead, and the query by no more than
the trail, leaves an occurrence in the window. -/
theorem inWindow_of_growth {lead trail : ℕ} {text : String}
    (hmatch : (L.text query).toList <:+: (L.text text).toList)
    (htext : (L.text text).length ≤ text.length + lead)
    (hquery : (L.text query).length ≤ query.length + trail) : InWindow L lead trail text query := by
  obtain ⟨idx, hfirst⟩ := Occurrence.exists_firstMatch hmatch
  rcases eq_or_ne (L.text query).toList [] with hnil | hne
  · rw [hnil] at hfirst
    obtain rfl := hfirst.eq_zero
    refine ⟨0, [], [], text.toList, ?_, rfl, ?_, Nat.zero_le _, Nat.zero_le _⟩
    · rw [hnil]
      exact hfirst
    · rw [hnil]
      exact List.nil_infix
  · obtain ⟨rest, hrest⟩ := hfirst.here
    have htake : (L.text text).toList =
        (L.text text).toList.take idx ++ (L.text query).toList ++ rest := by
      rw [List.append_assoc, hrest, List.take_append_drop]
    have hidx : ((L.text text).toList.take idx).length = idx := by
      rw [List.length_take]
      have hdrop := congrArg List.length hrest
      have hpos := List.length_pos_iff.mpr hne
      rw [List.length_append, List.length_drop] at hdrop
      omega
    nth_rewrite 1 [L.toList_text] at htake
    obtain ⟨before, hit, after, hsplit, hholds, hbefore, hhit, hgrowth⟩ :=
      Occurrence.exists_split_of_flatMap L.lower_ne_nil hne htake
    rw [hidx] at hbefore hgrowth
    rw [← L.toList_text, String.length_toList, String.length_toList] at hgrowth
    rw [String.length_toList] at hhit
    refine ⟨idx, before, hit, after, hfirst, hsplit, hholds, ?_, ?_⟩
    · omega
    · omega

/-! ## The answer -/

lemma score_cases (L : CharLower) (query : String) (doc : IndexedDoc) :
    doc.titleMatch L query = true ∧ doc.score L query = 2 ∨
      doc.titleMatch L query = false ∧ doc.score L query = 1 := by
  unfold IndexedDoc.score
  split
  · rename_i h
    exact Or.inl ⟨h, rfl⟩
  · rename_i h
    exact Or.inr ⟨Bool.eq_false_iff.mpr h, rfl⟩

/-- The order of the hits compares titles first, then refs. -/
lemma before_of_key_le {d e : IndexedDoc} (hne : d.ref ≠ e.ref)
    (hle : (d.scoredHit L query).key ≤ (e.scoredHit L query).key) : Before L query d e := by
  unfold ScoredHit.key IndexedDoc.scoredHit at hle
  rw [Prod.Lex.toLex_le_toLex] at hle
  dsimp only at hle
  have href : d.score L query = e.score L query → d.ref < e.ref := by
    intro hscore
    rcases hle with hlt | ⟨-, href⟩
    · omega
    · exact lt_of_le_of_ne href hne
  unfold Before
  rcases score_cases L query d with ⟨hd, hdscore⟩ | ⟨hd, hdscore⟩
  · rcases score_cases L query e with ⟨he, hescore⟩ | ⟨he, hescore⟩
    · exact Or.inr ⟨hd.trans he.symm, href (hdscore.trans hescore.symm)⟩
    · exact Or.inl ⟨hd, he⟩
  · rcases score_cases L query e with ⟨he, hescore⟩ | ⟨he, hescore⟩
    · omega
    · exact Or.inr ⟨hd.trans he.symm, href (hdscore.trans hescore.symm)⟩

lemma before_asymm (d e : IndexedDoc) (h : Before L query d e) : ¬ Before L query e d := by
  rintro (⟨htitle, hnot⟩ | ⟨htitle, href⟩)
  · rcases h with ⟨hd, -⟩ | ⟨hsame, -⟩
    · rw [hnot] at hd
      cases hd
    · rw [hnot, htitle] at hsame
      cases hsame
  · rcases h with ⟨hd, he⟩ | ⟨-, hlt⟩
    · rw [hd, he] at htitle
      cases htitle
    · exact lt_asymm href hlt

variable {provider : FilesystemKnowledgeProvider} {limit : ℤ}

variable (L provider query) in
/-- The documents found, in the order of their hits. -/
def ordered : List IndexedDoc :=
  (provider.docs.filter (·.isHit L query)).insertionSort fun d e =>
    (d.scoredHit L query).key ≤ (e.scoredHit L query).key

lemma ordered_perm : (ordered L query provider).Perm (provider.docs.filter (·.isHit L query)) :=
  List.perm_insertionSort _ _

/-- Refs being distinct, the order is strict. -/
lemma ordered_pairwise : (ordered L query provider).Pairwise (Before L query) := by
  have hrefs : (ordered L query provider).Pairwise fun d e => d.ref ≠ e.ref := by
    have hnodup : ((ordered L query provider).map IndexedDoc.ref).Nodup := by
      rw [(ordered_perm.map IndexedDoc.ref).nodup_iff]
      exact provider.refs_nodup.sublist (List.filter_sublist.map IndexedDoc.ref)
    exact List.pairwise_map.mp hnodup
  have hkeys : (ordered L query provider).Pairwise fun d e =>
      (d.scoredHit L query).key ≤ (e.scoredHit L query).key := by
    have : Std.Total fun d e : IndexedDoc =>
        (d.scoredHit L query).key ≤ (e.scoredHit L query).key :=
      ⟨fun d e => le_total _ _⟩
    have : IsTrans IndexedDoc fun d e =>
        (d.scoredHit L query).key ≤ (e.scoredHit L query).key :=
      ⟨fun d e f => le_trans⟩
    exact List.pairwise_insertionSort _ _
  exact (hrefs.and hkeys).imp fun h => before_of_key_le h.1 h.2

/-- A search answers with the first of the documents found. -/
lemma search_eq (hlimit : 0 ≤ limit) :
    provider.search L query limit = ((ordered L query provider).take limit.toNat).map
      fun doc => (doc.scoredHit L query).knowledgeHit := by
  have hsorted : ((provider.docs.filter (·.isHit L query)).map (·.scoredHit L query)).insertionSort
      (fun a b => a.key ≤ b.key) = (ordered L query provider).map (·.scoredHit L query) := by
    symm
    apply List.map_insertionSort
    intro d _ e _
    exact Iff.rfl
  unfold FilesystemKnowledgeProvider.search
  simp only [hsorted, sliceTo_of_nonneg hlimit, ← List.map_take, List.map_map]
  rfl

/-- The documents shown are those with few hits before them. -/
lemma mem_shown_iff {doc : IndexedDoc} :
    doc ∈ (ordered L query provider).take limit.toNat ↔
      (doc ∈ provider.docs ∧ doc.isHit L query = true) ∧
        Ranking.rank (Before L query) (provider.docs.filter (·.isHit L query)) doc <
          limit.toNat := by
  rw [Ranking.mem_take_iff before_asymm ordered_pairwise, Ranking.rank_eq_of_perm ordered_perm,
    ordered_perm.mem_iff, List.mem_filter]

/-! ## Snippets -/

/-- A title match is shown by the title itself. -/
lemma shown_of_titleMatch {doc : IndexedDoc} (h : doc.titleMatch L query = true) :
    (L.text query).toList <:+: (L.text (doc.snippet L query)).toList := by
  have htitle : doc.title.toList <:+: (doc.snippet L query).toList := by
    unfold IndexedDoc.snippet
    rw [h, Bool.not_true, Bool.and_false, if_neg Bool.false_ne_true, if_pos rfl,
      String.toList_append, String.toList_append, List.append_assoc]
    exact (List.prefix_append _ _).isInfix
  rw [L.toList_text (doc.snippet L query)]
  apply (of_decide_eq_true h).trans
  rw [L.toList_text]
  exact htitle.flatMap L.lower

/-- Any other match is shown exactly when its window covers an occurrence. -/
lemma shown_iff_of_bodyMatch {doc : IndexedDoc} (hquery : strip query = query)
    (hbody : doc.bodyMatch L query = true) (htitle : doc.titleMatch L query = false) :
    (L.text query).toList <:+: (L.text (doc.snippet L query)).toList ↔
      InWindow L 10 60 doc.body query := by
  unfold IndexedDoc.snippet
  rw [hbody, htitle, Bool.not_false, Bool.and_true, if_pos rfl]
  exact shown_iff_inWindow hquery (of_decide_eq_true hbody)

/-- A search whose windows hold keeps the promise. -/
lemma SearchLaw.of_windowsHold (hlimit : 0 ≤ limit) (hquery : strip query = query)
    (hwindows : WindowsHold L provider query limit) : SearchLaw L provider query limit := by
  refine ⟨⟨ordered L query provider, ordered_perm, ordered_pairwise, ?_⟩, ?_⟩
  · rw [search_eq hlimit, List.map_map]
    rfl
  · rw [search_eq hlimit]
    intro hit hhit
    obtain ⟨doc, hdoc, rfl⟩ := List.mem_map.mp hhit
    obtain ⟨⟨hmem, hfound⟩, hrank⟩ := mem_shown_iff.mp hdoc
    rw [IndexedDoc.snippet_knowledgeHit]
    cases htitle : doc.titleMatch L query with
    | true => exact shown_of_titleMatch htitle
    | false =>
        have hbody : doc.bodyMatch L query = true := by
          unfold IndexedDoc.isHit at hfound
          rw [htitle, Bool.false_or] at hfound
          exact hfound
        exact (shown_iff_of_bodyMatch hquery hbody htitle).mpr
          (hwindows doc hmem hbody htitle hrank)

/-- **Which searches keep the promise**: those in which every document shown for its body has an
occurrence in its window. -/
theorem searchLaw_iff (hlimit : 0 ≤ limit) (hquery : strip query = query) :
    SearchLaw L provider query limit ↔ WindowsHold L provider query limit := by
  constructor
  · intro law doc hmem hbody htitle hrank
    have hfound : doc.isHit L query = true := by
      unfold IndexedDoc.isHit
      rw [hbody, Bool.or_true]
    have hhit : (doc.scoredHit L query).knowledgeHit ∈ provider.search L query limit := by
      rw [search_eq hlimit, List.mem_map]
      exact ⟨doc, mem_shown_iff.mpr ⟨⟨hmem, hfound⟩, hrank⟩, rfl⟩
    have hshown := law.shown _ hhit
    rw [IndexedDoc.snippet_knowledgeHit] at hshown
    exact (shown_iff_of_bodyMatch hquery hbody htitle).mp hshown
  · exact SearchLaw.of_windowsHold hlimit hquery

/-- Where lower-casing lengthens no body by more than ten characters, and the query by no more than
sixty, every search keeps the promise. -/
theorem searchLaw_of_growth (hlimit : 0 ≤ limit) (hquery : strip query = query)
    (hbodies : ∀ doc ∈ provider.docs, (L.text doc.body).length ≤ doc.body.length + 10)
    (hgrowth : (L.text query).length ≤ query.length + 60) :
    SearchLaw L provider query limit := by
  apply SearchLaw.of_windowsHold hlimit hquery
  intro doc hmem hbody _ _
  exact inWindow_of_growth (of_decide_eq_true hbody) (hbodies doc hmem) hgrowth

/-! ### A note the window holds, and one it slides off -/

/-- The capital I with a dot above. -/
def dottedCapital : Char := '\u0130'

/-- `str.lower` on the ASCII letters and on the dotted capital, the one letter it lowers to two. -/
def lowerDotted (c : Char) : List Char :=
  if c = dottedCapital then ['i', '\u0307'] else [c.toLower]

lemma lowerDotted_ne_nil (c : Char) : lowerDotted c ≠ [] := by
  unfold lowerDotted
  split
  · exact List.cons_ne_nil _ _
  · exact List.cons_ne_nil _ _

lemma isSpace_lowerDotted (c d : Char) (hd : d ∈ lowerDotted c) : isSpace d = isSpace c := by
  unfold lowerDotted at hd
  split at hd
  · rename_i hc
    subst hc
    rcases List.mem_cons.mp hd with rfl | hdot
    · decide
    · rw [List.mem_singleton.mp hdot]
      decide
  · rw [List.mem_singleton.mp hd, isSpace_toLower]

def dotted : CharLower where
  lower := lowerDotted
  lower_ne_nil := lowerDotted_ne_nil
  isSpace_lower := isSpace_lowerDotted

/-- A note with so many dotted capitals before the word that is looked for, and a note with this
word in its title. -/
def needleNotes (capitals : ℕ) : FilesystemKnowledgeProvider where
  docs := [⟨"a.md", "Notes", String.ofList (List.replicate capitals dottedCapital) ++ "Needle"⟩,
    ⟨"b.md", "Needle work", "Thread and cloth."⟩]
  refs_nodup := by
    show ["a.md", "b.md"].Nodup
    decide

theorem needleNotes_keep : SearchLaw dotted (needleNotes 10) "needle" 2 ∧
    ((needleNotes 10).search dotted "needle" 2).map KnowledgeHit.ref = ["b.md", "a.md"] := by
  refine ⟨(searchLaw_iff (by decide) (by decide +kernel)).mpr ?_, by decide +kernel⟩
  intro doc hmem hbody _ _
  refine inWindow_of_growth (of_decide_eq_true hbody) ?_ (by decide +kernel)
  have hbodies : ∀ body ∈ (needleNotes 10).docs.map IndexedDoc.body,
      (dotted.text body).length ≤ body.length + 10 := by
    decide +kernel
  exact hbodies doc.body (List.mem_map_of_mem hmem)

/-- One capital more, and the snippet has lost the first letter of its match. -/
theorem needleNotes_break :
    ((needleNotes 11).search dotted "needle" 2).map KnowledgeHit.snippet =
      ["Needle work: Thread and cloth.", "eedle"] ∧
      ¬ SearchLaw dotted (needleNotes 11) "needle" 2 := by
  have hsnippets : ((needleNotes 11).search dotted "needle" 2).map KnowledgeHit.snippet =
      ["Needle work: Thread and cloth.", "eedle"] := by
    decide +kernel
  refine ⟨hsnippets, ?_⟩
  intro law
  have hlast : "eedle" ∈ ((needleNotes 11).search dotted "needle" 2).map KnowledgeHit.snippet := by
    rw [hsnippets]
    exact List.mem_cons_of_mem _ List.mem_cons_self
  obtain ⟨hit, hhit, hsnippet⟩ := List.mem_map.mp hlast
  have hshown := law.shown hit hhit
  rw [hsnippet] at hshown
  revert hshown
  decide +kernel

end Waywarden.KnowledgeSearch

import Mathlib.Tactic.Common
import Mathlib.Data.List.Basic
import Mathlib.Data.List.Range
import Mathlib.Data.List.Sort

/-!
# Sequence-numbered logs

A log numbers its entries `1, 2, …, n` in the order they were appended: `Contiguous seq l`.
The library collects what follows from the numbering alone.

* The next number is one more than the largest in use, whichever way the largest is computed
  (`Contiguous.maxSeq_eq`, `Contiguous.concat`).
* The entries after number `k` are the log without its first `k` entries
  (`Contiguous.filter_lt_eq_drop`), already in order.
* Reading page by page, each page starting after the last number of the one before it and
  holding at most `limit ≥ 1` entries, reads the whole log once, in order
  (`Contiguous.pages_flatten`).
* Two logs whose entries are related one by one, under the same numbers, have the same largest
  number, and their entries after a number, put in order, are related one by one (`Related`).
-/

namespace SeqLog

variable {α : Type} (seq : α → ℕ)

/-- The entries are numbered `1, …, n` in list order. -/
def Contiguous (l : List α) : Prop := l.map seq = List.range' 1 l.length

/-- The largest number in use, `0` for an empty log. -/
def maxSeq (l : List α) : ℕ := l.foldr (fun a m => max (seq a) m) 0

/-- Read page after page, each fetched after the number of the last entry of the page before
it, until a page comes back empty.  `none` means the fuel ran out first. -/
def pages (fetch : ℕ → List α) : ℕ → ℕ → Option (List (List α))
  | 0, _ => none
  | fuel + 1, k =>
      match (fetch k).getLast? with
      | none => some []
      | some a => (pages fetch fuel (seq a)).map (fetch k :: ·)

variable {seq}

lemma contiguous_nil : Contiguous seq ([] : List α) := rfl

lemma maxSeq_append (l : List α) (a : α) : maxSeq seq (l ++ [a]) = max (maxSeq seq l) (seq a) := by
  induction l with
  | nil => simp [maxSeq]
  | cons b l ih =>
      simp only [maxSeq, List.cons_append, List.foldr_cons] at ih ⊢
      rw [ih, max_assoc]

/-- No entry is numbered above the largest number. -/
lemma le_maxSeq {l : List α} {a : α} (h : a ∈ l) : seq a ≤ maxSeq seq l := by
  induction l with
  | nil => exact absurd h List.not_mem_nil
  | cons b l ih =>
      rcases List.mem_cons.mp h with rfl | hl
      · exact le_max_left _ _
      · exact le_trans (ih hl) (le_max_right _ _)

lemma maxSeq_lt {l : List α} {n : ℕ} (hn : 0 < n) (h : ∀ a ∈ l, seq a < n) :
    maxSeq seq l < n := by
  induction l with
  | nil => exact hn
  | cons a l ih =>
      obtain ⟨ha, hl⟩ := List.forall_mem_cons.mp h
      exact max_lt ha (ih hl)

/-- The largest number among entries numbered from `k + 1` on, or `k` when there are none. -/
lemma max_maxSeq {l : List α} {k : ℕ} (h : l.map seq = List.range' (k + 1) l.length) :
    max k (maxSeq seq l) = k + l.length := by
  induction l using List.reverseRecOn with
  | nil => simp [maxSeq]
  | append_singleton l a ih =>
      rw [List.map_append, List.length_append, List.map_singleton, List.length_singleton,
        List.range'_concat] at h
      obtain ⟨hl, ha⟩ := List.append_inj h (by simp)
      have hseq : seq a = k + 1 + l.length := by simpa using ha
      rw [maxSeq_append, ← max_assoc, ih hl, hseq, List.length_append, List.length_singleton]
      omega

namespace Contiguous

variable {l : List α}

lemma concat (h : Contiguous seq l) {a : α} (ha : seq a = l.length + 1) :
    Contiguous seq (l ++ [a]) := by
  rw [Contiguous, List.map_append, h, List.length_append, List.map_singleton, ha,
    List.length_singleton, List.range'_concat]
  simp [Nat.add_comm]

lemma of_concat {a : α} (h : Contiguous seq (l ++ [a])) :
    Contiguous seq l ∧ seq a = l.length + 1 := by
  rw [Contiguous, List.map_append, List.length_append, List.map_singleton,
    List.length_singleton, List.range'_concat] at h
  obtain ⟨hl, ha⟩ := List.append_inj h (by simp)
  refine ⟨hl, ?_⟩
  simpa [Nat.add_comm] using ha

/-- The entry at index `i` is numbered `i + 1`. -/
lemma seq_getElem (h : Contiguous seq l) {i : ℕ} (hi : i < l.length) : seq l[i] = i + 1 := by
  have := congrArg (·[i]?) h
  simpa [hi, Nat.add_comm] using this

/-- Entries are pairwise ordered by number. -/
lemma pairwise_lt (h : Contiguous seq l) : l.Pairwise (fun a b => seq a < seq b) := by
  have hp : (l.map seq).Pairwise (· < ·) := by
    rw [h]
    exact List.pairwise_lt_range'
  exact List.pairwise_map.mp hp

lemma maxSeq_eq (h : Contiguous seq l) : maxSeq seq l = l.length := by
  induction l using List.reverseRecOn with
  | nil => rfl
  | append_singleton l a ih =>
      obtain ⟨hl, ha⟩ := h.of_concat
      rw [maxSeq_append, ih hl, ha, List.length_append, List.length_singleton]
      omega

/-- **The tail after number `k`.**  The entries numbered above `k` are all but the first `k`. -/
lemma filter_lt_eq_drop (h : Contiguous seq l) (k : ℕ) :
    l.filter (fun a => k < seq a) = l.drop k := by
  induction l using List.reverseRecOn with
  | nil => simp
  | append_singleton l a ih =>
      obtain ⟨hl, ha⟩ := h.of_concat
      rw [List.filter_append, ih hl]
      rcases Nat.lt_or_ge l.length k with hk | hk
      · have hfilter : [a].filter (fun a => k < seq a) = [] := by
          simp only [List.filter_eq_nil_iff, List.mem_singleton, forall_eq, decide_eq_true_eq]
          omega
        rw [hfilter, List.append_nil, List.drop_eq_nil_of_le (by omega),
          List.drop_eq_nil_of_le (by simp; omega)]
      · have hfilter : [a].filter (fun a => k < seq a) = [a] := by
          rw [List.filter_eq_self]
          simp only [List.mem_singleton, forall_eq, decide_eq_true_eq]
          omega
        rw [hfilter, List.drop_append_of_le_length hk]

/-- The entries after number `k` are numbered from `k + 1` on. -/
lemma map_drop (h : Contiguous seq l) (k : ℕ) :
    (l.drop k).map seq = List.range' (k + 1) (l.drop k).length := by
  rw [List.map_drop, h, List.drop_range', List.length_drop]
  simp [Nat.add_comm]

/-- The last entry of a nonempty page read after `k` is numbered where the page ends. -/
lemma seq_getLast_page (h : Contiguous seq l) {k limit : ℕ} {a : α}
    (ha : ((l.drop k).take limit).getLast? = some a) :
    seq a = k + ((l.drop k).take limit).length := by
  have hne : (l.drop k).take limit ≠ [] := by
    intro hnil
    rw [hnil] at ha
    exact absurd ha (by simp)
  have hpos : 0 < ((l.drop k).take limit).length := List.length_pos_iff.mpr hne
  rw [List.length_take, List.length_drop] at hpos ⊢
  rw [List.getLast?_eq_getElem?, List.length_take, List.length_drop,
    List.getElem?_take_of_lt (by omega), List.getElem?_drop,
    List.getElem?_eq_getElem (by omega), Option.some.injEq] at ha
  rw [← ha, h.seq_getElem]
  omega

/-- **Lossless paging.**  Fetching pages of at most `limit ≥ 1` entries from number `k` on ends
with an empty page after finitely many fetches, and the pages laid end to end are the entries
after `k`. -/
theorem pages_flatten (h : Contiguous seq l) {fetch : ℕ → List α} {limit : ℕ}
    (hfetch : ∀ k, fetch k = (l.drop k).take limit) (hlimit : 1 ≤ limit) {fuel k : ℕ}
    (hfuel : l.length - k < fuel) :
    ∃ ps, pages seq fetch fuel k = some ps ∧ ps.flatten = l.drop k := by
  induction fuel generalizing k with
  | zero => omega
  | succ fuel ih =>
      rw [pages]
      rcases hlast : (fetch k).getLast? with _ | a
      · have hnil : (l.drop k).take limit = [] := by
          rw [← hfetch k]
          exact List.getLast?_eq_none_iff.mp hlast
        rcases List.take_eq_nil_iff.mp hnil with hzero | hdrop
        · omega
        · exact ⟨[], rfl, by rw [hdrop]; rfl⟩
      · rw [hfetch k] at hlast
        have hseq : seq a = k + ((l.drop k).take limit).length := h.seq_getLast_page hlast
        have hpos : 0 < ((l.drop k).take limit).length := by
          rcases hp : (l.drop k).take limit with _ | ⟨b, p⟩
          · rw [hp] at hlast
            exact absurd hlast (by simp)
          · simp
        have hle : ((l.drop k).take limit).length ≤ l.length - k := by
          rw [List.length_take, List.length_drop]
          omega
        obtain ⟨ps, hps, hflat⟩ := ih (k := seq a) (by omega)
        refine ⟨fetch k :: ps, congrArg (Option.map (fetch k :: ·)) hps, ?_⟩
        -- the page just read and the entries after its last number make up the tail
        calc (fetch k :: ps).flatten
            = (l.drop k).take limit ++ l.drop (k + ((l.drop k).take limit).length) := by
              rw [List.flatten_cons, hflat, hfetch k, hseq]
          _ = (l.drop k).take limit ++ (l.drop k).drop limit := by
              rw [← List.drop_drop, List.length_take]
              rcases le_total limit (l.drop k).length with hl | hl
              · rw [min_eq_left hl]
              · rw [min_eq_right hl, List.drop_eq_nil_of_le (le_refl _),
                  List.drop_eq_nil_of_le hl]
          _ = l.drop k := List.take_append_drop _ _

end Contiguous

/-! ## Two logs with the same numbers -/

section Related

variable {β : Type} {seq : α → ℕ} {seq' : β → ℕ} {R : α → β → Prop}

/-- Related entries have the same number. -/
def Related (seq : α → ℕ) (seq' : β → ℕ) (R : α → β → Prop) : Prop :=
  ∀ a b, R a b → seq a = seq' b

/-- The largest number is the same. -/
lemma Related.maxSeq_eq (hR : Related seq seq' R) {l : List α} {l' : List β}
    (h : List.Forall₂ R l l') : maxSeq seq l = maxSeq seq' l' := by
  induction h with
  | nil => rfl
  | cons hab _ ih =>
      unfold maxSeq at ih ⊢
      rw [List.foldr_cons, List.foldr_cons, hR _ _ hab, ih]

/-- An entry goes to the same place in either log. -/
lemma Related.orderedInsert (hR : Related seq seq' R) {a : α} {b : β} (hab : R a b) {l : List α}
    {l' : List β} (h : List.Forall₂ R l l') :
    List.Forall₂ R (l.orderedInsert (fun a b => seq a ≤ seq b) a)
      (l'.orderedInsert (fun a b => seq' a ≤ seq' b) b) := by
  induction h with
  | nil => exact .cons hab .nil
  | @cons c d _ _ hcd hrest ih =>
      rw [List.orderedInsert_cons, List.orderedInsert_cons, hR _ _ hab, hR _ _ hcd]
      by_cases hle : seq' b ≤ seq' d
      · rw [if_pos hle, if_pos hle]
        exact .cons hab (.cons hcd hrest)
      · rw [if_neg hle, if_neg hle]
        exact .cons hcd ih

/-- Putting the entries in order keeps them related. -/
lemma Related.insertionSort (hR : Related seq seq' R) {l : List α} {l' : List β}
    (h : List.Forall₂ R l l') :
    List.Forall₂ R (l.insertionSort fun a b => seq a ≤ seq b)
      (l'.insertionSort fun a b => seq' a ≤ seq' b) := by
  induction h with
  | nil => exact .nil
  | cons hab _ ih => exact hR.orderedInsert hab ih

end Related

end SeqLog

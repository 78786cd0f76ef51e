import Mathlib.Computability.Language
import Mathlib.Tactic.Common

/-!
# Regular expressions with a backtracking matcher

A `Regex` is a pattern of the backtracking kind: an alternative tries its left side first, and a
repetition of one class of letters takes as many as it can and gives them back one by one.
`Regex.ends` lists what is left of a text after each match at its start, in the order the matcher
finds them; its first item is the match.  `Regex.lang` is the language of the pattern, and
`mem_ends` says that the matcher finds exactly its words.

`sub` replaces every match of a pattern, from left to right and without overlap.  Its run is the
relation `Subst`, and what a replacement can bring about is settled there once: if no word of a
pattern begins in the inserted text, and a word that reaches it could as well reach the text it
stands for (`Unaided`), then the substitution creates no match of that pattern
(`Subst.occurs_of_occurs`), and it leaves none of its own (`Subst.not_occurs`).

`stuck` decides that no word of a pattern begins in a text, whatever comes after it.
-/

/-- A pattern over an alphabet. -/
inductive Regex (α : Type)
  /-- The empty text. -/
  | empty
  /-- One letter of a class. -/
  | one (p : α → Bool)
  /-- One pattern after the other. -/
  | seq (r t : Regex α)
  /-- The left pattern, else the right one. -/
  | alt (r t : Regex α)
  /-- At least `least` letters of a class, as many as there are. -/
  | many (least : ℕ) (p : α → Bool)

namespace Regex

variable {α : Type}

/-! ## The language -/

/-- The texts a pattern matches as a whole. -/
def lang : Regex α → Language α
  | empty => 1
  | one p => {w | ∃ c, w = [c] ∧ p c = true}
  | seq r t => r.lang * t.lang
  | alt r t => r.lang + t.lang
  | many least p => {w | least ≤ w.length ∧ ∀ c ∈ w, p c = true}

@[simp] lemma mem_lang_empty {w : List α} : w ∈ (empty : Regex α).lang ↔ w = [] := Iff.rfl

@[simp] lemma mem_lang_one {p : α → Bool} {w : List α} :
    w ∈ (one p).lang ↔ ∃ c, w = [c] ∧ p c = true := Iff.rfl

@[simp] lemma mem_lang_seq {r t : Regex α} {w : List α} :
    w ∈ (seq r t).lang ↔ ∃ u ∈ r.lang, ∃ v ∈ t.lang, u ++ v = w := Iff.rfl

@[simp] lemma mem_lang_alt {r t : Regex α} {w : List α} :
    w ∈ (alt r t).lang ↔ w ∈ r.lang ∨ w ∈ t.lang := Iff.rfl

@[simp] lemma mem_lang_many {least : ℕ} {p : α → Bool} {w : List α} :
    w ∈ (many least p).lang ↔ least ≤ w.length ∧ ∀ c ∈ w, p c = true := Iff.rfl

/-- The pattern matches the empty text. -/
def nullable : Regex α → Bool
  | empty => true
  | one _ => false
  | seq r t => r.nullable && t.nullable
  | alt r t => r.nullable || t.nullable
  | many least _ => least == 0

lemma nil_mem_lang_iff {r : Regex α} : [] ∈ r.lang ↔ r.nullable = true := by
  induction r with
  | empty => simp [nullable]
  | one p => simp [nullable]
  | seq r t ihr iht => simp [nullable, ihr, iht]
  | alt r t ihr iht => simp [nullable, ihr, iht]
  | many least p => simp [nullable]

/-- A run is a letter of the class and a shorter run. -/
lemma cons_mem_lang_many_iff {least : ℕ} {p : α → Bool} {c : α} {w : List α} :
    c :: w ∈ (many least p).lang ↔ p c = true ∧ w ∈ (many (least - 1) p).lang := by
  simp only [mem_lang_many, List.length_cons, List.forall_mem_cons, Nat.sub_le_iff_le_add]
  tauto

/-- A word that starts a text is empty, or it takes the first letter. -/
lemma exists_append_eq_cons_iff {l : Language α} {c : α} {s rest : List α} :
    (∃ w ∈ l, w ++ rest = c :: s) ↔
      (∃ w, c :: w ∈ l ∧ w ++ rest = s) ∨ ([] ∈ l ∧ rest = c :: s) := by
  constructor
  · intro h
    obtain ⟨w, hw, hs⟩ := h
    cases w with
    | nil => exact .inr ⟨hw, hs⟩
    | cons a w =>
        obtain ⟨rfl, rfl⟩ := List.cons_eq_cons.mp hs
        exact .inl ⟨w, hw, rfl⟩
  · intro h
    obtain ⟨w, hw, rfl⟩ | ⟨hnil, rfl⟩ := h
    · exact ⟨c :: w, hw, rfl⟩
    · exact ⟨[], hnil, rfl⟩

lemma ne_nil_of_mem_lang {r : Regex α} (h : r.nullable = false) {w : List α} (hw : w ∈ r.lang) :
    w ≠ [] := by
  rintro rfl
  rw [nil_mem_lang_iff, h] at hw
  cases hw

/-- A word of the pattern begins the text. -/
def Hits (r : Regex α) (s : List α) : Prop := ∃ w ∈ r.lang, w <+: s

/-- A word of the pattern is somewhere in the text. -/
def Occurs (r : Regex α) (s : List α) : Prop := ∃ w ∈ r.lang, w <:+: s

lemma occurs_cons_iff {r : Regex α} {c : α} {s : List α} :
    r.Occurs (c :: s) ↔ r.Hits (c :: s) ∨ r.Occurs s := by
  unfold Occurs Hits
  simp only [List.infix_cons_iff]
  constructor
  · intro h
    obtain ⟨w, hw, hbegin | hinside⟩ := h
    · exact .inl ⟨w, hw, hbegin⟩
    · exact .inr ⟨w, hw, hinside⟩
  · intro h
    obtain ⟨w, hw, hbegin⟩ | ⟨w, hw, hinside⟩ := h
    · exact ⟨w, hw, .inl hbegin⟩
    · exact ⟨w, hw, .inr hinside⟩

/-! ## The matcher -/

/-- What is left of a text after at least `least` letters of a class, the longest run first. -/
def runs (p : α → Bool) : ℕ → List α → List (List α)
  | least, [] => if least = 0 then [[]] else []
  | least, c :: s =>
    (if p c then runs p (least - 1) s else []) ++ if least = 0 then [c :: s] else []

/-- What is left of a text after each match at its start, in the order they are tried. -/
def ends : Regex α → List α → List (List α)
  | empty, s => [s]
  | one _, [] => []
  | one p, c :: s => if p c then [s] else []
  | seq r t, s => (r.ends s).flatMap t.ends
  | alt r t, s => r.ends s ++ t.ends s
  | many least p, s => runs p least s

lemma mem_runs {p : α → Bool} {least : ℕ} {s rest : List α} :
    rest ∈ runs p least s ↔ ∃ w ∈ (many least p).lang, w ++ rest = s := by
  induction s generalizing least with
  | nil =>
      rw [runs]
      by_cases hleast : least = 0 <;> simp [hleast]
  | cons c s ih =>
      rw [exists_append_eq_cons_iff, nil_mem_lang_iff, runs, List.mem_append]
      simp only [cons_mem_lang_many_iff, nullable, beq_iff_eq]
      apply or_congr
      · by_cases hc : p c = true
        · simp only [hc, if_true, ih, true_and]
        · simp [hc]
      · by_cases hleast : least = 0 <;> simp [hleast]

/-- **The matcher finds the words of the pattern**, and no others. -/
lemma mem_ends {r : Regex α} {s rest : List α} :
    rest ∈ r.ends s ↔ ∃ w ∈ r.lang, w ++ rest = s := by
  induction r generalizing s rest with
  | empty => simp [ends, eq_comm]
  | one p =>
      cases s with
      | nil => simp [ends]
      | cons c s =>
          rw [exists_append_eq_cons_iff, nil_mem_lang_iff, ends]
          by_cases hc : p c = true <;> simp [hc, nullable]
  | seq r t ihr iht =>
      simp only [ends, List.mem_flatMap, ihr, iht, mem_lang_seq]
      constructor
      · rintro ⟨mid, ⟨u, hu, rfl⟩, v, hv, rfl⟩
        exact ⟨u ++ v, ⟨u, hu, v, hv, rfl⟩, List.append_assoc _ _ _⟩
      · rintro ⟨_, ⟨u, hu, v, hv, rfl⟩, rfl⟩
        exact ⟨v ++ rest, ⟨u, hu, (List.append_assoc _ _ _).symm⟩, v, hv, rfl⟩
  | alt r t ihr iht => simp [ends, ihr, iht, or_and_right, exists_or]
  | many least p => exact mem_runs

lemma hits_iff_ends {r : Regex α} {s : List α} : r.Hits s ↔ r.ends s ≠ [] := by
  constructor
  · intro h
    obtain ⟨w, hw, rest, hs⟩ := h
    exact List.ne_nil_of_mem (mem_ends.mpr ⟨w, hw, hs⟩)
  · intro h
    obtain ⟨rest, hrest⟩ := List.exists_mem_of_ne_nil _ h
    obtain ⟨w, hw, hs⟩ := mem_ends.mp hrest
    exact ⟨w, hw, rest, hs⟩

/-! ## Substitution -/

/-- The text from its `skip`-th letter on, with every match of the pattern replaced. -/
def subFrom (r : Regex α) (repl : List α) : ℕ → List α → List α
  | _, [] => []
  | skip + 1, _ :: s => subFrom r repl skip s
  | 0, c :: s =>
    match (r.ends (c :: s)).head? with
    | some rest => repl ++ subFrom r repl (s.length - rest.length) s
    | none => c :: subFrom r repl 0 s

/-- Replace every match from left to right, for a pattern that does not match the empty text. -/
def sub (r : Regex α) (repl s : List α) : List α := subFrom r repl 0 s

/-- A run of the substitution: it keeps a letter where no match begins, and else replaces the
match that is found. -/
inductive Subst (r : Regex α) (repl : List α) : List α → List α → Prop
  | done : Subst r repl [] []
  | keep {c : α} {s out : List α} (hits : ¬ r.Hits (c :: s)) (rest : Subst r repl s out) :
      Subst r repl (c :: s) (c :: out)
  | replace {w s out : List α} (word : w ∈ r.lang) (hits : (r.ends (w ++ s)).head? = some s)
      (rest : Subst r repl s out) : Subst r repl (w ++ s) (repl ++ out)

lemma subFrom_eq {r : Regex α} {repl : List α} (n : ℕ) (s : List α) :
    subFrom r repl n s = sub r repl (s.drop n) := by
  induction s generalizing n with
  | nil => cases n <;> simp [subFrom, sub]
  | cons c s ih =>
      cases n with
      | zero => rfl
      | succ n => rw [List.drop_succ_cons, ← ih n, subFrom]

/-- Where no match begins the letter is kept. -/
lemma sub_of_not_hits {r : Regex α} (repl : List α) {c : α} {s : List α} (h : ¬ r.Hits (c :: s)) :
    sub r repl (c :: s) = c :: sub r repl s := by
  rw [hits_iff_ends, not_not] at h
  unfold sub
  rw [subFrom, h]
  rfl

/-- A match is replaced as a whole. -/
lemma sub_of_match {r : Regex α} (repl : List α) {w s : List α} (hw : w ≠ [])
    (h : (r.ends (w ++ s)).head? = some s) : sub r repl (w ++ s) = repl ++ sub r repl s := by
  cases w with
  | nil => exact absurd rfl hw
  | cons c w =>
      have hdrop : (w ++ s).drop ((w ++ s).length - s.length) = s := by
        rw [List.length_append, Nat.add_sub_cancel, List.drop_left]
      rw [List.cons_append] at h ⊢
      conv_lhs => rw [sub, subFrom, h]
      exact congrArg (repl ++ ·) (by rw [subFrom_eq, hdrop])

/-- What the substitution computes is a run of it. -/
lemma subst_sub {r : Regex α} (h : r.nullable = false) (repl s : List α) :
    Subst r repl s (sub r repl s) := by
  -- Strong induction on the length: a match may take any number of letters.
  induction hn : s.length using Nat.strong_induction_on generalizing s with
  | h n ih =>
      subst hn
      cases hhead : (r.ends s).head? with
      | some rest =>
          obtain ⟨w, hw, rfl⟩ := mem_ends.mp (List.mem_of_head? hhead)
          have hne := ne_nil_of_mem_lang h hw
          have hlength := List.length_pos_of_ne_nil hne
          rw [sub_of_match repl hne hhead]
          exact .replace hw hhead (ih rest.length (by rw [List.length_append]; omega) rest rfl)
      | none =>
          have hnot : ¬ r.Hits s := by
            rw [hits_iff_ends, not_not]
            exact List.head?_eq_none_iff.mp hhead
          cases s with
          | nil => exact .done
          | cons c s =>
              rw [sub_of_not_hits repl hnot]
              exact .keep hnot (ih s.length (by rw [List.length_cons]; omega) s rfl)

/-- A text without a match stays as it is. -/
lemma sub_of_not_occurs {r : Regex α} (h : r.nullable = false) (repl : List α) {s : List α}
    (hs : ¬ r.Occurs s) : sub r repl s = s := by
  have hrun := subst_sub h repl s
  generalize sub r repl s = out at hrun
  induction hrun with
  | done => rfl
  | keep hits rest ih =>
      rw [occurs_cons_iff, not_or] at hs
      rw [ih hs.2]
  | @replace w s out word hits rest ih =>
      exact absurd ⟨w, word, (List.prefix_append w s).isInfix⟩ hs

/-! ## What a replacement brings about -/

/-- A replacement of `p` does not help `q` to a match: a match that reaches the inserted text could
as well reach any text `p` matches, and none begins in the inserted text. -/
structure Unaided (p : Regex α) (repl : List α) (q : Regex α) : Prop where
  across : ∀ u x w y, w ∈ p.lang → q.Hits (u ++ (repl ++ x)) → q.Hits (u ++ (w ++ y))
  within : ∀ t, t <:+ repl → t ≠ [] → ∀ x, ¬ q.Hits (t ++ x)

variable {p q : Regex α} {repl s out : List α}

/-- A match that begins before the first replacement was there before it. -/
lemma Subst.hits_of_hits (h : Unaided p repl q) (hrun : Subst p repl s out) (u : List α)
    (hhits : q.Hits (u ++ out)) : q.Hits (u ++ s) := by
  induction hrun generalizing u with
  | done => exact hhits
  | keep hits rest ih =>
      rw [List.append_cons] at hhits ⊢
      exact ih _ hhits
  | replace word hits rest ih => exact h.across u _ _ _ word hhits

/-- What occurs after the inserted text occurs in what follows it. -/
lemma occurs_of_occurs_append {t : List α}
    (h : ∀ u, u <:+ t → u ≠ [] → ∀ x, ¬ q.Hits (u ++ x)) (hoccurs : q.Occurs (t ++ s)) :
    q.Occurs s := by
  induction t with
  | nil => exact hoccurs
  | cons c t ih =>
      rw [List.cons_append, occurs_cons_iff] at hoccurs
      have hnot := h (c :: t) List.suffix_rfl (List.cons_ne_nil _ _) s
      exact ih (fun u hu => h u (hu.trans (List.suffix_cons c t))) (hoccurs.resolve_left hnot)

/-- **A replacement creates no match** of a pattern it does not help. -/
lemma Subst.occurs_of_occurs (h : Unaided p repl q) (hrun : Subst p repl s out)
    (hoccurs : q.Occurs out) : q.Occurs s := by
  induction hrun with
  | done => exact hoccurs
  | keep hits rest ih =>
      rw [occurs_cons_iff] at hoccurs ⊢
      exact hoccurs.imp ((Subst.keep hits rest).hits_of_hits h []) ih
  | @replace w s out word hits rest ih =>
      obtain ⟨v, hv, hinside⟩ := ih (occurs_of_occurs_append h.within hoccurs)
      exact ⟨v, hv, hinside.trans (List.suffix_append w s).isInfix⟩

/-- **A substitution leaves no match** of its own pattern. -/
lemma Subst.not_occurs (h : Unaided p repl p) (hnil : p.nullable = false)
    (hrun : Subst p repl s out) : ¬ p.Occurs out := by
  induction hrun with
  | done =>
      intro hoccurs
      obtain ⟨w, hw, hinside⟩ := hoccurs
      exact ne_nil_of_mem_lang hnil hw (List.infix_nil.mp hinside)
  | keep hits rest ih =>
      rw [occurs_cons_iff, not_or]
      exact ⟨fun hhits => hits ((Subst.keep hits rest).hits_of_hits h [] hhits), ih⟩
  | replace word hits rest ih =>
      intro hoccurs
      exact ih (occurs_of_occurs_append h.within hoccurs)

/-! ## Texts no match begins in -/

/-- What remains of a pattern after one letter, one item for each way to read it. -/
def after (c : α) : Regex α → List (Regex α)
  | empty => []
  | one p => if p c then [empty] else []
  | seq r t => (r.after c).map (fun r => seq r t) ++ if r.nullable then t.after c else []
  | alt r t => r.after c ++ t.after c
  | many least p => if p c then [many (least - 1) p] else []

lemma exists_after_of_mem_lang {r : Regex α} {c : α} {w : List α} (h : c :: w ∈ r.lang) :
    ∃ t ∈ r.after c, w ∈ t.lang := by
  induction r generalizing w with
  | empty => exact absurd h (List.cons_ne_nil c w)
  | one p =>
      obtain ⟨a, ha, hp⟩ := h
      obtain ⟨rfl, rfl⟩ := List.cons_eq_cons.mp ha
      exact ⟨empty, by simp [after, hp], rfl⟩
  | seq r t ihr iht =>
      obtain ⟨u, hu, v, hv, huv⟩ := h
      cases u with
      | nil =>
          obtain rfl : v = c :: w := huv
          obtain ⟨t', ht', hw⟩ := iht hv
          refine ⟨t', ?_, hw⟩
          rw [after, if_pos (nil_mem_lang_iff.mp hu)]
          exact List.mem_append_right _ ht'
      | cons a u =>
          obtain ⟨rfl, rfl⟩ := List.cons_eq_cons.mp huv
          obtain ⟨r', hr', hw⟩ := ihr hu
          refine ⟨seq r' t, ?_, u, hw, v, hv, rfl⟩
          exact List.mem_append_left _ (List.mem_map_of_mem hr')
  | alt r t ihr iht =>
      rcases h with h | h
      · obtain ⟨r', hr', hw⟩ := ihr h
        exact ⟨r', List.mem_append_left _ hr', hw⟩
      · obtain ⟨t', ht', hw⟩ := iht h
        exact ⟨t', List.mem_append_right _ ht', hw⟩
  | many least p =>
      obtain ⟨hc, hw⟩ := cons_mem_lang_many_iff.mp h
      exact ⟨many (least - 1) p, by simp [after, hc], hw⟩

/-- No word of the pattern begins in the text, whatever comes after it. -/
def stuck : List α → Regex α → Bool
  | [], _ => false
  | c :: s, r => !r.nullable && (r.after c).all (stuck s)

lemma not_hits_of_stuck {r : Regex α} {s : List α} (h : stuck s r = true) (x : List α) :
    ¬ r.Hits (s ++ x) := by
  intro hhits
  obtain ⟨w, hw, hbegin⟩ := hhits
  induction s generalizing r w with
  | nil => cases h
  | cons c s ih =>
      rw [stuck, Bool.and_eq_true, Bool.not_eq_true', List.all_eq_true] at h
      cases w with
      | nil => exact ne_nil_of_mem_lang h.1 hw rfl
      | cons a w =>
          obtain ⟨rfl, htail⟩ := List.cons_prefix_cons.mp hbegin
          obtain ⟨t, ht, hw⟩ := exists_after_of_mem_lang hw
          exact ih (h.2 t ht) w hw htail

/-! ## Which letters the words have -/

/-- No word of the pattern has the letter `b`. -/
def rejects (b : α) : Regex α → Bool
  | empty => true
  | one p => !p b
  | seq r t => r.rejects b && t.rejects b
  | alt r t => r.rejects b && t.rejects b
  | many _ p => !p b

lemma not_mem_of_rejects {r : Regex α} {b : α} (h : r.rejects b = true) {w : List α}
    (hw : w ∈ r.lang) : b ∉ w := by
  induction r generalizing w with
  | empty => rw [mem_lang_empty.mp hw]; exact List.not_mem_nil
  | one p =>
      obtain ⟨c, rfl, hc⟩ := hw
      rintro hb
      rw [List.mem_singleton.mp hb] at h
      simp [rejects, hc] at h
  | seq r t ihr iht =>
      obtain ⟨u, hu, v, hv, rfl⟩ := hw
      obtain ⟨hr, ht⟩ := Bool.and_eq_true_iff.mp h
      rw [List.mem_append, not_or]
      exact ⟨ihr hr hu, iht ht hv⟩
  | alt r t ihr iht =>
      obtain ⟨hr, ht⟩ := Bool.and_eq_true_iff.mp h
      exact hw.elim (ihr hr) (iht ht)
  | many least p =>
      intro hb
      have := hw.2 b hb
      simp [rejects, this] at h

/-- One letter after the other, each of its class. -/
def word (classes : List (α → Bool)) : Regex α :=
  classes.foldr (fun p r => seq (one p) r) empty

/-- Every word of the pattern begins with a letter of the class. -/
def Begins (r : Regex α) (p : α → Bool) : Prop := ∀ w ∈ r.lang, ∃ c v, w = c :: v ∧ p c = true

lemma begins_one {p p' : α → Bool} (h : ∀ c, p' c = true → p c = true) :
    (one p').Begins p := by
  rintro _ ⟨c, rfl, hc⟩
  exact ⟨c, [], rfl, h c hc⟩

lemma Begins.seq {r : Regex α} {p : α → Bool} (h : r.Begins p) (t : Regex α) :
    (seq r t).Begins p := by
  rintro _ ⟨u, hu, v, hv, rfl⟩
  obtain ⟨c, u, rfl, hc⟩ := h u hu
  exact ⟨c, u ++ v, rfl, hc⟩

lemma Begins.alt {r t : Regex α} {p : α → Bool} (hr : r.Begins p) (ht : t.Begins p) :
    (alt r t).Begins p := by
  intro w hw
  exact hw.elim (hr w) (ht w)

/-- A prefix without the letter `b` ends before it. -/
lemma prefix_of_not_mem {b : α} {u w x : List α} (hb : b ∉ w) (h : w <+: u ++ b :: x) :
    w <+: u := by
  induction u generalizing w with
  | nil =>
      cases w with
      | nil => exact List.prefix_rfl
      | cons a w =>
          obtain ⟨rfl, -⟩ := List.cons_prefix_cons.mp h
          exact absurd List.mem_cons_self hb
  | cons c u ih =>
      cases w with
      | nil => exact List.nil_prefix
      | cons a w =>
          obtain ⟨rfl, htail⟩ := List.cons_prefix_cons.mp h
          rw [List.mem_cons, not_or] at hb
          exact List.cons_prefix_cons.mpr ⟨rfl, ih hb.2 htail⟩

variable {b : α} {inserted : List α}

/-- A pattern without the first letter of the inserted text, stuck in the rest of it. -/
lemma unaided_of_rejects (hq : q.rejects b = true)
    (hstuck : ∀ t ∈ (b :: inserted).tails, t = [] ∨ stuck t q = true) :
    Unaided p (b :: inserted) q where
  across u x w y _ hhits := by
    obtain ⟨v, hv, hbegin⟩ := hhits
    have hu := prefix_of_not_mem (not_mem_of_rejects hq hv) hbegin
    exact ⟨v, hv, hu.trans (List.prefix_append _ _)⟩
  within t ht hne := by
    exact not_hits_of_stuck ((hstuck t ((List.mem_tails _ _).mpr ht)).resolve_left hne)

/-- A pattern that ends with a run of a class: the run may reach into the inserted text, and could
as well reach into a text that begins with the class. -/
lemma unaided_seq_many {r : Regex α} {run : α → Bool} (hp : p.Begins run)
    (hr : r.rejects b = true)
    (hstuck : ∀ t ∈ (b :: inserted).tails, t = [] ∨ stuck t (seq r (many 1 run)) = true) :
    Unaided p (b :: inserted) (seq r (many 1 run)) where
  across u x w y hw hhits := by
    obtain ⟨_, ⟨v, hv, z, ⟨hz, hrun⟩, rfl⟩, hbegin⟩ := hhits
    obtain ⟨u, rfl⟩ := prefix_of_not_mem (not_mem_of_rejects hr hv)
      ((List.prefix_append v z).trans hbegin)
    -- One letter of the run is enough: the next one of `u`, or else the first one of `w`.
    obtain ⟨c, w, rfl, hc⟩ := hp w hw
    cases u with
    | nil =>
        refine ⟨v ++ [c], ⟨v, hv, [c], ⟨by simp, by simpa using hc⟩, rfl⟩, ?_⟩
        simp
    | cons a u =>
        have ha : run a = true := by
          cases z with
          | nil => cases hz
          | cons a' z =>
              simp only [List.append_assoc, List.cons_append, List.prefix_append_right_inj,
                List.cons_prefix_cons] at hbegin
              exact hrun a (hbegin.1 ▸ List.mem_cons_self)
        refine ⟨v ++ [a], ⟨v, hv, [a], ⟨by simp, by simpa using ha⟩, rfl⟩, ?_⟩
        simp
  within t ht hne := by
    exact not_hits_of_stuck ((hstuck t ((List.mem_tails _ _).mpr ht)).resolve_left hne)

end Regex

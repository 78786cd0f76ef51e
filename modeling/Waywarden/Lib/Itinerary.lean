import Mathlib.Data.Finset.Card
import Mathlib.Data.List.Nodup

/-!
# Walks with one way on

`next` says where a walk goes on from a vertex, or that it ends there, so a start fixes the whole
walk.  `stop next v n` is where it is after `n` steps.

A walk that stays within a list of vertices is `Endless` exactly when it comes to some vertex
twice, and exactly when it makes as many steps as the list is long (`endless_iff_revisits`,
`endless_iff_stop_ne_none`).  A walk that ends is listed by `upTo`, without repetition.
-/

namespace Itinerary

variable {V : Type} (next : V → Option V)

/-- Where the walk from a vertex is after some steps, if it gets that far. -/
def stop (v : V) : ℕ → Option V
  | 0 => some v
  | n + 1 => (stop v n).bind next

/-- The walk goes on for ever. -/
def Endless (v : V) : Prop := ∀ n, stop next v n ≠ none

/-- The walk comes to some vertex twice. -/
def Revisits (v : V) : Prop :=
  ∃ i j u, i < j ∧ stop next v i = some u ∧ stop next v j = some u

/-- The vertices of the walk are these, in this order. -/
def Lists (v : V) (vs : List V) : Prop := ∀ n, vs[n]? = stop next v n

/-- The walk's vertices, up to a number of them. -/
def upTo : ℕ → V → List V
  | 0, _ => []
  | n + 1, v =>
      v :: match next v with
        | none => []
        | some w => upTo n w

variable {next} {v u : V} {vs : List V}

/-! ## Steps -/

/-- The walk from the second vertex is the rest of the walk. -/
lemma stop_succ (v : V) (n : ℕ) : stop next v (n + 1) = (next v).bind fun w => stop next w n := by
  induction n with
  | zero =>
      show (some v).bind next = (next v).bind some
      rw [Option.bind_some, Option.bind_fun_some]
  | succ n ih =>
      show (stop next v (n + 1)).bind next = _
      rw [ih, Option.bind_assoc]
      rfl

/-- The walk from any of its vertices is the rest of the walk. -/
lemma stop_add {m : ℕ} (h : stop next v m = some u) (n : ℕ) :
    stop next v (m + n) = stop next u n := by
  induction n with
  | zero => exact h
  | succ n ih =>
      show (stop next v (m + n)).bind next = (stop next u n).bind next
      rw [ih]

/-- A walk that has ended does not go on. -/
lemma stop_eq_none_of_le {m n : ℕ} (hle : m ≤ n) (h : stop next v m = none) :
    stop next v n = none := by
  induction hle with
  | refl => exact h
  | step _ ih =>
      show (stop next v _).bind next = none
      rw [ih, Option.bind_none]

lemma stop_ne_none_of_le {m n : ℕ} (hle : m ≤ n) (h : stop next v n ≠ none) :
    stop next v m ≠ none := fun hm => h (stop_eq_none_of_le hle hm)

/-! ## Walks that come back -/

/-- Between two visits to a vertex lies a round, which the walk makes for ever. -/
lemma stop_rounds {p : ℕ} (hround : stop next u p = some u) (k : ℕ) :
    stop next u (k * p) = some u := by
  induction k with
  | zero => rw [Nat.zero_mul, stop]
  | succ k ih => rw [Nat.succ_mul, stop_add ih, hround]

lemma Revisits.endless (h : Revisits next v) : Endless next v := by
  obtain ⟨i, j, u, hij, hi, hj⟩ := h
  intro n
  obtain ⟨p, rfl⟩ := Nat.exists_eq_add_of_lt hij
  have hround : stop next u (p + 1) = some u := by
    rw [← stop_add hi, ← hj, Nat.add_assoc]
  -- after `n` rounds the walk has made `n` steps at least
  have hlate : stop next v (i + n * (p + 1)) ≠ none := by
    rw [stop_add hi, stop_rounds hround]
    simp
  refine stop_ne_none_of_le ?_ hlate
  have hn : n ≤ n * (p + 1) := Nat.le_mul_of_pos_right n p.succ_pos
  omega

/-- **Too long a walk comes back**: it visits more vertices than there are. -/
lemma revisits_of_stop_ne_none (hwithin : ∀ n u, stop next v n = some u → u ∈ vs)
    (h : stop next v vs.length ≠ none) : Revisits next v := by
  classical
  have hsome : ∀ n ∈ Finset.range (vs.length + 1), ∃ u, stop next v n = some u := by
    intro n hn
    rw [Finset.mem_range, Nat.lt_succ_iff] at hn
    exact Option.ne_none_iff_exists'.mp (stop_ne_none_of_le hn h)
  have hcard : vs.toFinset.card < (Finset.range (vs.length + 1)).card := by
    rw [Finset.card_range, Nat.lt_succ_iff]
    exact vs.toFinset_card_le
  have hmaps : Set.MapsTo (fun n => (stop next v n).getD v) (Finset.range (vs.length + 1))
      vs.toFinset := by
    intro n hn
    obtain ⟨u, hu⟩ := hsome n hn
    show (stop next v n).getD v ∈ (vs.toFinset : Set V)
    rw [hu]
    exact List.mem_toFinset.mpr (hwithin n u hu)
  obtain ⟨i, hi, j, hj, hne, heq⟩ := Finset.exists_ne_map_eq_of_card_lt_of_maps_to hcard hmaps
  obtain ⟨a, ha⟩ := hsome i hi
  obtain ⟨b, hb⟩ := hsome j hj
  have hab : a = b := by simpa [ha, hb] using heq
  subst hab
  rcases Nat.lt_or_gt_of_ne hne with hlt | hlt
  · exact ⟨i, j, a, hlt, ha, hb⟩
  · exact ⟨j, i, a, hlt, hb, ha⟩

/-- **A walk within a list is endless exactly when it makes as many steps as the list is long.** -/
theorem endless_iff_stop_ne_none (hwithin : ∀ n u, stop next v n = some u → u ∈ vs) {n : ℕ}
    (hn : vs.length ≤ n) : Endless next v ↔ stop next v n ≠ none := by
  constructor
  · intro h
    exact h n
  · intro h
    exact (revisits_of_stop_ne_none hwithin (stop_ne_none_of_le hn h)).endless

/-- **A walk within a list is endless exactly when it comes back.** -/
theorem endless_iff_revisits (hwithin : ∀ n u, stop next v n = some u → u ∈ vs) :
    Endless next v ↔ Revisits next v := by
  constructor
  · intro h
    exact revisits_of_stop_ne_none hwithin (h vs.length)
  · exact Revisits.endless

/-! ## Walks that end -/

lemma getElem?_upTo (v : V) (n k : ℕ) :
    (upTo next n v)[k]? = if k < n then stop next v k else none := by
  induction n generalizing v k with
  | zero => simp [upTo]
  | succ n ih =>
      cases k with
      | zero => simp [upTo, stop]
      | succ k =>
          rw [upTo, List.getElem?_cons_succ, stop_succ]
          cases next v with
          | none => simp
          | some w => simp [ih]

/-- **A walk that ends is listed** once the list is long enough. -/
lemma lists_upTo {n : ℕ} (h : stop next v n = none) : Lists next v (upTo next n v) := by
  intro k
  rw [getElem?_upTo]
  split
  · rfl
  · rename_i hk
    exact (stop_eq_none_of_le (Nat.le_of_not_lt hk) h).symm

/-- The vertices of a walk that ends are all different. -/
lemma Lists.nodup (h : Lists next v vs) : vs.Nodup := by
  rw [List.nodup_iff_getElem?_ne_getElem?]
  intro i j hij hj heq
  have hu : stop next v j = some vs[j] := by
    rw [← h j]
    exact List.getElem?_eq_getElem hj
  have hrevisits : Revisits next v := by
    refine ⟨i, j, vs[j], hij, ?_, hu⟩
    rw [← h i, heq, h j, hu]
  refine hrevisits.endless vs.length ?_
  rw [← h, List.getElem?_eq_none_iff]

end Itinerary

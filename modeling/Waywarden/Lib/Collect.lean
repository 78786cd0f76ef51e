import Mathlib.Data.List.Basic
import Mathlib.Tactic.Common

/-!
# Passes that collect errors

A pass reads some items one after the other.  An item takes the state on, or it is refused with some
errors and the state stays; either way the pass goes on, and in the end there is a state and the
list of all errors.  Where the items do not depend on the state the pass is a list of outcomes, and
it is split into the values and the errors.
-/

namespace Collect

variable {σ α ε : Type}

/-- An item is read in a state: the next state, or the errors it is refused with. -/
abbrev Reader (σ α ε : Type) : Type := σ → α → Except (List ε) σ

variable (read : Reader σ α ε)

/-- The state after an item. -/
def next (s : σ) (x : α) : σ :=
  match read s x with
  | .ok s' => s'
  | .error _ => s

/-- The errors of an item. -/
def refusals (s : σ) (x : α) : List ε :=
  match read s x with
  | .ok _ => []
  | .error errors => errors

/-- The pass: the state it ends in, and the errors on the way. -/
def run : σ → List α → σ × List ε
  | s, [] => (s, [])
  | s, x :: xs =>
      let rest := run (next read s x) xs
      (rest.1, refusals read s x ++ rest.2)

variable {read} {s s' : σ} {x : α} {xs ys : List α}

lemma next_of_ok (h : read s x = .ok s') : next read s x = s' := by
  rw [next, h]

lemma next_of_error {errors : List ε} (h : read s x = .error errors) : next read s x = s := by
  rw [next, h]

lemma refusals_of_ok (h : read s x = .ok s') : refusals read s x = [] := by
  rw [refusals, h]

lemma refusals_of_error {errors : List ε} (h : read s x = .error errors) :
    refusals read s x = errors := by
  rw [refusals, h]

/-- The state is a fold. -/
lemma run_fst (s : σ) (xs : List α) : (run read s xs).1 = xs.foldl (next read) s := by
  induction xs generalizing s with
  | nil => rfl
  | cons x xs ih => exact ih (next read s x)

/-! ## Items that are read alone -/

/-- The errors among some outcomes. -/
def errors {β : Type} (outcomes : List (Except ε β)) : List ε :=
  outcomes.filterMap fun outcome =>
    match outcome with
    | .ok _ => none
    | .error e => some e

/-- The values among some outcomes. -/
def values {β : Type} (outcomes : List (Except ε β)) : List β :=
  outcomes.filterMap fun outcome => outcome.toOption

section

variable {β : Type} {outcomes : List (Except ε β)}

lemma mem_values {b : β} : b ∈ values outcomes ↔ .ok b ∈ outcomes := by
  unfold values
  rw [List.mem_filterMap]
  constructor
  · rintro ⟨outcome, hmem, houtcome⟩
    cases outcome with
    | error e => exact absurd houtcome (by simp [Except.toOption])
    | ok b' =>
        obtain rfl := Option.some.inj houtcome
        exact hmem
  · intro h
    exact ⟨.ok b, h, rfl⟩

lemma values_map_ok (bs : List β) : values (bs.map (Except.ok (ε := ε))) = bs := by
  induction bs with
  | nil => rfl
  | cons b bs ih => exact congrArg (List.cons b) ih

/-- Without an error the values are all there is. -/
lemma errors_eq_nil_iff : errors outcomes = [] ↔ outcomes = (values outcomes).map .ok := by
  induction outcomes with
  | nil => exact iff_of_true rfl rfl
  | cons outcome outcomes ih =>
      cases outcome with
      | ok b =>
          show errors outcomes = [] ↔ Except.ok b :: outcomes = .ok b :: (values outcomes).map .ok
          rw [ih, List.cons_inj_right]
      | error e =>
          refine iff_of_false (List.cons_ne_nil _ _) fun h => ?_
          have hmem : Except.error e ∈ (values (Except.error e :: outcomes)).map Except.ok :=
            h ▸ List.mem_cons_self
          obtain ⟨b, -, hb⟩ := List.mem_map.mp hmem
          exact absurd hb (by simp)

end

/-! ## Lists side by side -/

/-- Of two lists that are related item by item, every item has a partner in the other list. -/
lemma exists_partner {α β : Type} {R : α → β → Prop} {as : List α} {bs : List β}
    (h : List.Forall₂ R as bs) :
    (∀ a ∈ as, ∃ b ∈ bs, R a b) ∧ ∀ b ∈ bs, ∃ a ∈ as, R a b := by
  induction h with
  | nil => exact ⟨fun _ ha => absurd ha List.not_mem_nil, fun _ hb => absurd hb List.not_mem_nil⟩
  | @cons a b as bs hab _ ih =>
      constructor
      · intro a' ha'
        rcases List.mem_cons.mp ha' with rfl | ha'
        · exact ⟨b, List.mem_cons_self, hab⟩
        · obtain ⟨b', hb', hrel⟩ := ih.1 a' ha'
          exact ⟨b', List.mem_cons_of_mem _ hb', hrel⟩
      · intro b' hb'
        rcases List.mem_cons.mp hb' with rfl | hb'
        · exact ⟨a, List.mem_cons_self, hab⟩
        · obtain ⟨a', ha', hrel⟩ := ih.2 b' hb'
          exact ⟨a', List.mem_cons_of_mem _ ha', hrel⟩

end Collect

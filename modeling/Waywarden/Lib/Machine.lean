import Mathlib.Tactic.Common
import Mathlib.Data.List.Pairwise
import Mathlib.Data.List.Nodup
import Mathlib.Data.List.Induction

/-!
# Deterministic machines and their runs

A machine answers a call in a state with a reply and a next state.  A run is a finite sequence
of calls from a start state, and its *trace* lists one transition per call with the state
before it, the call, the reply and the state after it.

Safety arguments use the rules here instead of their own inductions.

* `Machine.trace_split` cuts a run at one of its transitions.
* `Machine.Meets P` says that every call of a run meets a condition on the state it finds;
  `Machine.invariant` is the induction rule under such a condition.
* `Machine.nodup_marks` says that marks which were absent and stay present, such as the primary
  keys of an append-only table, are handed out once.
* `Machine.meets_fresh_iff` turns this around: when a call goes well exactly if its marks are new,
  a run goes well exactly if no mark occurs twice along it or is present at its start.
* `Machine.forall_iff_meets` says that a property which holds under an invariant, and which every
  call that breaks the invariant breaks, holds along a run exactly when no call breaks it.
* `Machine.forall_transition_iff_meets` is the same for a property of transitions, and
  `Machine.keep_iff_forever` reads a property every transition keeps along the run.
* `Machine.watch` keeps a history beside the state, which the machine itself does not see.
* `Machine.last_entry` finds the transition that last entered a property.
-/

/-- A deterministic machine with states `σ`, calls `κ` and replies `ρ`. -/
structure Machine (σ κ ρ : Type) where
  /-- Answer one call. -/
  step : σ → κ → ρ × σ

namespace Machine

variable {σ κ ρ : Type}

/-- One transition of a run. -/
structure Transition (σ κ ρ : Type) where
  before : σ
  call : κ
  reply : ρ
  after : σ

variable (M : Machine σ κ ρ)

/-- The state one call leaves. -/
def next (s : σ) (c : κ) : σ := (M.step s c).2

/-- The transition one call makes. -/
def transition (s : σ) (c : κ) : Transition σ κ ρ := ⟨s, c, (M.step s c).1, M.next s c⟩

/-- The state a sequence of calls leaves. -/
def run : σ → List κ → σ
  | s, [] => s
  | s, c :: cs => run (M.next s c) cs

/-- The transitions of a run, in order. -/
def trace : σ → List κ → List (Transition σ κ ρ)
  | _, [] => []
  | s, c :: cs => M.transition s c :: trace (M.next s c) cs

/-- Every call of the run meets `P` in the state it finds. -/
def Meets (P : σ → κ → Prop) : σ → List κ → Prop
  | _, [] => True
  | s, c :: cs => P s c ∧ Meets P (M.next s c) cs

@[simp] lemma run_nil (s : σ) : M.run s [] = s := rfl

@[simp] lemma run_cons (s : σ) (c : κ) (cs : List κ) :
    M.run s (c :: cs) = M.run (M.next s c) cs := rfl

@[simp] lemma trace_nil (s : σ) : M.trace s [] = [] := rfl

@[simp] lemma trace_cons (s : σ) (c : κ) (cs : List κ) :
    M.trace s (c :: cs) = M.transition s c :: M.trace (M.next s c) cs := rfl

lemma run_append (s : σ) (cs ds : List κ) :
    M.run s (cs ++ ds) = M.run (M.run s cs) ds := by
  induction cs generalizing s with
  | nil => rfl
  | cons c cs ih => exact ih (M.next s c)

lemma trace_append (s : σ) (cs ds : List κ) :
    M.trace s (cs ++ ds) = M.trace s cs ++ M.trace (M.run s cs) ds := by
  induction cs generalizing s with
  | nil => rfl
  | cons c cs ih => exact congrArg (M.transition s c :: ·) (ih (M.next s c))

/-- **Cutting a run.**  A trace split into two parts comes from a run split the same way. -/
lemma trace_split {s : σ} {cs : List κ} {pre post : List (Transition σ κ ρ)}
    (h : M.trace s cs = pre ++ post) :
    ∃ cs₁ cs₂, cs = cs₁ ++ cs₂ ∧ M.trace s cs₁ = pre ∧ M.trace (M.run s cs₁) cs₂ = post := by
  induction cs generalizing s pre with
  | nil =>
      obtain ⟨rfl, rfl⟩ := List.append_eq_nil_iff.mp h.symm
      exact ⟨[], [], rfl, rfl, rfl⟩
  | cons c cs ih =>
      cases pre with
      | nil => exact ⟨[], c :: cs, rfl, rfl, h⟩
      | cons t pre =>
          obtain ⟨ht, hrest⟩ := List.cons_eq_cons.mp h
          obtain ⟨cs₁, cs₂, hcs, hpre, hpost⟩ := ih hrest
          refine ⟨c :: cs₁, cs₂, by rw [hcs]; rfl, ?_, hpost⟩
          rw [trace_cons, ht, hpre]

/-- A transition of a trace is the machine's step from a state the run reaches. -/
lemma trace_mid {s : σ} {cs : List κ} {pre post : List (Transition σ κ ρ)}
    {t : Transition σ κ ρ} (h : M.trace s cs = pre ++ t :: post) :
    ∃ cs₁ c cs₂, cs = cs₁ ++ c :: cs₂ ∧ M.trace s cs₁ = pre ∧
      t = M.transition (M.run s cs₁) c ∧ M.trace (M.run s (cs₁ ++ [c])) cs₂ = post := by
  obtain ⟨cs₁, cs₂, hcs, hpre, hpost⟩ := M.trace_split h
  cases cs₂ with
  | nil => exact absurd hpost (by simp)
  | cons c cs₂ =>
      obtain ⟨ht, hrest⟩ := List.cons_eq_cons.mp hpost
      refine ⟨cs₁, c, cs₂, hcs, hpre, ht.symm, ?_⟩
      rw [run_append]
      exact hrest

lemma meets_append {P : σ → κ → Prop} {s : σ} {cs ds : List κ} :
    M.Meets P s (cs ++ ds) ↔ M.Meets P s cs ∧ M.Meets P (M.run s cs) ds := by
  induction cs generalizing s with
  | nil => simp [Meets]
  | cons c cs ih => simp only [List.cons_append, Meets, run_cons, ih, and_assoc]

/-- `Meets` read on the trace. -/
lemma meets_iff_trace {P : σ → κ → Prop} {s : σ} {cs : List κ} :
    M.Meets P s cs ↔ ∀ t ∈ M.trace s cs, P t.before t.call := by
  induction cs generalizing s with
  | nil => simp [Meets]
  | cons c cs ih => simp [Meets, transition, ih]

/-- A condition on the calls alone. -/
lemma meets_calls {P : κ → Prop} {s : σ} {cs : List κ} :
    M.Meets (fun _ c => P c) s cs ↔ ∀ c ∈ cs, P c := by
  induction cs generalizing s with
  | nil => simp [Meets]
  | cons c cs ih => rw [Meets, List.forall_mem_cons, ih]

/-- **The invariant rule.**  An invariant every conforming step keeps holds after a conforming
run. -/
theorem invariant {P : σ → κ → Prop} {I : σ → Prop}
    (step : ∀ s c, I s → P s c → I (M.next s c)) {s : σ} {cs : List κ}
    (hs : I s) (h : M.Meets P s cs) : I (M.run s cs) := by
  induction cs generalizing s with
  | nil => exact hs
  | cons c cs ih => exact ih (step s c hs h.1) h.2

/-- The invariant rule, read after each call of a conforming run. -/
lemma invariant_along {P : σ → κ → Prop} {I : σ → Prop}
    (step : ∀ s c, I s → P s c → I (M.next s c)) {s : σ} {cs : List κ}
    (hs : I s) (h : M.Meets P s cs) : ∀ t ∈ M.trace s cs, I t.after := by
  induction cs generalizing s with
  | nil => intro t ht; exact absurd ht List.not_mem_nil
  | cons c cs ih =>
      have hnext : I (M.next s c) := step s c hs h.1
      rw [trace_cons, List.forall_mem_cons]
      exact ⟨hnext, ih hnext h.2⟩

/-- The invariant rule with no condition on the calls. -/
theorem invariant_all {I : σ → Prop} (step : ∀ s c, I s → I (M.next s c)) {s : σ}
    (cs : List κ) (hs : I s) : I (M.run s cs) := by
  induction cs generalizing s with
  | nil => exact hs
  | cons c cs ih => exact ih (step s c hs)

/-- An invariant under which every call is good. -/
theorem meets_of_invariant {I : σ → Prop} {good : σ → κ → Prop}
    (keep : ∀ s c, I s → I (M.next s c)) (safe : ∀ s c, I s → good s c) {s : σ} (cs : List κ)
    (hs : I s) : M.Meets good s cs := by
  induction cs generalizing s with
  | nil => trivial
  | cons c cs ih => exact ⟨safe s c hs, ih (keep s c hs)⟩

/-- **A property of transitions and what breaks it.**  When good calls keep an invariant, and under
it a transition has a property exactly if its call is good, then all transitions of a run have the
property exactly when all calls are good. -/
theorem forall_transition_iff_meets {I : σ → Prop} {P : Transition σ κ ρ → Prop}
    {good : σ → κ → Prop} (keep : ∀ s c, I s → good s c → I (M.next s c))
    (step : ∀ s c, I s → (P (M.transition s c) ↔ good s c)) {s : σ} {cs : List κ} (hs : I s) :
    (∀ t ∈ M.trace s cs, P t) ↔ M.Meets good s cs := by
  induction cs generalizing s with
  | nil => simp [Meets]
  | cons c cs ih =>
      rw [trace_cons, List.forall_mem_cons, Meets, step s c hs]
      constructor
      · rintro ⟨hgood, hrest⟩
        exact ⟨hgood, (ih (keep s c hs hgood)).mp hrest⟩
      · rintro ⟨hgood, hrest⟩
        exact ⟨hgood, (ih (keep s c hs hgood)).mpr hrest⟩

/-- **A property and what breaks it.**  When good calls keep an invariant, the invariant gives a
property, and every other call breaks the property, then the property holds after every call of a
run exactly when all calls are good. -/
theorem forall_iff_meets {I P : σ → Prop} {good : σ → κ → Prop}
    (keep : ∀ s c, I s → good s c → I (M.next s c)) (holds : ∀ s, I s → P s)
    (breaks : ∀ s c, I s → ¬ good s c → ¬ P (M.next s c)) {s : σ} {cs : List κ} (hs : I s) :
    (∀ t ∈ M.trace s cs, P t.after) ↔ M.Meets good s cs := by
  refine M.forall_transition_iff_meets keep (fun s c hI => ⟨fun hP => ?_, fun hgood => ?_⟩) hs
  · by_contra hbad
    exact breaks s c hI hbad hP
  · exact holds _ (keep s c hI hgood)

/-- A property every transition of a run keeps holds after each of them once it holds at the
start. -/
lemma forall_after_of_keep {P : σ → Prop} {s : σ} {cs : List κ} (hs : P s)
    (keep : ∀ t ∈ M.trace s cs, P t.before → P t.after) : ∀ t ∈ M.trace s cs, P t.after := by
  induction cs generalizing s with
  | nil => intro t ht; exact absurd ht List.not_mem_nil
  | cons c cs ih =>
      rw [trace_cons, List.forall_mem_cons] at keep ⊢
      have hnext : P (M.next s c) := keep.1 hs
      exact ⟨hnext, ih hnext keep.2⟩

/-- The transitions of a run keep a property exactly when it holds from each transition it is met
at onwards. -/
lemma keep_iff_forever {P : σ → Prop} {s : σ} {cs : List κ} :
    (∀ t ∈ M.trace s cs, P t.before → P t.after) ↔
      ∀ pre t post, M.trace s cs = pre ++ t :: post → P t.before →
        ∀ u ∈ t :: post, P u.after := by
  constructor
  · intro keep pre t post htrace ht
    obtain ⟨cs₁, c, cs₂, rfl, -, rfl, hpost⟩ := M.trace_mid htrace
    have hrest : M.trace (M.run s cs₁) (c :: cs₂) =
        M.transition (M.run s cs₁) c :: post := by
      rw [trace_cons, ← hpost, run_append]
      rfl
    rw [← hrest]
    refine M.forall_after_of_keep ht fun u hu => keep u ?_
    rw [htrace, ← hrest]
    exact List.mem_append_right _ hu
  · intro forever t ht hbefore
    obtain ⟨pre, post, htrace⟩ := List.append_of_mem ht
    exact forever pre t post htrace hbefore t List.mem_cons_self

/-- **The last entry.**  A property that fails at the start of a run and holds at its end was
entered by some transition and held from there on. -/
theorem last_entry {P : σ → Prop} {s : σ} {cs : List κ} (hstart : ¬ P s) (hend : P (M.run s cs)) :
    ∃ pre t post, M.trace s cs = pre ++ t :: post ∧ ¬ P t.before ∧ P t.after ∧
      ∀ u ∈ post, P u.before ∧ P u.after := by
  induction cs using List.reverseRecOn with
  | nil => exact absurd hend hstart
  | append_singleton cs c ih =>
      rw [run_append] at hend
      have hsplit : M.trace s (cs ++ [c]) = M.trace s cs ++ [M.transition (M.run s cs) c] := by
        rw [trace_append]
        rfl
      by_cases hbefore : P (M.run s cs)
      · obtain ⟨pre, t, post, htrace, ht, ht', hpost⟩ := ih hbefore
        refine ⟨pre, t, post ++ [M.transition (M.run s cs) c], ?_, ht, ht', fun u hu => ?_⟩
        · rw [hsplit, htrace, List.append_assoc, List.cons_append]
        · rcases List.mem_append.mp hu with hu | hu
          · exact hpost u hu
          · obtain rfl := List.mem_singleton.mp hu
            exact ⟨hbefore, hend⟩
      · exact ⟨M.trace s cs, M.transition (M.run s cs) c, [], hsplit, hbefore, hend, nofun⟩

/-- **Marks are never handed out twice.**  When a transition hands out marks that are absent
before it and present after it, and marks once present stay, a run hands out each mark once. -/
theorem nodup_marks {α : Type} (marks : Transition σ κ ρ → List α) (present : σ → α → Prop)
    (new : ∀ s c, ∀ a ∈ marks (M.transition s c), ¬ present s a ∧ present (M.next s c) a)
    (keep : ∀ s c a, present s a → present (M.next s c) a)
    (nodup : ∀ s c, (marks (M.transition s c)).Nodup) (s : σ) (cs : List κ) :
    ((M.trace s cs).flatMap marks).Nodup := by
  have absent : ∀ (cs : List κ) (s : σ), ∀ a ∈ (M.trace s cs).flatMap marks, ¬ present s a := by
    intro cs
    induction cs with
    | nil => intro s a ha; exact absurd ha List.not_mem_nil
    | cons c cs ih =>
        intro s a ha
        rw [trace_cons, List.flatMap_cons, List.mem_append] at ha
        rcases ha with ha | ha
        · exact (new s c a ha).1
        · exact fun h => ih (M.next s c) a ha (keep s c a h)
  induction cs generalizing s with
  | nil => exact List.nodup_nil
  | cons c cs ih =>
      rw [trace_cons, List.flatMap_cons, List.nodup_append]
      refine ⟨nodup s c, ih (M.next s c), fun a ha b hb hab => ?_⟩
      exact absent cs (M.next s c) b hb (hab ▸ (new s c a ha).2)

/-- The marks of the calls of a run, in order. -/
def marksAlong {α : Type} (marks : σ → κ → List α) (s : σ) (cs : List κ) : List α :=
  (M.trace s cs).flatMap fun t => marks t.before t.call

/-- **Fresh marks.**  When a call goes well exactly if its marks are distinct and none of them is
present, and a call that goes well makes its marks present and no others, then all calls of a run
go well exactly if the marks along it are distinct and none of them is present at its start. -/
theorem meets_fresh_iff {α : Type} {marks : σ → κ → List α} {present : σ → α → Prop}
    {good : σ → κ → Prop}
    (step : ∀ s c, good s c ↔ (marks s c).Nodup ∧ ∀ a ∈ marks s c, ¬ present s a)
    (after : ∀ s c a, good s c → (present (M.next s c) a ↔ present s a ∨ a ∈ marks s c))
    (s : σ) (cs : List κ) :
    M.Meets good s cs ↔
      (M.marksAlong marks s cs).Nodup ∧ ∀ a ∈ M.marksAlong marks s cs, ¬ present s a := by
  induction cs generalizing s with
  | nil => simp [Meets, marksAlong]
  | cons c cs ih =>
      have halong : M.marksAlong marks s (c :: cs) =
          marks s c ++ M.marksAlong marks (M.next s c) cs := rfl
      rw [Meets, ih, step, halong, List.nodup_append]
      constructor
      · rintro ⟨⟨hnodup, hfresh⟩, hrest, hlater⟩
        have hgood : good s c := (step s c).mpr ⟨hnodup, hfresh⟩
        have hnew : ∀ a ∈ M.marksAlong marks (M.next s c) cs, ¬ present s a ∧ a ∉ marks s c :=
          fun a ha => not_or.mp fun h => hlater a ha ((after s c a hgood).mpr h)
        refine ⟨⟨hnodup, hrest, fun a ha b hb hab => ?_⟩, fun a ha => ?_⟩
        · exact (hnew b hb).2 (hab ▸ ha)
        · rcases List.mem_append.mp ha with ha | ha
          · exact hfresh a ha
          · exact (hnew a ha).1
      · rintro ⟨⟨hnodup, hrest, hdisjoint⟩, hfresh⟩
        have hgood : good s c :=
          (step s c).mpr ⟨hnodup, fun a ha => hfresh a (List.mem_append_left _ ha)⟩
        refine ⟨⟨hnodup, fun a ha => hfresh a (List.mem_append_left _ ha)⟩, hrest,
          fun a ha h => ?_⟩
        rcases (after s c a hgood).mp h with h | h
        · exact hfresh a (List.mem_append_right _ ha) h
        · exact hdisjoint a h a ha rfl

/-! ## Histories -/

/-- The machine with a history beside its state, written by each transition. -/
def watch {η : Type} (record : η → Transition σ κ ρ → η) : Machine (σ × η) κ ρ :=
  ⟨fun x c => ((M.step x.1 c).1, M.next x.1 c, record x.2 (M.transition x.1 c))⟩

section Watch

variable {η : Type} (record : η → Transition σ κ ρ → η)

@[simp] lemma next_watch (x : σ × η) (c : κ) :
    (M.watch record).next x c = (M.next x.1 c, record x.2 (M.transition x.1 c)) := rfl

end Watch

end Machine

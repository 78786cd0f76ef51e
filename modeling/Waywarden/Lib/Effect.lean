import Mathlib.Data.List.Forall2
import Mathlib.Tactic.Common

/-!
# Computations that change a state and may raise

A coroutine that works on a shared state either returns a value or raises an exception, and
either way it leaves a state behind: an exception does not undo the writes made before it.
`Effect σ ε α` is that shape as a function, with the monad structure the `do` notation needs.

`wp x Q E s` is the weakest precondition: started in `s`, the computation returns a value
satisfying `Q` in the state it leaves, or raises an exception satisfying `E` there.  It commutes
with every connective of the language by an equation, so a computation is executed symbolically by
rewriting; `wp.mono`, `wp.of_ok` and `wp.state` read the result off.

`Respects R x` is a statement about two runs: from states related by `R` the computation ends the
same way in related states.  With `R` relating states that differ in one place only, it says that
the computation does not read that place.

`Maintains P x` says that the computation keeps an invariant of the state however it ends.  It is
proved from the parts of `x` alone, without their results.
-/

/-- A computation over states `σ`: it returns an `α` or raises an `ε`, and leaves a state. -/
def Effect (σ ε α : Type) : Type := σ → Except ε α × σ

namespace Effect

variable {σ ε α β : Type}

instance : Monad (Effect σ ε) where
  pure a := fun s => (.ok a, s)
  bind x f := fun s =>
    match x s with
    | (.ok a, s') => f a s'
    | (.error e, s') => (.error e, s')

/-- Raise an exception; the state stays as it is. -/
def raise (e : ε) : Effect σ ε α := fun s => (.error e, s)

/-- Read a component of the state. -/
def gets (f : σ → α) : Effect σ ε α := fun s => (.ok (f s), s)

/-- Overwrite the state by a function of it. -/
def modify (f : σ → σ) : Effect σ ε Unit := fun s => (.ok (), f s)

/-- A pure computation that may raise, run without touching the state. -/
def ofExcept (x : Except ε α) : Effect σ ε α := fun s => (x, s)

lemma ofExcept_of_eq {x result : Except ε α} (h : x = result) (s : σ) :
    ofExcept x s = (result, s) := by
  rw [← h, ofExcept]

/-- Run a computation and hand its outcome on instead of raising; its writes stay. -/
def attempt (x : Effect σ ε α) : Effect σ ε (Except ε α) := fun s => (.ok (x s).1, (x s).2)

/-- A computation on the second component of a state; the first stays as it is. -/
def second {ρ : Type} (x : Effect σ ε α) : Effect (ρ × σ) ε α :=
  fun p => ((x p.2).1, p.1, (x p.2).2)

/-- A computation on a state of its own beside the given one, which is forgotten at the end. -/
def within {ρ : Type} (r : ρ) (x : Effect (ρ × σ) ε α) : Effect σ ε α :=
  fun s => ((x (r, s)).1, (x (r, s)).2.2)

lemma bind_of_ok {x : Effect σ ε α} {f : α → Effect σ ε β} {s s' : σ} {a : α}
    (h : x s = (.ok a, s')) : (x >>= f) s = f a s' := by
  show (match x s with | (.ok a, s') => f a s' | (.error e, s') => (.error e, s')) = _
  rw [h]

lemma bind_of_error {x : Effect σ ε α} {f : α → Effect σ ε β} {s s' : σ} {e : ε}
    (h : x s = (.error e, s')) : (x >>= f) s = (.error e, s') := by
  show (match x s with | (.ok a, s') => f a s' | (.error e, s') => (.error e, s')) = _
  rw [h]

/-- A computation that is known to return does so with a value. -/
lemma exists_of_isOk {x : Effect σ ε α} {s : σ} (h : (x s).1.isOk = true) :
    ∃ a s', x s = (.ok a, s') := by
  rcases hx : x s with ⟨e | a, s'⟩
  · rw [hx] at h
    exact absurd h (by simp [Except.isOk, Except.toBool])
  · exact ⟨a, s', rfl⟩

/-- Sequencing is associative. -/
lemma bind_assoc {γ : Type} (x : Effect σ ε α) (f : α → Effect σ ε β) (g : β → Effect σ ε γ) :
    x >>= f >>= g = x >>= fun a => f a >>= g := by
  funext s
  rcases hx : x s with ⟨e | a, s'⟩
  · rw [bind_of_error (bind_of_error hx), bind_of_error hx]
  · rw [bind_of_ok hx]
    rcases hf : f a s' with ⟨e | b, t⟩
    · rw [bind_of_error ((bind_of_ok hx).trans hf), bind_of_error hf]
    · rw [bind_of_ok ((bind_of_ok hx).trans hf), bind_of_ok hf]

instance : LawfulMonad (Effect σ ε) :=
  LawfulMonad.mk' _
    (fun x => by
      funext s
      show (match x s with | (.ok a, s') => (.ok a, s') | (.error e, s') => (.error e, s')) = x s
      rcases x s with ⟨e | a, s'⟩ <;> rfl)
    (fun _ _ => rfl) Effect.bind_assoc

/-- An exception ends a sequence. -/
@[simp] lemma raise_bind (e : ε) (f : α → Effect σ ε β) :
    (raise e : Effect σ ε α) >>= f = raise e := rfl

/-- What follows a computation that has left the state is run in that state. -/
lemma reply_bind {x : Effect σ ε α} {f : α → Effect σ ε β} {s : σ} (hx : (x s).2 = s) :
    ((x >>= f) s).1 = ((x s).1 >>= fun a => (f a s).1) := by
  rcases hreply : x s with ⟨e | a, s'⟩
  · rw [bind_of_error hreply]
    rfl
  · obtain rfl : s' = s := by rw [← hx, hreply]
    rw [bind_of_ok hreply]
    rfl

/-- A sequence of computations that leave the state leaves it. -/
lemma state_bind {x : Effect σ ε α} {f : α → Effect σ ε β} {s : σ} (hx : (x s).2 = s)
    (hf : ∀ a, (f a s).2 = s) : ((x >>= f) s).2 = s := by
  rcases hreply : x s with ⟨e | a, s'⟩
  · rw [bind_of_error hreply, ← hx, hreply]
  · obtain rfl : s' = s := by rw [← hx, hreply]
    rw [bind_of_ok hreply]
    exact hf a

/-- What is done to the value returned leaves the state alone. -/
lemma state_map (f : α → β) (x : Effect σ ε α) (s : σ) : ((f <$> x) s).2 = (x s).2 := by
  have hmap : (f <$> x) = x >>= fun a => pure (f a) := rfl
  rcases hx : x s with ⟨e | a, s'⟩
  · rw [hmap, bind_of_error hx]
  · rw [hmap, bind_of_ok hx]
    rfl

/-- A sequence of exception-valued steps returns when each step does. -/
lemma except_bind_eq_ok {x : Except ε α} {f : α → Except ε β} {b : β} :
    (x >>= f) = .ok b ↔ ∃ a, x = .ok a ∧ f a = .ok b := by
  cases x with
  | error e =>
      constructor
      · intro h
        exact absurd h (by simp [bind, Except.bind])
      · rintro ⟨a, ha, -⟩
        exact absurd ha (by simp)
  | ok a =>
      constructor
      · intro h
        exact ⟨a, rfl, h⟩
      · rintro ⟨a', ha, h⟩
        obtain rfl := Except.ok.inj ha
        exact h

/-- A sequence of exception-valued steps raises when one of them does. -/
lemma except_bind_eq_error {x : Except ε α} {f : α → Except ε β} {e : ε} :
    (x >>= f) = .error e ↔ x = .error e ∨ ∃ a, x = .ok a ∧ f a = .error e := by
  cases x with
  | error e' =>
      constructor
      · intro h
        obtain rfl := Except.error.inj h
        exact Or.inl rfl
      · rintro (h | ⟨a, ha, -⟩)
        · obtain rfl := Except.error.inj h
          rfl
        · exact absurd ha (by simp)
  | ok a =>
      constructor
      · intro h
        exact Or.inr ⟨a, rfl, h⟩
      · rintro (h | ⟨a', ha, h⟩)
        · exact absurd h (by simp)
        · obtain rfl := Except.ok.inj ha
          exact h

/-- Every exception a sequence of steps can raise is one of a kind, if those of its steps are. -/
lemma except_bind_raises {x : Except ε α} {f : α → Except ε β} {P : ε → Prop}
    (hx : ∀ e, x = .error e → P e) (hf : ∀ a e, f a = .error e → P e) {e : ε}
    (h : (x >>= f) = .error e) : P e := by
  rcases except_bind_eq_error.mp h with h | ⟨a, -, h⟩
  · exact hx e h
  · exact hf a e h

/-- The value of an exception-valued step, when it returns. -/
lemma except_toOption_eq_some {x : Except ε α} {a : α} : x.toOption = some a ↔ x = .ok a := by
  cases x with
  | error e => exact iff_of_false (by simp [Except.toOption]) (by simp)
  | ok b =>
      rw [Except.ok.injEq]
      exact Option.some_inj

/-- What a check raises that returns when its condition holds. -/
lemma eq_of_unless_eq_error {c : Prop} [Decidable c] {a : α} {err e : ε}
    (h : (if c then .ok a else .error err : Except ε α) = .error e) : e = err := by
  split at h
  · exact absurd h (by simp)
  · exact (Except.error.inj h).symm

/-- What a check raises that raises when its condition holds. -/
lemma eq_of_when_eq_error {c : Prop} [Decidable c] {a : α} {err e : ε}
    (h : (if c then .error err else .ok a : Except ε α) = .error e) : e = err := by
  split at h
  · exact (Except.error.inj h).symm
  · exact absurd h (by simp)

/-- A loop of exception-valued checks returns when every check does. -/
lemma except_forM_eq_ok {xs : List α} {check : α → Except ε Unit} :
    forM xs check = .ok () ↔ ∀ a ∈ xs, check a = .ok () := by
  induction xs with
  | nil => exact iff_of_true rfl fun _ h => absurd h List.not_mem_nil
  | cons a xs ih =>
      rw [List.forM_cons, except_bind_eq_ok, List.forall_mem_cons, ← ih]
      exact ⟨fun ⟨_, h⟩ => h, fun h => ⟨(), h⟩⟩

/-- A loop of exception-valued checks raises what one of them raises. -/
lemma exists_of_except_forM_eq_error {xs : List α} {check : α → Except ε Unit} {e : ε}
    (h : forM xs check = .error e) : ∃ a ∈ xs, check a = .error e := by
  induction xs with
  | nil => exact absurd h (by simp [pure, Except.pure])
  | cons a xs ih =>
      rw [List.forM_cons, except_bind_eq_error] at h
      rcases h with h | ⟨-, -, h⟩
      · exact ⟨a, List.mem_cons_self, h⟩
      · obtain ⟨b, hb, hraise⟩ := ih h
        exact ⟨b, List.mem_cons_of_mem a hb, hraise⟩

/-- A traversal returns what its steps return, item by item. -/
lemma except_mapM_eq_ok {f : α → Except ε β} {xs : List α} {ys : List β} :
    xs.mapM f = .ok ys ↔ List.Forall₂ (fun x y => f x = .ok y) xs ys := by
  induction xs generalizing ys with
  | nil =>
      rw [List.mapM_nil, List.forall₂_nil_left_iff]
      exact ⟨fun h => (Except.ok.inj h).symm, fun h => congrArg Except.ok h.symm⟩
  | cons x xs ih =>
      rw [List.mapM_cons, except_bind_eq_ok, List.forall₂_cons_left_iff]
      constructor
      · rintro ⟨y, hy, h⟩
        obtain ⟨ys', hys', h⟩ := except_bind_eq_ok.mp h
        exact ⟨y, ys', hy, ih.mp hys', (Except.ok.inj h).symm⟩
      · rintro ⟨y, ys', hy, hys', rfl⟩
        exact ⟨y, hy, except_bind_eq_ok.mpr ⟨ys', ih.mpr hys', rfl⟩⟩

/-- A filter whose tests all return keeps what they keep. -/
lemma except_filterM_eq_ok {f : α → Except ε Bool} {p : α → Bool} {xs : List α}
    (h : ∀ x ∈ xs, f x = .ok (p x)) : xs.filterM f = .ok (xs.filter p) := by
  have haux : ∀ acc, xs.filterAuxM f acc = .ok ((xs.filter p).reverse ++ acc) := by
    induction xs with
    | nil => exact fun acc => rfl
    | cons x xs ih =>
        obtain ⟨hx, hxs⟩ := List.forall_mem_cons.mp h
        intro acc
        rw [List.filterAuxM, hx]
        refine (ih hxs _).trans ?_
        cases hp : p x with
        | true => simp [hp]
        | false => simp [hp]
  unfold List.filterM
  rw [haux]
  simp [bind, Except.bind, pure, Except.pure]

/-- **What a filter keeps**, if all of its tests return. -/
lemma except_filterM_eq_ok_iff {f : α → Except ε Bool} {xs ys : List α} :
    xs.filterM f = .ok ys ↔ ∃ p : α → Bool, (∀ x ∈ xs, f x = .ok (p x)) ∧ ys = xs.filter p := by
  constructor
  · intro h
    have hall : ∀ x ∈ xs, ∃ b, f x = .ok b := by
      obtain ⟨zs, hzs, -⟩ := except_bind_eq_ok.mp h
      clear h
      generalize ([] : List α) = kept at hzs
      induction xs generalizing kept with
      | nil => exact fun _ hx => absurd hx List.not_mem_nil
      | cons x xs ih =>
          obtain ⟨b, hb, hrest⟩ := except_bind_eq_ok.mp hzs
          exact List.forall_mem_cons.mpr ⟨⟨b, hb⟩, ih _ hrest⟩
    have hp : ∀ x ∈ xs, f x = .ok ((f x).toOption.getD false) := by
      intro x hx
      obtain ⟨b, hb⟩ := hall x hx
      rw [hb]
      rfl
    exact ⟨_, hp, Except.ok.inj (h.symm.trans (except_filterM_eq_ok hp))⟩
  · rintro ⟨p, hp, rfl⟩
    exact except_filterM_eq_ok hp

/-- A filter returns when every test does. -/
lemma exists_except_filterM_iff {f : α → Except ε Bool} {xs : List α} :
    (∃ ys, xs.filterM f = .ok ys) ↔ ∀ x ∈ xs, ∃ b, f x = .ok b := by
  constructor
  · rintro ⟨ys, hys⟩ x hx
    obtain ⟨p, hp, -⟩ := except_filterM_eq_ok_iff.mp hys
    exact ⟨p x, hp x hx⟩
  · intro h
    refine ⟨_, except_filterM_eq_ok (p := fun x => (f x).toOption.getD false) fun x hx => ?_⟩
    obtain ⟨b, hb⟩ := h x hx
    rw [hb]
    rfl

/-- A filter after another is one filter, whose second test is made where the first is passed. -/
lemma except_filterM_and_eq_ok_iff {f g : α → Except ε Bool} {xs ys : List α} :
    xs.filterM (fun x => do if ← f x then g x else .ok false) = .ok ys ↔
      ∃ zs, xs.filterM f = .ok zs ∧ zs.filterM g = .ok ys := by
  constructor
  · intro h
    obtain ⟨r, hr, rfl⟩ := except_filterM_eq_ok_iff.mp h
    have hsplit : ∀ x ∈ xs, ∃ b, f x = .ok b ∧ (if b = true then g x else .ok false) = .ok (r x) :=
      fun x hx => except_bind_eq_ok.mp (hr x hx)
    have hp : ∀ x ∈ xs, f x = .ok ((f x).toOption.getD false) := by
      intro x hx
      obtain ⟨b, hb, -⟩ := hsplit x hx
      rw [hb]
      rfl
    have hr_and : xs.filter r = (xs.filter fun x => (f x).toOption.getD false).filter r := by
      rw [List.filter_filter]
      refine List.filter_congr fun x hx => ?_
      obtain ⟨b, hb, hlast⟩ := hsplit x hx
      rw [hb]
      cases b with
      | true => exact (Bool.and_true _).symm
      | false =>
          rw [if_neg Bool.false_ne_true] at hlast
          rw [← Except.ok.inj hlast]
          rfl
    refine ⟨_, except_filterM_eq_ok_iff.mpr ⟨_, hp, rfl⟩,
      except_filterM_eq_ok_iff.mpr ⟨r, fun x hx => ?_, hr_and⟩⟩
    obtain ⟨hmem, htrue⟩ := List.mem_filter.mp hx
    obtain ⟨b, hb, hlast⟩ := hsplit x hmem
    rw [hb] at htrue
    obtain rfl : b = true := htrue
    exact hlast
  · rintro ⟨zs, hzs, hys⟩
    obtain ⟨p, hp, rfl⟩ := except_filterM_eq_ok_iff.mp hzs
    obtain ⟨q, hq, rfl⟩ := except_filterM_eq_ok_iff.mp hys
    refine except_filterM_eq_ok_iff.mpr ⟨fun x => q x && p x, fun x hx => ?_, List.filter_filter⟩
    dsimp only
    rw [hp x hx]
    cases hpx : p x with
    | true =>
        rw [Bool.and_true]
        exact hq x (List.mem_filter.mpr ⟨hx, hpx⟩)
    | false =>
        rw [Bool.and_false]
        rfl

/-- A traversal returns when every step does. -/
lemma exists_except_mapM_iff {f : α → Except ε β} {xs : List α} :
    (∃ ys, xs.mapM f = .ok ys) ↔ ∀ x ∈ xs, ∃ y, f x = .ok y := by
  induction xs with
  | nil => exact iff_of_true ⟨[], rfl⟩ (by simp)
  | cons x xs ih =>
      rw [List.forall_mem_cons, ← ih]
      simp only [except_mapM_eq_ok, List.forall₂_cons_left_iff]
      constructor
      · rintro ⟨_, y, ys, hy, hys, rfl⟩
        exact ⟨⟨y, hy⟩, ys, hys⟩
      · rintro ⟨⟨y, hy⟩, ys, hys⟩
        exact ⟨y :: ys, y, ys, hy, hys, rfl⟩

/-- A loop whose turns each return or raise whatever was gathered before returns when every turn
does. -/
lemma exists_except_foldlM_iff {f : β → α → Except ε β} {P : α → Prop}
    (hturn : ∀ b a, (∃ b', f b a = .ok b') ↔ P a) {xs : List α} {b : β} :
    (∃ b', xs.foldlM f b = .ok b') ↔ ∀ a ∈ xs, P a := by
  induction xs generalizing b with
  | nil => exact iff_of_true ⟨b, rfl⟩ (by simp)
  | cons x xs ih =>
      rw [List.forall_mem_cons, ← hturn b x]
      simp only [List.foldlM_cons, except_bind_eq_ok]
      constructor
      · rintro ⟨b', c, hc, hrest⟩
        exact ⟨⟨c, hc⟩, ih.mp ⟨b', hrest⟩⟩
      · rintro ⟨⟨c, hc⟩, hrest⟩
        obtain ⟨b', hb'⟩ := ih.mpr hrest
        exact ⟨b', c, hc, hb'⟩

/-! ## Weakest preconditions -/

/-- Started in `s`, the computation returns a value satisfying `Q` or raises an exception
satisfying `E`, each in the state left behind. -/
def wp (x : Effect σ ε α) (Q : α → σ → Prop) (E : ε → σ → Prop) (s : σ) : Prop :=
  match x s with
  | (.ok a, s') => Q a s'
  | (.error e, s') => E e s'

variable {x : Effect σ ε α} {Q Q' : α → σ → Prop} {E E' : ε → σ → Prop} {s s' : σ}

lemma wp_of_ok {a : α} (h : x s = (.ok a, s')) : wp x Q E s ↔ Q a s' := by
  rw [wp, h]

lemma wp_of_error {e : ε} (h : x s = (.error e, s')) : wp x Q E s ↔ E e s' := by
  rw [wp, h]

@[simp] lemma wp_pure (a : α) : wp (pure a : Effect σ ε α) Q E s ↔ Q a s := Iff.rfl

@[simp] lemma wp_raise (e : ε) : wp (raise e : Effect σ ε α) Q E s ↔ E e s := Iff.rfl

@[simp] lemma wp_gets (f : σ → α) : wp (gets f : Effect σ ε α) Q E s ↔ Q (f s) s := Iff.rfl

@[simp] lemma wp_modify {Q : Unit → σ → Prop} (f : σ → σ) :
    wp (modify f : Effect σ ε Unit) Q E s ↔ Q () (f s) := Iff.rfl

@[simp] lemma wp_ofExcept_ok (a : α) : wp (ofExcept (.ok a) : Effect σ ε α) Q E s ↔ Q a s :=
  Iff.rfl

lemma wp_ofExcept {y : Except ε α} :
    wp (ofExcept y) Q E s ↔ (∀ a, y = .ok a → Q a s) ∧ ∀ e, y = .error e → E e s := by
  cases y with
  | ok a =>
      constructor
      · intro h
        refine ⟨fun b hb => ?_, fun e he => absurd he (by simp)⟩
        obtain rfl := Except.ok.inj hb
        exact h
      · intro h
        exact h.1 a rfl
  | error e =>
      constructor
      · intro h
        refine ⟨fun a ha => absurd ha (by simp), fun e' he => ?_⟩
        obtain rfl := Except.error.inj he
        exact h
      · intro h
        exact h.2 e rfl

/-- The sequencing rule: what the first computation must establish is the weakest
precondition of the second. -/
@[simp] lemma wp_bind {f : α → Effect σ ε β} {Q : β → σ → Prop} :
    wp (x >>= f) Q E s ↔ wp x (fun a => wp (f a) Q E) E s := by
  rcases h : x s with ⟨_ | a, s'⟩
  · rw [wp_of_error h, wp_of_error (bind_of_error h)]
  · rw [wp_of_ok h, wp, bind_of_ok h, wp]

@[simp] lemma wp_map {f : α → β} {Q : β → σ → Prop} :
    wp (f <$> x) Q E s ↔ wp x (fun a => Q (f a)) E s :=
  wp_bind

@[simp] lemma wp_attempt {Q : Except ε α → σ → Prop} :
    wp (attempt x) Q E s ↔ wp x (fun a => Q (.ok a)) (fun e => Q (.error e)) s := by
  rcases h : x s with ⟨e | a, s'⟩
  · have hcaught : attempt x s = (.ok (.error e), s') := by rw [attempt, h]
    rw [wp_of_ok hcaught, wp_of_error h]
  · have hreturned : attempt x s = (.ok (.ok a), s') := by rw [attempt, h]
    rw [wp_of_ok hreturned, wp_of_ok h]

-- from here on a precondition is computed by the equations above, never by evaluation
attribute [irreducible] wp

/-- The rule of consequence. -/
lemma wp.mono (h : wp x Q E s) (hQ : ∀ a s', Q a s' → Q' a s') (hE : ∀ e s', E e s' → E' e s') :
    wp x Q' E' s := by
  rcases hx : x s with ⟨e | a, s'⟩
  · exact (wp_of_error hx).mpr (hE e s' ((wp_of_error hx).mp h))
  · exact (wp_of_ok hx).mpr (hQ a s' ((wp_of_ok hx).mp h))

/-- A weakest precondition read at a computation known to have returned. -/
lemma wp.of_ok (h : wp x Q E s) {a : α} (hx : x s = (.ok a, s')) : Q a s' :=
  (wp_of_ok hx).mp h

/-- A weakest precondition read at a computation known to have raised. -/
lemma wp.of_error (h : wp x Q E s) {e : ε} (hx : x s = (.error e, s')) : E e s' :=
  (wp_of_error hx).mp h

/-- What is known of a computation in two ways. -/
lemma wp.and (h : wp x Q E s) (h' : wp x Q' E' s) :
    wp x (fun a t => Q a t ∧ Q' a t) (fun e t => E e t ∧ E' e t) s := by
  rcases hx : x s with ⟨e | a, t⟩
  · exact (wp_of_error hx).mpr ⟨h.of_error hx, h'.of_error hx⟩
  · exact (wp_of_ok hx).mpr ⟨h.of_ok hx, h'.of_ok hx⟩

/-- An exact return, read off a precondition that admits nothing else. -/
lemma eq_ok_of_wp {a : α} (h : wp x (fun b t => b = a ∧ t = s') (fun _ _ => False) s) :
    x s = (.ok a, s') := by
  rcases hx : x s with ⟨e | b, t⟩
  · exact (h.of_error hx).elim
  · obtain ⟨rfl, rfl⟩ := h.of_ok hx
    rfl

/-- A computation none of whose returns is possible raises. -/
lemma wp.raises (h : wp x (fun _ _ => False) E s) : ∃ e, (x s).1 = .error e := by
  rcases hx : x s with ⟨e | a, s'⟩
  · exact ⟨e, rfl⟩
  · exact (h.of_ok hx).elim

/-- One postcondition on the state, whichever way the computation ends. -/
lemma wp.state {P : σ → Prop} (h : wp x (fun _ => P) (fun _ => P) s) : P (x s).2 := by
  rcases hx : x s with ⟨e | a, s'⟩
  · exact h.of_error hx
  · exact h.of_ok hx

/-- The result and the state of a computation, read together. -/
lemma wp.outcome {P : Except ε α → σ → Prop}
    (h : wp x (fun a => P (.ok a)) (fun e => P (.error e)) s) : P (x s).1 (x s).2 := by
  rcases hx : x s with ⟨e | a, s'⟩
  · exact h.of_error hx
  · exact h.of_ok hx

/-! ## What a computation does not depend on -/

/-- Started in related states, the computation ends the same way, in related states. -/
def Respects (R : σ → σ → Prop) (x : Effect σ ε α) : Prop :=
  ∀ s s', R s s' → (x s).1 = (x s').1 ∧ R (x s).2 (x s').2

section Respects

variable {R : σ → σ → Prop} {x : Effect σ ε α}

lemma respects_pure (a : α) : Respects R (pure a : Effect σ ε α) := fun _ _ h => ⟨rfl, h⟩

lemma respects_raise (e : ε) : Respects R (raise e : Effect σ ε α) := fun _ _ h => ⟨rfl, h⟩

lemma respects_ofExcept (y : Except ε α) : Respects R (ofExcept y : Effect σ ε α) :=
  fun _ _ h => ⟨rfl, h⟩

/-- A reading respects a relation under which it reads the same. -/
lemma respects_gets {f : σ → α} (hf : ∀ s s', R s s' → f s = f s') :
    Respects R (gets f : Effect σ ε α) :=
  fun s s' h => ⟨congrArg Except.ok (hf s s' h), h⟩

/-- A write respects a relation it preserves. -/
lemma respects_modify {f : σ → σ} (hf : ∀ s s', R s s' → R (f s) (f s')) :
    Respects R (modify f : Effect σ ε Unit) :=
  fun s s' h => ⟨rfl, hf s s' h⟩

lemma Respects.bind {f : α → Effect σ ε β} (hx : Respects R x) (hf : ∀ a, Respects R (f a)) :
    Respects R (x >>= f) := by
  intro s s' h
  obtain ⟨hreply, hstate⟩ := hx s s' h
  rcases hs : x s with ⟨e | a, t⟩
  · have hs' : x s' = (.error e, (x s').2) := Prod.ext (by rw [← hreply, hs]) rfl
    rw [bind_of_error hs, bind_of_error hs']
    rw [hs] at hstate
    exact ⟨rfl, hstate⟩
  · have hs' : x s' = (.ok a, (x s').2) := Prod.ext (by rw [← hreply, hs]) rfl
    rw [bind_of_ok hs, bind_of_ok hs']
    rw [hs] at hstate
    exact hf a t (x s').2 hstate

end Respects

/-! ## What a computation maintains -/

/-- The computation keeps a property of the state, whether it returns or raises. -/
def Maintains (P : σ → Prop) (x : Effect σ ε α) : Prop := ∀ s, P s → P (x s).2

section Maintains

variable {P : σ → Prop} {x : Effect σ ε α}

/-- What a weakest precondition shows of every state with the property. -/
lemma maintains_of_wp (h : ∀ s, P s → wp x (fun _ => P) (fun _ => P) s) : Maintains P x :=
  fun s hs => (h s hs).state

/-- What is maintained holds however the computation ends. -/
lemma Maintains.wp (hx : Maintains P x) {s : σ} (hs : P s) :
    wp x (fun _ => P) (fun _ => P) s := by
  have hafter := hx s hs
  rcases h : x s with ⟨e | a, s'⟩
  · rw [h] at hafter
    exact (wp_of_error h).mpr hafter
  · rw [h] at hafter
    exact (wp_of_ok h).mpr hafter

lemma maintains_pure (a : α) : Maintains P (pure a : Effect σ ε α) := fun _ h => h

lemma maintains_raise (e : ε) : Maintains P (raise e : Effect σ ε α) := fun _ h => h

lemma maintains_gets (f : σ → α) : Maintains P (gets f : Effect σ ε α) := fun _ h => h

lemma maintains_ofExcept (y : Except ε α) : Maintains P (ofExcept y : Effect σ ε α) :=
  fun _ h => h

lemma maintains_modify {f : σ → σ} (hf : ∀ s, P s → P (f s)) :
    Maintains P (modify f : Effect σ ε Unit) := hf

lemma Maintains.bind {f : α → Effect σ ε β} (hx : Maintains P x) (hf : ∀ a, Maintains P (f a)) :
    Maintains P (x >>= f) := by
  intro s hs
  have hnext : P (x s).2 := hx s hs
  rcases h : x s with ⟨e | a, s'⟩
  · rw [h] at hnext
    rw [bind_of_error h]
    exact hnext
  · rw [h] at hnext
    rw [bind_of_ok h]
    exact hf a s' hnext

lemma Maintains.map {f : α → β} (hx : Maintains P x) : Maintains P (f <$> x) :=
  hx.bind fun a => maintains_pure (f a)

/-- What follows an exception-valued step may use the value it returned. -/
lemma maintains_ofExcept_bind {y : Except ε α} {f : α → Effect σ ε β}
    (hf : ∀ a, y = .ok a → Maintains P (f a)) : Maintains P (ofExcept y >>= f) := by
  cases y with
  | error e => exact maintains_raise e
  | ok a => exact hf a rfl

/-- What a computation does beside the state it works on does not matter. -/
lemma Maintains.second {ρ : Type} (hx : Maintains P x) :
    Maintains (fun p : ρ × σ => P p.2) (second x) := fun p hp => hx p.2 hp

lemma Maintains.within {ρ : Type} {r : ρ} {y : Effect (ρ × σ) ε α}
    (hy : Maintains (fun p : ρ × σ => P p.2) y) : Maintains P (within r y) :=
  fun s hs => hy (r, s) hs

end Maintains

end Effect

import Waywarden.System.ConcurrentCreate

/-!
# Tasks created concurrently

`create_task` checks that its id is free and then saves with a repository that updates whatever it
finds under the id.  Between the check and the save another call may settle on the same id and
save first; the later save then finds that task and overwrites it, and both calls return one id
(`not_keepsCreated_same_session`).  A session id with trailing blanks has the same effect with no
concurrency at all, since the task's constructor strips the id after the check.

Nothing else goes wrong: as long as no save finds a task under its id, the ids of the calls that
returned are distinct and every task stays as it was created (`keepsCreated_of_unclaimed`).  A
collision seen only by the `INSERT` raises and leaves the stored task alone.
-/

namespace Waywarden.ConcurrentCreate

open Machine EATaskService

variable {ι : Type}

/-- The stored task has the title and the objective of the one created. -/
def StoredAs (s : Store) (task : Task) : Prop :=
  ∃ row, s.task? task.id.val = some row ∧ row.title = task.title ∧ row.objective = task.objective

/-- No task is overwritten at creation: the calls that returned have distinct ids, and the tasks
created, before the run or in it, are stored with their own title and objective. -/
structure KeepsCreated (s : Store) (w : World ι) : Prop where
  distinct : ∀ i j id id' task task', i ≠ j → w.phase i = .returned id task →
    w.phase j = .returned id' task' → id ≠ id'
  stored : ∀ i task, (w.phase i).created = some task → StoredAs w.store task
  before : ∀ id task, s.task? id = some task → StoredAs w.store task

variable (calls : ι → Env × CreateTaskRequest)

/-- The call is about to look its id up for saving, and a task is stored there. -/
def findsClaimed (w : World ι) (i : ι) : Bool :=
  match w.phase i with
  | .chosen id =>
      match buildTask (calls i).1 (calls i).2 id with
      | .ok task => (w.store.task? task.id.val).isSome
      | .error _ => false
  | _ => false

/-! ## The invariant -/

/-- The id a call has chosen, once its record is built. -/
def Phase.built : Phase → Option (String × Task)
  | .looked id task _ | .saved id task | .returned id task => some (id, task)
  | _ => none

/-- What holds along a run in which every save finds its id unclaimed. -/
structure Unharmed (s : Store) (w : World ι) : Prop where
  fresh : ∀ i id task existing, w.phase i = .looked id task existing → existing = false
  keyed : ∀ i id task, (w.phase i).built = some (id, task) → task.id.val = strip id
  stored : ∀ i task, (w.phase i).created = some task → w.store.task? task.id.val = some task
  apart : ∀ i j task task', i ≠ j → (w.phase i).created = some task →
    (w.phase j).created = some task' → task.id ≠ task'.id
  before : ∀ id task, s.task? id = some task → w.store.task? id = some task

lemma unharmed_start (s : Store) : Unharmed s (World.start s : World ι) where
  fresh := by intro i id task existing h; exact absurd h (by simp [World.start])
  keyed := by intro i id task h; exact absurd h (by simp [World.start, Phase.built])
  stored := by intro i task h; exact absurd h (by simp [World.start, Phase.created])
  apart := by intro i j task task' _ h; exact absurd h (by simp [World.start, Phase.created])
  before := fun _ _ h => h

lemma Unharmed.keepsCreated {s : Store} {w : World ι} (h : Unharmed s w) : KeepsCreated s w where
  distinct := by
    intro i j id id' task task' hne hi hj hid
    have hkey := h.keyed i id task (by rw [hi]; rfl)
    have hkey' := h.keyed j id' task' (by rw [hj]; rfl)
    exact h.apart i j task task' hne (by rw [hi]; rfl) (by rw [hj]; rfl)
      (Subtype.ext (by rw [hkey, hkey', hid]))
  stored := fun i task hi => ⟨task, h.stored i task hi, rfl, rfl⟩
  before := by
    intro id task hid
    refine ⟨task, ?_, rfl, rfl⟩
    rw [Store.id_of_task? hid]
    exact h.before id task hid

variable [DecidableEq ι]

/-- A step that leaves the tasks and creates nothing new. -/
lemma Unharmed.goTo {s s' : Store} {w : World ι} (h : Unharmed s w) {i : ι} {p : Phase}
    (htasks : s'.tasks = w.store.tasks) (hlooked : ∀ id task, p ≠ .looked id task true)
    (hkeyed : ∀ id task, p.built = some (id, task) → task.id.val = strip id)
    (hcreated : p.created = (w.phase i).created) : Unharmed s (w.goTo i s' p) := by
  have htask : ∀ id, s'.task? id = w.store.task? id := by
    intro id
    rw [Store.task?, htasks, Store.task?]
  have hcreated' : ∀ j, ((w.goTo i s' p).phase j).created = (w.phase j).created := by
    intro j
    by_cases hj : j = i
    · rw [hj, phase_goTo_self, hcreated]
    · rw [phase_goTo_ne w hj]
  constructor
  · intro j id task existing hphase
    by_cases hj : j = i
    · rw [hj, phase_goTo_self] at hphase
      cases existing with
      | false => rfl
      | true => exact absurd hphase (hlooked id task)
    · rw [phase_goTo_ne w hj] at hphase
      exact h.fresh j id task existing hphase
  · intro j id task hphase
    by_cases hj : j = i
    · rw [hj, phase_goTo_self] at hphase
      exact hkeyed id task hphase
    · rw [phase_goTo_ne w hj] at hphase
      exact h.keyed j id task hphase
  · intro j task hphase
    rw [store_goTo, htask]
    exact h.stored j task (by rw [← hcreated']; exact hphase)
  · intro j k task task' hne hphase hphase'
    rw [hcreated'] at hphase hphase'
    exact h.apart j k task task' hne hphase hphase'
  · intro id task hid
    rw [store_goTo, htask]
    exact h.before id task hid

/-- A step that inserts a task under a free id. -/
lemma Unharmed.insert {s : Store} {w : World ι} (h : Unharmed s w) {i : ι} {id : String}
    {task : Task} (hfree : w.store.task? task.id.val = none) (hkey : task.id.val = strip id) :
    Unharmed s (w.goTo i (w.store.putTask task) (.saved id task)) := by
  -- whatever was stored is stored under another id
  have hother : ∀ key row, w.store.task? key = some row →
      (w.store.putTask task).task? key = some row := by
    intro key row hrow
    have hne : key ≠ task.id.val := by
      rintro rfl
      exact absurd (hfree.symm.trans hrow) (by simp)
    rw [Store.task?_putTask_ne _ _ hne, hrow]
  have hapart : ∀ j task', j ≠ i → (w.phase j).created = some task' → task'.id ≠ task.id := by
    intro j task' _ hj heq
    exact absurd (hfree.symm.trans (heq ▸ h.stored j task' hj)) (by simp)
  constructor
  · intro j id' task' existing hphase
    by_cases hj : j = i
    · rw [hj, phase_goTo_self] at hphase
      exact absurd hphase (by simp)
    · rw [phase_goTo_ne w hj] at hphase
      exact h.fresh j id' task' existing hphase
  · intro j id' task' hphase
    by_cases hj : j = i
    · rw [hj, phase_goTo_self] at hphase
      obtain ⟨rfl, rfl⟩ := Prod.mk.inj (Option.some.inj hphase)
      exact hkey
    · rw [phase_goTo_ne w hj] at hphase
      exact h.keyed j id' task' hphase
  · intro j task' hphase
    rw [store_goTo]
    by_cases hj : j = i
    · rw [hj, phase_goTo_self] at hphase
      obtain rfl := Option.some.inj hphase
      exact Store.task?_putTask_self _ _
    · rw [phase_goTo_ne w hj] at hphase
      exact hother _ _ (h.stored j task' hphase)
  · intro j k task₁ task₂ hne hphase hphase'
    by_cases hj : j = i
    · have hk : k ≠ i := fun hk => hne (hj.trans hk.symm)
      rw [hj, phase_goTo_self] at hphase
      rw [phase_goTo_ne w hk] at hphase'
      obtain rfl := Option.some.inj hphase
      exact (hapart k task₂ hk hphase').symm
    · rw [phase_goTo_ne w hj] at hphase
      by_cases hk : k = i
      · rw [hk, phase_goTo_self] at hphase'
        obtain rfl := Option.some.inj hphase'
        exact hapart j task₁ hj hphase
      · rw [phase_goTo_ne w hk] at hphase'
        exact h.apart j k task₁ task₂ hne hphase hphase'
  · intro key row hrow
    exact hother key row (h.before key row hrow)

/-- **One step.**  A step that finds its id unclaimed harms no task. -/
lemma unharmed_next {s : Store} {w : World ι} {i : ι} (h : Unharmed s w)
    (hunclaimed : findsClaimed calls w i = false) : Unharmed s ((creators calls).next w i) := by
  rw [next_creators]
  rcases hphase : w.phase i with _ | counter | id | ⟨id, task, existing⟩ | ⟨id, task⟩ |
    ⟨id, task⟩ | made
  · simp only [advance]
    split <;> exact h.goTo rfl (by simp) (by simp [Phase.built]) (by rw [hphase]; rfl)
  · simp only [advance]
    split <;> exact h.goTo rfl (by simp) (by simp [Phase.built]) (by rw [hphase]; rfl)
  · cases hbuilt : buildTask (calls i).1 (calls i).2 id with
    | error e =>
        simp only [advance, hbuilt]
        exact h.goTo rfl (by simp) (by simp [Phase.built]) (by rw [hphase]; rfl)
    | ok task =>
        have hfree : w.store.task? task.id.val = none := by
          simpa [findsClaimed, hphase, hbuilt] using hunclaimed
        simp only [advance, hbuilt, hfree, Option.isSome_none]
        refine h.goTo rfl (by simp) ?_ (by rw [hphase]; rfl)
        intro id' task' heq
        obtain ⟨rfl, rfl⟩ := Prod.mk.inj (Option.some.inj heq)
        exact (Task.fields_of_new hbuilt).1
  · obtain rfl := h.fresh i id task existing hphase
    have hkey := h.keyed i id task (by rw [hphase]; rfl)
    by_cases htaken : (w.store.task? task.id.val).isSome = true
    · simp only [advance, htaken, if_true]
      exact h.goTo rfl (by simp) (by simp [Phase.built]) (by rw [hphase]; rfl)
    · have hfree : w.store.task? task.id.val = none := by simpa using htaken
      simp only [advance, htaken, if_false, Bool.false_eq_true, insertTask_eq hfree]
      exact h.insert hfree hkey
  · have htasks := tasks_emitCreated w.store (calls i).1 (calls i).2 id
    have hkey := h.keyed i id task (by rw [hphase]; rfl)
    rw [advance]
    rcases hemit : emitCreated (calls i).1 (calls i).2 id w.store with ⟨e | u, s'⟩
    · rw [hemit] at htasks
      exact h.goTo htasks (by simp) (by simp [Phase.built]) (by rw [hphase]; rfl)
    · rw [hemit] at htasks
      refine h.goTo htasks (by simp) ?_ (by rw [hphase]; rfl)
      intro id' task' heq
      obtain ⟨rfl, rfl⟩ := Prod.mk.inj (Option.some.inj heq)
      exact hkey
  · refine h.goTo rfl (by simp [advance]) ?_ (by rw [hphase]; rfl)
    intro id' task' heq
    exact h.keyed i id' task' (by rw [hphase]; exact heq)
  · exact h.goTo rfl (by simp [advance]) (by simp [advance, Phase.built]) (by rw [hphase]; rfl)

/-- **Tasks created concurrently.**  If no save of the interleaving finds a task under its id, no
task is overwritten: the ids returned are distinct, and every task is stored as it was created.  A
call that runs alone settles on its id after at most one counted look-up more than there are
tasks. -/
theorem keepsCreated_of_unclaimed {s : Store} {schedule : List ι}
    (h : (creators calls).Meets (fun w i => findsClaimed calls w i = false) (World.start s)
      schedule) :
    (∀ t ∈ (creators calls).trace (World.start s) schedule, KeepsCreated s t.after) ∧
      ∀ (s' : Store) (i : ι), ∃ n ≤ s'.tasks.length + 1,
        ((creators calls).run (World.start s') (List.replicate (n + 1) i)).phase i =
          .chosen (chosenId s' (calls i).2) := by
  constructor
  · intro t ht
    exact ((creators calls).invariant_along (I := Unharmed s)
      (fun w i hw hc => unharmed_next calls hw hc) (unharmed_start s) h t ht).keepsCreated
  · intro s' i
    obtain ⟨n, hn, hrun⟩ := run_search calls (w := World.start s') (i := i) rfl
    refine ⟨n, hn, ?_⟩
    rw [hrun, phase_goTo_self]
    rfl

/-- Two calls, the second with the given session id. -/
def twoCalls (sessionId : String) : Bool → Env × CreateTaskRequest
  | false => (⟨fun _ => 0, fun _ => "1"⟩, { sessionId := "s", title := "A", objective := "O" })
  | true => (⟨fun _ => 0, fun _ => "2"⟩,
      { sessionId := sessionId, title := "B", objective := "O" })

/-- Both calls look their base id up before either saves. -/
def lookupsFirst : List Bool := [false, true, false, false, false, true, true, true]

/-- Two calls for different sessions. -/
theorem keepsCreated_two_sessions :
    (creators (twoCalls "s2")).Meets (fun w i => findsClaimed (twoCalls "s2") w i = false)
        (World.start Store.empty) lookupsFirst ∧
      (∀ t ∈ (creators (twoCalls "s2")).trace (World.start Store.empty) lookupsFirst,
        KeepsCreated Store.empty t.after) ∧
      ∀ (s' : Store) (i : Bool), ∃ n ≤ s'.tasks.length + 1,
        ((creators (twoCalls "s2")).run (World.start s') (List.replicate (n + 1) i)).phase i =
          .chosen (chosenId s' (twoCalls "s2" i).2) := by
  have h : (creators (twoCalls "s2")).Meets (fun w i => findsClaimed (twoCalls "s2") w i = false)
      (World.start Store.empty) lookupsFirst :=
    (meets_iff_trace _).mpr (by decide +kernel)
  exact ⟨h, keepsCreated_of_unclaimed (twoCalls "s2") h⟩

/-- Two calls for one session, run side by side: both return one id, and the second task is
stored in place of the first. -/
theorem not_keepsCreated_same_session :
    ¬ ∀ t ∈ (creators (twoCalls "s")).trace (World.start Store.empty) lookupsFirst,
      KeepsCreated Store.empty t.after := by
  intro h
  have hlast := (h _ (List.getLast_mem (l := (creators (twoCalls "s")).trace
    (World.start Store.empty) lookupsFirst) (by simp [lookupsFirst]))).stored false
  obtain ⟨row, hrow, htitle, -⟩ := hlast _ rfl
  have hstored := congrArg (Option.map fun row : Task => row.title.val) hrow
  rw [Option.map_some, htitle] at hstored
  exact absurd hstored (by decide +kernel)

end Waywarden.ConcurrentCreate

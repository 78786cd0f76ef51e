import Waywarden.System.RunMachine
import Waywarden.System.EntryMachine

/-!
# Every log belongs to a created run

A log should be that of a stored run and start with `run.created`, once.  `start` sees to that, and
the other entry points keep it where it holds; but none of them looks for the row of the run it
names, and where the log of that run is still empty they are the ones who start it.

`Strays` is such a call, and `createdRuns_push` the reason why it is the only kind to avoid.
-/

namespace Waywarden

open Machine

/-- The run has a row, and its log starts with its one `run.created`, numbered `1`. -/
structure WellCreated (s : Store) (runId : String) : Prop where
  row : (s.run? runId).isSome = true
  first : ∃ e rest, s.log runId = e :: rest ∧ e.seq = 1 ∧ e.type = .runCreated ∧
    ∀ x ∈ rest, x.type ≠ .runCreated

/-- Every run that has an event is a created one. -/
def CreatedRuns (s : Store) : Prop := ∀ runId, s.log runId ≠ [] → WellCreated s runId

/-- The call comes to append to the log of a run that is not there: the log is empty, or, when the
event is a chat's `run.created`, it is not, or the run has no row. -/
def Strays (s : Store) (c : EntryCall) : Prop :=
  ∃ runId, c.target s = some runId ∧
    match c with
    | .chat .. => ¬ ((s.run? runId).isSome = true ∧ s.log runId = [])
    | _ => s.log runId = []

/-! ## One append -/

section

variable {s : Store} {e : RunEvent}

/-- What is appended to an empty log is numbered `1`. -/
lemma seq_stamp_of_empty (h : s.log e.runId = []) : (s.stamp e).seq = 1 := by
  rw [Store.stamp_seq, Store.latestSeq, h]
  rfl

lemma WellCreated.push_of_ne {runId : String} (hne : e.runId ≠ runId) :
    WellCreated (s.push (s.stamp e)) runId ↔ WellCreated s runId := by
  have hlog : (s.push (s.stamp e)).log runId = s.log runId :=
    Store.log_push_ne s (s.stamp e) hne
  constructor
  · rintro ⟨hrow, hfirst⟩
    rw [hlog] at hfirst
    exact ⟨hrow, hfirst⟩
  · rintro ⟨hrow, hfirst⟩
    refine ⟨hrow, ?_⟩
    rw [hlog]
    exact hfirst

/-- The first event of a log. -/
lemma WellCreated.push_of_empty (hempty : s.log e.runId = []) :
    WellCreated (s.push (s.stamp e)) e.runId ↔
      (s.run? e.runId).isSome = true ∧ e.type = .runCreated := by
  have hlog : (s.push (s.stamp e)).log e.runId = [s.stamp e] := by
    rw [Store.log_push, if_pos (Store.stamp_runId s e), hempty, List.nil_append]
  constructor
  · rintro ⟨hrow, first, rest, hsplit, -, htype, -⟩
    rw [hlog] at hsplit
    obtain ⟨rfl, -⟩ := List.cons_eq_cons.mp hsplit
    exact ⟨hrow, htype⟩
  · rintro ⟨hrow, htype⟩
    refine ⟨hrow, s.stamp e, [], hlog, seq_stamp_of_empty hempty, ?_, fun x hx => ?_⟩
    · rw [Store.stamp_type]
      exact htype
    · exact absurd hx List.not_mem_nil

/-- A later event of a log. -/
lemma WellCreated.push_of_nonempty (hne : s.log e.runId ≠ []) :
    WellCreated (s.push (s.stamp e)) e.runId ↔
      WellCreated s e.runId ∧ e.type ≠ .runCreated := by
  have hlog : (s.push (s.stamp e)).log e.runId = s.log e.runId ++ [s.stamp e] := by
    rw [Store.log_push, if_pos (Store.stamp_runId s e)]
  constructor
  · rintro ⟨hrow, first, rest, hsplit, hseq, htype, hothers⟩
    obtain ⟨first', rest', hold⟩ := List.exists_cons_of_ne_nil hne
    rw [hlog, hold, List.cons_append] at hsplit
    obtain ⟨rfl, rfl⟩ := List.cons_eq_cons.mp hsplit
    refine ⟨⟨hrow, first', rest', hold, hseq, htype, fun x hx => ?_⟩, ?_⟩
    · exact hothers x (List.mem_append_left _ hx)
    · exact hothers (s.stamp e) (List.mem_append_right _ List.mem_cons_self)
  · rintro ⟨⟨hrow, first, rest, hsplit, hseq, htype, hothers⟩, hlater⟩
    refine ⟨hrow, first, rest ++ [s.stamp e], ?_, hseq, htype, fun x hx => ?_⟩
    · rw [hlog, hsplit, List.cons_append]
    · rcases List.mem_append.mp hx with hx | hx
      · exact hothers x hx
      · obtain rfl := List.mem_singleton.mp hx
        exact hlater

/-- **One append.**  It keeps every log that of a created run exactly when the run has a row and
the event is a `run.created` where the log is empty and nowhere else. -/
lemma createdRuns_push : CreatedRuns (s.push (s.stamp e)) ↔
    CreatedRuns s ∧ (s.run? e.runId).isSome = true ∧
      (e.type = .runCreated ↔ s.log e.runId = []) := by
  have hpushed : (s.push (s.stamp e)).log e.runId ≠ [] := by
    rw [Store.log_push, if_pos (Store.stamp_runId s e)]
    simp
  have hothers : ∀ runId, e.runId ≠ runId →
      ((s.push (s.stamp e)).log runId ≠ [] → WellCreated (s.push (s.stamp e)) runId) =
        (s.log runId ≠ [] → WellCreated s runId) := by
    intro runId hne
    rw [WellCreated.push_of_ne hne, Store.log_push_ne s (s.stamp e) hne]
  by_cases hempty : s.log e.runId = []
  · constructor
    · intro h
      obtain ⟨hrow, htype⟩ := (WellCreated.push_of_empty hempty).mp (h e.runId hpushed)
      refine ⟨fun runId hne => ?_, hrow, fun _ => hempty, fun _ => htype⟩
      have hother : e.runId ≠ runId := by
        rintro rfl
        exact hne hempty
      exact (hothers runId hother).mp (h runId) hne
    · rintro ⟨h, hrow, htype⟩ runId hne
      rcases eq_or_ne e.runId runId with rfl | hother
      · exact (WellCreated.push_of_empty hempty).mpr ⟨hrow, htype.mpr hempty⟩
      · exact (hothers runId hother).mpr (h runId) hne
  · constructor
    · intro h
      obtain ⟨hold, htype⟩ := (WellCreated.push_of_nonempty hempty).mp (h e.runId hpushed)
      refine ⟨fun runId hne => ?_, hold.row, fun h => absurd h htype, fun h => absurd h hempty⟩
      rcases eq_or_ne e.runId runId with rfl | hother
      · exact hold
      · exact (hothers runId hother).mp (h runId) hne
    · rintro ⟨h, -, htype⟩ runId hne
      rcases eq_or_ne e.runId runId with rfl | hother
      · exact (WellCreated.push_of_nonempty hempty).mpr
          ⟨h e.runId hempty, fun hcreated => hempty (htype.mp hcreated)⟩
      · exact (hothers runId hother).mpr (h runId) hne

lemma createdRuns_of_same {s' : Store} (h : SameLogs s s') : CreatedRuns s' ↔ CreatedRuns s := by
  have hlog : ∀ runId, s'.log runId = s.log runId := fun runId => by
    rw [Store.log, h.2, Store.log]
  have hrun : ∀ runId, s'.run? runId = s.run? runId := fun runId => by
    rw [Store.run?, h.1, Store.run?]
  constructor
  · intro hs' runId hne
    obtain ⟨hrow, hfirst⟩ := hs' runId (by rw [hlog]; exact hne)
    rw [hrun] at hrow
    rw [hlog] at hfirst
    exact ⟨hrow, hfirst⟩
  · intro hs runId hne
    obtain ⟨hrow, hfirst⟩ := hs runId (by rw [← hlog]; exact hne)
    exact ⟨by rw [hrun]; exact hrow, by rw [hlog]; exact hfirst⟩

/-- An event other than `run.created` may be appended where there is a log. -/
lemma createdRuns_push_later (htype : e.type ≠ .runCreated) :
    CreatedRuns (s.push (s.stamp e)) ↔ CreatedRuns s ∧ s.log e.runId ≠ [] := by
  rw [createdRuns_push]
  constructor
  · rintro ⟨h, -, hiff⟩
    exact ⟨h, fun hempty => htype (hiff.mpr hempty)⟩
  · rintro ⟨h, hne⟩
    exact ⟨h, (h e.runId hne).row, fun hcreated => absurd hcreated htype,
      fun hempty => absurd hempty hne⟩

/-- So may several. -/
lemma createdRuns_adds {runId : String} {s' : Store} (h : Adds runId s s') :
    s'.log runId ≠ [] ∧ (CreatedRuns s' ↔ CreatedRuns s ∧ s.log runId ≠ []) := by
  have hpushed : ∀ {t t' : Store} (e : RunEvent), e.runId = runId →
      SameLogs (t.push (t.stamp e)) t' → t'.log runId ≠ [] := by
    intro t t' e hrun hsame
    have hlog : t'.log runId = (t.push (t.stamp e)).log runId := by
      rw [Store.log, hsame.2, Store.log]
    rw [hlog, Store.log_push, Store.stamp_runId, if_pos hrun]
    simp
  induction h with
  | one e hrun htype hsame =>
      refine ⟨hpushed e hrun hsame, ?_⟩
      rw [createdRuns_of_same hsame, createdRuns_push_later htype, hrun]
  | more hadds e hrun htype hsame ih =>
      refine ⟨hpushed e hrun hsame, ?_⟩
      rw [createdRuns_of_same hsame, createdRuns_push_later htype, hrun, ih.2]
      exact and_iff_left ih.1

end

/-! ## One call -/

section

variable {s : Store}

/-- A new row takes no log away. -/
lemma createdRuns_addRun (h : CreatedRuns s) {row : RunRow} (hnone : s.run? row.id.val = none) :
    CreatedRuns (s.addRun row) := by
  intro runId hne
  obtain ⟨hrow, hfirst⟩ := h runId hne
  refine ⟨?_, hfirst⟩
  rcases eq_or_ne runId row.id.val with rfl | hother
  · rw [hnone] at hrow
    exact absurd hrow (by simp)
  · rw [Store.run?_addRun_ne s row hother]
    exact hrow

/-- `start` stores the row before it appends the first event. -/
lemma createdRuns_start (h : CreatedRuns s) (env : Env) (task : Task) (entrypoint : Entrypoint) :
    CreatedRuns (RunLifecycleService.start env task entrypoint s).2 := by
  refine Effect.wp.state (RunLifecycleService.wp_start (fun _ => h)
    (fun run _ _ _ _ hnone _ => createdRuns_addRun h hnone)
    (fun run _ _ _ hnone hlatest _ => ?_))
  have hrow : ((s.addRun run.toRunRow).run? run.id).isSome = true := by
    rw [Store.run?_addRun_self s run.toRunRow hnone]
    rfl
  have hempty : (s.addRun run.toRunRow).log run.id = [] :=
    Store.log_eq_nil_of_latestSeq hlatest
  exact createdRuns_push.mpr
    ⟨createdRuns_addRun h hnone, hrow, fun _ => hempty, fun _ => rfl⟩

lemma not_strays_of_none {c : EntryCall} (h : c.target s = none) : ¬ Strays s c := by
  rintro ⟨runId, hsome, -⟩
  exact absurd (h.symm.trans hsome) (by simp)

lemma createdRuns_chat (h : CreatedRuns s) (attached : Bool) (env : Env) (operator : String)
    (body : Chat.ChatRequest) :
    CreatedRuns (Chat.chat attached env operator body s).2 ↔
      ¬ Strays s (.chat attached env operator body) := by
  have hnothing : chatTarget s attached env operator body = none →
      (CreatedRuns s ↔ ¬ Strays s (.chat attached env operator body)) :=
    fun hnone => iff_of_true h (not_strays_of_none hnone)
  refine Effect.wp.state
    (P := fun s' => CreatedRuns s' ↔ ¬ Strays s (.chat attached env operator body))
    (Chat.wp_chat (fun e hwhy => hnothing ?_) (fun r hoff => hnothing ?_)
      (fun r run hnamed hrun hon hopen hfree => ?_))
  · -- refused: unnamed, an invalid body, or a refused append
    unfold chatTarget
    split
    · rfl
    · rename_i run hrun
      split
      · rename_i hgoes
        exact takes_of_refused ((hwhy.resolve_left hgoes.1).resolve_left fun h => h run hrun)
      · rfl
  · unfold chatTarget
    split
    · rfl
    · exact if_neg fun hgoes => absurd (hoff.symm.trans hgoes.2) (by simp)
  · have htarget : chatTarget s attached env operator body = some (Chat.runIdOf env) := by
      rw [chatTarget, hrun]
      exact (if_pos ⟨hnamed, hon⟩).trans (takes_of_free hopen hfree)
    rw [createdRuns_push]
    constructor
    · rintro ⟨-, hrow, hiff⟩ ⟨runId, hsome, hstrays⟩
      obtain rfl := Option.some.inj (htarget.symm.trans hsome)
      exact hstrays ⟨hrow, hiff.mp rfl⟩
    · intro hnot
      have hgood : (s.run? (Chat.runIdOf env)).isSome = true ∧ s.log (Chat.runIdOf env) = [] := by
        by_contra hbad
        exact hnot ⟨_, htarget, hbad⟩
      exact ⟨h, hgood.1, fun _ => hgood.2, fun _ => rfl⟩

/-- What a call on approvals or tasks leaves, against its target's log. -/
lemma createdRuns_leaves (h : CreatedRuns s) {target : Option String} {s' : Store}
    (hleaves : LeavesLogs s target s') :
    CreatedRuns s' ↔ ¬ ∃ runId, target = some runId ∧ s.log runId = [] := by
  cases hleaves with
  | same hnone hsame =>
      apply iff_of_true ((createdRuns_of_same hsame).mpr h)
      rintro ⟨runId, hsome, -⟩
      exact absurd (hnone.symm.trans hsome) (by simp)
  | adds runId hsome hadds =>
      rw [(createdRuns_adds hadds).2]
      constructor
      · rintro ⟨-, hne⟩ ⟨runId', hsome', hempty⟩
        obtain rfl := Option.some.inj (hsome.symm.trans hsome')
        exact hne hempty
      · exact fun hnot => ⟨h, fun hempty => hnot ⟨runId, hsome, hempty⟩⟩

/-- **One call.**  It keeps every log that of a created run exactly when it does not stray. -/
lemma createdRuns_next (h : CreatedRuns s) (c : EntryCall) :
    CreatedRuns (entryMachine.next s c) ↔ ¬ Strays s c := by
  cases c with
  | chat attached env operator body =>
      rw [next_entry, EntryCall.perform, Effect.state_map]
      exact createdRuns_chat h attached env operator body
  | start env task entrypoint =>
      rw [next_entry, EntryCall.perform, Effect.state_map]
      exact iff_of_true (createdRuns_start h env task entrypoint) (not_strays_of_none rfl)
  | request env runId kind summary cap expiresAt ref =>
      exact createdRuns_leaves h (leaves_next rfl)
  | resolve env id d => exact createdRuns_leaves h (leaves_next rfl)
  | ea call => exact createdRuns_leaves h (leaves_next rfl)

end

/-- **Every log belongs to a created run** along a run from the empty store exactly when no call
of it strays. -/
theorem createdRuns_iff (calls : List EntryCall) :
    (∀ t ∈ entryMachine.trace Store.empty calls, CreatedRuns t.after) ↔
      entryMachine.Meets (fun s c => ¬ Strays s c) Store.empty calls := by
  have hempty : CreatedRuns Store.empty := fun _ hne => absurd rfl hne
  exact entryMachine.forall_iff_meets (I := CreatedRuns) (P := CreatedRuns)
    (fun s c h hc => (createdRuns_next h c).mpr hc) (fun _ h => h)
    (fun s c h hc hnext => hc ((createdRuns_next h c).mp hnext)) hempty

/-- A first message, and a first task without a run of its own: each starts the log of a run that
has no row, the task with a `run.progress`. -/
theorem not_createdRuns_chat_createTask :
    (¬ ∀ t ∈ entryMachine.trace Store.empty
        [.chat true stillEnv "operator" { sessionId := "s1", message := "Sort the inbox" }],
      CreatedRuns t.after) ∧
    ¬ ∀ t ∈ entryMachine.trace Store.empty
        [.ea (.createTask stillEnv
          { sessionId := "s1", title := "Inbox", objective := "Sort the inbox" })],
      CreatedRuns t.after := by
  have hrowless : ∀ (s : Store) (runId : String), (s.log runId).isEmpty = false →
      (s.run? runId).isSome = false → ¬ CreatedRuns s := by
    intro s runId hlog hrow h
    have hrow' := (h runId (List.isEmpty_eq_false_iff.mp hlog)).row
    exact absurd (hrow'.symm.trans hrow) (by simp)
  constructor
  · intro h
    exact hrowless _ "run-000000000000" (by decide) (by decide) (h _ List.mem_cons_self)
  · intro h
    exact hrowless _ "ea-s1" (by decide) (by decide) (h _ List.mem_cons_self)

end Waywarden

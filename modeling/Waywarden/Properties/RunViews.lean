import Waywarden.Api.RunView
import Waywarden.Properties.HarnessRuns
import Waywarden.Properties.RunSnapshots

/-!
# A view that was answered once

The view of a run is computed from the store at every request.  Between two requests the harness may
have done anything, and still the second answer goes on where the first one stopped: every list of
the snapshot begins with what it was, and a run that has ended shows what it showed, but for its
approvals (`ViewLasts`).  A run that was found is never reported missing again.

The second request can fail all the same, with a `ValueError` that no handler turns into a response:
the exact condition is in `ViewLasts.answered`.
-/

namespace Waywarden.RunView

open Effect ValueText VisibilityService

variable {T : UnicodeTable} {isoformat : Timestamp → String} {runId : String}
  {service : VisibilityService} {configured : Bool} {s t : Store} {v v' : RunSnapshot}

/-- The lists of a later snapshot go on where those of an earlier one stop. -/
structure Outgrows (v v' : RunSnapshot) : Prop where
  milestones : v.milestones <+: v'.milestones
  artifacts : v.artifacts <+: v'.artifacts
  planRevisions : v.planRevisions <+: v'.planRevisions

/-! ## The exceptions of the readers -/

lemma exists_ok_of_isOk {α : Type} {x : Except PyError α} (h : x.isOk = true) :
    ∃ a, x = .ok a := by
  cases x with
  | error e => exact absurd h (by simp [Except.isOk, Except.toBool])
  | ok a => exact ⟨a, rfl⟩

/-- What a computation raises, if it does, is a `ValueError`. -/
def OnlyValueErrors {α : Type} (x : Except PyError α) : Prop :=
  ∀ e, x = .error e → e.cls = .valueError

namespace OnlyValueErrors

variable {α β : Type}

lemma of_ok (a : α) : OnlyValueErrors (.ok a : Except PyError α) := by
  intro e h
  exact absurd h (by simp)

lemma bind {x : Except PyError α} {f : α → Except PyError β} (hx : OnlyValueErrors x)
    (hf : ∀ a, OnlyValueErrors (f a)) : OnlyValueErrors (x >>= f) := by
  intro e h
  exact except_bind_raises hx hf h

lemma map {x : Except PyError α} {f : α → β} (hx : OnlyValueErrors x) :
    OnlyValueErrors (x.map f) := by
  intro e h
  cases x with
  | error e' => exact hx e (congrArg Except.error (Except.error.inj h))
  | ok a => exact absurd h (by simp [Except.map])

lemma foldlM {f : β → α → Except PyError β} (hf : ∀ b a, OnlyValueErrors (f b a)) (xs : List α)
    (b : β) : OnlyValueErrors (xs.foldlM f b) := by
  induction xs generalizing b with
  | nil => exact of_ok b
  | cons x xs ih =>
      rw [List.foldlM_cons]
      exact (hf b x).bind ih

end OnlyValueErrors

lemma onlyValueErrors_reprInt (i : ℤ) : OnlyValueErrors (reprInt i) := by
  intro e h
  unfold reprInt at h
  obtain rfl := eq_of_unless_eq_error h
  rfl

mutual

lemma onlyValueErrors_repr (x : Value) : OnlyValueErrors (repr T x) := by
  match x with
  | .null | .bool true | .bool false | .float _ | .str _ => exact .of_ok _
  | .int i => exact onlyValueErrors_reprInt i
  | .list xs => exact (onlyValueErrors_reprItems xs).bind fun _ => .of_ok _
  | .tuple xs => exact (onlyValueErrors_reprItems xs).bind fun _ => .of_ok _
  | .dict items => exact (onlyValueErrors_reprMembers items).bind fun _ => .of_ok _

lemma onlyValueErrors_reprItems (xs : List Value) : OnlyValueErrors (reprItems T xs) := by
  match xs with
  | [] => exact .of_ok _
  | x :: xs =>
      exact (onlyValueErrors_repr x).bind fun _ =>
        (onlyValueErrors_reprItems xs).bind fun _ => .of_ok _

lemma onlyValueErrors_reprMembers (items : List (String × Value)) :
    OnlyValueErrors (reprMembers T items) := by
  match items with
  | [] => exact .of_ok _
  | (_, x) :: items =>
      exact (onlyValueErrors_repr x).bind fun _ =>
        (onlyValueErrors_reprMembers items).bind fun _ => .of_ok _

end

lemma onlyValueErrors_str (x : Value) : OnlyValueErrors (str T x) := by
  match x with
  | .str text => exact .of_ok text
  | .null | .bool _ | .int _ | .float _ | .list _ | .tuple _ | .dict _ =>
      exact onlyValueErrors_repr _

lemma onlyValueErrors_int (text : String) : OnlyValueErrors (int T text) := by
  intro e h
  unfold int at h
  split at h
  · rw [← Except.error.inj h]
  · obtain rfl := eq_of_unless_eq_error h
    rfl

lemma onlyValueErrors_payloadText (ev : RunEvent) (key : String) :
    OnlyValueErrors (payloadText T ev key) := onlyValueErrors_str _

lemma onlyValueErrors_artifactLabel (ev : RunEvent) : OnlyValueErrors (artifactLabel T ev) := by
  unfold artifactLabel
  split
  · exact (onlyValueErrors_str _).map
  · exact .of_ok none

lemma onlyValueErrors_planRevisionRecord (ev : RunEvent) :
    OnlyValueErrors (planRevisionRecord T isoformat runId ev) :=
  (onlyValueErrors_str _).bind fun _ => (onlyValueErrors_int _).bind fun _ =>
    (onlyValueErrors_payloadText _ _).bind fun _ => (onlyValueErrors_payloadText _ _).bind fun _ =>
      (onlyValueErrors_payloadText _ _).bind fun _ => .of_ok _

lemma onlyValueErrors_collect (lists : Collected) (ev : RunEvent) :
    OnlyValueErrors (collect T isoformat runId lists ev) := by
  unfold collect
  split
  · refine OnlyValueErrors.bind ?_ fun _ => .of_ok _
    exact (onlyValueErrors_payloadText _ _).bind fun _ =>
      (onlyValueErrors_payloadText _ _).bind fun _ => .of_ok _
  · refine (onlyValueErrors_payloadText _ _).bind fun kind => ?_
    split
    · exact (onlyValueErrors_planRevisionRecord ev).bind fun _ => .of_ok _
    · refine OnlyValueErrors.bind ?_ fun _ => .of_ok _
      exact (onlyValueErrors_payloadText _ _).bind fun _ =>
        (onlyValueErrors_artifactLabel ev).bind fun _ => .of_ok _
  · exact .of_ok lists

lemma onlyValueErrors_ofRow (row : RunRow) : OnlyValueErrors (Run.ofRow row) := by
  intro e h
  unfold Run.ofRow at h
  split at h
  · rw [← Except.error.inj h]
  · split at h
    · rw [← Except.error.inj h]
    · exact absurd h (by simp)

/-! ## The loop over the events only appends -/

/-- A turn of the loop keeps what the lists hold. -/
lemma prefixes_of_collect {lists lists' : Collected} {ev : RunEvent}
    (h : collect T isoformat runId lists ev = .ok lists') :
    lists.milestones <+: lists'.milestones ∧ lists.artifacts <+: lists'.artifacts ∧
      lists.planRevisions <+: lists'.planRevisions := by
  have hrefl : lists.milestones <+: lists.milestones ∧ lists.artifacts <+: lists.artifacts ∧
      lists.planRevisions <+: lists.planRevisions :=
    ⟨List.prefix_refl _, List.prefix_refl _, List.prefix_refl _⟩
  unfold collect at h
  split at h
  · obtain ⟨record, -, hlists⟩ := except_bind_eq_ok.mp h
    obtain rfl := Except.ok.inj hlists
    exact ⟨List.prefix_append _ _, hrefl.2⟩
  · obtain ⟨kind, -, h⟩ := except_bind_eq_ok.mp h
    split at h
    · obtain ⟨record, -, hlists⟩ := except_bind_eq_ok.mp h
      obtain rfl := Except.ok.inj hlists
      exact ⟨hrefl.1, hrefl.2.1, List.prefix_append _ _⟩
    · obtain ⟨record, -, hlists⟩ := except_bind_eq_ok.mp h
      obtain rfl := Except.ok.inj hlists
      exact ⟨hrefl.1, List.prefix_append _ _, hrefl.2.2⟩
  · obtain rfl := Except.ok.inj h
    exact hrefl

/-- So does the loop. -/
lemma prefixes_of_foldlM {events : List RunEvent} {lists lists' : Collected}
    (h : events.foldlM (collect T isoformat runId) lists = .ok lists') :
    lists.milestones <+: lists'.milestones ∧ lists.artifacts <+: lists'.artifacts ∧
      lists.planRevisions <+: lists'.planRevisions := by
  induction events generalizing lists with
  | nil =>
      obtain rfl := Except.ok.inj h
      exact ⟨List.prefix_refl _, List.prefix_refl _, List.prefix_refl _⟩
  | cons ev events ih =>
      rw [List.foldlM_cons] at h
      obtain ⟨next, hnext, hrest⟩ := except_bind_eq_ok.mp h
      obtain ⟨hm, ha, hp⟩ := prefixes_of_collect hnext
      obtain ⟨hm', ha', hp'⟩ := ih hrest
      exact ⟨hm.trans hm', ha.trans ha', hp.trans hp'⟩

/-! ## The route reads only -/

section

variable (T isoformat runId service configured s)

/-- The response of the route on a store. -/
def viewOf : Except PyError RunSnapshot :=
  (getRunView T isoformat configured service runId s).1

lemma state_runState : (service.runState runId s).2 = s := by
  obtain ⟨result, hresult, -⟩ := @exists_runState_iff runId service s
  rw [hresult]

lemma state_pendingApprovals : (service.pendingApprovals isoformat runId s).2 = s := by
  obtain ⟨records, hrecords, -⟩ := @pendingApprovals_eq isoformat runId service s
  rw [hrecords]

/-- The snapshot, reader by reader. -/
lemma reply_snapshot :
    (service.snapshot T isoformat runId s).1 = (do
      let state ← (service.runState runId s).1
      let lists ← (orderedLog s runId).foldlM (collect T isoformat runId) ⟨[], [], []⟩
      let pending ← (service.pendingApprovals isoformat runId s).1
      let summary ← service.manifestSummary runId
      .ok {
        runState := state, pendingApprovals := pending, manifestSummary := summary
        milestones := lists.milestones
        artifacts := lists.artifacts
        planRevisions := lists.planRevisions
        latestCheckpointRef := none }) := by
  have hlist := @list_eq_orderedLog runId s
  unfold snapshot
  rw [reply_bind (state_runState runId service s)]
  congr 1
  funext state
  rw [bind_of_ok hlist, reply_bind rfl]
  congr 1
  funext lists
  rw [reply_bind (state_pendingApprovals isoformat runId service s)]
  congr 1
  funext pending
  rw [reply_bind rfl]
  rfl

lemma state_snapshot : (service.snapshot T isoformat runId s).2 = s :=
  state_bind (state_runState runId service s) fun _ => state_bind rfl fun _ => state_bind rfl
    fun _ => state_bind (state_pendingApprovals isoformat runId service s) fun _ =>
      state_bind rfl fun _ => rfl

end

/-- **When the route answers, and with what.** -/
lemma viewOf_eq_ok_iff : viewOf T isoformat runId service configured s = .ok v ↔
    configured = true ∧
    (service.runs = true → ∃ run : Run, s.run? runId = some run.toRunRow) ∧
    (service.snapshot T isoformat runId s).1 = .ok v ∧
    (service.runs = false → s.latestSeq runId ≠ 0) := by
  obtain ⟨hrowState, hrow⟩ := requireRow_eq service runId s
  obtain ⟨heventsState, hevents⟩ := requireEvents_eq service runId s
  unfold viewOf getRunView
  cases configured with
  | false => exact iff_of_false (reply_raise_ne _ _ s) (by simp)
  | true =>
      rw [if_neg (by simp), reply_bind hrowState, ← hrow, ← hevents]
      simp only [except_bind_eq_ok, reply_bind (state_snapshot T isoformat runId service s),
        reply_bind heventsState, true_and]
      constructor
      · rintro ⟨_, hfound, v', hv', _, hseen, hv⟩
        obtain rfl := Except.ok.inj hv
        exact ⟨hfound, hv', hseen⟩
      · rintro ⟨hfound, hv, hseen⟩
        exact ⟨(), hfound, v, hv, (), hseen, rfl⟩

/-- What a snapshot is made of. -/
lemma reply_snapshot_eq_ok_iff : (service.snapshot T isoformat runId s).1 = .ok v ↔
    (service.runState runId s).1 = .ok v.runState ∧
    (orderedLog s runId).foldlM (collect T isoformat runId) ⟨[], [], []⟩ =
      .ok ⟨v.milestones, v.artifacts, v.planRevisions⟩ ∧
    (service.pendingApprovals isoformat runId s).1 = .ok v.pendingApprovals ∧
    service.manifestSummary runId = .ok v.manifestSummary ∧ v.latestCheckpointRef = none := by
  rw [reply_snapshot]
  simp only [except_bind_eq_ok]
  constructor
  · rintro ⟨state, hstate, lists, hlists, pending, hpending, summary, hsummary, hv⟩
    obtain rfl := Except.ok.inj hv
    exact ⟨hstate, hlists, hpending, hsummary, rfl⟩
  · rintro ⟨hstate, hlists, hpending, hsummary, hcheckpoint⟩
    refine ⟨_, hstate, _, hlists, _, hpending, _, hsummary, ?_⟩
    rw [← hcheckpoint]

/-- The state is read from the row of the run. -/
lemma runState_congr (h : t.run? runId = s.run? runId) :
    (service.runState runId t).1 = (service.runState runId s).1 := by
  unfold runState
  by_cases hruns : service.runs = true
  · rw [if_pos hruns, reply_bind (by rw [RunRepository.get_eq]),
      reply_bind (by rw [RunRepository.get_eq]), RunRepository.get_eq, RunRepository.get_eq, h]
    congr 1
    funext found
    cases found with
    | none => rfl
    | some run => rfl
  · rw [if_neg hruns]
    rfl

/-- The log of a numbered store is in order. -/
lemma orderedLog_of_numbered (hs : s.Numbered) (runId : String) :
    orderedLog s runId = s.log runId := by
  have h := list_of_numbered hs runId 0
  rw [list_eq_orderedLog, List.drop_zero] at h
  exact Except.ok.inj (congrArg Prod.fst h)

lemma onlyValueErrors_get (hrow : ∃ row, s.run? runId = some row) :
    OnlyValueErrors (RunRepository.get runId s).1 := by
  obtain ⟨row, hrow⟩ := hrow
  rw [RunRepository.get_eq, hrow]
  exact (onlyValueErrors_ofRow row).map

/-- A run with a row is not missing. -/
lemma onlyValueErrors_requireRow (hrow : service.runs = true → ∃ row, s.run? runId = some row) :
    OnlyValueErrors (requireRow service runId s).1 := by
  unfold requireRow
  by_cases hruns : service.runs = true
  · obtain ⟨row, hsome⟩ := hrow hruns
    rw [if_pos hruns, reply_bind (by rw [RunRepository.get_eq])]
    intro e h
    rcases except_bind_eq_error.mp h with h | ⟨found, hfound, h⟩
    · exact onlyValueErrors_get ⟨row, hsome⟩ e h
    · rw [RunRepository.get_eq, hsome] at hfound
      cases hrun : Run.ofRow row with
      | error e' =>
          simp only [hrun, Except.map] at hfound
          exact absurd hfound (by simp)
      | ok run =>
          simp only [hrun, Except.map] at hfound
          obtain rfl := Except.ok.inj hfound
          exact absurd h (by simp)
  · rw [if_neg hruns]
    exact .of_ok ()

lemma onlyValueErrors_runState : OnlyValueErrors (service.runState runId s).1 := by
  unfold runState
  by_cases hruns : service.runs = true
  · rw [if_pos hruns, reply_bind (by rw [RunRepository.get_eq])]
    refine OnlyValueErrors.bind ?_ fun found => ?_
    · rw [RunRepository.get_eq]
      cases s.run? runId with
      | none => exact .of_ok none
      | some row => exact (onlyValueErrors_ofRow row).map
    · cases found with
      | none => exact .of_ok "unknown"
      | some run => exact .of_ok run.state.name
  · rw [if_neg hruns]
    exact .of_ok "unknown"

/-- All that can go wrong with a snapshot, when the manifest can be read, is a value. -/
lemma onlyValueErrors_snapshot {summary : Option ManifestSummary}
    (hsummary : service.manifestSummary runId = .ok summary) :
    OnlyValueErrors (service.snapshot T isoformat runId s).1 := by
  obtain ⟨pending, hpending, -⟩ := @pendingApprovals_eq isoformat runId service s
  rw [reply_snapshot]
  refine onlyValueErrors_runState.bind fun _ => ?_
  refine (OnlyValueErrors.foldlM onlyValueErrors_collect _ _).bind fun _ => ?_
  rw [hpending, hsummary]
  exact .of_ok _

/-! ## Two requests -/

/-- What a request of the same view can meet later on. -/
structure ViewLasts (T : UnicodeTable) (isoformat : Timestamp → String) (runId : String)
    (service : VisibilityService) (configured : Bool) (s t : Store) (v : RunSnapshot) : Prop where
  /-- the run is known: there is no `404` and no `503` -/
  known : OnlyValueErrors (viewOf T isoformat runId service configured t)
  /-- there is an answer when the row of the run can be read and the new events can be shown -/
  answered : (∃ v', viewOf T isoformat runId service configured t = .ok v') ↔
    (service.runs = true → ∃ run : Run, t.run? runId = some run.toRunRow) ∧
      ∀ ev ∈ (t.log runId).drop (s.log runId).length, Displayable T ev
  /-- which shows everything the earlier one has shown -/
  grows : ∀ v', viewOf T isoformat runId service configured t = .ok v' → Outgrows v v'
  /-- and nothing else but approvals, if the run had ended -/
  ended : s.settled runId = true → ∃ pending, viewOf T isoformat runId service configured t =
    .ok { v with pendingApprovals := pending }

section

variable (hs : s.Numbered) (ht : t.Numbered) (hlater : s.Extends t)
  (hv : viewOf T isoformat runId service configured s = .ok v)

include hs hlater in
lemma latestSeq_ne_zero_of_extends (h : s.latestSeq runId ≠ 0) : t.latestSeq runId ≠ 0 := by
  have hlatest : s.latestSeq runId = (s.log runId).length := (hs.contiguous runId).maxSeq_eq
  have hnil : s.log runId ≠ [] := by
    intro hnil
    rw [hlatest, hnil] at h
    exact h rfl
  obtain ⟨e, he⟩ := List.exists_mem_of_ne_nil _ hnil
  have hle : e.seq ≤ t.latestSeq runId :=
    SeqLog.le_maxSeq ((hlater.log_prefix runId).subset he)
  have hpos := e.seq_pos
  omega

include hs ht hlater hv in
/-- The loop goes on from the lists of the earlier snapshot. -/
lemma foldlM_later : (orderedLog t runId).foldlM (collect T isoformat runId) ⟨[], [], []⟩ =
    ((t.log runId).drop (s.log runId).length).foldlM (collect T isoformat runId)
      ⟨v.milestones, v.artifacts, v.planRevisions⟩ := by
  obtain ⟨-, -, hsnapshot, -⟩ := viewOf_eq_ok_iff.mp hv
  obtain ⟨-, hlists, -⟩ := reply_snapshot_eq_ok_iff.mp hsnapshot
  obtain ⟨more, hmore⟩ := hlater.log_prefix runId
  rw [orderedLog_of_numbered hs] at hlists
  rw [orderedLog_of_numbered ht, ← hmore, List.foldlM_append, hlists, List.drop_left]
  rfl

include hs ht hlater hv in
lemma answered_iff : (∃ v', viewOf T isoformat runId service configured t = .ok v') ↔
    (service.runs = true → ∃ run : Run, t.run? runId = some run.toRunRow) ∧
      ∀ ev ∈ (t.log runId).drop (s.log runId).length, Displayable T ev := by
  obtain ⟨hconfigured, -, hsnapshot, hseen⟩ := viewOf_eq_ok_iff.mp hv
  obtain ⟨-, -, -, hsummary, -⟩ := reply_snapshot_eq_ok_iff.mp hsnapshot
  obtain ⟨result, hresult, hstate⟩ := @exists_runState_iff runId service t
  obtain ⟨pending, hpending, -⟩ := @pendingApprovals_eq isoformat runId service t
  rw [← exists_except_foldlM_iff (@exists_collect_iff T isoformat runId) (b :=
    ⟨v.milestones, v.artifacts, v.planRevisions⟩), ← foldlM_later hs ht hlater hv]
  constructor
  · rintro ⟨v', hv'⟩
    obtain ⟨-, hrow, hsnapshot', -⟩ := viewOf_eq_ok_iff.mp hv'
    obtain ⟨-, hlists, -⟩ := reply_snapshot_eq_ok_iff.mp hsnapshot'
    exact ⟨hrow, _, hlists⟩
  · rintro ⟨hrow, lists, hlists⟩
    obtain ⟨state, rfl⟩ := hstate.mpr fun hruns row hmem => by
      obtain ⟨run, hrun⟩ := hrow hruns
      rw [hrun] at hmem
      obtain rfl := Option.some.inj hmem
      exact ⟨run, Run.ofRow_toRunRow run⟩
    refine ⟨⟨state, lists.milestones, lists.artifacts, lists.planRevisions, pending, none,
      v.manifestSummary⟩, viewOf_eq_ok_iff.mpr ⟨hconfigured, hrow, ?_, ?_⟩⟩
    · exact reply_snapshot_eq_ok_iff.mpr
        ⟨by rw [hresult], hlists, by rw [hpending], hsummary, rfl⟩
    · exact fun hruns => latestSeq_ne_zero_of_extends hs hlater (hseen hruns)

include hs hlater hv in
/-- A run that was found is found. -/
lemma known_later : OnlyValueErrors (viewOf T isoformat runId service configured t) := by
  obtain ⟨hconfigured, hrow, hsnapshot, hseen⟩ := viewOf_eq_ok_iff.mp hv
  obtain ⟨-, -, -, hsummary, -⟩ := reply_snapshot_eq_ok_iff.mp hsnapshot
  obtain ⟨hrowState, -⟩ := requireRow_eq service runId t
  obtain ⟨heventsState, hevents⟩ := requireEvents_eq service runId t
  have hfound : OnlyValueErrors (requireRow service runId t).1 := by
    refine onlyValueErrors_requireRow fun hruns => ?_
    obtain ⟨run, hrun⟩ := hrow hruns
    obtain ⟨row', hrow', -⟩ := hlater.runs runId run.toRunRow hrun
    exact ⟨row', hrow'⟩
  have hseen' : (requireEvents service runId t).1 = .ok () :=
    hevents.mpr fun hruns => latestSeq_ne_zero_of_extends hs hlater (hseen hruns)
  unfold viewOf getRunView
  rw [if_neg (by simp [hconfigured]), reply_bind hrowState]
  refine hfound.bind fun _ => ?_
  rw [reply_bind (state_snapshot T isoformat runId service t)]
  refine (onlyValueErrors_snapshot hsummary).bind fun v' => ?_
  rw [reply_bind heventsState, hseen']
  exact .of_ok v'

include hs ht hlater hv in
/-- **Between two requests** the store was extended: what the second one meets. -/
lemma viewLasts_of_extends : ViewLasts T isoformat runId service configured s t v := by
  obtain ⟨hconfigured, hrow, hsnapshot, hseen⟩ := viewOf_eq_ok_iff.mp hv
  obtain ⟨hstate, hlists, -, hsummary, hcheckpoint⟩ := reply_snapshot_eq_ok_iff.mp hsnapshot
  refine ⟨known_later hs hlater hv, answered_iff hs ht hlater hv, fun v' hv' => ?_,
    fun hended => ?_⟩
  · obtain ⟨-, -, hsnapshot', -⟩ := viewOf_eq_ok_iff.mp hv'
    obtain ⟨-, hlists', -⟩ := reply_snapshot_eq_ok_iff.mp hsnapshot'
    rw [foldlM_later hs ht hlater hv] at hlists'
    obtain ⟨hm, ha, hp⟩ := prefixes_of_foldlM hlists'
    exact ⟨hm, ha, hp⟩
  · obtain ⟨hlog, hsame⟩ := hlater.settled runId hended
    obtain ⟨pending, hpending, -⟩ := @pendingApprovals_eq isoformat runId service t
    refine ⟨pending, viewOf_eq_ok_iff.mpr ⟨hconfigured, ?_, ?_, ?_⟩⟩
    · rw [hsame]
      exact hrow
    · refine reply_snapshot_eq_ok_iff.mpr ⟨?_, ?_, by rw [hpending], hsummary, hcheckpoint⟩
      · rw [runState_congr hsame]
        exact hstate
      · rw [orderedLog_of_numbered ht, hlog, ← orderedLog_of_numbered hs]
        exact hlists
    · exact fun hruns => latestSeq_ne_zero_of_extends hs hlater (hseen hruns)

end

/-- **A view that was answered lasts.**  Whatever the harness did before it and does after it. -/
theorem harness_views (C : Lowercase.CaseTable) (R : Rendering) (fmt : DateFormat)
    (sha256 : ByteArray → String) (T : UnicodeTable) (isoformat : Timestamp → String)
    (service : VisibilityService) (configured : Bool) (runId : String)
    (before after : List HarnessCall) (v : RunSnapshot)
    (hv : viewOf T isoformat runId service configured (afterCalls C R fmt sha256 before) = .ok v) :
    ViewLasts T isoformat runId service configured (afterCalls C R fmt sha256 before)
      (afterCalls C R fmt sha256 (before ++ after)) v :=
  viewLasts_of_extends (numbered_afterCalls C R fmt sha256 before)
    (numbered_afterCalls C R fmt sha256 (before ++ after))
    (extends_afterCalls C R fmt sha256 before after) hv

/-- The view of a run that was started lasts when the run is cancelled. -/
theorem harness_views_first_run : ∃ v,
    ViewLasts asciiTable (fun _ => "1970-01-01T00:00:00+00:00") "run-t1" ⟨true, none, true⟩ true
      (afterPlainCalls [.run (.start stillEnv sampleTask .api)])
      (afterPlainCalls ([.run (.start stillEnv sampleTask .api)] ++
        [.run (.cancel stillEnv "run-t1" "done" none)])) v := by
  have hanswered : (viewOf asciiTable (fun _ => "1970-01-01T00:00:00+00:00") "run-t1"
      ⟨true, none, true⟩ true
      (afterPlainCalls [.run (.start stillEnv sampleTask .api)])).isOk = true := by
    decide +kernel
  obtain ⟨v, hv⟩ := exists_ok_of_isOk hanswered
  exact ⟨v, harness_views _ _ _ _ _ _ _ _ _ _ _ v hv⟩

end Waywarden.RunView

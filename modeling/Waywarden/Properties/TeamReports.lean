import Waywarden.Services.TeamProgress

/-!
# What a team reports

Of a team an event is made exactly when the dictionaries are about its members.  It says of each
member what they have under its id, in the order of the team and whatever theirs, and nothing that
the caller adds to the payload hides it (`team_progress`).
-/

namespace Waywarden

namespace TeamProgress

section

variable {env : Env} {team : Team} {args : ProgressArgs} {statuses : TextDict}
  {runIds : Option TextDict} {event : RunEvent}

/-! ## What an event says -/

/-- The run of a member. -/
def HasRun (args : ProgressArgs) (runIds : Option TextDict) (id runId : String) : Prop :=
  match runIds with
  | some dict => (id, runId) ∈ dict.items
  | none => runId = args.runId

lemma memberRunId_eq_ok_iff {id runId : String} :
    memberRunId args runIds id = .ok runId ↔ HasRun args runIds id runId := by
  cases runIds with
  | none => exact ⟨fun h => (Except.ok.inj h).symm, fun h => congrArg Except.ok h.symm⟩
  | some dict => exact TextDict.getItem_eq_ok_iff

/-- The entry of a member. -/
def IsEntry (args : ProgressArgs) (statuses : TextDict) (runIds : Option TextDict) (id : String)
    (entry : Mapping) : Prop :=
  ∃ runId status, HasRun args runIds id runId ∧ (id, status) ∈ statuses.items ∧
    entry = memberEntry args id runId status

/-- What the event says of the team, and of each member. -/
structure Reports (team : Team) (args : ProgressArgs) (statuses : TextDict)
    (runIds : Option TextDict) (event : RunEvent) : Prop where
  type : event.type = .runProgress
  runId : event.runId = args.runId
  seq : (event.seq : ℤ) = args.seq
  milestone : event.payload.get "milestone" = some (.str args.milestone)
  teamId : event.payload.get "team_id" = some (.str team.id)
  status : event.payload.get "status" = some (.str args.status)
  summary : event.payload.get "summary" = some (.str (strip args.summary))
  memberStatuses : ∃ items, event.payload.get "member_statuses" = some (.dict items) ∧
    List.Forall₂ (fun id item => ∃ status, (id, status) ∈ statuses.items ∧ item = (id, .str status))
      (memberNames team) items
  agentProgress : ∃ entries, event.payload.get "agent_progress" =
      some (.tuple (entries.map .dict)) ∧
    List.Forall₂ (IsEntry args statuses runIds) (memberNames team) entries

lemma reports_of_ok (h : makeTeamProgressEvent env team args statuses runIds = .ok event) :
    Reports team args statuses runIds event := by
  obtain ⟨-, normalized, entries, hnormalized, hentries, hevent⟩ :=
    makeTeamProgressEvent_eq_ok_iff.mp h
  obtain ⟨htype, hpayload⟩ := RunEvent.of_new hevent
  obtain ⟨-, hrunId, hseq⟩ := RunEvent.ids_of_new hevent
  have hget : ∀ key, key ∉ callerKeys →
      event.payload.get key = (teamPayload team args normalized entries).get key := by
    intro key hkey
    rw [hpayload]
    exact get_payload hkey
  refine ⟨htype, hrunId, hseq, hget _ (by decide), hget _ (by decide), hget _ (by decide),
    hget _ (by decide), ⟨normalized, hget _ (by decide), ?_⟩,
    ⟨entries, hget _ (by decide), ?_⟩⟩
  · refine (Effect.except_mapM_eq_ok.mp hnormalized).imp fun id item hitem => ?_
    obtain ⟨status, hstatus, hsame⟩ := Effect.except_bind_eq_ok.mp hitem
    exact ⟨status, TextDict.getItem_eq_ok_iff.mp hstatus, (Except.ok.inj hsame).symm⟩
  · refine (Effect.except_mapM_eq_ok.mp hentries).imp fun id entry hentry => ?_
    obtain ⟨runId, hrun, hrest⟩ := Effect.except_bind_eq_ok.mp hentry
    obtain ⟨status, hstatus, hsame⟩ := Effect.except_bind_eq_ok.mp hrest
    exact ⟨runId, status, memberRunId_eq_ok_iff.mp hrun, TextDict.getItem_eq_ok_iff.mp hstatus,
      (Except.ok.inj hsame).symm⟩

/-! ## The order of the dictionaries -/

/-- The same items, in any order. -/
def SameItems (dict dict' : TextDict) : Prop := dict'.items.Perm dict.items

variable {statuses' : TextDict} {runIds' : Option TextDict}

lemma SameItems.mem_keys {dict dict' : TextDict} (h : SameItems dict dict') (name : String) :
    name ∈ dict'.keys ↔ name ∈ dict.keys := (h.map Prod.fst).mem_iff

lemma Asked.of_same (h : Asked team args statuses runIds) (hstatuses : SameItems statuses statuses')
    (hruns : Option.Rel SameItems runIds runIds') : Asked team args statuses' runIds' := by
  refine ⟨h.cataloged, h.summary, fun name => ?_, ?_⟩
  · rw [hstatuses.mem_keys]
    exact h.statuses name
  · cases hruns with
    | none => exact fun _ hnone => absurd hnone (by simp)
    | @some dict dict' hsame =>
        intro found hfound
        obtain rfl := Option.some.inj hfound
        obtain ⟨hkeys, hblank⟩ := h.runs dict rfl
        exact ⟨fun name => (hsame.mem_keys name).trans (hkeys name),
          fun item hitem => hblank item (hsame.mem_iff.mp hitem)⟩

lemma memberRunId_congr (hruns : Option.Rel SameItems runIds runIds') (id : String) :
    memberRunId args runIds' id = memberRunId args runIds id := by
  cases hruns with
  | none => rfl
  | some hsame => exact TextDict.getItem_congr hsame id

/-- The same event is made of the same items. -/
lemma makeTeamProgressEvent_congr
    (h : makeTeamProgressEvent env team args statuses runIds = .ok event)
    (hstatuses : SameItems statuses statuses') (hruns : Option.Rel SameItems runIds runIds') :
    makeTeamProgressEvent env team args statuses' runIds' = .ok event := by
  obtain ⟨hasked, normalized, entries, hnormalized, hentries, hevent⟩ :=
    makeTeamProgressEvent_eq_ok_iff.mp h
  have hstatus : statusItem statuses' = statusItem statuses := by
    funext id
    unfold statusItem
    rw [TextDict.getItem_congr hstatuses]
  have hentry : agentEntry args statuses' runIds' = agentEntry args statuses runIds := by
    funext id
    unfold agentEntry
    rw [memberRunId_congr hruns, TextDict.getItem_congr hstatuses]
  refine makeTeamProgressEvent_eq_ok_iff.mpr ⟨hasked.of_same hstatuses hruns, normalized, entries,
    ?_, ?_, hevent⟩
  · rw [hstatus]
    exact hnormalized
  · rw [hentry]
    exact hentries

end

/-- **The progress of a team.**  An event is made exactly when its milestone is cataloged, its
summary is not blank, the statuses are those of the members and so are the runs, none of them blank,
and its number and its time are accepted.  It then says of each member, in the order of the team,
what the dictionaries have under its id; no order of their items gives another event. -/
theorem team_progress (env : Env) (team : Team) (args : ProgressArgs) (statuses : TextDict)
    (runIds : Option TextDict) :
    ((∃ event, makeTeamProgressEvent env team args statuses runIds = .ok event) ↔
      Asked team args statuses runIds ∧ 1 ≤ args.seq ∧ ∀ naive, args.now ≠ some (.naive naive)) ∧
    ∀ event, makeTeamProgressEvent env team args statuses runIds = .ok event →
      Reports team args statuses runIds event ∧
      ∀ statuses' runIds', SameItems statuses statuses' → Option.Rel SameItems runIds runIds' →
        makeTeamProgressEvent env team args statuses' runIds' = .ok event := by
  refine ⟨?_, fun event h => ⟨reports_of_ok h, fun statuses' runIds' hstatuses hruns =>
    makeTeamProgressEvent_congr h hstatuses hruns⟩⟩
  constructor
  · rintro ⟨event, h⟩
    obtain ⟨hasked, normalized, entries, -, -, hevent⟩ := makeTeamProgressEvent_eq_ok_iff.mp h
    exact ⟨hasked, exists_progressEvent_iff.mp ⟨event, hevent⟩⟩
  · rintro ⟨hasked, haccepted⟩
    obtain ⟨⟨normalized, hnormalized⟩, entries, hentries⟩ := exists_entries hasked
    obtain ⟨event, hevent⟩ := exists_progressEvent_iff.mpr haccepted
    exact ⟨event, makeTeamProgressEvent_eq_ok_iff.mpr
      ⟨hasked, normalized, entries, hnormalized, hentries, hevent⟩⟩

end TeamProgress

end Waywarden

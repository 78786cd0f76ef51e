import Waywarden.Adapters.ModelRouter
import Waywarden.Lib.Machine

/-!
# Model calls that go unrecorded

A record of a model call needs a run to be kept under.  The router asks for the run only when it
comes to write the record: by then the provider has been called, and a call without a run is spent
and leaves no trace.  `accounted_iff` says that nothing else goes wrong: a call with a run always
gets its record, and a call that names no provider reaches none.
-/

namespace Waywarden.ModelRouter

variable {ω π : Type}

/-- The router on its providers and the usage table. -/
def machine (router : ModelRouter ω π) :
    Machine (ProviderSide ω × UsageTable) (ModelCall π) (Except PyError ModelCompletion) :=
  ⟨fun s call => router.complete call s⟩

/-- There is a run to keep the record of the call under. -/
def Tied (runId : Option String) : Prop := ∃ r, runId = some r ∧ r ≠ ""

/-- The provider the call asks for is registered. -/
def Registered (router : ModelRouter ω π) (call : ModelCall π) : Prop :=
  (KeyedTable.get Prod.fst (orDefault call.provider router.default) router.providers).isSome = true

instance (router : ModelRouter ω π) (call : ModelCall π) : Decidable (router.Registered call) :=
  inferInstanceAs (Decidable (_ = true))

/-- The completions the providers have produced, each with the run it was made for. -/
def produced (reached : List ProviderCall) : List (Option String × ModelCompletion) :=
  reached.filterMap fun call => call.completion.map fun completion => (call.runId, completion)

/-- A record is that of a completion made for a run. -/
structure Records (p : Option String × ModelCompletion) (record : TokenUsage) : Prop where
  runId : p.1 = some record.runId
  provider : record.provider = p.2.provider
  model : record.model = p.2.model
  prompt : record.promptTokens = p.2.promptTokens
  completion : record.completionTokens = p.2.completionTokens
  total : record.totalTokens = p.2.totalTokens

/-- Every model call is accounted for: the table has one record for each completion, and no call
without a run has reached a provider. -/
structure Accounted (s : ProviderSide ω × UsageTable) : Prop where
  records : List.Forall₂ Records (produced s.1.reached) s.2
  tied : ∀ call ∈ s.1.reached, Tied call.runId

/-! ## One call -/

variable {router : ModelRouter ω π} {call : ModelCall π} {s : ProviderSide ω × UsageTable}

/-- A completion made for a run gets its record. -/
lemma recordUsage_of_tied (completion : ModelCompletion) {runId : Option String}
    (callRef : Option String) {uuid : String} {table : UsageTable} (h : Tied runId)
    (hfresh : "usage_" ++ uuid ∉ table.map TokenUsage.id) :
    ∃ record, recordUsage completion runId callRef uuid table = (.ok (), table ++ [record]) ∧
      record.id = "usage_" ++ uuid ∧ Records (runId, completion) record := by
  obtain ⟨r, rfl, hr⟩ := h
  have hfilter : (some r).filter (· ≠ "") = some r := by simp [hr]
  obtain ⟨sessionId, text, model, provider, recordedAt, prompt, completion, total, -, hmodel,
    hprovider, rfl⟩ := completion
  obtain ⟨entry, hentry, hid, hrun, hrecords⟩ : ∃ entry : TokenUsage,
      TokenUsage.new ("usage_" ++ uuid) r 1 provider model prompt completion
        (prompt + completion : ℕ) (.aware recordedAt) callRef = .ok entry ∧
      entry.id = "usage_" ++ uuid ∧ entry.runId = r ∧ entry.provider = provider ∧
      entry.model = model ∧ entry.promptTokens = prompt ∧
      entry.completionTokens = completion ∧ entry.totalTokens = prompt + completion :=
    ⟨_, TokenUsage.exists_new ⟨1, le_refl 1⟩ hprovider hmodel, rfl, rfl, rfl, rfl, rfl, rfl, rfl⟩
  refine ⟨entry.withSeq (TokenUsageRepository.nextSeq table entry.runId), ?_, hid, ?_⟩
  · have happend := TokenUsageRepository.append_of_fresh (hid ▸ hfresh)
    unfold recordUsage
    rw [hfilter]
    simp only [hentry]
    exact Effect.bind_of_ok happend
  · obtain ⟨hp, hm, hpt, hct, htt⟩ := hrecords
    exact ⟨congrArg some hrun.symm, hp, hm, hpt, hct, htt⟩

/-- A call for a provider that is not registered changes nothing. -/
lemma next_of_unregistered (h : ¬ router.Registered call) : router.machine.next s call = s := by
  unfold Registered at h
  rw [Option.not_isSome_iff_eq_none] at h
  have hprovider : router.provider (orDefault call.provider router.default) =
      .error ⟨.unknownModelProviderError, "model provider % is not registered",
        [orDefault call.provider router.default]⟩ := by
    unfold provider
    rw [h]
  unfold Machine.next machine complete
  simp only [hprovider]
  rfl

/-- A call for a registered provider reaches it, whatever run it is for, and adds at most the record
of what is produced. -/
lemma next_of_registered (h : router.Registered call) :
    ∃ world completion, (router.machine.next s call).1 =
        ⟨world, s.1.reached ++ [⟨call.runId, completion⟩]⟩ ∧
      (completion = none → (router.machine.next s call).2 = s.2) ∧
      ∀ c, completion = some c → (router.machine.next s call).2 =
        (recordUsage c call.runId call.callRef call.uuid s.2).2 := by
  obtain ⟨entry, hentry⟩ := Option.isSome_iff_exists.mp h
  have hprovider : router.provider (orDefault call.provider router.default) = .ok entry.2 := by
    unfold provider
    rw [hentry]
  have hask : ask entry.2 call s = ((entry.2.complete call.prompt s.1.world).1,
      ⟨(entry.2.complete call.prompt s.1.world).2, s.1.reached ++
        [⟨call.runId, (entry.2.complete call.prompt s.1.world).1.toOption⟩]⟩, s.2) := rfl
  have hstart : router.complete call s =
      (do
        let completion ← ask entry.2 call
        Effect.second (recordUsage completion call.runId call.callRef call.uuid)
        pure completion : RouterSession ω ModelCompletion) s := by
    unfold complete
    simp only [hprovider]
    rfl
  unfold Machine.next machine
  simp only [hstart]
  rcases hout : entry.2.complete call.prompt s.1.world with ⟨e | c, world⟩
  · rw [hout] at hask
    rw [Effect.bind_of_error hask]
    exact ⟨world, none, rfl, fun _ => rfl, nofun⟩
  · rw [hout] at hask
    rw [Effect.bind_of_ok hask]
    have hstate := Effect.state_map (fun _ => c)
      (Effect.second (recordUsage c call.runId call.callRef call.uuid))
      ((⟨world, s.1.reached ++ [⟨call.runId, some c⟩]⟩, s.2) : ProviderSide ω × UsageTable)
    refine ⟨world, some c, congrArg Prod.fst hstate, nofun, ?_⟩
    intro c' hc'
    obtain rfl := Option.some.inj hc'
    exact congrArg Prod.snd hstate

/-! ## A sequence of calls -/

/-- The runs of the calls that have reached a provider are those of the calls for a registered
one. -/
lemma reached_run (calls : List (ModelCall π)) (s : ProviderSide ω × UsageTable) :
    (router.machine.run s calls).1.reached.map ProviderCall.runId =
      s.1.reached.map ProviderCall.runId ++
        (calls.filter fun call => router.Registered call).map ModelCall.runId := by
  induction calls generalizing s with
  | nil => exact (List.append_nil _).symm
  | cons call calls ih =>
      rw [Machine.run_cons, ih]
      by_cases h : router.Registered call
      · obtain ⟨world, completion, hnext, -⟩ := next_of_registered (s := s) h
        rw [hnext, List.filter_cons_of_pos (by simp [h])]
        simp
      · rw [next_of_unregistered h, List.filter_cons_of_neg (by simp [h])]

/-- The records of the calls so far have their identifiers from these calls. -/
def DrawnFrom (calls : List (ModelCall π)) (table : UsageTable) : Prop :=
  ∀ record ∈ table, ∃ call ∈ calls, record.id = "usage_" ++ call.uuid

lemma DrawnFrom.mono {calls : List (ModelCall π)} {table : UsageTable}
    (h : DrawnFrom calls table) (call : ModelCall π) : DrawnFrom (calls ++ [call]) table := by
  intro record hrecord
  obtain ⟨c, hc, hid⟩ := h record hrecord
  exact ⟨c, List.mem_append_left _ hc, hid⟩

/-- An identifier that was not drawn before is free. -/
lemma DrawnFrom.fresh {calls : List (ModelCall π)} {table : UsageTable}
    (h : DrawnFrom calls table) {call : ModelCall π} (hnew : call.uuid ∉ calls.map ModelCall.uuid) :
    "usage_" ++ call.uuid ∉ table.map TokenUsage.id := by
  intro hmem
  obtain ⟨record, hrecord, hid⟩ := List.mem_map.mp hmem
  obtain ⟨c, hc, hdrawn⟩ := h record hrecord
  rw [hdrawn, String.append_right_inj] at hid
  exact hnew (hid ▸ List.mem_map_of_mem hc)

lemma produced_concat (reached : List ProviderCall) (runId : Option String)
    (completion : Option ModelCompletion) :
    produced (reached ++ [⟨runId, completion⟩]) =
      produced reached ++ (completion.map fun c => (runId, c)).toList := by
  unfold produced
  rw [List.filterMap_append]
  cases completion <;> rfl

/-- One more call, when it is tied to a run if it reaches a provider. -/
lemma records_next {calls : List (ModelCall π)}
    (hrecords : List.Forall₂ Records (produced s.1.reached) s.2) (hdrawn : DrawnFrom calls s.2)
    (hnew : call.uuid ∉ calls.map ModelCall.uuid)
    (htied : router.Registered call → Tied call.runId) :
    List.Forall₂ Records (produced (router.machine.next s call).1.reached)
        (router.machine.next s call).2 ∧
      DrawnFrom (calls ++ [call]) (router.machine.next s call).2 := by
  by_cases h : router.Registered call
  · obtain ⟨world, completion, hside, hnone, hsome⟩ := next_of_registered (s := s) h
    rw [hside, produced_concat]
    cases completion with
    | none =>
        rw [hnone rfl, Option.map_none, Option.toList_none, List.append_nil]
        exact ⟨hrecords, hdrawn.mono call⟩
    | some c =>
        obtain ⟨record, hrun, hid, hrecord⟩ :=
          recordUsage_of_tied c call.callRef (htied h) (hdrawn.fresh hnew)
        rw [hsome c rfl, hrun]
        refine ⟨List.rel_append hrecords (.cons hrecord .nil), ?_⟩
        intro r hr
        rcases List.mem_append.mp hr with hr | hr
        · exact hdrawn.mono call r hr
        · obtain rfl := List.mem_singleton.mp hr
          exact ⟨call, by simp, hid⟩
  · rw [next_of_unregistered h]
    exact ⟨hrecords, hdrawn.mono call⟩

/-- **Calls that are tied to a run are recorded.** -/
lemma records_run {calls : List (ModelCall π)} (hids : (calls.map ModelCall.uuid).Nodup)
    (htied : ∀ call ∈ calls, router.Registered call → Tied call.runId) (world : ω) :
    List.Forall₂ Records (produced (router.machine.run (⟨world, []⟩, []) calls).1.reached)
        (router.machine.run (⟨world, []⟩, []) calls).2 ∧
      DrawnFrom calls (router.machine.run (⟨world, []⟩, []) calls).2 := by
  induction calls using List.reverseRecOn with
  | nil => exact ⟨.nil, nofun⟩
  | append_singleton calls call ih =>
      rw [List.map_append, List.nodup_append] at hids
      obtain ⟨hnodup, -, hdisjoint⟩ := hids
      obtain ⟨hrecords, hdrawn⟩ := ih hnodup fun c hc => htied c (List.mem_append_left _ hc)
      rw [Machine.run_append, Machine.run_cons, Machine.run_nil]
      refine records_next hrecords hdrawn ?_ (htied call (by simp))
      intro hmem
      exact hdisjoint call.uuid hmem call.uuid (by simp) rfl

/-- **When every model call is accounted for.**  After any sequence of calls on an empty table,
with identifiers drawn once, the table has one record for each completion and no call without a run
has reached a provider exactly if every call for a registered provider names a run. -/
theorem accounted_iff (router : ModelRouter ω π) (world : ω) {calls : List (ModelCall π)}
    (hids : (calls.map ModelCall.uuid).Nodup) :
    Accounted (router.machine.run (⟨world, []⟩, []) calls) ↔
      ∀ call ∈ calls, router.Registered call → Tied call.runId := by
  have hreached : (router.machine.run (⟨world, []⟩, []) calls).1.reached.map ProviderCall.runId =
      [] ++ (calls.filter fun call => router.Registered call).map ModelCall.runId :=
    reached_run calls _
  constructor
  · intro h call hcall hregistered
    have hmem : call.runId ∈
        (router.machine.run (⟨world, []⟩, []) calls).1.reached.map ProviderCall.runId := by
      rw [hreached]
      exact List.mem_map_of_mem (List.mem_filter.mpr ⟨hcall, by simp [hregistered]⟩)
    obtain ⟨p, hp, hrun⟩ := List.mem_map.mp hmem
    exact hrun ▸ h.tied p hp
  · intro h
    refine ⟨(records_run hids h world).1, fun p hp => ?_⟩
    have hmem := List.mem_map_of_mem (f := ProviderCall.runId) hp
    rw [hreached] at hmem
    obtain ⟨call, hcall, hrun⟩ := List.mem_map.mp hmem
    obtain ⟨hcall, hregistered⟩ := List.mem_filter.mp hcall
    exact hrun ▸ h call hcall (of_decide_eq_true hregistered)

/-- A provider that keeps no state and answers every prompt in the same way. -/
def staticProvider : ModelProvider Unit Unit :=
  ⟨fun _ => Effect.ofExcept
    (ModelCompletion.new "session-1" "default" "fake-model" "fake" (.aware 0) 2 3 5)⟩

/-- A router with one provider. -/
def sampleRouter : ModelRouter Unit Unit := ⟨[("fake", staticProvider)], "fake", by decide⟩

/-- A call for a run, one without a run for a provider that is not registered, and one for the
default provider. -/
def sampleCalls : List (ModelCall Unit) :=
  [⟨(), some "fake", some "run-1", some "call-1", "1"⟩, ⟨(), some "other", none, none, "2"⟩,
    ⟨(), none, some "run-2", none, "3"⟩]

theorem accounted_iff_three_calls :
    Accounted (sampleRouter.machine.run (⟨(), []⟩, []) sampleCalls) ↔
      ∀ call ∈ sampleCalls, sampleRouter.Registered call → Tied call.runId :=
  accounted_iff sampleRouter () (by decide)

/-- A call without a run is answered and leaves no record. -/
theorem not_accounted_without_run :
    ¬ Accounted (sampleRouter.machine.run (⟨(), []⟩, []) [⟨(), none, none, none, "1"⟩]) := by
  intro h
  have hlength := h.records.length_eq
  exact absurd hlength (by decide +kernel)

end Waywarden.ModelRouter

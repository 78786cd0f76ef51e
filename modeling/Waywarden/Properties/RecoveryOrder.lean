import Waywarden.Properties.Recovery

/-!
# Recovery and the order of the entries

An entry whose manifest drifted, or whose checkpoint belongs to another run, makes the recovery
loop raise, and so do the entries behind it wait for the next restart: which runs are recovered
depends on what is listed before the first such entry, `admitted`.

Among those entries order does not matter.  Each of them writes one event in the log of its own
run, and which event that is, with which number and payload, was settled before the loop
(`history_rehydrateAll`).  So two lists leave the same logs exactly when they admit the same runs.
-/

namespace Waywarden

open ResumeService

/-- An event as a reader of the log sees it, without its time. -/
def RunEvent.shape (e : RunEvent) : ℕ × RunEventType × Mapping := (e.seq, e.type, e.payload)

/-- The log of a run as the numbers, types and payloads of its events. -/
def Store.history (s : Store) (runId : String) : List (ℕ × RunEventType × Mapping) :=
  (s.log runId).map RunEvent.shape

/-- What recovery writes for a run it admits. -/
def recoveryShape (s : Store) (runId : String) : ℕ × RunEventType × Mapping :=
  if s.hasEvent (resumedId runId) then (blockedEvent s runId 0).shape
  else (recoveryEvent s runId 0).shape

/-- No run whose resume is stored already has a blocked resume on record too. -/
def HasRoom (s : Store) (ps : List PendingRunConfig) : Prop :=
  ∀ p ∈ ps, s.hasEvent (resumedId p.runId) = true → s.hasEvent (blockedId p.runId) = false

instance (s : Store) (ps : List PendingRunConfig) : Decidable (HasRoom s ps) :=
  inferInstanceAs (Decidable (∀ p ∈ ps, _ → _))

/-- The runs of some entries. -/
def runIds (ps : List PendingRunConfig) : List String := ps.map PendingRunConfig.runId

section

variable {sha256 : ByteArray → String} {manifests : List ManifestRow} {s : Store}

lemma credit_ne_zero_of_hasRoom {ps : List PendingRunConfig} (h : HasRoom s ps)
    {p : PendingRunConfig} (hp : p ∈ ps) : credit s p.runId ≠ 0 := by
  rw [credit]
  cases hresumed : s.hasEvent (resumedId p.runId) with
  | false => simp
  | true => simp [h p hp hresumed]

lemma mem_of_mem_admitted {p : PendingRunConfig} {ps : List PendingRunConfig}
    (h : p ∈ admitted sha256 manifests s ps) : p ∈ ps := by
  induction ps with
  | nil => exact absurd h List.not_mem_nil
  | cons q ps ih =>
      rw [admitted] at h
      split at h
      · exact absurd h List.not_mem_nil
      · exact List.mem_cons_of_mem q (ih h)
      · rcases List.mem_cons.mp h with rfl | h
        · exact List.mem_cons_self
        · exact List.mem_cons_of_mem q (ih h)

/-- When no check raises, every entry that passes is admitted. -/
lemma mem_admitted_iff {p : PendingRunConfig} {ps : List PendingRunConfig}
    (hreturn : ∀ q ∈ ps, ∀ e, verdict sha256 manifests (s.run? q.runId) q ≠ .error e) :
    p ∈ admitted sha256 manifests s ps ↔
      p ∈ ps ∧ ∃ run, verdict sha256 manifests (s.run? p.runId) p = .ok (some run) := by
  induction ps with
  | nil => simp [admitted]
  | cons q ps ih =>
      have hrest := ih fun q' hq' => hreturn q' (List.mem_cons_of_mem q hq')
      rw [List.mem_cons, or_and_right]
      cases hv : verdict sha256 manifests (s.run? q.runId) q with
      | error e => exact absurd hv (hreturn q List.mem_cons_self e)
      | ok found =>
          cases found with
          | none =>
              simp only [admitted, hv, hrest]
              refine ⟨Or.inr, Or.rec ?_ id⟩
              rintro ⟨rfl, run, hrun⟩
              exact absurd (hrun.symm.trans hv) (by simp)
          | some run =>
              simp only [admitted, hv, List.mem_cons, hrest]
              refine or_congr_left ⟨?_, And.left⟩
              rintro rfl
              exact ⟨rfl, run, hv⟩

lemma history_push (e : RunEvent) (r : String) :
    (s.push e).history r = s.history r ++ if e.runId = r then [e.shape] else [] := by
  rw [Store.history, Store.log_push, Store.history]
  by_cases hr : e.runId = r
  · simp [hr]
  · simp [hr]

lemma shape_recoveryEvent (r : String) (now : Timestamp) : (recoveryEvent s r now).shape =
    (s.latestSeq r + 1, .runResumed,
      [("resume_kind", .str "worker_recovery"), ("resumed_from_seq", .int (s.latestSeq r))]) :=
  rfl

lemma shape_blockedEvent (r : String) (now : Timestamp) : (blockedEvent s r now).shape =
    (s.latestSeq r + 1, .runProgress,
      [("phase", .str "execute"), ("milestone", .str "resume_blocked")]) :=
  rfl

/-- The event a round stores is the one settled before it. -/
lemma shape_of_spends {r : String} {run : Run} {e : RunEvent} {found : Option Run}
    (h : Spends s r run e found) : e.shape = recoveryShape s r := by
  rw [recoveryShape]
  rcases h.outcome with ⟨hfree, -, now, rfl⟩ | ⟨htaken, -, now, rfl⟩
  · rw [hfree, if_neg (by simp)]
    rfl
  · rw [htaken, if_pos rfl]
    rfl

/-- A round leaves what is settled for the other runs as it is. -/
lemma recoveryShape_frame {r r' : String} {run : Run} {e : RunEvent} {found : Option Run}
    (h : Spends s r run e found) (hr : r' ≠ r) :
    recoveryShape (s.push e) r' = recoveryShape s r' := by
  have hlatest : (s.push e).latestSeq r' = s.latestSeq r' :=
    Store.latestSeq_push_ne s e (by rw [h.own]; exact hr.symm)
  simp only [recoveryShape, h.resumed_frame r' hr, shape_blockedEvent, shape_recoveryEvent, hlatest]

/-- **What the loop leaves in a log.**  Over entries for distinct runs, it appends one event for
each run admitted, and that event is settled by the store before the loop. -/
theorem history_rehydrateAll (env : Env) {ps : List PendingRunConfig}
    (hdistinct : (runIds ps).Nodup)
    (hroom : ∀ p ∈ admitted sha256 manifests s ps, credit s p.runId ≠ 0) (r : String) :
    (rehydrateAll sha256 manifests env ps s).2.history r =
      s.history r ++
        if r ∈ runIds (admitted sha256 manifests s ps) then [recoveryShape s r] else [] := by
  induction ps generalizing env s with
  | nil => simp [rehydrateAll, admitted, runIds, pure]
  | cons p ps ih =>
      obtain ⟨hnew, hrest⟩ := List.nodup_cons.mp hdistinct
      have hother : ∀ q ∈ admitted sha256 manifests s ps, q.runId ≠ p.runId := by
        intro q hq hid
        exact hnew (hid ▸ List.mem_map.mpr ⟨q, mem_of_mem_admitted hq, rfl⟩)
      rcases rehydrate_cases sha256 manifests env p s with ⟨hv, h⟩ | ⟨e, hv, h⟩ | ⟨run, hv, -⟩
      · rw [state_rehydrateAll_cons h]
        simp only [admitted, hv] at hroom ⊢
        exact ih (env.later 2) hrest hroom
      · rw [rehydrateAll_of_error h]
        simp [admitted, hv, runIds]
      · have hadmitted : admitted sha256 manifests s (p :: ps) =
            p :: admitted sha256 manifests s ps := by simp only [admitted, hv]
        rw [hadmitted] at hroom ⊢
        rcases @rehydrate_admitted sha256 manifests env p s run hv with
          ⟨hcredit, -⟩ | ⟨e, found, h, hs⟩
        · exact absurd hcredit (hroom p List.mem_cons_self)
        · have hroom' : ∀ q ∈ admitted sha256 manifests (s.push e) ps,
              credit (s.push e) q.runId ≠ 0 := by
            intro q hq
            rw [admitted_push] at hq
            rw [hs.credit_frame q.runId (hother q hq)]
            exact hroom q (List.mem_cons_of_mem p hq)
          rw [state_rehydrateAll_cons h, ih (env.later 2) hrest hroom', admitted_push,
            history_push, hs.own, shape_of_spends hs]
          by_cases hr : r = p.runId
          · subst hr
            have habsent : p.runId ∉ runIds (admitted sha256 manifests s ps) := by
              intro hmem
              obtain ⟨q, hq, hid⟩ := List.mem_map.mp hmem
              exact hother q hq hid
            have hlisted : p.runId ∈ runIds (p :: admitted sha256 manifests s ps) :=
              List.mem_cons_self
            rw [if_pos rfl, if_neg habsent, if_pos hlisted, List.append_nil]
          · rw [if_neg (Ne.symm hr), List.append_nil, recoveryShape_frame hs hr]
            simp [runIds, hr]

end

/-- **The order of the entries.**  Take two lists of entries for distinct runs, with room for the
record of every blocked resume.  They leave every log with the same numbers, types and payloads if
and only if they admit the same runs; permutations of a list no check of which raises do; and an
admitted run that was not resumed before is resumed, wherever it stands. -/
theorem recovery_order (sha256 : ByteArray → String) (manifests : List ManifestRow) (s : Store)
    (env env' : Env) (ps ps' : List PendingRunConfig)
    (hdistinct : (runIds ps).Nodup) (hdistinct' : (runIds ps').Nodup)
    (hroom : HasRoom s (admitted sha256 manifests s ps))
    (hroom' : HasRoom s (admitted sha256 manifests s ps')) :
    ((∀ r, (rehydrateAll sha256 manifests env ps s).2.history r =
        (rehydrateAll sha256 manifests env' ps' s).2.history r) ↔
      ∀ r, r ∈ runIds (admitted sha256 manifests s ps) ↔
        r ∈ runIds (admitted sha256 manifests s ps')) ∧
    (ps.Perm ps' → (∀ p ∈ ps, ∀ e, verdict sha256 manifests (s.run? p.runId) p ≠ .error e) →
      ∀ r, (rehydrateAll sha256 manifests env ps s).2.history r =
        (rehydrateAll sha256 manifests env' ps' s).2.history r) ∧
    ∀ p ∈ admitted sha256 manifests s ps, s.hasEvent (resumedId p.runId) = false →
      (rehydrateAll sha256 manifests env ps s).2.history p.runId =
        s.history p.runId ++ [(recoveryEvent s p.runId 0).shape] := by
  have hleft := @history_rehydrateAll sha256 manifests s env ps hdistinct
    fun p hp => credit_ne_zero_of_hasRoom hroom hp
  have hright := @history_rehydrateAll sha256 manifests s env' ps' hdistinct'
    fun p hp => credit_ne_zero_of_hasRoom hroom' hp
  have hsame : (∀ r, (rehydrateAll sha256 manifests env ps s).2.history r =
        (rehydrateAll sha256 manifests env' ps' s).2.history r) ↔
      ∀ r, r ∈ runIds (admitted sha256 manifests s ps) ↔
        r ∈ runIds (admitted sha256 manifests s ps') := by
    refine forall_congr' fun r => ?_
    rw [hleft, hright, List.append_right_inj]
    by_cases hr : r ∈ runIds (admitted sha256 manifests s ps)
    · by_cases hr' : r ∈ runIds (admitted sha256 manifests s ps') <;> simp [hr, hr']
    · by_cases hr' : r ∈ runIds (admitted sha256 manifests s ps') <;> simp [hr, hr']
  refine ⟨hsame, fun hperm hreturn => hsame.mpr fun r => ?_, fun p hp hfree => ?_⟩
  · have hreturn' : ∀ p ∈ ps', ∀ e, verdict sha256 manifests (s.run? p.runId) p ≠ .error e :=
      fun p hp => hreturn p (hperm.mem_iff.mpr hp)
    simp only [runIds, List.mem_map, mem_admitted_iff hreturn, mem_admitted_iff hreturn',
      hperm.mem_iff]
  · have hlisted : p.runId ∈ runIds (admitted sha256 manifests s ps) :=
      List.mem_map.mpr ⟨p, hp, rfl⟩
    rw [hleft, if_pos hlisted, recoveryShape, hfree, if_neg (by simp)]

/-- Two started runs, listed one way. -/
def bothEntries : List PendingRunConfig := [⟨"run-t1", none, none⟩, ⟨"run-t2", none, none⟩]

/-- The two runs have the same log when they are listed the other way. -/
theorem recovery_order_swapped :
    (rehydrateAll (fun _ => "") [] stillEnv bothEntries bothStarted).2.history "run-t1" =
        (rehydrateAll (fun _ => "") [] stillEnv bothEntries.reverse bothStarted).2.history
          "run-t1" ∧
      (rehydrateAll (fun _ => "") [] stillEnv bothEntries bothStarted).2.history "run-t2" =
        (rehydrateAll (fun _ => "") [] stillEnv bothEntries.reverse bothStarted).2.history
          "run-t2" := by
  have hreturn : ∀ p ∈ bothEntries, ∀ e,
      verdict (fun _ => "") [] (bothStarted.run? p.runId) p ≠ .error e := by
    have hok : ∀ p ∈ bothEntries,
        (verdict (fun _ => "") [] (bothStarted.run? p.runId) p).isOk = true := by decide
    intro p hp e herror
    have hreply := hok p hp
    rw [herror] at hreply
    exact absurd hreply (by simp [Except.isOk, Except.toBool])
  have hsame := (recovery_order (fun _ => "") [] bothStarted stillEnv stillEnv bothEntries
    bothEntries.reverse (by decide) (by decide) (by decide) (by decide)).2.1
      (List.reverse_perm bothEntries).symm hreturn
  exact ⟨hsame "run-t1", hsame "run-t2"⟩

/-- The run listed behind the one whose manifest drifted is not recovered. -/
theorem not_recovery_order_behind_drift :
    ¬ ∀ (s : Store) (ps ps' : List PendingRunConfig), (runIds ps).Nodup → ps.Perm ps' →
      ∀ r, (rehydrateAll (fun _ => "") [] stillEnv ps s).2.history r =
        (rehydrateAll (fun _ => "") [] stillEnv ps' s).2.history r := by
  intro h
  have hsame := h bothStarted [⟨"run-t1", none, none⟩, ⟨"run-t2", some "drifted", none⟩]
    [⟨"run-t2", some "drifted", none⟩, ⟨"run-t1", none, none⟩] (by decide)
    (List.Perm.swap _ _ _) "run-t1"
  exact absurd (congrArg List.length hsame) (by decide)

end Waywarden

import Waywarden.Properties.Recovery

/-!
# Detection of manifest drift

An entry of the recovery list carries the digest of the manifest its run had, `m₀`: the digest of
the canonical JSON text, keys sorted, of the manifest's dictionary.  Recovery reads the manifest
from the table, writes it out the same way and compares digests.

When the digest function tells the two texts apart, this detects every drift.  The text determines
the dictionary up to the order of its keys (`Json.dumps_injective`), the dictionaries that can be
read from the table hide nothing in that order (`eq_asdict_of_sortKeys`), and a dictionary
determines its manifest (`WorkspaceManifest.asdict_injective`).  What `save` wrote reads back as
the manifest saved (`get_of_saved`), so it is never taken for a drift.
-/

namespace Waywarden

open ResumeService WorkspaceManifestRepository

section

variable {sha256 : ByteArray → String} {manifests : List ManifestRow} {p : PendingRunConfig}
  {m₀ : WorkspaceManifest}

/-- The digest of an entry recorded for a manifest. -/
def recordedHash (sha256 : ByteArray → String) (m : WorkspaceManifest) : String :=
  contentHash sha256 (serializeManifestBody m.asdict)

/-- The digest tells the text of the stored manifest from the text of `m₀`. -/
def NoCollision (sha256 : ByteArray → String) (manifests : List ManifestRow) (runId : String)
    (m₀ : WorkspaceManifest) : Prop :=
  ∀ body, actualManifestBody manifests runId = .ok body →
    contentHash sha256 body = recordedHash sha256 m₀ → body = serializeManifestBody m₀.asdict

/-! ## The canonical text -/

/-- A canonical text is never empty. -/
lemma serializeManifestBody_ne_empty (o : Json) : serializeManifestBody o ≠ "" := by
  intro h
  have hparse := Json.parse_dumps true (Json.sortKeys o)
  rw [serializeManifestBody] at h
  rw [h] at hparse
  have hempty : Json.parse "" = none := by decide
  exact absurd (hempty.symm.trans hparse) (by simp)

/-- **The text determines the manifest.**  A stored manifest with the canonical text of `m₀` is
`m₀`. -/
lemma get_of_actualManifestBody {runId : String}
    (h : actualManifestBody manifests runId = .ok (serializeManifestBody m₀.asdict)) :
    get manifests runId = .ok (some m₀.asdict) := by
  rw [actualManifestBody, Effect.except_bind_eq_ok] at h
  obtain ⟨found, hget, h⟩ := h
  cases found with
  | none => exact absurd (Except.ok.inj h).symm (serializeManifestBody_ne_empty _)
  | some o =>
      have hsorted : Json.sortKeys o = Json.sortKeys m₀.asdict :=
        Json.dumps_injective (Except.ok.inj h)
      obtain ⟨row, hrow⟩ := row_of_get hget
      rw [hget, eq_asdict_of_sortKeys hrow hsorted]

/-! ## The checks of an entry -/

/-- An entry that passes its checks has its own checkpoint, if any, and a manifest with the digest
recorded, if any. -/
lemma checks_of_verdict {row : Option RunRow} {run : Run}
    (h : verdict sha256 manifests row p = .ok (some run)) :
    (∀ id, p.checkpointRunId = some id → id = p.runId) ∧
      ∀ expected, p.manifestHash = some expected →
        computeActualManifestHash sha256 manifests p.runId = .ok expected := by
  cases row with
  | none => exact absurd h (by simp [verdict])
  | some row =>
      simp only [verdict, Effect.except_bind_eq_ok] at h
      obtain ⟨existing, -, h⟩ := h
      split at h
      · exact absurd h (by simp)
      · split at h
        · exact absurd h (by simp)
        · rename_i hown
          rw [Option.filter_eq_none_iff] at hown
          refine ⟨fun id hid => by simpa using hown id hid, fun expected hexpected => ?_⟩
          rw [hexpected] at h
          obtain ⟨actual, hactual, h⟩ := Effect.except_bind_eq_ok.mp h
          split at h
          · exact absurd h (by simp)
          · rename_i hsame
            rw [hactual, not_not.mp hsame]

/-- The exceptions of the checks, other than the one of a drift. -/
lemma cls_of_ofRow {row : RunRow} {e : PyError} (h : Run.ofRow row = .error e) :
    e.cls = .valueError := by
  rw [Run.ofRow] at h
  split at h
  · rw [← Except.error.inj h]
  · split at h
    · rw [← Except.error.inj h]
    · exact absurd h (by simp)

/-- An entry whose manifest has the digest recorded is not refused for a drift. -/
lemma verdict_ne_changed {row : Option RunRow} {expected : String} {e : PyError}
    (hexpected : p.manifestHash = some expected)
    (hactual : computeActualManifestHash sha256 manifests p.runId = .ok expected)
    (h : verdict sha256 manifests row p = .error e) :
    e.cls ≠ .manifestChangedWithoutRevisionError := by
  cases row with
  | none => exact absurd h (by simp [verdict])
  | some row =>
      simp only [verdict, Effect.except_bind_eq_error] at h
      rcases h with h | ⟨existing, -, h⟩
      · rw [cls_of_ofRow h]
        decide
      · split at h
        · exact absurd h (by simp)
        · split at h
          · rw [← Except.error.inj h]
            show ErrorClass.crossRunCheckpointError ≠ .manifestChangedWithoutRevisionError
            decide
          · simp [hexpected, hactual, bind, Except.bind] at h

/-- The digest computed for a manifest that was saved is the one recorded for it. -/
lemma computeActualManifestHash_of_saved (h : Saved manifests m₀) :
    computeActualManifestHash sha256 manifests m₀.runId = .ok (recordedHash sha256 m₀) := by
  have hbody : actualManifestBody manifests m₀.runId = .ok (serializeManifestBody m₀.asdict) := by
    rw [actualManifestBody, get_of_saved h]
    rfl
  rw [computeActualManifestHash, hbody]
  rfl

/-! ## One round -/

/-- A round that stores a `run.resumed` event passed its checks. -/
lemma verdict_of_appended {env : Env} {r : Round}
    (hround : rehydrate sha256 manifests env r.entry r.before = (r.outcome, r.after))
    (h : ∃ e ∈ r.appended, e.type = .runResumed) :
    ∃ run, verdict sha256 manifests (r.before.run? r.entry.runId) r.entry = .ok (some run) := by
  have hquiet : r.after ≠ r.before := by
    intro hsame
    obtain ⟨e, he, -⟩ := h
    rw [Round.appended, hsame, List.drop_length] at he
    exact absurd he List.not_mem_nil
  rcases rehydrate_cases sha256 manifests env r.entry r.before with
    ⟨-, hskip⟩ | ⟨_, -, hraise⟩ | ⟨run, hv, -⟩
  · exact absurd (congrArg Prod.snd (hround.symm.trans hskip)) hquiet
  · exact absurd (congrArg Prod.snd (hround.symm.trans hraise)) hquiet
  · exact ⟨run, hv⟩

/-- What a round raises comes from its checks, or from the primary key. -/
lemma cls_of_outcome {env : Env} {r : Round} {e : PyError}
    (hround : rehydrate sha256 manifests env r.entry r.before = (r.outcome, r.after))
    (h : r.outcome = .error e) :
    verdict sha256 manifests (r.before.run? r.entry.runId) r.entry = .error e ∨
      e.cls = .integrityError := by
  rw [h] at hround
  rcases rehydrate_cases sha256 manifests env r.entry r.before with
    ⟨-, hskip⟩ | ⟨e', hv, hraise⟩ | ⟨run, -, ⟨-, hresume⟩ | ⟨-, -, hblock⟩ | ⟨-, -, hrefuse⟩⟩
  · exact absurd (congrArg Prod.fst (hround.symm.trans hskip)) (by simp)
  · have hsame := congrArg Prod.fst (hround.symm.trans hraise)
    exact Or.inl (by rw [hv, Except.error.inj hsame])
  · exact absurd (congrArg Prod.fst (hround.symm.trans hresume)) (by simp)
  · exact absurd (congrArg Prod.fst (hround.symm.trans hblock)) (by simp)
  · have hsame := congrArg Prod.fst (hround.symm.trans hrefuse)
    exact Or.inr (by rw [Except.error.inj hsame])

end

/-- **Drift is detected, and nothing else is.**  In every loop, take an entry with the digest of
the manifest `m₀`, on whose texts the digest function has no collision.  If its round appends
`run.resumed`, the manifest stored for its run is `m₀` and its checkpoint is absent or its own; and
if `save` wrote `m₀` for its run, its round never raises the exception of a drift. -/
theorem drift_detected (sha256 : ByteArray → String) (manifests : List ManifestRow) (env : Env)
    (pending : List PendingRunConfig) (s : Store) (m₀ : WorkspaceManifest) :
    rehydrateAll sha256 manifests env pending s =
        replay s (rounds sha256 manifests env pending s) ∧
      ∀ r ∈ rounds sha256 manifests env pending s,
        r.entry.manifestHash = some (recordedHash sha256 m₀) →
        NoCollision sha256 manifests r.entry.runId m₀ →
        ((∃ e ∈ r.appended, e.type = .runResumed) →
          get manifests r.entry.runId = .ok (some m₀.asdict) ∧
            ∀ id, r.entry.checkpointRunId = some id → id = r.entry.runId) ∧
        (Saved manifests m₀ → r.entry.runId = m₀.runId →
          ∀ e, r.outcome = .error e → e.cls ≠ .manifestChangedWithoutRevisionError) := by
  refine ⟨rehydrateAll_eq_replay sha256 manifests env pending s, fun r hr hhash hcollision => ?_⟩
  obtain ⟨env', hround⟩ := round_of_mem hr
  constructor
  · intro hresumed
    obtain ⟨run, hv⟩ := verdict_of_appended hround hresumed
    obtain ⟨hcheckpoint, hmanifest⟩ := checks_of_verdict hv
    refine ⟨get_of_actualManifestBody ?_, hcheckpoint⟩
    have hactual := hmanifest _ hhash
    cases hbody : actualManifestBody manifests r.entry.runId with
    | error e =>
        rw [computeActualManifestHash, hbody] at hactual
        exact absurd hactual (by simp [Except.map])
    | ok body =>
        rw [computeActualManifestHash, hbody] at hactual
        rw [hcollision body hbody (Except.ok.inj hactual)]
  · intro hsaved hrun e he
    rcases cls_of_outcome hround he with hv | hkey
    · refine verdict_ne_changed hhash ?_ hv
      rw [hrun]
      exact computeActualManifestHash_of_saved hsaved
    · rw [hkey]
      decide

lemma runId_sampleManifest : sampleManifest.runId = "run-t1" := rfl

lemma recordedHash_sampleManifest :
    recordedHash (fun _ => sampleHash) sampleManifest = sampleHash := by
  rw [recordedHash, contentHash]

/-- The round of the sample entry resumes the sample run. -/
lemma round_sampleEntry :
    ∃ run, (⟨sampleEntry, startedStore, .ok (some run),
      startedStore.push (recoveryEvent startedStore "run-t1" 0)⟩ : Round) ∈
        rounds (fun _ => sampleHash) sampleTable stillEnv [sampleEntry] startedStore := by
  have hrec : Recoverable (fun _ => sampleHash) sampleTable startedStore sampleEntry := by
    refine ⟨⟨sampleRun, rfl, rfl⟩, fun expected hexpected => ?_, nofun⟩
    obtain rfl : sampleHash = expected := Option.some.inj hexpected
    exact computeActualManifestHash_sample
  obtain ⟨run, -, hv⟩ := hrec.verdict
  rcases rehydrate_cases (fun _ => sampleHash) sampleTable stillEnv sampleEntry startedStore with
    ⟨hskip, -⟩ | ⟨_, hraise, -⟩ | ⟨run', -, ⟨-, h⟩ | ⟨htaken, -, -⟩ | ⟨htaken, -, -⟩⟩
  · exact absurd (hskip.symm.trans hv) (by simp)
  · exact absurd (hraise.symm.trans hv) (by simp)
  · refine ⟨run', ?_⟩
    rw [rounds, h]
    exact List.mem_cons_self
  · exact absurd htaken (by decide)
  · exact absurd htaken (by decide)

/-- The sample run is resumed with the manifest that was saved. -/
theorem drift_detected_sample :
    get sampleTable "run-t1" = .ok (some sampleManifest.asdict) ∧
      ∀ id, sampleEntry.checkpointRunId = some id → id = "run-t1" := by
  have hget := get_of_saved saved_sampleManifest
  rw [runId_sampleManifest] at hget
  have hcollision : NoCollision (fun _ => sampleHash) sampleTable "run-t1" sampleManifest := by
    intro body hactual _
    rw [actualManifestBody, hget] at hactual
    exact (Except.ok.inj hactual).symm
  have hhash : sampleEntry.manifestHash =
      some (recordedHash (fun _ => sampleHash) sampleManifest) := by
    rw [recordedHash_sampleManifest]
    rfl
  obtain ⟨run, hround⟩ := round_sampleEntry
  obtain ⟨hresumed, -⟩ := (drift_detected (fun _ => sampleHash) sampleTable stillEnv [sampleEntry]
    startedStore sampleManifest).2 _ hround hhash hcollision
  refine hresumed ⟨recoveryEvent startedStore "run-t1" 0, ?_, rfl⟩
  rw [Round.appended, Store.runEvents_push, List.drop_left]
  exact List.mem_singleton_self _

end Waywarden

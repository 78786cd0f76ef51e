import Waywarden.Assets.Metadata

/-!
# Which asset versions are semantic versions

What `SEMVER_RE` promises of a version, and what `from_dict` does: the coercion pads and keeps as it
should, it is stable, and it lets every other text through.  So an accepted asset has the version it
is promised exactly when it was given one (`versionLaw_iff`).
-/

namespace Waywarden

open Asset

variable {E : AssetEnv} {data : Mapping} {asset : Asset E}

/-- What is promised of the version in a mapping: one that is accepted matches the pattern, a dotted
one is padded, one that matches is kept up to the space around it, every other text is rejected, and
coercing an accepted version again changes nothing. -/
structure VersionLaw (E : AssetEnv) (data : Mapping) : Prop where
  semver : ∀ asset, fromDict E data = .ok asset → matchesSemver E.digits asset.version = true
  padded : ∀ asset raw, fromDict E data = .ok asset → data.get "version" = some (.str raw) →
    IsDotted E.digits (strip raw) → asset.version = paddedVersion (strip raw)
  kept : ∀ asset raw, fromDict E data = .ok asset → data.get "version" = some (.str raw) →
    matchesSemver E.digits (strip raw) = true → asset.version = strip raw
  rejected : ∀ raw, data.get "version" = some (.str raw) → ¬ IsVersionText E.digits (strip raw) →
    ∀ asset, fromDict E data ≠ .ok asset
  stable : ∀ asset, fromDict E data = .ok asset →
    coerceVersion E.digits (.str asset.version) = .ok asset.version

/-- The version of an accepted asset is what the coercion makes of a string. -/
lemma exists_coerced_of_fromDict (h : fromDict E data = .ok asset) :
    ∃ raw, data.get "version" = some (.str raw) ∧
      coerceVersion E.digits (.str raw) = .ok asset.version := by
  obtain ⟨-, hbase, -⟩ := read_of_fromDict h
  have hversion := (BaseRead.of_read hbase).version
  unfold required at hversion
  split at hversion
  · cases hversion
  · rename_i value hget
    have hcoerced := coerceVersion_of_readVersion E hversion
    obtain ⟨raw, rfl⟩ := exists_raw_of_coerceVersion hcoerced
    exact ⟨raw, hget, hcoerced⟩

/-- **Which accepted mappings keep the promise**: those whose version is one, once stripped. -/
theorem versionLaw_iff (h : fromDict E data = .ok asset) :
    VersionLaw E data ↔
      ∃ raw, data.get "version" = some (.str raw) ∧ IsVersionText E.digits (strip raw) := by
  -- Every asset the mapping reads as is this one, and every string under the key is this one.
  obtain ⟨raw, hget, hcoerced⟩ := exists_coerced_of_fromDict h
  have hunique : ∀ other, fromDict E data = .ok other → other = asset := by
    intro other hother
    exact Except.ok.inj (hother.symm.trans h)
  have hraw : ∀ raw', data.get "version" = some (.str raw') → raw' = raw := by
    intro raw' hget'
    exact Value.str.inj (Option.some.inj (hget'.symm.trans hget))
  constructor
  · intro law
    exact ⟨raw, hget, (matchesSemver_coerced_iff hcoerced).mp (law.semver asset h)⟩
  · rintro ⟨raw', hget', hversion⟩
    obtain rfl := hraw raw' hget'
    refine ⟨?_, ?_, ?_, ?_, ?_⟩
    · intro other hother
      rw [hunique other hother]
      exact (matchesSemver_coerced_iff hcoerced).mpr hversion
    · intro other raw'' hother hget'' hdotted
      obtain rfl := hraw raw'' hget''
      rw [hunique other hother]
      exact coerced_of_isDotted hcoerced hdotted
    · intro other raw'' hother hget'' hsemver
      obtain rfl := hraw raw'' hget''
      rw [hunique other hother]
      exact coerced_of_matchesSemver hcoerced hsemver
    · intro raw'' hget'' hnot
      obtain rfl := hraw raw'' hget''
      exact absurd hversion hnot
    · intro other hother
      rw [hunique other hother]
      exact coerceVersion_coerced hcoerced

/-! ### A prompt with a version, and one with the name of a fruit -/

/-- A prompt with this version. -/
def greetingPrompt (version : String) : Mapping :=
  [("id", .str "greeting"), ("kind", .str "prompt"), ("version", .str version),
    ("description", .str "Says hello.")]

/-- The prompt is accepted with the version the coercion returns. -/
lemma exists_greetingPrompt {version coerced : String}
    (h : (fromDict .ascii (greetingPrompt version)).map (fun asset => asset.version) =
      .ok coerced) :
    ∃ asset, fromDict .ascii (greetingPrompt version) = .ok asset ∧ asset.version = coerced := by
  cases hread : fromDict .ascii (greetingPrompt version) with
  | error e =>
      rw [hread] at h
      cases h
  | ok asset =>
      rw [hread] at h
      exact ⟨asset, rfl, Except.ok.inj h⟩

theorem greetingPrompt_keeps :
    ∃ asset, fromDict .ascii (greetingPrompt " 1.2 ") = .ok asset ∧
      VersionLaw .ascii (greetingPrompt " 1.2 ") ∧ asset.version = "1.2.0" := by
  obtain ⟨asset, hread, hversion⟩ :=
    @exists_greetingPrompt " 1.2 " "1.2.0" (by decide +kernel)
  refine ⟨asset, hread, (versionLaw_iff hread).mpr ⟨" 1.2 ", rfl, ?_⟩, hversion⟩
  exact Or.inl (by decide +kernel)

/-- Five letters or more pass for a version. -/
theorem greetingPrompt_breaks :
    ∃ asset, fromDict .ascii (greetingPrompt "banana") = .ok asset ∧ asset.version = "banana" ∧
      matchesSemver AssetEnv.ascii.digits asset.version = false ∧
      ¬ VersionLaw .ascii (greetingPrompt "banana") := by
  obtain ⟨asset, hread, hversion⟩ :=
    @exists_greetingPrompt "banana" "banana" (by decide +kernel)
  have hsemver : matchesSemver AssetEnv.ascii.digits asset.version = false := by
    rw [hversion]
    decide +kernel
  refine ⟨asset, hread, hversion, hsemver, ?_⟩
  intro law
  have hmatches := law.semver asset hread
  rw [hsemver] at hmatches
  cases hmatches

end Waywarden

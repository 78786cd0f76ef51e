import Waywarden.Assets.Metadata

/-!
# Assets as dictionaries

The validators leave alone what they have cleaned, so the fields of an accepted asset, as a
dictionary, are accepted as the same asset (`reads_back`): nested routes, nodes with checkpoints and
handoffs included.  `to_dict` does not give that dictionary, or any other: it raises on every asset
(`unwritten_of_fromDict`).
-/

namespace Waywarden

open Asset

variable {E : AssetEnv} {data : Mapping} {asset : Asset E}

/-- What is promised of an asset: it can be written as a dictionary, and that is read as it. -/
def RoundTrips (asset : Asset E) : Prop :=
  ∃ written, asset.toDict = .ok written ∧ fromDict E written = .ok asset

/-- The fields of an accepted asset are accepted as that asset: cleaning is done once. -/
lemma reads_back (h : fromDict E data = .ok asset) : fromDict E asset.dict = .ok asset :=
  fromDict_dict (model_eq_of_fromDict h)

/-- Every asset is an instance of a pydantic model. -/
lemma toDict_eq_error (asset : Asset E) :
    asset.toDict = .error ⟨.typeError, "asdict() should be called on dataclass instances", []⟩ := by
  unfold toDict asdict
  exact if_neg Bool.false_ne_true

lemma not_roundTrips (asset : Asset E) : ¬ RoundTrips asset := by
  rintro ⟨written, hwritten, -⟩
  rw [toDict_eq_error] at hwritten
  cases hwritten

/-- **No accepted asset is written**, of whatever kind it is, although its fields would be read as
that asset. -/
theorem unwritten_of_fromDict (h : fromDict E data = .ok asset) :
    ¬ RoundTrips asset ∧ fromDict E asset.dict = .ok asset :=
  ⟨not_roundTrips asset, reads_back h⟩

/-! ### A pipeline with a checkpoint, and a team with a route -/

/-- A pipeline of a draft and its review. -/
def reviewedPipeline : Mapping :=
  [("id", .str "reviewed"), ("kind", .str "pipeline"), ("version", .str "1"),
    ("description", .str "A draft and its review."), ("start_node", .str "draft"),
    ("nodes", .list [
      .dict [("id", .str "draft"), ("kind", .str "sub_agent"), ("ref_id", .str "writer"),
        ("input_artifact_kind", .str "brief"), ("output_artifact_kind", .str "essay"),
        ("phase", .str "code"), ("milestone", .str "draft_written")],
      .dict [("id", .str "review"), ("kind", .str "review_checkpoint"), ("ref_id", .str "editor"),
        ("input_artifact_kind", .str "essay"), ("output_artifact_kind", .str "essay"),
        ("phase", .str "review"), ("milestone", .str "review_passed"),
        ("review_checkpoint", .dict [("input_artifact_kind", .str "essay"),
          ("passed_output_artifact_kind", .str "essay"),
          ("failed_output_artifact_kind", .str "notes")])]]),
    ("routes", .list [
      .dict [("from_node", .str "draft"), ("outcome", .str "success"),
        ("to_node", .str " review ")],
      .dict [("from_node", .str "review"), ("outcome", .str "success"), ("to_node", .null)]])]

/-- A team of two with a route. -/
def writingTeam : Mapping :=
  [("id", .str "writing"), ("kind", .str "team"), ("version", .str "1.0.0"),
    ("description", .str "Two who write."), ("tags", .list [.str "prose", .str " prose "]),
    ("input_artifact_kind", .str "brief"), ("output_artifact_kind", .str "essay"),
    ("dispatcher", .str "chair"), ("specialists", .list [.str "clerk"]),
    ("handoff_routes", .list [
      .dict [("from_agent", .str "chair"), ("output_name", .str "outline"),
        ("to_agent", .str "clerk"), ("artifact_kind", .str "outline")]])]

/-- An accepted mapping reads as an asset. -/
lemma exists_of_isOk (h : (fromDict .ascii data).toOption.isSome = true) :
    ∃ asset, fromDict .ascii data = .ok asset := by
  obtain ⟨asset, hasset⟩ := Option.isSome_iff_exists.mp h
  exact ⟨asset, Effect.except_toOption_eq_some.mp hasset⟩

theorem reviewedPipeline_unwritten :
    ∃ asset, fromDict .ascii reviewedPipeline = .ok asset ∧ ¬ RoundTrips asset ∧
      fromDict .ascii asset.dict = .ok asset := by
  obtain ⟨asset, hread⟩ := @exists_of_isOk reviewedPipeline (by decide +kernel)
  exact ⟨asset, hread, unwritten_of_fromDict hread⟩

/-- The team is accepted, and writing it raises. -/
theorem writingTeam_toDict :
    ∃ asset, fromDict .ascii writingTeam = .ok asset ∧
      asset.toDict =
        .error ⟨.typeError, "asdict() should be called on dataclass instances", []⟩ ∧
      ¬ RoundTrips asset := by
  obtain ⟨asset, hread⟩ := @exists_of_isOk writingTeam (by decide +kernel)
  exact ⟨asset, hread, toDict_eq_error asset, not_roundTrips asset⟩

end Waywarden

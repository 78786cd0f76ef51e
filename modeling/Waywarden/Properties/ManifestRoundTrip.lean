import Waywarden.Infra.ManifestWriter

/-!
# A manifest is read back as it was written

The writer walks the fields of whatever dataclass it is given, the reader names every class and
every field itself.  Written and read back, a manifest is the one it was, and no other
(`dictToManifest_writtenBody_iff`): a manifest is known by its dictionary.
-/

namespace Waywarden

open WorkspaceManifestRepository

/-- **The round trip.**  What is read from the body of a manifest is that manifest. -/
theorem dictToManifest_writtenBody_iff (m m' : WorkspaceManifest) :
    (writtenBody m >>= dictToManifest m.runId) = .ok m'.asdict ↔ m' = m := by
  have hread : (writtenBody m >>= dictToManifest m.runId) = .ok m.asdict := by
    rw [writtenBody_eq]
    exact dictToManifest_bodyOf m
  rw [hread, Except.ok.injEq, WorkspaceManifest.asdict_injective.eq_iff]
  exact eq_comm

end Waywarden

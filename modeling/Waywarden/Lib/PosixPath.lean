import Mathlib.Tactic.Common
import Mathlib.Data.List.Basic
import Mathlib.Data.List.Infix

/-!
# POSIX paths

`os.path.normpath` and `pathlib.PurePosixPath` on paths as lists of characters.

Both take the root off a path first: one leading slash, or two when there are exactly two, which
POSIX lets mean something else than one.  So a path may be its own normal form and still not be
the plain spelling of its location: `normal_iff` says that the rooted fixed points of `normpath`
are the canonical paths and the canonical paths with one more slash in front.
-/

namespace PosixPath

/-- A component of a path. -/
abbrev Segment : Type := List Char

/-- The component that means the directory itself. -/
def dot : Segment := ['.']

/-- The component that means the parent directory. -/
def dotdot : Segment := ['.', '.']

/-- Components joined by slashes. -/
def join (segments : List Segment) : List Char := ['/'].intercalate segments

/-- `posixpath.splitroot`, without the drive, which is always empty: the root and the rest. -/
def splitroot : List Char → List Char × List Char
  | '/' :: '/' :: '/' :: rest => (['/'], '/' :: '/' :: rest)
  | '/' :: '/' :: rest => (['/', '/'], rest)
  | '/' :: rest => (['/'], rest)
  | path => ([], path)

/-- One round of the loop of `normpath`. -/
def pushComponent (root : List Char) (comps : List Segment) (comp : Segment) : List Segment :=
  if comp = [] ∨ comp = dot then comps
  else if comp ≠ dotdot ∨ (root = [] ∧ comps = []) ∨ comps.getLast? = some dotdot then
    comps ++ [comp]
  else comps.dropLast

/-- `os.path.normpath`. -/
def normpath (path : List Char) : List Char :=
  if path = [] then dot
  else
    let root := (splitroot path).1
    let comps := ((splitroot path).2.splitOn '/').foldl (pushComponent root) []
    let path := root ++ join comps
    if path = [] then dot else path

/-- `PurePosixPath`: the root and the components below it. -/
structure PurePosixPath where
  root : List Char
  parts : List Segment
  deriving DecidableEq, Repr

/-- `PurePosixPath(path)`: empty components and dots are left out, parents are kept. -/
def PurePosixPath.parse (path : List Char) : PurePosixPath where
  root := (splitroot path).1
  parts := ((splitroot path).2.splitOn '/').filter fun part => part ≠ [] ∧ part ≠ dot

/-- `is_relative_to`: the same root, and the components of the other path come first. -/
def PurePosixPath.isRelativeTo (path other : PurePosixPath) : Bool :=
  path.root == other.root && other.parts.isPrefixOf path.parts

/-! ## Plain components -/

/-- A component that names an entry of its directory. -/
structure Plain (segment : Segment) : Prop where
  ne_nil : segment ≠ []
  ne_dot : segment ≠ dot
  ne_dotdot : segment ≠ dotdot
  slash_notMem : '/' ∉ segment

/-- The root of one slash, or that of two. -/
def IsRoot (root : List Char) : Prop := root = ['/'] ∨ root = ['/', '/']

/-- Plain components behind a root. -/
def RootedAt (root path : List Char) : Prop :=
  ∃ segments, (∀ s ∈ segments, Plain s) ∧ path = root ++ join segments

/-- A canonical path: one leading slash and plain components joined by single slashes. -/
def Canonical (path : List Char) : Prop := RootedAt ['/'] path

/-- A canonical path, but for one more slash that may stand in front of it. -/
def Rooted (path : List Char) : Prop := ∃ root, IsRoot root ∧ RootedAt root path

/-- The path equals the other one or lies below it, component by component. -/
def Below (path other : List Char) : Prop :=
  ∃ root segments more, IsRoot root ∧ (∀ s ∈ segments ++ more, Plain s) ∧
    other = root ++ join segments ∧ path = root ++ join (segments ++ more)

variable {root path other : List Char} {segments : List Segment}

/-- The components a path is split into hold no slash. -/
lemma slash_notMem_of_mem_splitOn {rest : List Char} {s : Segment}
    (hs : s ∈ rest.splitOn '/') : '/' ∉ s := by
  induction rest generalizing s with
  | nil =>
      rw [List.splitOn_nil, List.mem_singleton] at hs
      simp [hs]
  | cons c rest ih =>
      rw [List.splitOn_cons_eq_if_modifyHead] at hs
      split at hs
      · rcases List.mem_cons.mp hs with rfl | hs
        · exact List.not_mem_nil
        · exact ih hs
      · rename_i hc
        -- the character joins the first component
        obtain ⟨first, later, hsplit⟩ := List.exists_cons_of_ne_nil (List.splitOn_ne_nil '/' rest)
        rw [hsplit, List.modifyHead_cons] at hs
        rcases List.mem_cons.mp hs with rfl | hs
        · have hfirst := ih (s := first) (hsplit ▸ List.mem_cons_self)
          simp only [List.mem_cons, not_or]
          exact ⟨fun h => hc (by simp [← h]), hfirst⟩
        · exact ih (hsplit ▸ List.mem_cons_of_mem _ hs)

lemma join_ne_nil (hne : segments ≠ []) (h : ∀ s ∈ segments, Plain s) : join segments ≠ [] := by
  obtain ⟨s, segments, rfl⟩ := List.exists_cons_of_ne_nil hne
  obtain ⟨c, s, rfl⟩ := List.exists_cons_of_ne_nil (h s List.mem_cons_self).ne_nil
  cases segments <;> simp [join]

/-- Joined plain components do not begin with a slash. -/
lemma join_ne_slash_cons (h : ∀ s ∈ segments, Plain s) (rest : List Char) :
    join segments ≠ '/' :: rest := by
  cases segments with
  | nil => simp [join]
  | cons s segments =>
      have hs := h s List.mem_cons_self
      intro hjoin
      obtain ⟨c, s, rfl⟩ := List.exists_cons_of_ne_nil hs.ne_nil
      have hc : c = '/' := by
        cases segments <;> simp [join] at hjoin <;> exact hjoin.1
      exact hs.slash_notMem (hc ▸ List.mem_cons_self)

lemma splitroot_append_join (hroot : IsRoot root) (h : ∀ s ∈ segments, Plain s) :
    splitroot (root ++ join segments) = (root, join segments) := by
  have hne := join_ne_slash_cons h
  generalize join segments = rest at hne
  rcases hroot with rfl | rfl
  · cases rest with
    | nil => rfl
    | cons c rest =>
        have hc : c ≠ '/' := fun hc => hne rest (hc ▸ rfl)
        simp [splitroot, hc]
  · cases rest with
    | nil => rfl
    | cons c rest => simp [splitroot]

/-- Splitting joined plain components gives them back; no component is left as an empty one. -/
lemma splitOn_join (h : ∀ s ∈ segments, Plain s) :
    (join segments).splitOn '/' = if segments = [] then [[]] else segments := by
  split
  · rename_i hnil
    rw [hnil]
    rfl
  · rename_i hne
    exact List.splitOn_intercalate '/' (fun s hs => (h s hs).slash_notMem) hne

/-! ## `PurePosixPath` on plain components -/

lemma parse_append_join (hroot : IsRoot root) (h : ∀ s ∈ segments, Plain s) :
    PurePosixPath.parse (root ++ join segments) = ⟨root, segments⟩ := by
  rw [PurePosixPath.parse, splitroot_append_join hroot h, splitOn_join h]
  congr 1
  split
  · rename_i hnil
    simp [hnil]
  · refine List.filter_eq_self.mpr fun s hs => ?_
    simp [(h s hs).ne_nil, (h s hs).ne_dot]

/-- **Containment.**  Between rooted paths `is_relative_to` is containment component by
component. -/
theorem isRelativeTo_iff (hpath : Rooted path) (hother : Rooted other) :
    (PurePosixPath.parse path).isRelativeTo (PurePosixPath.parse other) = true ↔
      Below path other := by
  unfold PurePosixPath.isRelativeTo
  rw [Bool.and_eq_true, beq_iff_eq, List.isPrefixOf_iff_prefix]
  constructor
  · obtain ⟨root, hroot, parts, hparts, rfl⟩ := hpath
    obtain ⟨root', hroot', parts', hparts', rfl⟩ := hother
    rw [parse_append_join hroot hparts, parse_append_join hroot' hparts']
    intro ⟨hsame, more, hmore⟩
    simp only at hsame hmore
    subst hsame hmore
    exact ⟨root, parts', more, hroot, hparts, rfl, rfl⟩
  · rintro ⟨root, segments, more, hroot, hplain, rfl, rfl⟩
    rw [parse_append_join hroot hplain,
      parse_append_join hroot fun s hs => hplain s (List.mem_append_left more hs)]
    exact ⟨rfl, more, rfl⟩

/-! ## Normal paths -/

/-- Behind a root the loop of `normpath` keeps only plain components. -/
lemma plain_of_mem_foldl (hroot : root ≠ []) {rest : List Char} {comps : List Segment}
    (hcomps : ∀ s ∈ comps, Plain s) {input : List Segment} (hinput : input ⊆ rest.splitOn '/') :
    ∀ s ∈ input.foldl (pushComponent root) comps, Plain s := by
  induction input generalizing comps with
  | nil => exact hcomps
  | cons comp input ih =>
      obtain ⟨hcomp, hinput⟩ := List.cons_subset.mp hinput
      refine ih (fun s hs => ?_) hinput
      unfold pushComponent at hs
      split at hs
      · exact hcomps s hs
      · rename_i hskip
        split at hs
        · rename_i hpush
          rcases List.mem_append.mp hs with hs | hs
          · exact hcomps s hs
          · obtain rfl := List.mem_singleton.mp hs
            -- a parent is pushed on nothing but a parent, and none is there
            have hdotdot : s ≠ dotdot := by
              rcases hpush with h | ⟨h, -⟩ | h
              · exact h
              · exact absurd h hroot
              · exact absurd rfl (hcomps _ (List.mem_of_getLast? h)).ne_dotdot
            exact ⟨fun h => hskip (Or.inl h), fun h => hskip (Or.inr h), hdotdot,
              slash_notMem_of_mem_splitOn hcomp⟩
        · exact hcomps s (List.dropLast_subset _ hs)

/-- The loop pushes plain components as they come. -/
lemma foldl_plain {comps : List Segment} (h : ∀ s ∈ segments, Plain s) :
    segments.foldl (pushComponent root) comps = comps ++ segments := by
  induction segments generalizing comps with
  | nil => simp
  | cons s segments ih =>
      have hs := h s List.mem_cons_self
      have hpush : pushComponent root comps s = comps ++ [s] := by
        unfold pushComponent
        rw [if_neg (not_or.mpr ⟨hs.ne_nil, hs.ne_dot⟩), if_pos (Or.inl hs.ne_dotdot)]
      rw [List.foldl_cons, hpush, ih fun t ht => h t (List.mem_cons_of_mem _ ht),
        List.append_assoc, List.singleton_append]

lemma IsRoot.ne_nil (h : IsRoot root) : root ≠ [] := by
  rcases h with rfl | rfl <;> exact List.cons_ne_nil _ _

/-- The root of a path that begins with a slash. -/
lemma isRoot_splitroot (h : path.head? = some '/') : IsRoot (splitroot path).1 := by
  unfold splitroot
  split
  · exact Or.inl rfl
  · exact Or.inr rfl
  · exact Or.inl rfl
  · rename_i hslash
    cases path with
    | nil => exact absurd h (by simp)
    | cons c rest =>
        obtain rfl := Option.some.inj h
        exact absurd rfl (hslash rest)

/-- `normpath` keeps plain components behind a root as they are. -/
lemma normpath_append_join (hroot : IsRoot root) (h : ∀ s ∈ segments, Plain s) :
    normpath (root ++ join segments) = root ++ join segments := by
  have hne : root ++ join segments ≠ [] := by simp [hroot.ne_nil]
  have hloop : ((join segments).splitOn '/').foldl (pushComponent root) [] = segments := by
    rw [splitOn_join h]
    split
    · rename_i hnil
      simp [hnil, pushComponent]
    · rw [foldl_plain h, List.nil_append]
  unfold normpath
  rw [if_neg hne, splitroot_append_join hroot h]
  simp only [hloop]
  rw [if_neg hne]

/-- **Normal forms.**  The paths with a leading slash that `normpath` leaves alone are the
canonical ones, with or without one more slash in front. -/
theorem normal_iff : path.head? = some '/' ∧ path = normpath path ↔ Rooted path := by
  constructor
  · rintro ⟨hhead, hnormal⟩
    have hroot := isRoot_splitroot hhead
    have hne : path ≠ [] := by
      rintro rfl
      exact absurd hhead (by simp)
    refine ⟨(splitroot path).1, hroot,
      ((splitroot path).2.splitOn '/').foldl (pushComponent (splitroot path).1) [],
      plain_of_mem_foldl hroot.ne_nil (fun _ hs => absurd hs List.not_mem_nil)
        (List.Subset.refl _), ?_⟩
    have hjoined : (splitroot path).1 ++ join (((splitroot path).2.splitOn '/').foldl
        (pushComponent (splitroot path).1) []) ≠ [] := by simp [hroot.ne_nil]
    conv_lhs => rw [hnormal]
    unfold normpath
    rw [if_neg hne]
    exact if_neg hjoined
  · rintro ⟨root, hroot, segments, hplain, rfl⟩
    refine ⟨?_, (normpath_append_join hroot hplain).symm⟩
    rcases hroot with rfl | rfl <;> rfl

/-- A rooted path is canonical unless it begins with two slashes. -/
lemma Rooted.canonical_iff (h : Rooted path) : Canonical path ↔ ¬ ['/', '/'] <+: path := by
  constructor
  · rintro ⟨segments, hplain, rfl⟩ ⟨rest, hrest⟩
    exact join_ne_slash_cons hplain rest (List.cons_eq_cons.mp hrest).2.symm
  · intro hone
    obtain ⟨root, rfl | rfl, hrooted⟩ := h
    · exact hrooted
    · obtain ⟨segments, -, rfl⟩ := hrooted
      exact absurd (List.prefix_append _ _) hone

lemma Canonical.rooted (h : Canonical path) : Rooted path := ⟨['/'], Or.inl rfl, h⟩

/-! ## Relative paths -/

/-- A relative path of plain components. -/
def Relative (path : List Char) : Prop :=
  ∀ s ∈ path.splitOn '/', s ≠ [] ∧ s ≠ dot ∧ s ≠ dotdot

instance (path : List Char) : Decidable (Relative path) :=
  inferInstanceAs (Decidable (∀ s ∈ path.splitOn '/', _))

/-- The components of a relative path are plain. -/
lemma Relative.plain (h : Relative path) : ∀ s ∈ path.splitOn '/', Plain s := by
  intro s hs
  obtain ⟨hnil, hdot, hdotdot⟩ := h s hs
  exact ⟨hnil, hdot, hdotdot, slash_notMem_of_mem_splitOn hs⟩

/-- A path is its components joined. -/
lemma join_splitOn (path : List Char) : join (path.splitOn '/') = path :=
  List.intercalate_splitOn '/'

lemma join_append {more : List Segment} (h : segments ≠ []) (hmore : more ≠ []) :
    join (segments ++ more) = join segments ++ '/' :: join more := by
  induction segments with
  | nil => exact absurd rfl h
  | cons s segments ih =>
      cases segments with
      | nil =>
          rw [List.singleton_append, join, List.intercalate_cons_of_ne_nil hmore]
          simp [join]
      | cons t segments =>
          have hrest := ih (List.cons_ne_nil t segments)
          unfold join at hrest ⊢
          rw [List.cons_append, List.intercalate_cons_of_ne_nil (by simp), hrest]
          simp

/-- A name laid below a directory adds its components. -/
lemma append_name (hne : segments ≠ []) (name : List Char) :
    '/' :: join segments ++ '/' :: name = ['/'] ++ join (segments ++ name.splitOn '/') := by
  rw [join_append hne (List.splitOn_ne_nil '/' name), join_splitOn]
  rfl

lemma Relative.plain_append {name : List Char} (h : Relative name)
    (hplain : ∀ s ∈ segments, Plain s) : ∀ s ∈ segments ++ name.splitOn '/', Plain s :=
  List.forall_mem_append.mpr ⟨hplain, h.plain⟩

/-- A relative path laid below a directory lies below it. -/
lemma Relative.below {name : List Char} (h : Relative name) (hne : segments ≠ [])
    (hplain : ∀ s ∈ segments, Plain s) :
    Below ('/' :: join segments ++ '/' :: name) ('/' :: join segments) :=
  ⟨['/'], segments, name.splitOn '/', Or.inl rfl, h.plain_append hplain, rfl,
    append_name hne name⟩

/-- **Names in a directory.**  A name laid below a directory is a rooted path exactly when it is
a relative path of plain components. -/
theorem rooted_append_iff (hne : segments ≠ []) (hplain : ∀ s ∈ segments, Plain s)
    (name : List Char) :
    Rooted ('/' :: join segments ++ '/' :: name) ↔ Relative name := by
  constructor
  · rintro ⟨root, hroot, parts, hparts, hpath⟩
    obtain rfl : root = ['/'] := by
      rcases hroot with rfl | rfl
      · rfl
      · -- a second slash would begin the directory's own components
        have htail := (List.cons_eq_cons.mp hpath).2
        obtain ⟨c, rest, hjoin⟩ := List.exists_cons_of_ne_nil (join_ne_nil hne hplain)
        rw [hjoin] at htail
        have hc : c = '/' := (List.cons_eq_cons.mp htail).1
        exact absurd (hc ▸ hjoin) (join_ne_slash_cons hplain rest)
    have hjoin : join segments ++ '/' :: name = join parts := (List.cons_eq_cons.mp hpath).2
    have hparts_ne : parts ≠ [] := by
      rintro rfl
      exact absurd hjoin (by simp [join])
    have hsplit := congrArg (List.splitOn '/') hjoin
    rw [List.splitOn_append_cons_self, splitOn_join hplain, if_neg hne, splitOn_join hparts,
      if_neg hparts_ne] at hsplit
    intro s hs
    have hs := hparts s (hsplit ▸ List.mem_append_right segments hs)
    exact ⟨hs.ne_nil, hs.ne_dot, hs.ne_dotdot⟩
  · intro hname
    exact ⟨['/'], Or.inl rfl, _, hname.plain_append hplain, append_name hne name⟩

end PosixPath

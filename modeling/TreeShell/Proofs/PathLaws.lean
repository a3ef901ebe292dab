import TreeShell.Proofs.Addresses
import TreeShell.Proofs.Landings

/-!
# Laws of reading spellings

A canonical spelling starts with a slash and has no needless segment. These are the spellings of the
paths of names, so following a spelling and spelling out where it leads gives a canonical one and
leaves the canonical ones alone. A spelling can be followed in parts: what its front part leads to
is all that matters for the rest.
-/

namespace TreeShell

namespace Path

/-- Spellings that start with a slash and have no needless segment. The root is spelled as the slash
alone. -/
structure IsCanonical (spelling : String) : Prop where
  absolute : spelling.toList.head? = some '/'
  plain : spelling ≠ "/" → ∀ segment ∈ (segments spelling).tail,
    segment ≠ "" ∧ segment ≠ "." ∧ segment ≠ ".."
  noSlashAtEnd : spelling ≠ "/" → spelling.toList.getLast? ≠ some '/'

/-! ### Canonical spellings -/

theorem segments_ne_nil (spelling : String) : segments spelling ≠ [] := by
  rw [segments, Ne, List.map_eq_nil_iff]
  exact Text.splitOn_ne_nil '/' spelling.toList

/-- A slash at the end is followed by an empty segment. -/
theorem empty_mem_tail_segments {spelling : String}
    (slash : spelling.toList.getLast? = some '/') : "" ∈ (segments spelling).tail := by
  obtain ⟨front, isFront⟩ := List.getLast?_eq_some_iff.mp slash
  have spelled : spelling = String.ofList front ++ "/" ++ "" := by
    apply String.toList_inj.mp
    simpa using isFront
  have last : segments "" = [""] := rfl
  rw [spelled, segments_slash, last, List.tail_append_of_ne_nil (segments_ne_nil _)]
  simp

/-- What follows the first slash of a spelling is made of its other segments. -/
theorem spell_tail_segments {spelling : String} (absolute : spelling.toList.head? = some '/') :
    spell (segments spelling).tail = spelling := by
  obtain ⟨rest, isRest⟩ := List.head?_eq_some_iff.mp absolute
  apply String.toList_inj.mp
  rw [toList_spell, segments, isRest, Text.splitOn, if_pos rfl, List.map_cons, List.tail_cons,
    List.map_map]
  have pieces : (Text.splitOn '/' rest).map (String.toList ∘ String.ofList) =
      rest.splitOn '/' := by
    simp [Function.comp_def, Text.splitOn_eq]
  rw [pieces, List.intercalate_splitOn]

theorem isCanonical_spell {path : Path} (normal : IsNormal path) : IsCanonical (spell path) := by
  have plain : spell path ≠ "/" → ∀ segment ∈ (segments (spell path)).tail,
      segment ≠ "" ∧ segment ≠ "." ∧ segment ≠ ".." := by
    intro notRoot segment member
    have notEmpty : path ≠ [] := fun empty => notRoot (by rw [empty]; rfl)
    rw [segments_spell normal, List.tail_cons, if_neg notEmpty] at member
    obtain ⟨someName, notDot, notUp, -⟩ := normal segment member
    exact ⟨someName, notDot, notUp⟩
  refine ⟨by simp [toList_spell], plain, ?_⟩
  intro notRoot slash
  exact (plain notRoot "" (empty_mem_tail_segments slash)).1 rfl

/-- The canonical spellings are the spellings of the paths of names. -/
theorem isCanonical_iff {spelling : String} :
    IsCanonical spelling ↔ ∃ path, IsNormal path ∧ spelling = spell path := by
  constructor
  · intro canonical
    by_cases isRoot : spelling = "/"
    · exact ⟨[], isNormal_nil, isRoot⟩
    · refine ⟨(segments spelling).tail, ?_, (spell_tail_segments canonical.absolute).symm⟩
      intro segment member
      obtain ⟨someName, notDot, notUp⟩ := canonical.plain isRoot segment member
      exact ⟨someName, notDot, notUp, noSlash_of_mem_segments (List.mem_of_mem_tail member)⟩
  · rintro ⟨path, normal, rfl⟩
    exact isCanonical_spell normal

/-! ### Collapsing spellings -/

/-- Functions that take the needless segments out of a spelling: `..` takes the last segment that is
left before it with it, or nothing at the root, wherever it stands, as a front part can be collapsed
before the rest is read. -/
structure Collapses (collapse : String → String) : Prop where
  canonical : ∀ spelling, IsCanonical (collapse spelling)
  fixed : ∀ spelling, collapse spelling = spelling ↔ IsCanonical spelling
  again : ∀ spelling, collapse (collapse spelling) = collapse spelling
  fromRoot : ∀ spelling, collapse ("/" ++ spelling) = collapse spelling
  slash : ∀ front back, collapse (front ++ "/" ++ back) = collapse (collapse front ++ "/" ++ back)
  stay : ∀ front, collapse (front ++ "/") = collapse front ∧
    collapse (front ++ "/.") = collapse front
  down : ∀ front path name, IsNormal path → collapse front = spell path → IsName name →
    collapse (front ++ "/" ++ name) = spell (path ++ [name])
  up : ∀ front path name, IsNormal (path ++ [name]) → collapse front = spell (path ++ [name]) →
    collapse (front ++ "/..") = spell path
  upAtRoot : ∀ front, collapse front = "/" → collapse (front ++ "/..") = "/"

/-- A canonical front part is followed as the path it spells. -/
theorem normalize_spell_slash {path : Path} (normal : IsNormal path) (back : String) :
    normalize (spell path ++ "/" ++ back) = spell (follow path back) := by
  rw [normalize, follow_slash, follow_spell [] normal, List.nil_append]

theorem isNormal_follow_nil (spelling : String) : IsNormal (follow [] spelling) :=
  isNormal_follow isNormal_nil spelling

theorem normalize_eq_spell_iff {path : Path} (normal : IsNormal path) {spelling : String} :
    normalize spelling = spell path ↔ follow [] spelling = path :=
  spell_inj (isNormal_follow_nil spelling) normal

theorem normalize_slash (front back : String) :
    normalize (front ++ "/" ++ back) = normalize (normalize front ++ "/" ++ back) := by
  have inParts := normalize_spell_slash (isNormal_follow_nil front) back
  calc normalize (front ++ "/" ++ back) = spell (follow (follow [] front) back) := by
        rw [normalize, follow_slash]
    _ = normalize (normalize front ++ "/" ++ back) := inParts.symm

/-- The last segment of a spelling is one step from where the front part leads. -/
theorem normalize_append_segment (front : String) {segment : String}
    (noSlash : '/' ∉ segment.toList) :
    normalize (front ++ "/" ++ segment) = spell (step (follow [] front) segment) := by
  rw [normalize, follow_slash, follow_of_noSlash _ noSlash]

theorem normalize_eq_self_iff {spelling : String} :
    normalize spelling = spelling ↔ IsCanonical spelling := by
  constructor
  · intro same
    rw [← same]
    exact isCanonical_spell (isNormal_follow_nil spelling)
  · intro canonical
    obtain ⟨path, normal, rfl⟩ := isCanonical_iff.mp canonical
    exact normalize_spell normal

theorem normalize_up (front : String) :
    normalize (front ++ "/..") = spell (follow [] front).dropLast := by
  have spelled : front ++ "/.." = front ++ "/" ++ ".." := by
    apply String.toList_inj.mp
    simp
  rw [spelled, normalize_append_segment front (by decide)]
  rfl

theorem collapses_normalize : Collapses normalize where
  canonical spelling := isCanonical_spell (isNormal_follow_nil spelling)
  fixed _ := normalize_eq_self_iff
  again spelling := normalize_spell (isNormal_follow_nil spelling)
  fromRoot spelling := by
    have spelled : "/" ++ spelling = "" ++ "/" ++ spelling := by simp
    rw [spelled, normalize, follow_slash, follow_empty, normalize]
  slash := normalize_slash
  stay front := by
    have slashed : front ++ "/" = front ++ "/" ++ "" := by simp
    have dotted : front ++ "/." = front ++ "/" ++ "." := by
      apply String.toList_inj.mp
      simp
    rw [slashed, dotted, normalize_append_segment front (by decide),
      normalize_append_segment front (by decide)]
    exact ⟨rfl, rfl⟩
  down front path name normal leads isName := by
    rw [normalize_append_segment front isName.2.2.2, (normalize_eq_spell_iff normal).mp leads,
      step_of_isName isName]
  up front path name normal leads := by
    rw [normalize_up, (normalize_eq_spell_iff normal).mp leads, List.dropLast_concat]
  upAtRoot front leads := by
    have atRoot : follow [] front = [] := (normalize_eq_spell_iff isNormal_nil).mp leads
    rw [normalize_up, atRoot]
    rfl

/-- What a last segment does to what is left of the front part. -/
theorem Collapses.append_segment {collapse : String → String} (collapses : Collapses collapse)
    {front segment : String} {path : Path} (normal : IsNormal path)
    (leads : collapse front = spell path) (noSlash : '/' ∉ segment.toList) :
    collapse (front ++ "/" ++ segment) = spell (step path segment) := by
  by_cases isEmpty : segment = ""
  · subst isEmpty
    rw [String.append_empty]
    exact (collapses.stay front).1.trans leads
  by_cases isDot : segment = "."
  · subst isDot
    rw [String.append_assoc]
    exact (collapses.stay front).2.trans leads
  by_cases isUp : segment = ".."
  · subst isUp
    have up : step path ".." = path.dropLast := rfl
    rw [String.append_assoc, up]
    rcases List.eq_nil_or_concat path with rfl | ⟨parent, name, rfl⟩
    · exact collapses.upAtRoot front leads
    · rw [List.concat_eq_append] at normal leads ⊢
      rw [List.dropLast_concat]
      exact collapses.up front parent name normal leads
  have isName : IsName segment := ⟨isEmpty, isDot, isUp, noSlash⟩
  rw [collapses.down front path segment normal leads isName, step_of_isName isName]

/-- Spellings are built from their segments, the last one first. -/
theorem segments_induction {motive : String → Prop}
    (alone : ∀ segment, '/' ∉ segment.toList → motive segment)
    (append : ∀ front segment, '/' ∉ segment.toList → motive front →
      motive (front ++ "/" ++ segment)) (spelling : String) : motive spelling := by
  induction size : spelling.toList.length using Nat.strongRecOn generalizing spelling with
  | _ size' ih =>
      cases found : Text.splitLast? '/' spelling.toList with
      | none => exact alone spelling (Text.splitLast?_eq_none_iff.mp found)
      | some parts =>
          obtain ⟨isSpelling, noSlash⟩ := Text.splitLast?_eq_some found
          have spelled :
              spelling = String.ofList parts.1 ++ "/" ++ String.ofList parts.2 := by
            apply String.toList_inj.mp
            simpa using isSpelling
          have shorter : (String.ofList parts.1).toList.length < size' := by
            rw [← size, isSpelling, String.toList_ofList, List.length_append, List.length_cons]
            omega
          rw [spelled]
          exact append _ _ (by rwa [String.toList_ofList]) (ih _ shorter _ rfl)

/-- Nothing else takes the needless segments out of spellings. -/
theorem collapses_iff {collapse : String → String} :
    Collapses collapse ↔ collapse = normalize := by
  constructor
  · intro collapses
    have atRoot : collapse "" = spell [] := by
      have isRoot : collapse "/" = "/" := (collapses.fixed "/").mpr (isCanonical_spell isNormal_nil)
      exact (collapses.fromRoot "").symm.trans isRoot
    funext spelling
    induction spelling using segments_induction with
    | alone segment noSlash =>
        have fromRoot : "" ++ "/" ++ segment = "/" ++ segment := by simp
        have atEnd := collapses.append_segment isNormal_nil atRoot noSlash
        rw [fromRoot, collapses.fromRoot] at atEnd
        rw [atEnd, normalize, follow_of_noSlash [] noSlash]
    | append front segment noSlash ih =>
        rw [normalize_append_segment front noSlash]
        exact collapses.append_segment (isNormal_follow_nil front) ih noSlash
  · rintro rfl
    exact collapses_normalize

end Path

namespace Volume

open Path

/-- Volumes that read spellings from the root or from a current path of names. -/
structure ReadsSpellings (volume : Volume) : Prop where
  reads : ∀ spelling, spell (volume.resolve spelling) =
    normalize (if spelling.toList.head? = some '/' then spelling
      else spell volume.current ++ "/" ++ spelling)
  canonical : ∀ spelling, IsCanonical (spell (volume.resolve spelling))
  again : ∀ spelling, volume.resolve (spell (volume.resolve spelling)) = volume.resolve spelling
  slash : ∀ front back, front ≠ "" →
    spell (volume.resolve (front ++ "/" ++ back)) =
      normalize (spell (volume.resolve front) ++ "/" ++ back)

theorem readsSpellings_of_isNormal {volume : Volume} (normal : IsNormal volume.current) :
    volume.ReadsSpellings where
  reads spelling := by
    unfold resolve
    rw [resolve_eq_follow]
    split
    · rfl
    · rw [normalize_spell_slash normal]
  canonical spelling := isCanonical_spell (isNormal_resolve normal spelling)
  again spelling := resolve_spell _ (isNormal_resolve normal spelling)
  slash front back notEmpty := by
    -- An empty front part would leave the slash at the start of the whole.
    have sameStart : (front ++ "/" ++ back).toList.head? = front.toList.head? := by
      cases isFront : front.toList with
      | nil => exact absurd (String.toList_inj.mp isFront) notEmpty
      | cons c rest => simp [isFront]
    have inParts := normalize_spell_slash (isNormal_resolve normal front) back
    unfold resolve
    rw [inParts, resolve_eq_follow, sameStart, follow_slash, ← resolve_eq_follow]

end Volume

/-- Collapsing a spelling takes out exactly its needless segments, and can be done in parts. In
every state of a session what a spelling is resolved to is canonical and resolved to itself, and a
spelling whose front part is not empty is resolved by collapsing the rest below what the front part
is resolved to. -/
theorem Event.readsSpellings_run (opened : Instant) (store : Store) (storageKey home : String)
    (events : List Event) :
    Path.Collapses Path.normalize ∧
      (run events (Volume.load opened store storageKey home)).ReadsSpellings := by
  have wellFormed := wellFormed_run_load opened store storageKey home events
  exact ⟨Path.collapses_normalize, Volume.readsSpellings_of_isNormal wellFormed.current⟩

-- The slash after an empty front part leads to the root, not to the current path.
example :
    let volume := Volume.load ⟨0, 0⟩ (.memory []) "fs" "/home/user"
    Path.spell (volume.resolve ("" ++ "/" ++ "tmp")) = "/tmp" ∧
      Path.normalize (Path.spell (volume.resolve "") ++ "/" ++ "tmp") = "/home/user/tmp" := by
  decide +kernel

end TreeShell

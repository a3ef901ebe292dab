import TreeShell.Path

/-!
# Paths and their spellings

Whatever a spelling holds, the path it is followed to consists of names, and the one spelling that
a path of names is given leads back to it.
-/

namespace TreeShell

namespace Text

theorem splitOn_eq (separator : Char) (text : List Char) :
    splitOn separator text = text.splitOn separator := by
  induction text with
  | nil => simp [splitOn]
  | cons c rest ih =>
      rw [List.splitOn_cons_eq_if_modifyHead, ← ih]
      simp only [splitOn, beq_iff_eq]
      split
      · rfl
      · cases pieces : splitOn separator rest with
        | nil => exact absurd pieces (splitOn_ne_nil separator rest)
        | cons piece more => rfl

theorem not_mem_of_mem_splitOn {separator : Char} {text piece : List Char}
    (member : piece ∈ splitOn separator text) : separator ∉ piece := by
  induction text generalizing piece with
  | nil =>
      have empty : piece = [] := by simpa [splitOn] using member
      simp [empty]
  | cons c rest ih =>
      simp only [splitOn] at member
      split at member
      next =>
        rcases List.mem_cons.mp member with empty | later
        · simp [empty]
        · exact ih later
      next different =>
        cases pieces : splitOn separator rest with
        | nil => exact absurd pieces (splitOn_ne_nil separator rest)
        | cons first more =>
            rw [pieces] at member ih
            rcases List.mem_cons.mp member with grown | later
            · rw [grown, List.mem_cons, not_or]
              exact ⟨fun same => different same.symm, ih List.mem_cons_self⟩
            · exact ih (List.mem_cons_of_mem _ later)

theorem length_splitOn (separator : Char) (text : List Char) :
    (splitOn separator text).length = text.count separator + 1 := by
  induction text with
  | nil => rfl
  | cons c rest ih =>
      simp only [splitOn]
      split
      next same => simp [same, ih]
      next different =>
        cases pieces : splitOn separator rest with
        | nil => exact absurd pieces (splitOn_ne_nil separator rest)
        | cons piece more => simpa [pieces, List.count_cons_of_ne different] using ih

theorem splitOn_eq_singleton {separator : Char} {text : List Char} (absent : separator ∉ text) :
    splitOn separator text = [text] := by
  have one : (splitOn separator text).length = 1 := by
    rw [length_splitOn, List.count_eq_zero.mpr absent]
  obtain ⟨piece, isPiece⟩ := List.length_eq_one_iff.mp one
  have joined := joinWith_splitOn separator text
  rw [isPiece] at joined ⊢
  rw [← joined, joinWith]

theorem splitOn_append (separator : Char) (front back : List Char) :
    splitOn separator (front ++ separator :: back) =
      splitOn separator front ++ splitOn separator back := by
  induction front with
  | nil => simp [splitOn]
  | cons c rest ih =>
      simp only [List.cons_append, splitOn]
      split
      · rw [ih, List.cons_append]
      · rw [ih]
        cases pieces : splitOn separator rest with
        | nil => exact absurd pieces (splitOn_ne_nil separator rest)
        | cons piece more => rfl

theorem splitLast?_eq_none_iff {separator : Char} {text : List Char} :
    splitLast? separator text = none ↔ separator ∉ text := by
  induction text with
  | nil => simp [splitLast?]
  | cons c rest ih =>
      cases later : splitLast? separator rest with
      | none =>
          have absent := ih.mp later
          simp [splitLast?, later, absent, eq_comm]
      | some parts =>
          have isThere : separator ∈ rest := by
            rw [← Decidable.not_not (p := separator ∈ rest), ← ih, later]
            simp
          simp [splitLast?, later, isThere]

theorem splitLast?_eq_some {separator : Char} {text before after : List Char}
    (found : splitLast? separator text = some (before, after)) :
    text = before ++ separator :: after ∧ separator ∉ after := by
  induction text generalizing before with
  | nil => cases found
  | cons c rest ih =>
      cases later : splitLast? separator rest with
      | none =>
          simp only [splitLast?, later] at found
          split at found
          next same =>
            cases found
            exact ⟨by simp [same], splitLast?_eq_none_iff.mp later⟩
          next => cases found
      | some parts =>
          simp only [splitLast?, later] at found
          cases found
          obtain ⟨isRest, absent⟩ := ih later
          exact ⟨by simp [← isRest], absent⟩

theorem beginsWith_cons (c : Char) (rest : List Char) :
    beginsWith (String.ofList (c :: rest)) (String.ofList [c]) = true := by
  simp [beginsWith, afterFront?]

end Text

namespace Path

/-- The paths that places of a tree have. -/
def IsNormal (path : Path) : Prop := ∀ name ∈ path, IsName name

@[simp]
theorem isNormal_nil : IsNormal [] := fun _ member => absurd member List.not_mem_nil

theorem IsNormal.append {front back : Path} (normalFront : IsNormal front)
    (normalBack : IsNormal back) : IsNormal (front ++ back) := by
  intro name member
  exact (List.mem_append.mp member).elim (normalFront name) (normalBack name)

theorem IsNormal.of_front {front path : Path} (normal : IsNormal path) (isFront : front <+: path) :
    IsNormal front :=
  fun name member => normal name (isFront.subset member)

/-! ### Following a spelling -/

theorem step_of_isName {segment : String} (isName : IsName segment) (path : Path) :
    step path segment = path ++ [segment] := by
  simp [step, isName.1, isName.2.1, isName.2.2.1]

/-- A segment that is no name stays or goes up. -/
theorem step_of_not_isName {segment : String} (noSlash : '/' ∉ segment.toList)
    (noName : ¬ IsName segment) (path : Path) :
    step path segment = path ∨ step path segment = path.dropLast := by
  unfold step
  split
  next => exact Or.inl rfl
  next plain =>
    split
    next => exact Or.inr rfl
    next notUp =>
      rw [not_or] at plain
      exact absurd ⟨plain.1, plain.2, notUp, noSlash⟩ noName

theorem isNormal_step {path : Path} (normal : IsNormal path) {segment : String}
    (noSlash : '/' ∉ segment.toList) : IsNormal (step path segment) := by
  by_cases isName : IsName segment
  · rw [step_of_isName isName]
    refine normal.append ?_
    intro name member
    exact List.mem_singleton.mp member ▸ isName
  · rcases step_of_not_isName noSlash isName path with stays | up
    · rwa [stays]
    · rw [up]
      exact normal.of_front (List.dropLast_prefix path)

theorem isNormal_foldl_step {path : Path} (normal : IsNormal path) {segments : List String}
    (noSlash : ∀ segment ∈ segments, '/' ∉ segment.toList) :
    IsNormal (segments.foldl step path) := by
  induction segments generalizing path with
  | nil => exact normal
  | cons segment rest ih =>
      exact ih (isNormal_step normal (noSlash segment List.mem_cons_self))
        fun other member => noSlash other (List.mem_cons_of_mem _ member)

theorem noSlash_of_mem_segments {spelling segment : String} (member : segment ∈ segments spelling) :
    '/' ∉ segment.toList := by
  obtain ⟨piece, isPiece, rfl⟩ := List.mem_map.mp member
  rw [String.toList_ofList]
  exact Text.not_mem_of_mem_splitOn isPiece

theorem isNormal_follow {start : Path} (normal : IsNormal start) (spelling : String) :
    IsNormal (follow start spelling) := by
  apply isNormal_foldl_step normal
  intro segment member
  exact noSlash_of_mem_segments member

/-- A spelling names a path of names while the current path is one. -/
theorem isNormal_resolve {current : Path} (normal : IsNormal current) (spelling : String) :
    IsNormal (resolve current spelling) := by
  unfold resolve
  split
  · exact isNormal_follow isNormal_nil spelling
  · exact isNormal_follow normal spelling

/-! ### The spelling of a path -/

theorem foldl_step_of_isNormal (start : Path) {path : Path} (normal : IsNormal path) :
    path.foldl step start = start ++ path := by
  induction path generalizing start with
  | nil => simp
  | cons name rest ih =>
      have later : IsNormal rest := fun other member => normal other (List.mem_cons_of_mem _ member)
      rw [List.foldl_cons, step_of_isName (normal name List.mem_cons_self), ih _ later]
      simp

theorem toList_spell (path : Path) :
    (spell path).toList = '/' :: ['/'].intercalate (path.map String.toList) := by
  simp [spell, String.toList_intercalate]

theorem segments_spell {path : Path} (normal : IsNormal path) :
    segments (spell path) = "" :: if path = [] then [""] else path := by
  rw [segments, toList_spell, Text.splitOn]
  simp only [if_true, List.map_cons]
  split
  next empty =>
    subst empty
    rfl
  next notEmpty =>
    rw [Text.splitOn_eq, List.splitOn_intercalate]
    · simp [Function.comp_def]
    · intro piece member
      obtain ⟨name, isName, rfl⟩ := List.mem_map.mp member
      exact (normal name isName).2.2.2
    · simpa using notEmpty

theorem follow_spell (start : Path) {path : Path} (normal : IsNormal path) :
    follow start (spell path) = start ++ path := by
  rw [follow, segments_spell normal, List.foldl_cons]
  have stays : ∀ start, step start "" = start := fun _ => rfl
  rw [stays]
  split
  next empty => simp [empty, stays]
  next => exact foldl_step_of_isNormal start normal

/-- The spelling of a path of names leads to it from everywhere. -/
theorem resolve_spell (current : Path) {path : Path} (normal : IsNormal path) :
    resolve current (spell path) = path := by
  have fromRoot : Text.beginsWith (spell path) "/" = true := by
    have spelled := congrArg String.ofList (toList_spell path)
    rw [String.ofList_toList] at spelled
    rw [spelled]
    exact Text.beginsWith_cons '/' _
  rw [resolve, if_pos fromRoot, follow_spell [] normal, List.nil_append]

/-- The spelling of a path of names is the normal one. -/
theorem normalize_spell {path : Path} (normal : IsNormal path) :
    normalize (spell path) = spell path := by
  rw [normalize, follow_spell [] normal, List.nil_append]

/-! ### Parents -/

theorem split?_eq_none_iff {path : Path} : split? path = none ↔ path = [] := by
  simp [split?]

theorem split?_eq_some {path parent : Path} {name : String}
    (split : split? path = some (parent, name)) : path = parent ++ [name] := by
  obtain ⟨last, isLast, same⟩ := Option.map_eq_some_iff.mp split
  obtain ⟨front, rfl⟩ := List.getLast?_eq_some_iff.mp isLast
  simpa using same

@[simp]
theorem split?_append (parent : Path) (name : String) :
    split? (parent ++ [name]) = some (parent, name) := by
  simp [split?]

end Path

end TreeShell

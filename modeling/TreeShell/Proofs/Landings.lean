import TreeShell.Proofs.Session

/-!
# Where copies and moves land

What is copied or moved to a directory lands in it under the last segment of the spelling of its
source. That segment is cut off the spelling as it stands, and the steps `.` and `..` are only taken
later, so it is the last name of the path of the source exactly if it is a name. Otherwise the
landing is the directory itself or the one above it.
-/

namespace TreeShell

namespace Path

/-! ### Following a spelling in parts -/

theorem segments_slash (front back : String) :
    segments (front ++ "/" ++ back) = segments front ++ segments back := by
  have characters : (front ++ "/" ++ back).toList = front.toList ++ '/' :: back.toList := by simp
  rw [segments, characters, Text.splitOn_append, List.map_append, segments, segments]

theorem follow_slash (start : Path) (front back : String) :
    follow start (front ++ "/" ++ back) = follow (follow start front) back := by
  rw [follow, segments_slash, List.foldl_append, follow, follow]

theorem follow_of_noSlash (start : Path) {segment : String} (noSlash : '/' ∉ segment.toList) :
    follow start segment = step start segment := by
  simp [follow, segments, Text.splitOn_eq_singleton noSlash]

theorem follow_empty (start : Path) : follow start "" = start :=
  follow_of_noSlash start (by simp)

theorem exists_eq_dropSlashes_append (spelling : String) : ∃ count,
    spelling.toList = (dropSlashes spelling).toList ++ List.replicate count '/' := by
  let ending := spelling.toList.reverse.takeWhile (· = '/')
  have slashes : ending.reverse = List.replicate ending.length '/' := by
    refine List.eq_replicate_iff.mpr ⟨List.length_reverse, ?_⟩
    intro c member
    have isSlash := List.all_eq_true.mp List.all_takeWhile c (List.mem_reverse.mp member)
    exact of_decide_eq_true isSlash
  refine ⟨ending.length, ?_⟩
  rw [← slashes, dropSlashes, String.toList_ofList, ← List.reverse_append,
    List.takeWhile_append_dropWhile, List.reverse_reverse]

theorem follow_append_slashes (start : Path) (front : String) (count : Nat) :
    follow start (front ++ String.ofList (List.replicate count '/')) = follow start front := by
  induction count with
  | zero => simp
  | succ count ih =>
      have oneMore : front ++ String.ofList (List.replicate (count + 1) '/') =
          front ++ String.ofList (List.replicate count '/') ++ "/" ++ "" := by
        apply String.toList_inj.mp
        simp [List.replicate_succ']
      rw [oneMore, follow_slash, ih, follow_empty]

/-- Slashes at the end lead nowhere. -/
theorem follow_dropSlashes (start : Path) (spelling : String) :
    follow start (dropSlashes spelling) = follow start spelling := by
  obtain ⟨count, ends⟩ := exists_eq_dropSlashes_append spelling
  have spelled : spelling = dropSlashes spelling ++ String.ofList (List.replicate count '/') := by
    apply String.toList_inj.mp
    simpa using ends
  rw [← follow_append_slashes start (dropSlashes spelling) count, ← spelled]

/-- A spelling is its last segment, or something with its last segment after a slash, but for
slashes at its end. -/
theorem basename_cases (spelling : String) : '/' ∉ (basename spelling).toList ∧
    (dropSlashes spelling = basename spelling ∨
      ∃ front, dropSlashes spelling = front ++ "/" ++ basename spelling) := by
  unfold basename
  generalize dropSlashes spelling = text
  cases found : Text.splitLast? '/' text.toList with
  | none => exact ⟨Text.splitLast?_eq_none_iff.mp found, Or.inl rfl⟩
  | some parts =>
      obtain ⟨front, name⟩ := parts
      obtain ⟨isText, noSlash⟩ := Text.splitLast?_eq_some found
      dsimp only
      rw [String.toList_ofList]
      refine ⟨noSlash, Or.inr ⟨String.ofList front, ?_⟩⟩
      apply String.toList_inj.mp
      simp [isText]

/-- The last segment of a spelling is its last step. -/
theorem exists_follow_eq_step (start : Path) (spelling : String) :
    ∃ front, follow start spelling = step front (basename spelling) := by
  obtain ⟨noSlash, alone | ⟨front, spelled⟩⟩ := basename_cases spelling
  · exact ⟨start, by rw [← follow_dropSlashes, alone, follow_of_noSlash start noSlash]⟩
  · refine ⟨follow start front, ?_⟩
    rw [← follow_dropSlashes, spelled, follow_slash, follow_of_noSlash _ noSlash]

/-- A spelling is followed from the root or from the current path, as its first character says. -/
theorem resolve_eq_follow (current : Path) (spelling : String) :
    resolve current spelling =
      follow (if spelling.toList.head? = some '/' then [] else current) spelling := by
  have begins : Text.beginsWith spelling "/" = true ↔ spelling.toList.head? = some '/' := by
    have slash : "/".toList = ['/'] := rfl
    rw [Text.beginsWith, slash]
    cases spelling.toList with
    | nil => simp [Text.afterFront?]
    | cons c rest =>
        by_cases same : c = '/'
        · subst same
          simp [Text.afterFront?]
        · simp [Text.afterFront?, same, Ne.symm same]
  simp only [resolve, begins]
  split <;> rfl

theorem exists_resolve_eq_step (current : Path) (spelling : String) :
    ∃ front, resolve current spelling = step front (basename spelling) := by
  rw [resolve_eq_follow]
  exact exists_follow_eq_step _ spelling

end Path

namespace Builtin

open Path

variable {volume : Volume} {source destination : String}

/-- What lands in a directory is one step away from it. -/
theorem resolve_landing (notEmpty : destination ≠ "")
    (isDirectory : (volume.node? destination).any Node.isDirectory = true) :
    volume.resolve (landing volume source destination) =
      step (volume.resolve destination) (basename source) := by
  obtain ⟨count, ends⟩ := exists_eq_dropSlashes_append destination
  -- Both spellings start with the same character, be it a slash that was dropped.
  have sameStart : (dropSlashes destination ++ "/" ++ basename source).toList.head? =
      destination.toList.head? := by
    rw [ends]
    cases isFront : (dropSlashes destination).toList with
    | cons c rest => simp [isFront]
    | nil =>
        cases count with
        | zero =>
            rw [isFront] at ends
            exact absurd (String.toList_inj.mp ends) notEmpty
        | succ count => simp [isFront, List.replicate_succ]
  rw [landing, if_pos isDirectory]
  unfold Volume.resolve
  rw [resolve_eq_follow, sameStart, follow_slash, follow_dropSlashes,
    follow_of_noSlash _ (basename_cases source).1, ← resolve_eq_follow]

/-- What is copied or moved to a directory lands in it under the last name of its path exactly if
the spelling of the source ends with a name, and else at the directory itself or above it. -/
theorem resolve_landing_eq_iff (notEmpty : destination ≠ "")
    (isDirectory : (volume.node? destination).any Node.isDirectory = true) :
    let directory := volume.resolve destination
    let place := volume.resolve (landing volume source destination)
    (place = directory ++ [(volume.resolve source).getLastD ""] ↔ IsName (basename source)) ∧
      (¬ IsName (basename source) → place = directory ∨ place = directory.dropLast) := by
  intro directory place
  have isPlace : place = step directory (basename source) := resolve_landing notEmpty isDirectory
  obtain ⟨front, isSource⟩ := exists_resolve_eq_step volume.current source
  by_cases isName : IsName (basename source)
  · have isLast : (volume.resolve source).getLastD "" = basename source := by
      rw [Volume.resolve, isSource, step_of_isName isName]
      simp
    rw [isPlace, isLast, step_of_isName isName]
    exact ⟨iff_of_true rfl isName, fun noName => absurd isName noName⟩
  · have aside : place = directory ∨ place = directory.dropLast := by
      rw [isPlace]
      exact step_of_not_isName (basename_cases source).1 isName directory
    refine ⟨iff_of_false (fun below => ?_) isName, fun _ => aside⟩
    -- Neither the directory nor the one above it has a longer path.
    have longer : place.length = directory.length + 1 := by simp [below]
    rcases aside with same | up
    · rw [same] at longer
      omega
    · rw [up, List.length_dropLast] at longer
      omega

/-- A source that is spelled with slashes at its end, and one that is spelled with a dot there. -/
theorem resolve_landing_eq_iff_tmp :
    let volume := Volume.load ⟨0, 0⟩ (.memory []) "fs" "/home/user"
    volume.resolve "../user/Music//" = ["home", "user", "Music"] ∧
      volume.resolve (landing volume "../user/Music//" "/tmp/") = ["tmp", "Music"] ∧
      volume.resolve "Music/." = ["home", "user", "Music"] ∧
      volume.resolve (landing volume "Music/." "/tmp/") ≠ ["tmp", "Music"] := by
  intro volume
  have isSource : volume.resolve "../user/Music//" = ["home", "user", "Music"] := by decide +kernel
  have isDotted : volume.resolve "Music/." = ["home", "user", "Music"] := by decide +kernel
  have isTarget : volume.resolve "/tmp/" = ["tmp"] := by decide +kernel
  have isDirectory : (volume.node? "/tmp/").any Node.isDirectory = true := by decide +kernel
  have plain := (@resolve_landing_eq_iff _ "../user/Music//" _ (by decide) isDirectory).1
  have dotted := (@resolve_landing_eq_iff _ "Music/." _ (by decide) isDirectory).1
  rw [isTarget, isSource] at plain
  rw [isTarget, isDotted] at dotted
  exact ⟨isSource, plain.mpr (by decide +kernel), isDotted,
    fun lands => absurd (dotted.mp lands) (by decide +kernel)⟩

end Builtin

/-- The current directory, spelled with a dot, does not land in the directory it is moved to. -/
theorem Event.not_forall_resolve_landing : ¬ ∀ (opened : Instant) (store : Store)
    (storageKey home : String) (events : List Event) (source destination : String),
    let volume := run events (Volume.load opened store storageKey home)
    (volume.node? source).isSome → volume.resolve source ≠ [] → destination ≠ "" →
      (volume.node? destination).any Node.isDirectory = true →
      volume.resolve (Builtin.landing volume source destination) =
        volume.resolve destination ++ [(volume.resolve source).getLastD ""] := by
  intro always
  have lands := always ⟨0, 0⟩ (.memory []) "fs" "/home/user" [] "." "/tmp" (by decide +kernel)
    (by decide +kernel) (by decide +kernel) (by decide +kernel)
  revert lands
  decide +kernel

end TreeShell

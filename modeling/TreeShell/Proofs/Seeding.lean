import Mathlib.Data.List.Nodup
import TreeShell.Proofs.CurrentPath

/-!
# What a volume starts with

The initial tree is planted in two rounds. The directories come first, parents before children, so
all of them are there before the first file is. Files replace what is at their place: a home at or
below the place of a file of the system is lost again, and any other home keeps everything that is
planted in it. Nothing but the home and the time goes into the tree, so it does not matter what was
there before.
-/

namespace TreeShell

namespace Node

/-- A tree without files. -/
def Bare (root : Node) : Prop :=
  ∀ path attributes content, root.flat path ≠ some (.file attributes content)

/-- What is there without being a file is a directory. -/
theorem Bare.hasDirectory {root : Node} (bare : root.Bare) {path : Path}
    (isThere : (root.find? path).isSome) : root.hasDirectory path = true := by
  obtain ⟨node, found⟩ := Option.isSome_iff_exists.mp isThere
  cases node with
  | file attributes content =>
      exact absurd (flat_eq_file_iff.mpr found) (bare path attributes content)
  | directory attributes entries => exact hasDirectory_iff.mpr ⟨attributes, entries, found⟩

theorem bare_newRoot (now : Instant) : (newRoot now).Bare := by
  intro path attributes content isFile
  cases path with
  | nil => cases isFile
  | cons name rest => simp [newRoot, flat_directory_cons, Entries.get?] at isFile

end Node

namespace Volume

variable {now : Instant} {root : Node}

/-! ### Planting -/

theorem flat_plant (root : Node) (parent : Path) (name : String) (make : String → Node) :
    (plant (parent ++ [name]) make root).flat =
      if root.hasDirectory parent = true then
        FlatMap.graft (parent ++ [name]) (make name).flat root.flat
      else root.flat := by
  have split : Path.split? (parent ++ [name]) = some (parent, name) := by simp [Path.split?]
  have inserts : (root.insert? parent name (make name)).isSome ↔
      root.hasDirectory parent = true := Node.isSome_insert?_iff_hasDirectory _ _
  rw [plant, split]
  dsimp only
  cases inserted : root.insert? parent name (make name) with
  | none =>
      rw [inserted] at inserts
      exact (if_neg fun here => by simpa using inserts.mpr here).symm
  | some changed =>
      rw [inserted] at inserts
      rw [if_pos (inserts.mp rfl)]
      exact Node.flat_insert? inserted

/-- What is planted changes nothing elsewhere. -/
theorem flat_plant_outside {path other : Path} (outside : ¬ path <+: other) (make : String → Node)
    (root : Node) : (plant path make root).flat other = root.flat other := by
  rcases List.eq_nil_or_concat path with rfl | ⟨parent, name, rfl⟩
  · rfl
  · rw [List.concat_eq_append] at outside ⊢
    rw [flat_plant]
    split
    · rw [FlatMap.graft_outside outside]
    · rfl

/-! ### Directories -/

theorem hasDirectory_plantDirectory {other : Path} (here : root.hasDirectory other = true)
    (path : Path) : (plantDirectory now root path).hasDirectory other = true := by
  unfold plantDirectory
  split
  next => exact here
  next free =>
    have outside : ¬ path <+: other := by
      intro isFront
      obtain ⟨attributes, entries, found⟩ :=
        Node.hasDirectory_iff.mp (Node.hasDirectory_of_front isFront here)
      simp [found] at free
    rwa [Node.hasDirectory_iff_flat, flat_plant_outside outside, ← Node.hasDirectory_iff_flat]

theorem bare_plantDirectory (bare : root.Bare) (path : Path) :
    (plantDirectory now root path).Bare := by
  unfold plantDirectory
  split
  next => exact bare
  next free =>
    rcases List.eq_nil_or_concat path with rfl | ⟨parent, name, rfl⟩
    · exact bare
    · intro other attributes content isFile
      rw [List.concat_eq_append, flat_plant] at isFile
      split at isFile
      · rw [Node.graft_newDirectory] at isFile
        by_cases inside : parent ++ [name] <+: other
        · by_cases same : other = parent ++ [name]
          · rw [same, FlatMap.plant_self] at isFile
            cases isFile
          · rw [FlatMap.plant_below inside same] at isFile
            cases isFile
        · rw [FlatMap.plant_outside inside] at isFile
          exact bare other attributes content isFile
      · exact bare other attributes content isFile

/-- In a directory a directory is planted, unless there is something already. -/
theorem hasDirectory_plantDirectory_self (bare : root.Bare) {path : Path}
    (parent : root.hasDirectory path.dropLast = true) :
    (plantDirectory now root path).hasDirectory path = true := by
  unfold plantDirectory
  split
  next isThere => exact bare.hasDirectory isThere
  next free =>
    rcases List.eq_nil_or_concat path with rfl | ⟨front, name, rfl⟩
    · simp at free
    · rw [List.concat_eq_append, List.dropLast_concat] at parent
      rw [List.concat_eq_append, Node.hasDirectory_iff_flat, flat_plant, if_pos parent,
        Node.graft_newDirectory, FlatMap.plant_self]
      exact ⟨_, rfl⟩

/-- Paths behind their parents, where some are there already. -/
def ParentsFirst (there : Path → Prop) : List Path → Prop
  | [] => True
  | path :: rest =>
      there path.dropLast ∧ ParentsFirst (fun other => there other ∨ other = path) rest

theorem ParentsFirst.mono {there there' : Path → Prop} {paths : List Path}
    (first : ParentsFirst there paths) (weaker : ∀ path, there path → there' path) :
    ParentsFirst there' paths := by
  induction paths generalizing there there' with
  | nil => trivial
  | cons path rest ih =>
      exact ⟨weaker _ first.1, ih first.2 fun other => Or.imp_left (weaker other)⟩

theorem ParentsFirst.append {there : Path → Prop} {front back : List Path}
    (first : ParentsFirst there front)
    (later : ParentsFirst (fun path => there path ∨ path ∈ front) back) :
    ParentsFirst there (front ++ back) := by
  induction front generalizing there with
  | nil => exact later.mono fun path isThere => by simpa using isThere
  | cons path rest ih =>
      refine ⟨first.1, ih first.2 (later.mono fun other isThere => ?_)⟩
      rwa [List.mem_cons, ← or_assoc] at isThere

/-- All directories are planted whose parents are there or planted before them. -/
theorem hasDirectory_plantDirectories {paths : List Path} {there : Path → Prop}
    (bare : root.Bare) (parents : ParentsFirst there paths)
    (isThere : ∀ path, there path → root.hasDirectory path = true) :
    ∀ path, there path ∨ path ∈ paths →
      (paths.foldl (plantDirectory now) root).hasDirectory path = true := by
  -- What is there grows by each path that is planted; without files nothing can be in its way.
  induction paths generalizing root there with
  | nil => exact fun path known => isThere path (by simpa using known)
  | cons first rest ih =>
      intro path known
      refine ih (bare_plantDirectory bare first) parents.2 ?_ path ?_
      · rintro other (already | rfl)
        · exact hasDirectory_plantDirectory (isThere other already) first
        · exact hasDirectory_plantDirectory_self bare (isThere _ parents.1)
      · rwa [List.mem_cons, ← or_assoc] at known

/-! ### Files -/

theorem flat_plantFiles_outside {files : List (Path × String)} {other : Path}
    (outside : ∀ file ∈ files, ¬ file.1 <+: other) (root : Node) :
    (files.foldl (plantFile now) root).flat other = root.flat other := by
  induction files generalizing root with
  | nil => rfl
  | cons file rest ih =>
      obtain ⟨first, later⟩ := List.forall_mem_cons.mp outside
      rw [List.foldl_cons, ih later]
      exact flat_plant_outside first _ root

theorem hasDirectory_plantFiles {files : List (Path × String)} {other : Path}
    (outside : ∀ file ∈ files, ¬ file.1 <+: other) (here : root.hasDirectory other = true) :
    (files.foldl (plantFile now) root).hasDirectory other = true := by
  rwa [Node.hasDirectory_iff_flat, flat_plantFiles_outside outside, ← Node.hasDirectory_iff_flat]

/-- A file is planted in a directory, unless another one is planted above the file. -/
theorem flat_plantFiles_self {files : List (Path × String)} {file : Path × String}
    (member : file ∈ files) (notRoot : file.1 ≠ [])
    (alone : ∀ other ∈ files, other.1 <+: file.1 → other = file)
    (here : root.hasDirectory file.1.dropLast = true) :
    (files.foldl (plantFile now) root).flat file.1 =
      some (Node.newFile now (file.1.getLastD "") file.2).label := by
  -- Until the file is planted for the last time its directory stays, after that the file does.
  induction files generalizing root with
  | nil => cases member
  | cons first rest ih =>
      obtain ⟨aloneFirst, aloneRest⟩ := List.forall_mem_cons.mp alone
      by_cases later : file ∈ rest
      · have outside : ¬ first.1 <+: file.1.dropLast := by
          intro above
          have longer := above.length_le
          rw [aloneFirst (above.trans (List.dropLast_prefix _)), List.length_dropLast] at longer
          have someName := List.length_pos_iff.mpr notRoot
          omega
        refine ih later aloneRest ?_
        rw [plantFile, Node.hasDirectory_iff_flat, flat_plant_outside outside,
          ← Node.hasDirectory_iff_flat]
        exact here
      · obtain rfl : file = first := by simpa [later] using member
        have outside : ∀ other ∈ rest, ¬ other.1 <+: file.1 := fun other isLater above =>
          later (aloneRest other isLater above ▸ isLater)
        rw [List.foldl_cons, flat_plantFiles_outside outside, plantFile]
        obtain ⟨parent, name, isPlace⟩ : ∃ parent name, file.1 = parent ++ [name] :=
          ⟨_, _, (List.dropLast_append_getLast notRoot).symm⟩
        rw [isPlace, List.dropLast_concat] at here
        rw [isPlace, flat_plant, if_pos here, Node.graft_newFile, FlatMap.plant_self,
          List.getLastD_concat]

/-! ### What is planted for a home -/

/-- The files of a home, with their texts. -/
def homeFiles : List (Path × String) :=
  [(["welcome.txt"], welcomeText), (["Documents", "example.txt"], exampleText),
    (["Documents", "notes.md"], notesText)]

/-- The files of the system, with their texts. -/
def systemFiles (home : Path) : List (Path × String) :=
  [(["etc", "passwd"], accountsText home), (["etc", "hosts"], hostsText),
    (["var", "log", "system.log"], systemLogText)]

def systemPlaces : List Path :=
  [["etc", "passwd"], ["etc", "hosts"], ["var", "log", "system.log"]]

/-- The home lies at or below the place of a file of the system. -/
def Clashes (home : Path) : Prop :=
  ∃ place ∈ systemPlaces, place <+: home

theorem mem_seedFiles_iff {home : Path} {file : Path × String} : file ∈ seedFiles home ↔
    (∃ inner ∈ homeFiles, file = (home ++ inner.1, inner.2)) ∨ file ∈ systemFiles home := by
  have split : seedFiles home =
      homeFiles.map (fun inner => (home ++ inner.1, inner.2)) ++ systemFiles home := rfl
  rw [split, List.mem_append, List.mem_map]
  simp only [eq_comm]

theorem mem_systemPlaces {home : Path} {file : Path × String} (isSystem : file ∈ systemFiles home) :
    file.1 ∈ systemPlaces :=
  List.mem_map_of_mem (f := Prod.fst) isSystem

theorem exists_systemFile {place : Path} (isPlace : place ∈ systemPlaces) (home : Path) :
    ∃ file ∈ systemFiles home, file.1 = place :=
  List.mem_map.mp isPlace

theorem parent_systemPlaces : ∀ place ∈ systemPlaces,
    place ≠ [] ∧ place.dropLast ∈ systemDirectories := by
  decide

theorem mem_wayTo_self {path : Path} (notRoot : path ≠ []) : path ∈ Path.wayTo path := by
  have someName : 0 < path.length := List.length_pos_iff.mpr notRoot
  refine List.mem_map.mpr ⟨path.length - 1, List.mem_range.mpr (by omega), ?_⟩
  rw [Nat.sub_add_cancel someName, List.take_length]

theorem dropLast_take_succ {path : Path} {steps : Nat} (inside : steps < path.length) :
    (path.take (steps + 1)).dropLast = path.take steps := by
  rw [List.dropLast_eq_take, List.take_take, List.length_take]
  congr 1
  omega

/-- On the way to a path each place comes behind the one above it. -/
theorem parentsFirst_wayTo {there : Path → Prop} (root : there []) (path : Path) :
    ParentsFirst there (Path.wayTo path) := by
  have upTo : ∀ steps ≤ path.length,
      ParentsFirst there ((List.range steps).map fun step => path.take (step + 1)) := by
    intro steps
    induction steps with
    | zero => exact fun _ => trivial
    | succ steps ih =>
        intro inside
        rw [List.range_succ, List.map_append]
        refine (ih (by omega)).append ⟨?_, trivial⟩
        rw [dropLast_take_succ (by omega)]
        cases steps with
        | zero => exact Or.inl root
        | succ before =>
            exact Or.inr (List.mem_map.mpr ⟨before, List.mem_range.mpr (by omega), rfl⟩)
  exact upTo path.length (Nat.le_refl _)

theorem parentsFirst_entries {there : Path → Prop} {parent : Path} (isThere : there parent)
    (names : List String) : ParentsFirst there (names.map fun name => parent ++ [name]) := by
  induction names generalizing there with
  | nil => trivial
  | cons name rest ih =>
      refine ⟨?_, ih (Or.inl isThere)⟩
      rwa [List.dropLast_concat]

theorem parentsFirst_seedDirectories (home : Path) :
    ParentsFirst (· = []) (seedDirectories home) := by
  have ofSystem : ParentsFirst (· = []) systemDirectories := by
    simp [ParentsFirst, systemDirectories]
  refine (ofSystem.append (parentsFirst_wayTo (Or.inl rfl) home)).append
    (parentsFirst_entries ?_ homeDirectories)
  by_cases isRoot : home = []
  · exact Or.inl isRoot
  · exact Or.inr (List.mem_append_right _ (mem_wayTo_self isRoot))

/-- The directories of the initial tree before the files. -/
def directoryTree (now : Instant) (home : Path) : Node :=
  (seedDirectories home).foldl (plantDirectory now) (Node.newRoot now)

theorem seedTree_eq (now : Instant) (home : Path) :
    seedTree now home = (seedFiles home).foldl (plantFile now) (directoryTree now home) := rfl

/-- Before the files are planted all directories are there. -/
theorem hasDirectory_directoryTree (now : Instant) {home path : Path}
    (planted : path = [] ∨ path ∈ seedDirectories home) :
    (directoryTree now home).hasDirectory path = true := by
  refine hasDirectory_plantDirectories (Node.bare_newRoot now) (parentsFirst_seedDirectories home)
    ?_ path planted
  rintro _ rfl
  rfl

/-- The home and its directories are planted. -/
theorem mem_directories_of_home (home : Path) {names : Path}
    (isDirectory : names ∈ [] :: homeDirectories.map fun name => [name]) :
    home ++ names = [] ∨ home ++ names ∈ seedDirectories home := by
  rcases List.mem_cons.mp isDirectory with rfl | inHome
  · rw [List.append_nil]
    refine or_iff_not_imp_left.mpr fun notRoot => ?_
    exact List.mem_append_left _ (List.mem_append_right _ (mem_wayTo_self notRoot))
  · obtain ⟨name, isName, rfl⟩ := List.mem_map.mp inHome
    exact Or.inr (List.mem_append_right _ (List.mem_map.mpr ⟨name, isName, rfl⟩))

/-! ### Places that do not meet -/

/-- A path in a home leads to or through a place of the system only if the home does, unless they
share a name. -/
theorem prefix_append_iff_of_disjoint {place home names : Path}
    (disjoint : ∀ name ∈ names, name ∉ place) : place <+: home ++ names ↔ place <+: home := by
  refine ⟨fun above => ?_, fun above => above.trans (List.prefix_append _ _)⟩
  rcases List.prefix_or_prefix_of_prefix above (List.prefix_append home names) with isFront | below
  · exact isFront
  · obtain ⟨rest, rfl⟩ := below
    have inNames := ((List.prefix_append_right_inj home).mp above).subset
    cases rest with
    | nil => simp
    | cons name rest =>
        exact absurd (by simp) (disjoint name (inNames List.mem_cons_self))

theorem not_append_prefix_of_disjoint {place home names : Path} (someName : names ≠ [])
    (disjoint : ∀ name ∈ names, name ∉ place) : ¬ home ++ names <+: place := by
  obtain ⟨name, rest, rfl⟩ := List.exists_cons_of_ne_nil someName
  intro above
  exact disjoint name List.mem_cons_self (above.subset (by simp))

/-- The names in a home are not those on the way to a file of the system. -/
theorem homeFiles_disjoint : ∀ inner ∈ homeFiles, inner.1 ≠ [] ∧
    ∀ place ∈ systemPlaces, ∀ name ∈ inner.1, name ∉ place := by
  decide

/-- No file is planted above another. -/
theorem eq_of_above {files : List (Path × String)} (nodup : (files.map Prod.fst).Nodup)
    (apart : ∀ place ∈ files.map Prod.fst, ∀ below ∈ files.map Prod.fst,
      place <+: below → place = below) {file other : Path × String} (isOne : file ∈ files)
    (isOther : other ∈ files) (above : other.1 <+: file.1) : other = file :=
  List.inj_on_of_nodup_map nodup isOther isOne
    (apart _ (List.mem_map_of_mem isOther) _ (List.mem_map_of_mem isOne) above)

theorem systemFiles_eq_of_above {home : Path} {file other : Path × String}
    (isOne : file ∈ systemFiles home) (isOther : other ∈ systemFiles home)
    (above : other.1 <+: file.1) : other = file :=
  have apart : ∀ place ∈ systemPlaces, ∀ below ∈ systemPlaces, place <+: below → place = below := by
    decide
  @eq_of_above (systemFiles home) (by decide : systemPlaces.Nodup) apart _ _ isOne isOther above

theorem homeFiles_eq_of_above {file other : Path × String} (isOne : file ∈ homeFiles)
    (isOther : other ∈ homeFiles) (above : other.1 <+: file.1) : other = file :=
  eq_of_above (by decide) (by decide) isOne isOther above

/-- The files of the system are there for every home. -/
theorem flat_seedTree_system (now : Instant) {home : Path} {file : Path × String}
    (isSystem : file ∈ systemFiles home) : (seedTree now home).flat file.1 =
      some (Node.newFile now (file.1.getLastD "") file.2).label := by
  have isPlace := mem_systemPlaces isSystem
  obtain ⟨notRoot, parent⟩ := parent_systemPlaces _ isPlace
  rw [seedTree_eq]
  refine flat_plantFiles_self (mem_seedFiles_iff.mpr (Or.inr isSystem)) notRoot ?_ ?_
  · intro other member above
    rcases mem_seedFiles_iff.mp member with ⟨inner, isHome, rfl⟩ | isOther
    · obtain ⟨someName, disjoint⟩ := homeFiles_disjoint inner isHome
      exact absurd above (not_append_prefix_of_disjoint someName (disjoint _ isPlace))
    · exact systemFiles_eq_of_above isSystem isOther above
  · exact hasDirectory_directoryTree now
      (Or.inr (List.mem_append_left _ (List.mem_append_left _ parent)))

section

variable {home : Path} (free : ¬ Clashes home)

include free

/-- The files of the system are not on the way to what is in a home. -/
theorem not_prefix_of_free {names : Path}
    (disjoint : ∀ place ∈ systemPlaces, ∀ name ∈ names, name ∉ place) {file : Path × String}
    (isSystem : file ∈ systemFiles home) : ¬ file.1 <+: home ++ names := by
  have isPlace := mem_systemPlaces isSystem
  rw [prefix_append_iff_of_disjoint (disjoint _ isPlace)]
  exact fun above => free ⟨_, isPlace, above⟩

theorem flat_seedTree_home (now : Instant) {inner : Path × String} (isHome : inner ∈ homeFiles) :
    (seedTree now home).flat (home ++ inner.1) =
      some (Node.newFile now (inner.1.getLastD "") inner.2).label := by
  have parents : ∀ inner ∈ homeFiles,
      inner.1.dropLast ∈ [] :: homeDirectories.map fun name => [name] := by decide
  obtain ⟨someName, disjoint⟩ := homeFiles_disjoint inner isHome
  have planted : (seedTree now home).flat (home ++ inner.1) =
      some (Node.newFile now ((home ++ inner.1).getLastD "") inner.2).label := by
    rw [seedTree_eq]
    refine flat_plantFiles_self (mem_seedFiles_iff.mpr (Or.inl ⟨inner, isHome, rfl⟩))
      (List.append_ne_nil_of_right_ne_nil _ someName) ?_ ?_
    · intro other member above
      rcases mem_seedFiles_iff.mp member with ⟨another, isAnother, rfl⟩ | isSystem
      · rw [List.prefix_append_right_inj] at above
        rw [homeFiles_eq_of_above isHome isAnother above]
      · exact absurd above (not_prefix_of_free free disjoint isSystem)
    · rw [List.dropLast_append_of_ne_nil someName]
      exact hasDirectory_directoryTree now (mem_directories_of_home home (parents inner isHome))
  rw [planted, List.getLastD_eq_getLast?, List.getLast?_append_of_ne_nil _ someName,
    ← List.getLastD_eq_getLast?]

/-- The home and its directories stay when the files are planted. -/
theorem hasDirectory_seedTree (now : Instant) {names : Path}
    (isDirectory : names ∈ [] :: homeDirectories.map fun name => [name]) :
    (seedTree now home).hasDirectory (home ++ names) = true := by
  have apart : ∀ names ∈ [] :: homeDirectories.map fun name => [name],
      (∀ inner ∈ homeFiles, ¬ inner.1 <+: names) ∧
        ∀ place ∈ systemPlaces, ∀ name ∈ names, name ∉ place := by decide
  obtain ⟨noFile, disjoint⟩ := apart names isDirectory
  have here := hasDirectory_directoryTree now (mem_directories_of_home home isDirectory)
  rw [seedTree_eq]
  refine hasDirectory_plantFiles (fun file member => ?_) here
  rcases mem_seedFiles_iff.mp member with ⟨inner, isHome, rfl⟩ | isSystem
  · rw [List.prefix_append_right_inj]
    exact noFile inner isHome
  · exact not_prefix_of_free free disjoint isSystem

end

/-! ### Volumes with the initial tree -/

variable {volume : Volume} {home : Path}

/-- A volume stands in a home in which everything is that belongs there. -/
structure HoldsHome (volume : Volume) (now : Instant) (home : Path) : Prop where
  current : volume.current = home
  ancestors : ∀ front, front <+: home → volume.root.hasDirectory front = true
  directories : ∀ name ∈ homeDirectories, volume.root.hasDirectory (home ++ [name]) = true
  files : ∀ file ∈ homeFiles, volume.root.flat (home ++ file.1) =
    some (Node.newFile now (file.1.getLastD "") file.2).label

/-- A volume has the initial tree for a home and stands as near to the home as it can. -/
structure Fresh (volume : Volume) (now : Instant) (home : Path) : Prop where
  tree : volume.root = seedTree now home
  cutBack : volume.CutBack home
  systemFiles : ∀ file ∈ systemFiles home, volume.root.flat file.1 =
    some (Node.newFile now (file.1.getLastD "") file.2).label
  holdsHome_iff : volume.HoldsHome now home ↔ ¬ Clashes home
  standsBelow : ∀ place ∈ systemPlaces, place <+: home → volume.current = place.dropLast

/-- A path through a file is cut back to the directory of the file. -/
theorem CutBack.eq_dropLast {path place : Path} (cutBack : volume.CutBack path)
    (through : place <+: path) (notRoot : place ≠ []) {attributes : Attributes} {content : String}
    (isFile : volume.root.flat place = some (.file attributes content)) :
    volume.current = place.dropLast := by
  have isPlace := List.dropLast_append_getLast notRoot
  have noDirectory : ¬ place <+: volume.current := by
    intro isFront
    obtain ⟨_, isDirectory⟩ :=
      Node.hasDirectory_iff_flat.mp (Node.hasDirectory_of_front isFront cutBack.stands)
    cases isFile.symm.trans isDirectory
  have above : place.dropLast <+: volume.current := by
    have found := Node.flat_eq_file_iff.mp isFile
    rw [← isPlace] at found
    have parent := Node.hasDirectory_iff.mpr (Node.exists_directory_of_find?_append found)
    exact cutBack.longest _ ((List.dropLast_prefix place).trans through) parent
  have below : volume.current <+: place.dropLast := by
    have isFront := (List.prefix_or_prefix_of_prefix through cutBack.isFront).resolve_left
      noDirectory
    rw [← isPlace, List.prefix_concat_iff, isPlace] at isFront
    exact isFront.resolve_left fun same => noDirectory (same ▸ List.prefix_rfl)
  exact below.eq_of_length_le above.length_le

theorem holdsHome_of_free (free : ¬ Clashes home) (isTree : volume.root = seedTree now home)
    (isCurrent : volume.current = home) : volume.HoldsHome now home where
  current := isCurrent
  ancestors := fun front isFront => by
    have here := hasDirectory_seedTree free now List.mem_cons_self
    rw [List.append_nil, ← isTree] at here
    exact Node.hasDirectory_of_front isFront here
  directories := fun name isName =>
    isTree ▸ hasDirectory_seedTree free now
      (List.mem_cons_of_mem _ (List.mem_map.mpr ⟨name, isName, rfl⟩))
  files := fun _ isHome => isTree ▸ flat_seedTree_home free now isHome

theorem fresh_of_seeded (isTree : volume.root = seedTree now home)
    (isCurrent : volume.current = surviving volume.root home) : volume.Fresh now home := by
  have isFile : ∀ file ∈ systemFiles home, volume.root.flat file.1 =
      some (Node.newFile now (file.1.getLastD "") file.2).label := fun _ isSystem =>
    isTree ▸ flat_seedTree_system now isSystem
  have isDirectory : volume.root.isDirectory = true := by
    have found := Node.flat_eq_file_iff.mp (isFile _ List.mem_cons_self)
    rw [← Node.hasDirectory_nil, Node.hasDirectory_iff]
    exact @Node.exists_directory_of_find?_append _ _ [] "etc" ["passwd"] found
  have cutBack := cutBack_of_surviving isDirectory isCurrent
  refine ⟨isTree, cutBack, isFile, ⟨?_, fun free => ?_⟩, fun place isPlace through => ?_⟩
  · rintro holds ⟨place, isPlace, above⟩
    obtain ⟨file, isSystem, rfl⟩ := exists_systemFile isPlace home
    obtain ⟨_, isDirectory⟩ := Node.hasDirectory_iff_flat.mp (holds.ancestors _ above)
    cases (isFile file isSystem).symm.trans isDirectory
  · refine holdsHome_of_free free isTree (isCurrent.trans ?_)
    rw [surviving_eq_self_iff isDirectory, isTree]
    simpa using hasDirectory_seedTree free now List.mem_cons_self
  · obtain ⟨file, isSystem, rfl⟩ := exists_systemFile isPlace home
    exact cutBack.eq_dropLast through (parent_systemPlaces _ isPlace).1 (isFile file isSystem)

/-- A store holds no snapshot under a key that can be read at a time. -/
def Unusable (now : Instant) (store : Store) (storageKey : String) : Prop :=
  ∀ text, store.get storageKey = .ok (some text) →
    ∀ snapshot, Snapshot.read now text ≠ .ok snapshot

theorem load_of_unusable {store : Store} {storageKey : String}
    (unusable : Unusable now store storageKey) (home : String) :
    (load now store storageKey home).root = seedTree now (Path.follow [] home) ∧
      (load now store storageKey home).current =
        surviving (seedTree now (Path.follow [] home)) (Path.follow [] home) := by
  unfold load
  dsimp only
  split
  next text kept =>
    split
    next snapshot isRead => exact absurd isRead (unusable text kept snapshot)
    next => exact ⟨rfl, rfl⟩
  next => exact ⟨rfl, rfl⟩

end Volume

/-- Whatever was done in a session, and whatever a store holds that cannot be used, the volume that
starts again has the initial tree for its home and the time, and stands as near to the home as it
can. It stands in the home, with everything there that belongs there, exactly if the home does not
lie at or below the place of a file of the system. -/
theorem Event.fresh_reset_run (opened now : Instant) (store : Store) (storageKey home : String)
    (events : List Event) :
    ((run events (Volume.load opened store storageKey home)).reset now).Fresh now
        (Path.follow [] home) ∧
      ∀ (other : Store) (otherKey : String), Volume.Unusable now other otherKey →
        (Volume.load now other otherKey home).Fresh now (Path.follow [] home) ∧
          (Volume.load now other otherKey home).root =
            ((run events (Volume.load opened store storageKey home)).reset now).root ∧
          (Volume.load now other otherKey home).current =
            ((run events (Volume.load opened store storageKey home)).reset now).current := by
  have sameHome := (run_home_storageKey opened store storageKey home events).1
  have isTree : ((run events (Volume.load opened store storageKey home)).reset now).root =
      Volume.seedTree now (Path.follow [] home) := by
    rw [← sameHome]
    rfl
  have isCurrent : ((run events (Volume.load opened store storageKey home)).reset now).current =
      Volume.surviving (Volume.seedTree now (Path.follow [] home)) (Path.follow [] home) := by
    rw [← sameHome]
    rfl
  refine ⟨Volume.fresh_of_seeded isTree (isTree ▸ isCurrent), fun other otherKey unusable => ?_⟩
  obtain ⟨isTree', isCurrent'⟩ := Volume.load_of_unusable unusable home
  refine ⟨Volume.fresh_of_seeded isTree' (isTree' ▸ isCurrent'), ?_, ?_⟩
  · rw [isTree, isTree']
  · rw [isCurrent, isCurrent']

/-- The file of the accounts takes the place of a home that is put there. -/
theorem Event.not_forall_holdsHome_reset_run : ¬ ∀ (opened now : Instant) (store : Store)
    (storageKey home : String) (events : List Event),
    let volume := (run events (Volume.load opened store storageKey home)).reset now
    volume.HoldsHome now (Path.follow [] home) ∧
      (∀ file ∈ Volume.systemFiles (Path.follow [] home), volume.root.flat file.1 =
        some (Node.newFile now (file.1.getLastD "") file.2).label) ∧
      ∀ (other : Store) (otherKey : String), Volume.Unusable now other otherKey →
        (Volume.load now other otherKey home).root = volume.root ∧
          (Volume.load now other otherKey home).current = volume.current := by
  intro always
  have holds := (always ⟨0, 0⟩ ⟨60, 0⟩ (.memory []) "fs" "/etc/passwd" []).1
  have here := holds.ancestors ["etc", "passwd"] (by decide +kernel)
  revert here
  decide +kernel

end TreeShell

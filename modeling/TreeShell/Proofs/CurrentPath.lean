import TreeShell.Proofs.Session

/-!
# Where the current path leads

The current path of a session always consists of names. It leads to a directory until a file is made
in the place of a directory on the way: making a file does not cut the current path back, whereas
removing, moving, importing and starting again do. So a path that a file has displaced stays
displaced until one of these, or a change of the current directory, succeeds.
-/

namespace TreeShell

/-! ### Files on a path -/

namespace FlatMap

variable {map : FlatMap} {path current : Path} {attributes : Attributes} {content : String}

/-- There is a file on the way to a place, or in it. -/
def HasFileOn (map : FlatMap) (path : Path) : Prop :=
  ∃ front attributes content, front <+: path ∧ map front = some (.file attributes content)

/-- A new file is on the paths to its place and below, and hides only what is below it. -/
theorem hasFileOn_plant_file :
    (map.plant path (.file attributes content)).HasFileOn current ↔
      map.HasFileOn current ∨ path <+: current := by
  constructor
  · intro ⟨front, attributes', content', isFront, isFile⟩
    by_cases inside : path <+: front
    · exact Or.inr (inside.trans isFront)
    · rw [plant_outside inside] at isFile
      exact Or.inl ⟨front, attributes', content', isFront, isFile⟩
  · rintro (⟨front, attributes', content', isFront, isFile⟩ | onPath)
    · by_cases inside : path <+: front
      · exact ⟨path, attributes, content, inside.trans isFront, plant_self _ _ _⟩
      · refine ⟨front, attributes', content', isFront, ?_⟩
        rw [plant_outside inside, isFile]
    · exact ⟨path, attributes, content, onPath, plant_self _ _ _⟩

/-- A new directory where nothing was hides no file. -/
theorem hasFileOn_plant_directory (free : ∀ rest, map (path ++ rest) = none) :
    (map.plant path (.directory attributes)).HasFileOn current ↔ map.HasFileOn current := by
  constructor
  · intro ⟨front, attributes', content', isFront, isFile⟩
    refine ⟨front, attributes', content', isFront, ?_⟩
    by_cases same : front = path
    · rw [same, plant_self] at isFile
      cases isFile
    · by_cases inside : path <+: front
      · rw [plant_below inside same] at isFile
        cases isFile
      · rwa [plant_outside inside] at isFile
  · intro ⟨front, attributes', content', isFront, isFile⟩
    refine ⟨front, attributes', content', isFront, ?_⟩
    by_cases inside : path <+: front
    · obtain ⟨rest, rfl⟩ := inside
      rw [free rest] at isFile
      cases isFile
    · rw [plant_outside inside, isFile]

/-- A file in the place of a file makes no difference. -/
theorem hasFileOn_set_file {oldAttributes : Attributes} {old : String}
    (isFile : map path = some (.file oldAttributes old)) :
    (map.set path (.file attributes content)).HasFileOn current ↔ map.HasFileOn current := by
  constructor
  · intro ⟨front, attributes', content', isFront, here⟩
    by_cases atPath : front = path
    · exact ⟨path, oldAttributes, old, atPath ▸ isFront, isFile⟩
    · exact ⟨front, attributes', content', isFront, (if_neg atPath).symm.trans here⟩
  · intro ⟨front, attributes', content', isFront, here⟩
    by_cases atPath : front = path
    · exact ⟨front, attributes, content, isFront, if_pos atPath⟩
    · exact ⟨front, attributes', content', isFront, (if_neg atPath).trans here⟩

end FlatMap

namespace Volume

/-- The current path leads to a directory. -/
def Stands (volume : Volume) : Prop :=
  volume.root.hasDirectory volume.current = true

/-- A file lies on the current path. -/
def Obstructed (volume : Volume) : Prop :=
  volume.root.flat.HasFileOn volume.current

/-- What is on the way to a directory is no file. -/
theorem Stands.not_obstructed {volume : Volume} (stands : volume.Stands) : ¬ volume.Obstructed := by
  intro ⟨front, attributes, content, isFront, isFile⟩
  have isDirectory := Node.hasDirectory_of_front isFront stands
  obtain ⟨attributes', same⟩ := Node.hasDirectory_iff_flat.mp isDirectory
  rw [isFile] at same
  cases same

theorem stands_of_surviving {volume : Volume} {path : Path}
    (isDirectory : volume.root.isDirectory = true)
    (cutBack : volume.current = surviving volume.root path) : volume.Stands := by
  rw [Stands, cutBack]
  exact hasDirectory_surviving isDirectory path

/-- The current path is the longest part of a path that leads to a directory. -/
structure CutBack (volume : Volume) (path : Path) : Prop where
  isFront : volume.current <+: path
  stands : volume.Stands
  longest : ∀ front, front <+: path → volume.root.hasDirectory front = true →
    front <+: volume.current

theorem cutBack_of_surviving {volume : Volume} {path : Path}
    (isDirectory : volume.root.isDirectory = true)
    (cutBack : volume.current = surviving volume.root path) : volume.CutBack path where
  isFront := cutBack ▸ prefix_surviving _ _
  stands := stands_of_surviving isDirectory cutBack
  longest := fun _ isFront here => cutBack ▸ prefix_surviving_of_hasDirectory isFront here

/-- What a store is opened into stands in a directory. -/
theorem stands_load (now : Instant) (store : Store) (storageKey home : String) :
    (load now store storageKey home).Stands := by
  have wellFormed : (load now store storageKey home).WellFormed fun _ => True :=
    wellFormed_load (fun _ _ _ => trivial) trivial store storageKey home
  have isDirectory := wellFormed.isRoot.isDirectory
  revert isDirectory
  unfold load
  dsimp only
  split
  next =>
    split
    next => exact fun isDirectory => stands_of_surviving isDirectory rfl
    next => exact fun isDirectory => stands_of_surviving isDirectory rfl
  next => exact fun isDirectory => stands_of_surviving isDirectory rfl

/-- Volumes in which nothing but a file can keep the current path from leading to a directory. -/
structure Sound (volume : Volume) : Prop where
  wellFormed : volume.WellFormed fun _ => True
  known : volume.Stands ∨ volume.Obstructed

theorem sound_load (now : Instant) (store : Store) (storageKey home : String) :
    (load now store storageKey home).Sound where
  wellFormed := wellFormed_load (fun _ _ _ => trivial) trivial store storageKey home
  known := Or.inl (stands_load now store storageKey home)

theorem Sound.stands_iff {volume : Volume} (sound : volume.Sound) :
    volume.Stands ↔ ¬ volume.Obstructed :=
  ⟨Stands.not_obstructed, fun free => sound.known.resolve_right free⟩

end Volume

namespace Operation

/-- An operation succeeds. -/
def Succeeds (now : Instant) (operation : Operation) (volume : Volume) : Prop :=
  ∃ changed, operation.perform now volume = .ok () changed

/-- An operation makes a file on the current path. -/
def Displaces (now : Instant) (operation : Operation) (volume : Volume) : Prop :=
  operation.Succeeds now volume ∧
    ∃ spelling content, operation = .createFile spelling content ∧
      volume.resolve spelling <+: volume.current

/-- The operations that put the current path in order, unless there is nothing to do for them. -/
def Settles (volume : Volume) : Operation → Prop
  | removeNode _ | changeDirectory _ | importText _ | reset => True
  | moveNode source target => volume.resolve source ≠ volume.resolve target
  | createDirectory _ | createFile _ _ | writeFile _ _ => False

/-- An operation puts the current path in order. -/
def Restores (now : Instant) (operation : Operation) (volume : Volume) : Prop :=
  operation.Succeeds now volume ∧ operation.Settles volume

/-- Making a file puts nothing in order. -/
theorem Displaces.not_restores {now : Instant} {operation : Operation} {volume : Volume}
    (displaces : operation.Displaces now volume) : ¬ operation.Restores now volume := by
  obtain ⟨-, spelling, content, rfl, -⟩ := displaces
  exact fun restores => restores.2

/-- None of some operations puts the current path in order. -/
def Unrestored : List (Instant × Operation) → Volume → Prop
  | [], _ => True
  | (now, operation) :: rest, volume =>
      ¬ operation.Restores now volume ∧ Unrestored rest (operation.after now volume)

/-- One of some operations makes a file on the current path, and none after it puts the path in
order. -/
def Displaced : List (Instant × Operation) → Volume → Prop
  | [], _ => False
  | (now, operation) :: rest, volume =>
      (operation.Displaces now volume ∧ Unrestored rest (operation.after now volume)) ∨
        Displaced rest (operation.after now volume)

variable {now : Instant} {volume changed : Volume} {operation : Operation}

/-! ### One operation -/

/-- The operations that put the path in order leave it leading to a directory. -/
theorem Effect.stands (changedIsDirectory : changed.root.isDirectory = true)
    (effect : Effect now volume operation changed) (settles : operation.Settles volume) :
    changed.Stands := by
  cases effect with
  | createDirectory => exact settles.elim
  | createFile => exact settles.elim
  | writeNewFile => exact settles.elim
  | writeFile => exact settles.elim
  | removeNode => exact Volume.stands_of_surviving changedIsDirectory rfl
  | leaveNode same => exact absurd same settles
  | moveNode => exact Volume.stands_of_surviving changedIsDirectory rfl
  | changeDirectory here => exact here
  | importText => exact Volume.stands_of_surviving changedIsDirectory rfl
  | reset => exact Volume.stands_of_surviving changedIsDirectory rfl

/-- The path of a directory has no free place on it. -/
theorem not_prefix_of_free (stands : volume.Stands) {path : Path}
    (free : volume.root.find? path = none) : ¬ path <+: volume.current := by
  intro onPath
  obtain ⟨attributes, entries, found⟩ :=
    Node.hasDirectory_iff.mp (Node.hasDirectory_of_front onPath stands)
  rw [free] at found
  cases found

/-- An operation that does not put the path in order obstructs it exactly by making a file on it. -/
theorem Effect.obstructed_iff (known : volume.Stands ∨ volume.Obstructed)
    (effect : Effect now volume operation changed) (keeps : ¬ operation.Settles volume) :
    changed.Obstructed ↔ volume.Obstructed ∨
      ∃ spelling content, operation = .createFile spelling content ∧
        volume.resolve spelling <+: volume.current := by
  cases effect with
  | createDirectory path free inserted =>
      rw [or_iff_left fun ⟨_, _, other, _⟩ => by cases other]
      show FlatMap.HasFileOn _ _ ↔ _
      rw [Volume.save_root, Node.flat_insert? inserted, Node.graft_newDirectory]
      exact FlatMap.hasFileOn_plant_directory (Node.flat_append_of_free free)
  | @createFile spelling content name parent root path inserted =>
      have grown : root.flat.HasFileOn volume.current ↔
          volume.Obstructed ∨ parent ++ [name] <+: volume.current := by
        rw [Node.flat_insert? inserted, Node.graft_newFile]
        exact FlatMap.hasFileOn_plant_file
      refine grown.trans (or_congr_right ?_)
      constructor
      · intro onPath
        exact ⟨spelling, content, rfl, path ▸ onPath⟩
      · rintro ⟨_, _, same, onPath⟩
        cases same
        rwa [path] at onPath
  | @writeNewFile spelling content name parent root path free inserted =>
      have grown : root.flat.HasFileOn volume.current ↔
          volume.Obstructed ∨ parent ++ [name] <+: volume.current := by
        rw [Node.flat_insert? inserted, Node.graft_newFile]
        exact FlatMap.hasFileOn_plant_file
      have alreadyObstructed : parent ++ [name] <+: volume.current → volume.Obstructed :=
        fun onPath => known.resolve_left fun stands => not_prefix_of_free stands free onPath
      rw [or_iff_left fun ⟨_, _, other, _⟩ => by cases other]
      exact grown.trans (or_iff_left_of_imp alreadyObstructed)
  | writeFile found replaced =>
      have isFile := Node.flat_eq_file_iff.mpr found
      rw [or_iff_left fun ⟨_, _, other, _⟩ => by cases other]
      show FlatMap.HasFileOn _ _ ↔ _
      rw [Volume.save_root, Node.flat_replaceContent? replaced isFile]
      exact FlatMap.hasFileOn_set_file isFile
  | leaveNode => rw [or_iff_left fun ⟨_, _, other, _⟩ => by cases other]
  | removeNode => exact absurd trivial keeps
  | changeDirectory => exact absurd trivial keeps
  | importText => exact absurd trivial keeps
  | reset => exact absurd trivial keeps
  | moveNode origin destination different =>
      refine absurd ?_ keeps
      show volume.resolve _ ≠ volume.resolve _
      rwa [origin, destination]

/-- An operation that does not put the path in order leaves the directory where it leads to, or
obstructs it. -/
theorem Effect.stands_of_keeps (stands : volume.Stands)
    (effect : Effect now volume operation changed) (keeps : ¬ operation.Settles volume)
    (free : ¬ changed.Obstructed) : changed.Stands := by
  have unchanged : ∀ {root : Node}, root.flat volume.current = volume.root.flat volume.current →
      (Volume.save now { volume with root }).Stands := by
    intro root same
    obtain ⟨attributes, isDirectory⟩ := Node.hasDirectory_iff_flat.mp stands
    exact Node.hasDirectory_iff_flat.mpr ⟨attributes, same.trans isDirectory⟩
  cases effect with
  | createDirectory path isFree inserted =>
      apply unchanged
      rw [Node.flat_insert? inserted,
        FlatMap.graft_outside (not_prefix_of_free stands isFree)]
  | @createFile spelling content name parent root path inserted =>
      apply unchanged
      have outside : ¬ parent ++ [name] <+: volume.current := by
        intro onPath
        apply free
        show root.flat.HasFileOn volume.current
        rw [Node.flat_insert? inserted, Node.graft_newFile]
        exact FlatMap.hasFileOn_plant_file.mpr (Or.inr onPath)
      rw [Node.flat_insert? inserted, FlatMap.graft_outside outside]
  | writeNewFile path isFree inserted =>
      apply unchanged
      rw [Node.flat_insert? inserted,
        FlatMap.graft_outside (not_prefix_of_free stands isFree)]
  | @writeFile spelling content old attributes root found replaced =>
      apply unchanged
      have elsewhere : volume.current ≠ volume.resolve spelling := by
        intro same
        obtain ⟨attributes', entries, isDirectory⟩ := Node.hasDirectory_iff.mp stands
        rw [same, found] at isDirectory
        cases isDirectory
      rw [Node.flat_replaceContent? replaced (Node.flat_eq_file_iff.mpr found)]
      exact if_neg elsewhere
  | leaveNode => exact stands
  | removeNode => exact absurd trivial keeps
  | changeDirectory => exact absurd trivial keeps
  | importText => exact absurd trivial keeps
  | reset => exact absurd trivial keeps
  | moveNode origin destination different =>
      refine absurd ?_ keeps
      show volume.resolve _ ≠ volume.resolve _
      rwa [origin, destination]

/-- A file lies on the current path after an operation exactly if one lay there or the operation
made one, and the operation did not put the path in order. -/
theorem obstructed_after_iff (sound : volume.Sound) (now : Instant) (operation : Operation) :
    (operation.after now volume).Obstructed ↔
      (volume.Obstructed ∨ operation.Displaces now volume) ∧ ¬ operation.Restores now volume := by
  have wellFormedAfter : (operation.after now volume).WellFormed fun _ => True :=
    sound.wellFormed.after (fun _ _ _ => trivial) trivial operation
  have rootAfter := wellFormedAfter.isRoot
  unfold after Volume.after at rootAfter ⊢
  rcases perform_cases now volume operation with ⟨fault, failed⟩ | ⟨changed, done, effect⟩
  · have fails : ¬ operation.Succeeds now volume := by
      intro ⟨changed, done⟩
      rw [failed] at done
      cases done
    rw [failed]
    simp only [Displaces, Restores, fails, false_and, or_false, not_false_eq_true, and_true]
  · rw [done] at rootAfter ⊢
    have succeeds : operation.Succeeds now volume := ⟨changed, done⟩
    by_cases settles : operation.Settles volume
    · have stands := effect.stands rootAfter.isDirectory settles
      exact iff_of_false stands.not_obstructed fun outcome => outcome.2 ⟨succeeds, settles⟩
    · rw [effect.obstructed_iff sound.known settles]
      simp only [Displaces, Restores, succeeds, settles, true_and, and_false, not_false_eq_true,
        and_true]

theorem sound_after (sound : volume.Sound) (now : Instant) (operation : Operation) :
    (operation.after now volume).Sound where
  wellFormed := sound.wellFormed.after (fun _ _ _ => trivial) trivial operation
  known := by
    have wellFormedAfter : (operation.after now volume).WellFormed fun _ => True :=
      sound.wellFormed.after (fun _ _ _ => trivial) trivial operation
    have rootAfter := wellFormedAfter.isRoot
    rcases after_cases now volume operation with same | effect
    · rw [same]
      exact sound.known
    · by_cases settles : operation.Settles volume
      · exact Or.inl (effect.stands rootAfter.isDirectory settles)
      · rw [Classical.or_iff_not_imp_right]
        intro free
        rcases sound.known with stands | obstructed
        · exact effect.stands_of_keeps stands settles free
        · exact absurd ((effect.obstructed_iff sound.known settles).mpr (Or.inl obstructed)) free

/-! ### Operations in turn -/

theorem sound_run (sound : volume.Sound) (performed : List (Instant × Operation)) :
    (run performed volume).Sound :=
  run_keeps Volume.Sound (fun step _ _ soundBefore => sound_after soundBefore step.1 step.2) sound

/-- A file lies on the current path after operations exactly if one lay there and none of them put
the path in order, or one of them made one and none after it put the path in order. -/
theorem obstructed_run_iff (sound : volume.Sound) (performed : List (Instant × Operation)) :
    (run performed volume).Obstructed ↔
      (volume.Obstructed ∧ Unrestored performed volume) ∨ Displaced performed volume := by
  -- One operation is settled by `obstructed_after_iff`, for which the volume has to stay sound.
  induction performed generalizing volume with
  | nil => simp [Unrestored, Displaced]
  | cons step rest ih =>
      obtain ⟨now, operation⟩ := step
      rw [run_cons, ih (sound_after sound now operation), obstructed_after_iff sound]
      simp only [Unrestored, Displaced]
      constructor
      · rintro (⟨⟨obstructed | displaces, unrestored⟩, later⟩ | displaced)
        · exact Or.inl ⟨obstructed, unrestored, later⟩
        · exact Or.inr (Or.inl ⟨displaces, later⟩)
        · exact Or.inr (Or.inr displaced)
      · rintro (⟨obstructed, unrestored, later⟩ | ⟨displaces, later⟩ | displaced)
        · exact Or.inl ⟨⟨Or.inl obstructed, unrestored⟩, later⟩
        · exact Or.inl ⟨⟨Or.inr displaces, displaces.not_restores⟩, later⟩
        · exact Or.inr displaced

end Operation

/-! ### Sessions -/

namespace Event

/-- In every state of a session the current path consists of names and is spelled in the normal way,
and it leads to a directory exactly if no file made on it still displaces it. Which operations the
events of the session are taken to amount to makes no difference. -/
theorem stands_run_iff (opened : Instant) (store : Store) (storageKey home : String)
    (events : List Event) :
    let start := Volume.load opened store storageKey home
    let final := run events start
    final.current.IsNormal ∧
      Path.normalize (Path.spell final.current) = Path.spell final.current ∧
      (∃ performed, Performs events start performed) ∧
      ∀ performed, Performs events start performed →
        (final.Stands ↔ ¬ Operation.Displaced performed start) := by
  intro start final
  have sound : start.Sound := Volume.sound_load opened store storageKey home
  have follows : ∀ performed, Performs events start performed →
      final = Operation.run performed start := fun performed performs => performs.run_eq
  obtain ⟨some, performsSome⟩ := exists_performs events start
  have normal : final.current.IsNormal := by
    rw [follows some performsSome]
    exact (Operation.sound_run sound some).wellFormed.current
  refine ⟨normal, Path.normalize_spell normal, ⟨some, performsSome⟩, ?_⟩
  intro performed performs
  rw [follows performed performs, (Operation.sound_run sound performed).stands_iff,
    Operation.obstructed_run_iff sound]
  simp only [(Volume.stands_load opened store storageKey home).not_obstructed, false_and,
    false_or, start]

/-- Redirecting output to the current directory leaves the session in a file. -/
theorem not_forall_stands_run : ¬ ∀ (opened : Instant) (store : Store) (storageKey home : String)
    (events : List Event), (run events (Volume.load opened store storageKey home)).Stands := by
  intro always
  have stands := always ⟨0, 0⟩ (.memory []) "fs" "/home/user"
    [.submit ⟨0, 0⟩ ⟨"user", "linux", ⟨0, 0⟩⟩ {} "cd /tmp",
      .submit ⟨0, 0⟩ ⟨"user", "linux", ⟨0, 0⟩⟩ {} "echo x > /tmp"]
  revert stands
  unfold Volume.Stands
  decide +kernel

end Event

end TreeShell

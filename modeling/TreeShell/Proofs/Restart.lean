import TreeShell.Proofs.CurrentPath
import TreeShell.Proofs.Snapshots

/-!
# Opening a store again

Everything that changes a volume saves it. So a volume that is opened again over its store is the
volume with its current path cut back to a directory, unless some node lies more than 62 levels
below the root: such a tree is saved like any other, but it cannot be read back, and the volume
starts again with the initial tree.
-/

namespace TreeShell

/-! ### Stores -/

namespace Store

variable {key : String} {text : KeptText} {store changed : Store}

/-- A store takes every text that is put under a key. -/
def Accepts (key : String) (store : Store) : Prop :=
  ∀ text, ∃ changed, set key text store = .ok () changed

/-- A folder takes texts if the key makes file names that it does not refuse. -/
theorem accepts_folder_iff {kept : Folder} : (folder kept).Accepts key ↔
    isFileKey key = true ∧ temporaryName key ∉ kept.refused ∧ fileName key ∉ kept.refused := by
  constructor
  · intro accepts
    obtain ⟨changed, done⟩ := accepts (Thunk.pure "")
    simp only [set, Folder.replace] at done
    split at done
    next isKey =>
      split at done
      next => cases done
      next temporaryFree =>
        split at done
        next => cases done
        next nameFree => exact ⟨isKey, temporaryFree, nameFree⟩
    next => cases done
  · rintro ⟨isKey, temporaryFree, nameFree⟩ text
    simp [set, Folder.replace, isKey, temporaryFree, nameFree, inFolder]

/-- A text that was put is kept, and others can be put after it. -/
theorem Accepts.set (accepts : store.Accepts key) (text : KeptText) :
    (store.after (Store.set key text)).get key = .ok (some text.get) ∧
      (store.after (Store.set key text)).Accepts key := by
  cases store with
  | memory texts => exact ⟨by simp [after, Store.set, get], fun later => ⟨_, rfl⟩⟩
  | folder kept =>
      obtain ⟨isKey, temporaryFree, nameFree⟩ := accepts_folder_iff.mp accepts
      simp only [after, Store.set, Folder.replace, isKey, temporaryFree, nameFree, if_true,
        if_false, inFolder, accepts_folder_iff, get, Folder.read]
      simp
  | inaccessible =>
      obtain ⟨changed, done⟩ := accepts text
      cases done

theorem Accepts.remove (accepts : store.Accepts key) :
    (store.after (Store.remove key)).Accepts key := by
  cases store with
  | memory texts => exact fun later => ⟨_, rfl⟩
  | folder kept =>
      obtain ⟨isKey, temporaryFree, nameFree⟩ := accepts_folder_iff.mp accepts
      cases isThere : kept.isThere with
      | false =>
          have same : (folder kept).after (Store.remove key) = folder kept := by
            simp [after, Store.remove, Folder.erase, isKey, isThere, inFolder]
          rwa [same]
      | true =>
          have erased : (folder kept).after (Store.remove key) =
              folder { kept with files := Entries.remove (fileName key) kept.files } := by
            simp [after, Store.remove, Folder.erase, isKey, isThere, nameFree, inFolder]
          rw [erased]
          exact accepts_folder_iff.mpr ⟨isKey, temporaryFree, nameFree⟩
  | inaccessible =>
      obtain ⟨changed, done⟩ := accepts (Thunk.pure "")
      cases done

end Store

namespace Volume

variable {now later : Instant} {volume : Volume}

/-! ### Saved volumes -/

/-- The store holds a snapshot of the volume as it is. -/
def Saved (volume : Volume) : Prop :=
  ∃ taken : Instant, taken.IsValid ∧ volume.store.get volume.storageKey =
    .ok (some (snapshotText taken volume.root volume.current).get)

/-- The store of a volume takes its snapshots. -/
def Keeps (volume : Volume) : Prop :=
  volume.store.Accepts volume.storageKey

theorem Keeps.save (keeps : volume.Keeps) (valid : now.IsValid) :
    (volume.save now).Saved ∧ (volume.save now).Keeps := by
  obtain ⟨kept, accepts⟩ := keeps.set (snapshotText now volume.root volume.current)
  exact ⟨⟨now, valid, kept⟩, accepts⟩

theorem Keeps.seed (keeps : volume.Keeps) (valid : now.IsValid) :
    (seed now volume).Saved ∧ (seed now volume).Keeps := by
  have keepsTree : (repair { volume with
      root := seedTree now volume.home, current := volume.home }).Keeps := keeps
  exact keepsTree.save valid

/-- A volume is saved when it is opened, unless it is read from the store. -/
theorem keeps_load {store : Store} {storageKey : String} (accepts : store.Accepts storageKey)
    (valid : now.IsValid) (home : String) : (load now store storageKey home).Keeps ∧
      ((load now store storageKey home).Saved ∨
        (load now store storageKey home).store = store) := by
  have seeded : ∀ blank : Volume, blank.Keeps → (Volume.seed now blank).Keeps ∧
      ((Volume.seed now blank).Saved ∨ (Volume.seed now blank).store = store) :=
    fun blank keeps => ⟨(keeps.seed valid).2, Or.inl (keeps.seed valid).1⟩
  unfold load
  dsimp only
  split
  next =>
    split
    next => exact ⟨accepts, Or.inr rfl⟩
    next => exact seeded _ accepts
  next => exact seeded _ accepts

/-- Opening a store again gives the saved volume with its current path cut back, or the initial tree
if the saved one is too deep. -/
theorem Saved.load_eq (saved : volume.Saved) (wellFormed : volume.WellFormed Instant.IsValid)
    (later : Instant) {home : String} (sameHome : Path.follow [] home = volume.home) :
    load later volume.store volume.storageKey home =
      if volume.root.height ≤ 62 then volume.repair else seed later volume := by
  obtain ⟨taken, valid, kept⟩ := saved
  have isRead : ∀ snapshot,
      Snapshot.read later (snapshotText taken volume.root volume.current).get = .ok snapshot ↔
        volume.root.height ≤ 62 ∧ snapshot =
          ⟨volume.root, Path.spell volume.current, some taken, some Snapshot.formatVersion⟩ :=
    fun snapshot => Snapshot.read_written_eq_ok_iff Json.Layout.blank_compact
      wellFormed.isRoot.wellFormed wellFormed.isRoot.isDirectory valid
  unfold load
  rw [kept, sameHome]
  dsimp only
  cases result : Snapshot.read later (snapshotText taken volume.root volume.current).get with
  | error fault =>
      have deep : ¬ volume.root.height ≤ 62 := by
        intro low
        have readBack := (isRead _).mpr ⟨low, rfl⟩
        rw [result] at readBack
        cases readBack
      rw [if_neg deep]
      rfl
  | ok snapshot =>
      obtain ⟨low, rfl⟩ := (isRead snapshot).mp result
      rw [if_pos low]
      exact install_spell wellFormed.isRoot wellFormed.current _ _ _

/-! ### Operations in turn -/

/-- Every operation that changes a volume saves it. -/
theorem Keeps.effect (keeps : volume.Keeps) (valid : now.IsValid) {operation : Operation}
    {changed : Volume} (effect : operation.Effect now volume changed) :
    changed.Keeps ∧ (changed.Saved ∨ changed = volume) := by
  rcases effect.saves with ⟨-, unchanged⟩ | ⟨-, unsaved, rfl, sameKey, sameStore⟩
  · rw [unchanged]
    exact ⟨keeps, Or.inr rfl⟩
  · have unsavedKeeps : unsaved.Keeps := by
      unfold Volume.Keeps
      rw [sameKey]
      rcases sameStore with same | dropped
      · rwa [same]
      · rw [dropped]
        exact Store.Accepts.remove keeps
    exact ⟨(unsavedKeeps.save valid).2, Or.inl (unsavedKeeps.save valid).1⟩

/-- After operations a volume is saved, or nothing has changed since it was opened. -/
theorem Keeps.run (start : Volume) {performed : List (Instant × Operation)} (keeps : volume.Keeps)
    (timely : ∀ step ∈ performed, step.1.IsValid)
    (known : volume.Saved ∨ volume = start) : (Operation.run performed volume).Keeps ∧
      ((Operation.run performed volume).Saved ∨ Operation.run performed volume = start) := by
  -- What was read from the store need not be saved as it is, so the volume at the start is carried
  -- along until the first operation that saves.
  induction performed generalizing volume with
  | nil => exact ⟨keeps, known⟩
  | cons step rest ih =>
      obtain ⟨now, operation⟩ := step
      have valid : now.IsValid := timely _ List.mem_cons_self
      have later : ∀ step ∈ rest, step.1.IsValid := fun other member =>
        timely other (List.mem_cons_of_mem _ member)
      rcases Operation.after_cases now volume operation with same | effect
      · rw [Operation.run_cons, same]
        exact ih keeps later known
      · obtain ⟨keepsAfter, saved | same⟩ := keeps.effect valid effect
        · exact ih keepsAfter later (Or.inl saved)
        · rw [Operation.run_cons, same]
          exact ih keeps later known

/-! ### Opening again -/

/-- A volume that is opened again over its store shows the same tree and the same current path. -/
def Reopens (later : Instant) (home : String) (volume : Volume) : Prop :=
  let again := load later volume.store volume.storageKey home
  again.root = volume.root ∧ again.current = volume.current

/-- Volumes whose tree can be read back and whose current path leads to a directory. -/
structure Restorable (volume : Volume) : Prop where
  shallow : ∀ path found, volume.root.find? path = some found → path.length ≤ 62
  stands : volume.Stands

/-- Volumes whose tree cannot be read back but is the initial one of a time, in which they stand
where a session starts. -/
structure Initial (later : Instant) (volume : Volume) : Prop where
  deep : ¬ ∀ path found, volume.root.find? path = some found → path.length ≤ 62
  root : volume.root = seedTree later volume.home
  current : volume.current = surviving volume.root volume.home

section

variable (saved : volume.Saved) (wellFormed : volume.WellFormed Instant.IsValid)
  {home : String} (sameHome : Path.follow [] home = volume.home)

include saved wellFormed sameHome

/-- A saved volume that can be restored is restored as a whole. -/
theorem Saved.load_eq_self (restorable : volume.Restorable) (later : Instant) :
    load later volume.store volume.storageKey home = volume := by
  have low := (Node.height_le_iff wellFormed.isRoot.wellFormed).mpr restorable.shallow
  have sameCurrent := (surviving_eq_self_iff wellFormed.isRoot.isDirectory).mpr restorable.stands
  rw [saved.load_eq wellFormed later sameHome, if_pos low, repair, sameCurrent]

/-- A saved volume shows the same when it is opened again exactly if it can be restored, or is what
it is replaced by. -/
theorem Saved.reopens_iff (later : Instant) :
    volume.Reopens later home ↔ volume.Restorable ∨ volume.Initial later := by
  have lowIff : volume.root.height ≤ 62 ↔
      ∀ path found, volume.root.find? path = some found → path.length ≤ 62 :=
    Node.height_le_iff wellFormed.isRoot.wellFormed
  rw [Reopens, saved.load_eq wellFormed later sameHome]
  by_cases low : volume.root.height ≤ 62
  · rw [if_pos low]
    constructor
    · intro ⟨_, sameCurrent⟩
      have stands := (surviving_eq_self_iff wellFormed.isRoot.isDirectory).mp sameCurrent
      exact Or.inl ⟨lowIff.mp low, stands⟩
    · rintro (restorable | initial)
      · exact ⟨rfl, (surviving_eq_self_iff wellFormed.isRoot.isDirectory).mpr restorable.stands⟩
      · exact absurd (lowIff.mp low) initial.deep
  · rw [if_neg low]
    constructor
    · intro ⟨sameRoot, sameCurrent⟩
      refine Or.inr ⟨fun shallow => low (lowIff.mpr shallow), sameRoot.symm, ?_⟩
      rw [← sameCurrent, ← sameRoot]
      rfl
    · rintro (restorable | initial)
      · exact absurd (lowIff.mpr restorable.shallow) low
      · refine ⟨initial.root.symm, ?_⟩
        rw [initial.current, initial.root]
        rfl

end

end Volume

namespace Event

/-- The volume after events, each in a session of its own that is opened when the event happens. The
events bring the history and the environment that their lines are submitted with. -/
def runApart (home : String) (events : List Event) (volume : Volume) : Volume :=
  events.foldl (fun volume event =>
    event.after (Volume.load event.now volume.store volume.storageKey home)) volume

variable {opened : Instant} {store : Store} {storageKey : String}

/-- After events a volume is saved, or nothing has changed since it was read from the store. -/
theorem saved_run (openedValid : opened.IsValid) (accepts : store.Accepts storageKey)
    (home : String) {events : List Event} (timely : ∀ event ∈ events, event.now.IsValid) :
    let start := Volume.load opened store storageKey home
    (run events start).Saved ∨ run events start = start ∧ start.store = store := by
  intro start
  obtain ⟨keeps, known⟩ := Volume.keeps_load accepts openedValid home
  obtain ⟨performed, performs⟩ := exists_performs events start
  obtain ⟨-, saved | same⟩ := keeps.run start (performs.timely timely) (Or.inr rfl)
  · exact Or.inl (performs.run_eq ▸ saved)
  · rw [← performs.run_eq] at same
    rcases known with saved | sameStore
    · exact Or.inl (same.symm ▸ saved)
    · exact Or.inr ⟨same, sameStore⟩

/-- Opening the store again before every event makes no difference as long as what is saved can be
restored. -/
theorem runApart_eq_run {home : String} {events : List Event} {volume : Volume}
    (restored : ∀ front event rest, front ++ event :: rest = events →
      Volume.load event.now (run front volume).store (run front volume).storageKey home =
        run front volume) : runApart home events volume = run events volume := by
  induction events generalizing volume with
  | nil => rfl
  | cons event rest ih =>
      have here := restored [] event rest rfl
      rw [run_nil] at here
      rw [runApart, List.foldl_cons, here, run_cons]
      refine ih ?_
      intro front later others same
      exact restored (event :: front) later others (congrArg (List.cons event) same)

/-- At times that a clock can show the volumes of a session stay well-formed. -/
theorem wellFormed_session (openedValid : opened.IsValid) (store : Store) (storageKey home : String)
    {events : List Event} (timely : ∀ event ∈ events, event.now.IsValid) :
    (run events (Volume.load opened store storageKey home)).WellFormed Instant.IsValid :=
  wellFormed_run (fun _ _ => Instant.isValid_of_read)
    (Volume.wellFormed_load (fun _ _ => Instant.isValid_of_read) openedValid store storageKey home)
    timely

/-- A volume that a session has come to shows the same tree and the same current path when its store
is opened again exactly if everything lies at most 62 levels deep and the current path leads to a
directory, or if the volume is what it is replaced by otherwise; as long as nothing has been saved,
exactly if the store, opened later at first, had shown the same. And if every volume on the way can
be restored, a session for every event comes to the same volume as one for all. -/
theorem reopens_run_iff (openedValid : opened.IsValid) (accepts : store.Accepts storageKey)
    (home : String) {events : List Event} (timely : ∀ event ∈ events, event.now.IsValid) :
    let start := Volume.load opened store storageKey home
    let final := run events start
    (∀ later, final.Reopens later home ↔
      (final.Saved → final.Restorable ∨ final.Initial later) ∧
      (¬ final.Saved → (Volume.load later store storageKey home).root = start.root ∧
        (Volume.load later store storageKey home).current = start.current)) ∧
    ((∀ front event rest, front ++ event :: rest = events →
      (run front start).Saved ∧ (run front start).Restorable) →
        runApart home events start = final) := by
  intro start final
  have wellFormed : ∀ {passed : List Event}, (∀ event ∈ passed, event.now.IsValid) →
      (run passed start).WellFormed Instant.IsValid := fun timely =>
    wellFormed_session openedValid store storageKey home timely
  have sameHome : ∀ passed : List Event, Path.follow [] home = (run passed start).home :=
    fun passed => (run_home_storageKey opened store storageKey home passed).1.symm
  constructor
  · intro later
    by_cases saved : final.Saved
    · have reopens := saved.reopens_iff (wellFormed timely) (sameHome events) later
      simp only [saved, true_implies, not_true_eq_false, false_implies, and_true]
      exact reopens
    · obtain ⟨same, sameStore⟩ := (saved_run openedValid accepts home timely).resolve_left saved
      have sameKey : start.storageKey = storageKey :=
        (run_home_storageKey opened store storageKey home []).2
      have unchanged : final = start := same
      simp only [saved, false_implies, true_and, not_false_eq_true, true_implies]
      rw [Volume.Reopens, unchanged, sameStore, sameKey]
  · intro restorable
    refine runApart_eq_run ?_
    intro front event rest same
    obtain ⟨saved, isRestorable⟩ := restorable front event rest same
    have frontTimely : ∀ event ∈ front, event.now.IsValid := fun event member =>
      timely event (same ▸ List.mem_append_left _ member)
    exact saved.load_eq_self (wellFormed frontTimely) (sameHome front) isRestorable event.now

/-- A directory that was made and the current path in it survive a restart. -/
theorem reopens_run_kept :
    let events : List Event :=
      [.submit ⟨0, 0⟩ ⟨"user", "linux", ⟨0, 0⟩⟩ {} "mkdir /tmp/kept",
        .submit ⟨60, 0⟩ ⟨"user", "linux", ⟨0, 0⟩⟩ {} "cd /tmp"]
    ∀ later, (run events (.load ⟨0, 0⟩ (.memory []) "snap" "/home/user")).Reopens later
      "/home/user" := by
  intro events later
  have valid : (⟨0, 0⟩ : Instant).IsValid := by decide
  have accepts : (Store.memory []).Accepts "snap" := fun _ => ⟨_, rfl⟩
  have timely : ∀ event ∈ events, event.now.IsValid := by decide
  let start : Volume := .load ⟨0, 0⟩ (.memory []) "snap" "/home/user"
  have moved : run events start ≠ start := by
    intro same
    have differs : (run events start).current ≠ start.current := by decide +kernel
    exact differs (congrArg Volume.current same)
  have saved : (run events start).Saved :=
    (saved_run valid accepts "/home/user" timely).resolve_right fun unsaved => moved unsaved.1
  have wellFormed : (run events start).WellFormed Instant.IsValid :=
    wellFormed_session valid _ _ _ timely
  have low : (run events start).root.height ≤ 62 := by decide +kernel
  have stands : (run events start).Stands := by
    unfold Volume.Stands
    decide +kernel
  have restorable : (run events start).Restorable :=
    ⟨(Node.height_le_iff wellFormed.isRoot.wellFormed).mp low, stands⟩
  exact ((reopens_run_iff valid accepts "/home/user" timely).1 later).mpr
    ⟨fun _ => Or.inl restorable, fun unsaved => absurd saved unsaved⟩

/-- Directories made in each other from the home down, the last of them 63 levels below the root. -/
def nested : List Event :=
  (List.replicate 61 [.operate ⟨0, 0⟩ (.createDirectory "d"),
    .operate ⟨0, 0⟩ (.changeDirectory "d")]).flatten

/-- What is made in the last of them cannot be read back. -/
theorem not_forall_reopens_run : ¬ ∀ (opened later : Instant) (store : Store)
    (storageKey home : String) (events : List Event), opened.IsValid → store.Accepts storageKey →
      (∀ event ∈ events, event.now.IsValid) →
      (run events (Volume.load opened store storageKey home)).Reopens later home := by
  intro always
  have valid : (⟨0, 0⟩ : Instant).IsValid := by decide
  have accepts : (Store.memory []).Accepts "fs" := fun _ => ⟨_, rfl⟩
  have timely : ∀ event ∈ nested, event.now.IsValid := by decide +kernel
  let start : Volume := .load ⟨0, 0⟩ (.memory []) "fs" "/home/user"
  have deep : ¬ (run nested start).root.height ≤ 62 := by decide +kernel
  have changed : run nested start ≠ start := by
    intro same
    have low : start.root.height ≤ 62 := by decide +kernel
    rw [← same] at low
    exact deep low
  have saved : (run nested start).Saved :=
    (saved_run valid accepts "/home/user" timely).resolve_right fun unsaved => changed unsaved.1
  have wellFormed : (run nested start).WellFormed Instant.IsValid :=
    wellFormed_session valid _ _ _ timely
  have sameHome := (run_home_storageKey ⟨0, 0⟩ (.memory []) "fs" "/home/user" nested).1.symm
  have reopens : (run nested start).Reopens ⟨0, 0⟩ "/home/user" :=
    always ⟨0, 0⟩ ⟨0, 0⟩ (.memory []) "fs" "/home/user" nested valid accepts timely
  rcases (saved.reopens_iff wellFormed sameHome ⟨0, 0⟩).mp reopens with restorable | initial
  · exact deep ((Node.height_le_iff wellFormed.isRoot.wellFormed).mpr restorable.shallow)
  · have shallow : (Volume.seedTree ⟨0, 0⟩ ["home", "user"]).height ≤ 62 := by decide +kernel
    have isSeed := initial.root
    rw [← sameHome] at isSeed
    exact deep (isSeed ▸ shallow)

end Event

end TreeShell

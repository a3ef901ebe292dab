import TreeShell.Proofs.OrderedEntries
import TreeShell.Store

/-!
# Stores in folders

A folder in which every file can be read and written answers calls as a memory store does, as long
as they come with keys that make file names, and it is not touched by the others. A text that is on
its way into the folder is in a file whose name ends in `.tmp`. The files of keys end in `.json`,
so it takes the place of none of them, whatever the keys are.
-/

namespace TreeShell

/-! ### Names of files -/

namespace Store

theorem fileName_inj {key other : String} : fileName key = fileName other ↔ key = other := by
  simp [fileName, ← String.toList_inj]

theorem exists_withExtension_eq (name extension : String) :
    ∃ stem, withExtension name extension = stem ++ "." ++ extension := by
  unfold withExtension
  split <;> exact ⟨_, rfl⟩

theorem temporaryName_ne_fileName (key other : String) : temporaryName key ≠ fileName other := by
  obtain ⟨stem, isName⟩ := exists_withExtension_eq (fileName key) "json.tmp"
  intro same
  have lastCharacters := congrArg (fun name : String => name.toList.getLast?) same
  rw [temporaryName, isName] at lastCharacters
  simp [fileName] at lastCharacters

end Store

/-! ### Files and texts -/

namespace Folder

open Store (fileName temporaryName isFileKey)

/-- The files of a folder are the texts under keys that make file names, and every file can be read
and written. -/
structure Mirrors (texts : Entries KeptText) (kept : Folder) : Prop where
  accessible : kept.refused = []
  orderedTexts : Entries.Ordered texts
  orderedFiles : Entries.Ordered kept.files
  filed : ∀ key, isFileKey key = true →
    Entries.get? (fileName key) kept.files = Entries.get? key texts
  named : ∀ file ∈ kept.files, ∃ key, isFileKey key = true ∧ file.1 = fileName key
  emptyBefore : kept.isThere = false → kept.files = []

variable {key : String} {text : KeptText} {texts : Entries KeptText} {kept : Folder}

theorem mirrors_empty (isThere : Bool) : ({ isThere } : Folder).Mirrors [] where
  accessible := rfl
  orderedTexts := Entries.ordered_nil
  orderedFiles := Entries.ordered_nil
  filed := fun _ _ => rfl
  named := fun _ member => absurd member List.not_mem_nil
  emptyBefore := fun _ => rfl

/-- Texts under other keys make no difference to the files. -/
theorem Mirrors.of_sameFiled (mirrors : kept.Mirrors texts) {changed : Entries KeptText}
    (ordered : Entries.Ordered changed)
    (same : ∀ key, isFileKey key = true → Entries.get? key changed = Entries.get? key texts) :
    kept.Mirrors changed :=
  { mirrors with
    orderedTexts := ordered
    filed := fun key isKey => (mirrors.filed key isKey).trans (same key isKey).symm }

theorem Mirrors.read_eq (mirrors : kept.Mirrors texts) (isKey : isFileKey key = true) :
    kept.read (fileName key) = .ok ((Entries.get? key texts).map Thunk.get) := by
  rw [← mirrors.filed key isKey, read, mirrors.accessible]
  cases isThere : kept.isThere with
  | false => simp [mirrors.emptyBefore isThere, Entries.get?]
  | true => simp

theorem Mirrors.replace (mirrors : kept.Mirrors texts) (isKey : isFileKey key = true)
    (text : KeptText) : ∃ changed,
      kept.replace (temporaryName key) (fileName key) text = .ok () changed ∧
        changed.Mirrors (Entries.put key text texts) := by
  let written := Entries.put (temporaryName key) text kept.files
  let cleared := Entries.remove (temporaryName key) written
  have orderedWritten : Entries.Ordered written := Entries.ordered_put _ _ mirrors.orderedFiles
  have orderedCleared : Entries.Ordered cleared := Entries.ordered_remove _ orderedWritten
  refine ⟨{ kept with files := Entries.put (fileName key) text cleared, isThere := true }, ?_, ?_⟩
  · simp [Folder.replace, mirrors.accessible, cleared, written]
  · refine
      { accessible := mirrors.accessible
        orderedTexts := Entries.ordered_put _ _ mirrors.orderedTexts
        orderedFiles := Entries.ordered_put _ _ orderedCleared
        filed := ?_, named := ?_, emptyBefore := fun absent => by cases absent }
    · intro other isOther
      have notTemporary : fileName other ≠ temporaryName key :=
        (Store.temporaryName_ne_fileName key other).symm
      dsimp only
      rw [Entries.get?_put, Entries.get?_put, Entries.get?_remove_of_ne notTemporary,
        Entries.get?_put_of_ne notTemporary, mirrors.filed other isOther]
      simp only [Store.fileName_inj]
    · intro file member
      rcases Entries.mem_put member with rfl | old
      · exact ⟨key, isKey, rfl⟩
      · rcases Entries.mem_put ((Entries.remove_sublist _ _).subset old) with rfl | older
        · have gone := Entries.get?_remove_self (temporaryName key) orderedWritten
          cases gone.symm.trans (Entries.get?_of_mem orderedCleared old)
        · exact mirrors.named file older

theorem Mirrors.erase (mirrors : kept.Mirrors texts) (key : String) :
    ∃ changed, kept.erase (fileName key) = .ok () changed ∧
      changed.Mirrors (Entries.remove key texts) := by
  have orderedTexts : Entries.Ordered (Entries.remove key texts) :=
    Entries.ordered_remove _ mirrors.orderedTexts
  cases isThere : kept.isThere with
  | false =>
      refine ⟨kept, by simp [Folder.erase, isThere], mirrors.of_sameFiled orderedTexts ?_⟩
      intro other isOther
      have noText : Entries.get? other texts = none := by
        rw [← mirrors.filed other isOther, mirrors.emptyBefore isThere, Entries.get?]
      by_cases same : other = key
      · rw [same, Entries.get?_remove_self key mirrors.orderedTexts, ← same, noText]
      · rw [Entries.get?_remove_of_ne same]
  | true =>
      refine ⟨{ kept with files := Entries.remove (fileName key) kept.files }, ?_, ?_⟩
      · simp [Folder.erase, isThere, mirrors.accessible]
      · refine
          { accessible := mirrors.accessible
            orderedTexts
            orderedFiles := Entries.ordered_remove _ mirrors.orderedFiles
            filed := ?_
            named := fun file member => mirrors.named file
              ((Entries.remove_sublist _ _).subset member)
            emptyBefore := fun absent => by cases isThere.symm.trans absent }
        intro other isOther
        dsimp only
        by_cases same : other = key
        · rw [same, Entries.get?_remove_self _ mirrors.orderedFiles,
            Entries.get?_remove_self _ mirrors.orderedTexts]
        · rw [Entries.get?_remove_of_ne (mt Store.fileName_inj.mp same),
            Entries.get?_remove_of_ne same, mirrors.filed other isOther]

end Folder

/-! ### Calls -/

namespace Store

/-- A call of a store as data. -/
inductive Call where
  | get (key : String)
  | set (key : String) (text : KeptText)
  | remove (key : String)

namespace Call

def key : Call → String
  | get key => key
  | set key _ => key
  | remove key => key

/-- The answer to a change, and the store after it. -/
def answered : EStateM.Result StoreFault Store Unit → Except StoreFault (Option String) × Store
  | .ok () changed => (.ok none, changed)
  | .error fault changed => (.error fault, changed)

/-- The answer to a call, with the text if it asks for one, and the store after it. -/
def perform : Call → Store → Except StoreFault (Option String) × Store
  | get key, store => (store.get key, store)
  | set key text, store => answered (Store.set key text store)
  | remove key, store => answered (Store.remove key store)

/-- The store after calls in turn. -/
def run (calls : List Call) (store : Store) : Store :=
  calls.foldl (fun store call => (call.perform store).2) store

variable {texts : Entries KeptText} {kept : Folder} {call : Call}

theorem perform_folder_of_not_isFileKey (noKey : isFileKey call.key = false) (kept : Folder) :
    call.perform (.folder kept) = (.error (.invalidKey call.key), .folder kept) := by
  cases call with
  | get key =>
      have noKey : isFileKey key = false := noKey
      simp [perform, Store.get, noKey, Call.key]
  | set key text =>
      have noKey : isFileKey key = false := noKey
      simp [perform, Store.set, noKey, Call.key, answered]
  | remove key =>
      have noKey : isFileKey key = false := noKey
      simp [perform, Store.remove, noKey, Call.key, answered]

theorem exists_perform_memory (call : Call) (ordered : Entries.Ordered texts) :
    ∃ changed, (call.perform (.memory texts)).2 = .memory changed ∧ Entries.Ordered changed ∧
      ∀ other, other ≠ call.key → Entries.get? other changed = Entries.get? other texts := by
  cases call with
  | get key => exact ⟨texts, rfl, ordered, fun _ _ => rfl⟩
  | set key text =>
      exact ⟨_, rfl, Entries.ordered_put _ _ ordered,
        fun _ different => Entries.get?_put_of_ne different _ _⟩
  | remove key =>
      exact ⟨_, rfl, Entries.ordered_remove _ ordered,
        fun _ different => Entries.get?_remove_of_ne different _⟩

/-- A store that is a folder with the texts of a memory store in its files. -/
def Mirrored (texts kept : Store) : Prop :=
  ∃ entries files, texts = .memory entries ∧ kept = .folder files ∧ files.Mirrors entries

variable {memory kept : Store}

/-- A call with a key that makes a file name has the same answer from both. -/
theorem Mirrored.perform (mirrored : Mirrored memory kept) (isKey : isFileKey call.key = true) :
    (call.perform kept).1 = (call.perform memory).1 ∧
      Mirrored (call.perform memory).2 (call.perform kept).2 := by
  obtain ⟨texts, files, rfl, rfl, mirrors⟩ := mirrored
  cases call with
  | get key =>
      have isKey : isFileKey key = true := isKey
      have same : (Store.folder files).get key = (Store.memory texts).get key := by
        simp only [Store.get, isKey, if_true, mirrors.read_eq isKey]
      exact ⟨same, texts, files, rfl, rfl, mirrors⟩
  | set key text =>
      have isKey : isFileKey key = true := isKey
      obtain ⟨changed, done, changedMirrors⟩ := mirrors.replace isKey text
      simp only [Call.perform, Store.set, isKey, if_true, done, inFolder, answered]
      exact ⟨trivial, _, changed, rfl, rfl, changedMirrors⟩
  | remove key =>
      have isKey : isFileKey key = true := isKey
      obtain ⟨changed, done, changedMirrors⟩ := mirrors.erase key
      simp only [Call.perform, Store.remove, isKey, if_true, done, inFolder, answered]
      exact ⟨trivial, _, changed, rfl, rfl, changedMirrors⟩

theorem Mirrored.after (mirrored : Mirrored memory kept) (call : Call) :
    Mirrored (call.perform memory).2 (call.perform kept).2 := by
  cases isKey : isFileKey call.key with
  | true => exact (mirrored.perform isKey).2
  | false =>
      -- The memory store takes the text, but no file could be its file.
      obtain ⟨texts, files, rfl, rfl, mirrors⟩ := mirrored
      obtain ⟨changed, isChanged, ordered, others⟩ :=
        call.exists_perform_memory mirrors.orderedTexts
      refine ⟨changed, files, isChanged, ?_, mirrors.of_sameFiled ordered ?_⟩
      · rw [perform_folder_of_not_isFileKey isKey]
      · intro other isOther
        refine others other ?_
        rintro rfl
        cases isKey.symm.trans isOther

theorem mirrored_run (mirrored : Mirrored memory kept) (calls : List Call) :
    Mirrored (run calls memory) (run calls kept) := by
  induction calls generalizing memory kept with
  | nil => exact mirrored
  | cons call rest ih => exact ih (mirrored.after call)

/-- After any calls a folder that was empty at first, or not there, answers the next call as a
memory store after the same calls if the key makes a file name, and otherwise refuses the key and
stays as it is. Its files are the texts under such keys. While a text is put, it is written to a
file that is the file of no key. -/
theorem folder_answers_as_memory (isThere : Bool) (calls : List Call) (call : Call) :
    let memory := run calls (.memory [])
    let kept := run calls (.folder { isThere })
    (isFileKey call.key = true → (call.perform kept).1 = (call.perform memory).1) ∧
      (isFileKey call.key = false →
        call.perform kept = (.error (.invalidKey call.key), kept)) ∧
      Mirrored memory kept ∧ ∀ key other, temporaryName key ≠ fileName other := by
  intro memory kept
  have start : Mirrored (.memory []) (.folder { isThere }) :=
    ⟨[], { isThere }, rfl, rfl, Folder.mirrors_empty isThere⟩
  have mirrored : Mirrored memory kept := mirrored_run start calls
  refine ⟨fun isKey => (mirrored.perform isKey).1, ?_, mirrored, temporaryName_ne_fileName⟩
  intro noKey
  obtain ⟨_, files, -, isFolder, -⟩ := mirrored
  rw [isFolder]
  exact perform_folder_of_not_isFileKey noKey files

/-- Keys that look like the names of files or of temporary files are keys like any others. -/
theorem folder_answers_as_memory_dots :
    let calls := [set "a" (Thunk.pure "1"), set "a.json" (Thunk.pure "2"),
      set "a.json.tmp" (Thunk.pure "3"), set "a." (Thunk.pure "4"), set ".a" (Thunk.pure "5"),
      remove "a.json"]
    let memory := run calls (.memory [])
    let kept := run calls (.folder { isThere := false })
    isFileKey "a.json.tmp" = true ∧ isFileKey ".a" = false ∧
      kept.get "a.json.tmp" = memory.get "a.json.tmp" ∧ memory.get "a.json.tmp" = .ok (some "3") ∧
      kept.get "a.json" = memory.get "a.json" ∧
      kept.get ".a" = .error (.invalidKey ".a") ∧ memory.get ".a" = .ok (some "5") := by
  intro calls memory kept
  have isKey : isFileKey "a.json.tmp" = true := by decide
  have noKey : isFileKey ".a" = false := by decide
  have answered := folder_answers_as_memory false calls
  refine ⟨isKey, noKey, (answered (get "a.json.tmp")).1 isKey, rfl, ?_, ?_, rfl⟩
  · exact (answered (get "a.json")).1 (by decide)
  · exact congrArg Prod.fst ((answered (get ".a")).2.1 noKey)

end Call

end Store

end TreeShell

import TreeShell.Proofs.Refinement

/-!
# Copying a file

A copy is made in the place where it lands whatever is there, the directory above its own source
included, and what is there goes with everything below it. So a copy that succeeds keeps the files
of the tree exactly if none of them lies below the place where it lands.
-/

namespace TreeShell

namespace FlatMap

variable {map : FlatMap} {path : Path} {label : Label}

/-- Every file but the one at a path is still in its place with its text. -/
def KeepsFiles (except : Path) (before after : FlatMap) : Prop :=
  ∀ path, path ≠ except → ∀ attributes content, before path = some (.file attributes content) →
    ∃ attributes', after path = some (.file attributes' content)

/-- No file lies below a path. -/
def NoFileBelow (map : FlatMap) (path : Path) : Prop :=
  ∀ other, path <+: other → other ≠ path → ∀ attributes content,
    map other ≠ some (.file attributes content)

theorem keepsFiles_plant_iff :
    KeepsFiles path map (map.plant path label) ↔ map.NoFileBelow path := by
  constructor
  · intro keeps other below different attributes content isFile
    obtain ⟨attributes', isThere⟩ := keeps other different attributes content isFile
    rw [plant_below below different] at isThere
    cases isThere
  · intro bare other different attributes content isFile
    have outside : ¬ path <+: other := fun below =>
      bare other below different attributes content isFile
    exact ⟨attributes, by rw [plant_outside outside, isFile]⟩

/-- A file in whose place the same text is put is there as one of those that are kept. -/
theorem KeepsFiles.exists_file {before after : FlatMap} {other : Path} {attributes : Attributes}
    {content : String} (keeps : KeepsFiles path before after)
    (planted : ∃ attributes', after path = some (.file attributes' content))
    (isFile : before other = some (.file attributes content)) :
    ∃ attributes', after other = some (.file attributes' content) := by
  by_cases same : other = path
  · exact same ▸ planted
  · exact keeps other same attributes content isFile

end FlatMap

namespace Builtin

open FlatMap

variable {volume changed : Volume} {invocation : Invocation} {source destination : String}

/-- A copy is read first and then made. -/
theorem cp_eq (operands : invocation.operands = [source, destination]) :
    cp invocation volume =
      match volume.contentOf source with
      | .error fault => .error (.ofFileFault .cp fault) volume
      | .ok content =>
          let target := landing volume source destination
          match Volume.createFile invocation.now target content volume with
          | .ok () changed =>
              .ok (.text ("'" ++ source ++ "' copied to '" ++ target ++ "'")) changed
          | .error fault changed => .error (.ofFileFault .cp fault) changed := by
  simp only [cp, operands, bind, EStateM.bind, Action.observe, Volume.readFor]
  cases volume.contentOf source with
  | error fault => rfl
  | ok content =>
      have current : (get : Action Volume) volume = .ok volume volume := rfl
      simp only [current, Action.change]
      cases Volume.createFile invocation.now (landing volume source destination) content volume <;>
        rfl

theorem createFile_of_cp {output : Output} (operands : invocation.operands = [source, destination])
    (copied : cp invocation volume = .ok output changed) :
    ∃ attributes content,
      volume.root.flat (volume.resolve source) = some (.file attributes content) ∧
      Volume.createFile invocation.now (landing volume source destination) content volume =
        .ok () changed := by
  rw [cp_eq operands, Volume.contentOf_eq] at copied
  cases found : volume.root.flat (volume.resolve source) with
  | none => simp [found] at copied
  | some label =>
      cases label with
      | directory attributes => simp [found] at copied
      | file attributes content =>
          simp only [found] at copied
          refine ⟨attributes, content, rfl, ?_⟩
          split at copied
          next created =>
            cases copied
            exact created
          next => cases copied

theorem cp_ok_iff (operands : invocation.operands = [source, destination]) :
    let target := volume.resolve (landing volume source destination)
    (∃ output changed, cp invocation volume = .ok output changed) ↔
      (∃ attributes content,
        volume.root.flat (volume.resolve source) = some (.file attributes content)) ∧
      target ≠ [] ∧ volume.root.flat.HasDirectory target.dropLast := by
  intro target
  constructor
  · intro ⟨output, changed, copied⟩
    obtain ⟨attributes, content, isFile, created⟩ := createFile_of_cp operands copied
    have maps : volume.Maps (Volume.createFile invocation.now
        (landing volume source destination) content) _ _ :=
      Volume.maps_createFile _ _ _
    exact ⟨⟨attributes, content, isFile⟩, maps.ok_iff.mp ⟨changed, created⟩⟩
  · intro ⟨⟨attributes, content, isFile⟩, hasPlace⟩
    obtain ⟨changed, created⟩ := (Volume.maps_createFile invocation.now
      (landing volume source destination) content).ok_iff.mpr hasPlace
    rw [cp_eq operands, Volume.contentOf_eq, isFile]
    simp [created]

end Builtin

/-- In every state of a session a copy of two operands succeeds exactly if the source is a file and
there is a directory for it to land in. Then there is a file with its text in the place where it
lands, nothing changes but at and below that place, and the source and all other files are kept
exactly if no file lay below that place. -/
theorem Event.copy_run_iff (opened : Instant) (store : Store) (storageKey home : String)
    (events : List Event) (invocation : Invocation) {source destination : String}
    (operands : invocation.operands = [source, destination]) :
    let volume := run events (Volume.load opened store storageKey home)
    let before := volume.root.flat
    let origin := volume.resolve source
    let target := volume.resolve (Builtin.landing volume source destination)
    ((∃ output changed, Builtin.cp invocation volume = .ok output changed) ↔
      (∃ attributes content, before origin = some (.file attributes content)) ∧
        target ≠ [] ∧ before.HasDirectory target.dropLast) ∧
    ∀ output changed, Builtin.cp invocation volume = .ok output changed →
      ∃ attributes content, before origin = some (.file attributes content) ∧
        (∃ attributes', changed.root.flat target = some (.file attributes' content)) ∧
        (∀ path, ¬ target <+: path → changed.root.flat path = before path) ∧
        ((∃ attributes', changed.root.flat origin = some (.file attributes' content)) ∧
            before.KeepsFiles target changed.root.flat ↔
          before.NoFileBelow target) := by
  intro volume before origin target
  refine ⟨Builtin.cp_ok_iff operands, ?_⟩
  intro output changed copied
  obtain ⟨attributes, content, isFile, created⟩ := Builtin.createFile_of_cp operands copied
  have isPlanted : changed.root.flat = before.plant target
      (Node.newFile invocation.now (target.getLastD "") content).label :=
    (Volume.maps_createFile _ _ _).ok changed created
  have isThere : ∃ attributes', changed.root.flat target = some (.file attributes' content) :=
    ⟨_, by rw [isPlanted, FlatMap.plant_self]; rfl⟩
  refine ⟨attributes, content, isFile, isThere, ?_, ?_⟩
  · intro path outside
    rw [isPlanted, FlatMap.plant_outside outside]
  · rw [and_iff_right_of_imp fun keeps : before.KeepsFiles target changed.root.flat =>
      keeps.exists_file isThere isFile, isPlanted]
    exact FlatMap.keepsFiles_plant_iff

/-- A file copied into a directory, where nothing has its name. -/
theorem Event.copy_run_iff_hosts :
    let volume := Volume.load ⟨0, 0⟩ (.memory []) "fs" "/home/user"
    let invocation : Invocation :=
      { now := ⟨60, 0⟩, environment := ⟨"user", "linux", ⟨0, 0⟩⟩, history := []
        arguments := ["/etc/hosts", "/tmp/"], piped := none }
    let target := volume.resolve (Builtin.landing volume "/etc/hosts" "/tmp/")
    invocation.operands = ["/etc/hosts", "/tmp/"] ∧ target = ["tmp", "hosts"] ∧
      ∃ output changed attributes, Builtin.cp invocation volume = .ok output changed ∧
        changed.root.flat target = some (.file attributes Volume.hostsText) ∧
        volume.root.flat.KeepsFiles target changed.root.flat := by
  intro volume invocation target
  have operands : invocation.operands = ["/etc/hosts", "/tmp/"] := by decide +kernel
  have isTarget : target = ["tmp", "hosts"] := by decide +kernel
  have isSource : volume.root.flat (volume.resolve "/etc/hosts") =
      some (Node.newFile ⟨0, 0⟩ "hosts" Volume.hostsText).label := by decide +kernel
  have isFree : volume.root.find? target = none := by decide +kernel
  have bare : volume.root.flat.NoFileBelow target := by
    intro other below different attributes content isFile
    obtain ⟨rest, rfl⟩ := below
    rw [Node.flat_append_of_free isFree] at isFile
    cases isFile
  obtain ⟨succeeds, copies⟩ :=
    copy_run_iff ⟨0, 0⟩ (.memory []) "fs" "/home/user" [] invocation operands
  obtain ⟨output, changed, copied⟩ := succeeds.mpr
    ⟨⟨_, _, isSource⟩, by decide +kernel, FlatMap.hasDirectory_flat_iff.mpr (by decide +kernel)⟩
  obtain ⟨attributes, content, isFile, ⟨attributes', isThere⟩, -, keeps⟩ :=
    copies output changed copied
  cases isSource.symm.trans isFile
  exact ⟨operands, isTarget, output, changed, attributes', copied, isThere, (keeps.mpr bare).2⟩

/-- A file copied to the directory above the one it lies in, which has its name. -/
theorem Event.not_forall_copy_keepsFiles : ¬ ∀ (opened : Instant) (store : Store)
    (storageKey home : String) (events : List Event) (invocation : Invocation)
    (source destination : String), invocation.operands = [source, destination] →
    let volume := run events (Volume.load opened store storageKey home)
    let before := volume.root.flat
    let origin := volume.resolve source
    let target := volume.resolve (Builtin.landing volume source destination)
    ∀ output changed, Builtin.cp invocation volume = .ok output changed →
      ∃ attributes content, before origin = some (.file attributes content) ∧
        (∃ attributes', changed.root.flat origin = some (.file attributes' content)) ∧
        (∃ attributes', changed.root.flat target = some (.file attributes' content)) ∧
        before.KeepsFiles target changed.root.flat := by
  intro always
  let events : List Event :=
    [.operate ⟨0, 0⟩ (.createDirectory "/tmp/a"), .operate ⟨0, 0⟩ (.createFile "/tmp/a/a" "x"),
      .operate ⟨0, 0⟩ (.createFile "/tmp/a/other" "keep")]
  let invocation : Invocation :=
    { now := ⟨60, 0⟩, environment := ⟨"user", "linux", ⟨0, 0⟩⟩, history := []
      arguments := ["/tmp/a/a", "/tmp"], piped := none }
  let volume := run events (Volume.load ⟨0, 0⟩ (.memory []) "fs" "/home/user")
  have operands : invocation.operands = ["/tmp/a/a", "/tmp"] := by decide +kernel
  have isSource : volume.root.flat (volume.resolve "/tmp/a/a") =
      some (Node.newFile ⟨0, 0⟩ "a" "x").label := by decide +kernel
  have isOther : volume.root.flat ["tmp", "a", "other"] =
      some (Node.newFile ⟨0, 0⟩ "other" "keep").label := by decide +kernel
  have isLost : (volume.after (Builtin.cp invocation)).root.flat ["tmp", "a", "other"] = none := by
    decide +kernel
  obtain ⟨output, changed, copied⟩ := (Builtin.cp_ok_iff operands).mpr
    ⟨⟨_, _, isSource⟩, by decide +kernel, FlatMap.hasDirectory_flat_iff.mpr (by decide +kernel)⟩
  obtain ⟨attributes, content, -, -, -, keeps⟩ := always ⟨0, 0⟩ (.memory []) "fs" "/home/user"
    events invocation "/tmp/a/a" "/tmp" operands output changed copied
  obtain ⟨attributes', isKept⟩ :=
    keeps ["tmp", "a", "other"] (by decide +kernel) _ _ isOther
  rw [Volume.after, copied] at isLost
  cases isLost.symm.trans isKept

end TreeShell

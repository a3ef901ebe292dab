import TreeShell.Proofs.Refinement

/-!
# Commands that lose nothing

Making a file replaces what has its name, and removing a node takes everything below it away. The
commands look first, at every operand anew: `touch` makes a file only where there is nothing and
`rmdir` removes only empty directories, and `rm` removes only files unless it is told otherwise. So
whatever operands they are given, and whatever the earlier operands did to the tree, nothing else
is lost.
-/

namespace TreeShell

/-- A file with another modification time. -/
def Label.touched (now : Instant) : Label → Label
  | .directory attributes => .directory attributes
  | .file attributes content => .file { attributes with modified := now } content

namespace FlatMap

/-! ### What is still there -/

/-- Every label of a map is still in its place, as it was or as something else is made of it. -/
def Retains (alter : Label → Label) (before after : FlatMap) : Prop :=
  ∀ path label, before path = some label →
    after path = some label ∨ after path = some (alter label)

/-- A map is as it was, but some of its labels may be gone. -/
def LosesOnly (may : Label → Prop) (before after : FlatMap) : Prop :=
  ∀ path, after path = before path ∨
    after path = none ∧ ∃ label, before path = some label ∧ may label

variable {alter : Label → Label} {may : Label → Prop} {first second third : FlatMap}

theorem Retains.refl (map : FlatMap) : Retains alter map map :=
  fun _ _ here => Or.inl here

theorem Retains.trans (idempotent : ∀ label, alter (alter label) = alter label)
    (front : Retains alter first second) (back : Retains alter second third) :
    Retains alter first third := by
  intro path label here
  rcases front path label here with same | altered
  · exact back path label same
  · have later := back path (alter label) altered
    rw [idempotent, or_self] at later
    exact Or.inr later

theorem LosesOnly.refl (map : FlatMap) : LosesOnly may map map :=
  fun _ => Or.inl rfl

theorem LosesOnly.trans (front : LosesOnly may first second) (back : LosesOnly may second third) :
    LosesOnly may first third := by
  intro path
  rcases back path with same | ⟨gone, label, between, isOne⟩
  · rw [same]
    exact front path
  · rcases front path with same | ⟨goneBefore, -⟩
    · exact Or.inr ⟨gone, label, same ▸ between, isOne⟩
    · cases goneBefore.symm.trans between

theorem LosesOnly.eq_of_not {path : Path} {label : Label} (loses : LosesOnly may first second)
    (here : first path = some label) (isNone : ¬ may label) : second path = some label := by
  rcases loses path with same | ⟨-, label', here', isOne⟩
  · rw [same, here]
  · cases here.symm.trans here'
    exact absurd isOne isNone

theorem retains_set_of_free {path : Path} {map : FlatMap} (free : map path = none)
    (label : Label) : Retains alter map (map.set path label) := by
  intro other found here
  have different : other ≠ path := by
    rintro rfl
    cases free.symm.trans here
  exact Or.inl ((if_neg different).trans here)

theorem retains_set_altered {path : Path} {map : FlatMap} {label : Label}
    (here : map path = some label) : Retains alter map (map.set path (alter label)) := by
  intro other found isThere
  unfold set
  split
  next same =>
    subst same
    cases here.symm.trans isThere
    exact Or.inr rfl
  next => exact Or.inl isThere

theorem losesOnly_prune {path : Path} {map : FlatMap} {label : Label}
    (here : map path = some label) (isOne : may label)
    (bare : ∀ name rest, map (path ++ name :: rest) = none) :
    LosesOnly may map (map.prune path) := by
  intro other
  unfold prune
  split
  next inside =>
    obtain ⟨rest, rfl⟩ := inside
    -- Only the place itself is lost: there was nothing below it.
    cases rest with
    | nil => exact Or.inr ⟨rfl, label, (List.append_nil path).symm ▸ here, isOne⟩
    | cons name rest => exact Or.inl (bare name rest).symm
  next => exact Or.inl rfl

end FlatMap

theorem Label.touched_touched (now : Instant) (label : Label) :
    (label.touched now).touched now = label.touched now := by
  cases label <;> rfl

namespace Volume

open FlatMap

variable {volume : Volume} {now : Instant} {times : Instant → Prop}

/-! ### One operation -/

theorem retains_createDirectory {alter : Label → Label} (spelling : String) :
    Retains alter volume.root.flat
      ((Operation.createDirectory spelling).after now volume).root.flat := by
  rcases Maps.after_cases (.createDirectory spelling) (maps_createDirectory now spelling) with
    same | ⟨⟨-, -, free⟩, isSet⟩
  · rw [same]
    exact .refl _
  · rw [isSet]
    exact retains_set_of_free free _

/-- Where there is nothing, making a file takes nothing away. -/
theorem retains_createFile {alter : Label → Label} {spelling : String} (content : String)
    (free : volume.node? spelling = none) : Retains alter volume.root.flat
      ((Operation.createFile spelling content).after now volume).root.flat := by
  rcases Maps.after_cases (.createFile spelling content) (maps_createFile now spelling content) with
    same | ⟨-, isPlanted⟩
  · rw [same]
    exact .refl _
  · rw [isPlanted, plant_eq_set (Node.flat_append_of_free free)]
    exact retains_set_of_free (Node.flat_eq_none_iff.mpr free) _

/-- A file that is given the text it has is touched. -/
theorem retains_writeFile {spelling content : String} {attributes : Attributes}
    (found : volume.node? spelling = some (.file attributes content)) :
    Retains (Label.touched now) volume.root.flat
      ((Operation.writeFile spelling content).after now volume).root.flat := by
  have isFile := Node.flat_eq_file_iff.mpr found
  rcases Maps.after_cases (.writeFile spelling content)
      (maps_writeFile now spelling content isFile) with same | ⟨-, isSet⟩
  · rw [same]
    exact .refl _
  · rw [isSet]
    exact retains_set_altered isFile

/-- A volume has lost nothing of an earlier one but labels of a kind. -/
def HasLostOnly (may : Label → Prop) (first volume : Volume) : Prop :=
  volume.WellFormed (fun _ => True) ∧ LosesOnly may first.root.flat volume.root.flat

/-- Removing a node with nothing below it takes away its label alone. -/
theorem HasLostOnly.removeNode {may : Label → Prop} {first : Volume}
    (lost : HasLostOnly may first volume) {spelling : String} {node : Node}
    (found : volume.node? spelling = some node) (isOne : may node.label)
    (bare : ∀ name rest, node.flat (name :: rest) = none) :
    HasLostOnly may first ((Operation.removeNode spelling).after now volume) := by
  obtain ⟨wellFormed, loses⟩ := lost
  refine ⟨wellFormed.after (fun _ _ _ => trivial) trivial _, loses.trans ?_⟩
  have flatBelow := Node.flat_append_of_find? found
  rcases after_removeNode wellFormed now spelling with same | ⟨-, -, isPruned, -⟩
  · rw [same]
    exact .refl _
  · rw [isPruned]
    have here : volume.root.flat (volume.resolve spelling) = some node.label := by
      simpa using flatBelow []
    exact losesOnly_prune here isOne fun name rest => (flatBelow _).trans (bare name rest)

/-- Removing a node leaves the root as it is. -/
theorem flat_nil_removeNode (wellFormed : volume.WellFormed times) (spelling : String) :
    ((Operation.removeNode spelling).after now volume).root.flat [] = volume.root.flat [] := by
  rcases after_removeNode wellFormed now spelling with same | ⟨notRoot, -, isPruned, -⟩
  · rw [same]
  · rw [isPruned, prune, if_neg (notRoot ∘ List.prefix_nil.mp)]

end Volume

/-! ### All operands -/

namespace Builtin

open FlatMap

variable (volume : Volume) (invocation : Invocation)

theorem retains_mkdir :
    Retains id volume.root.flat (volume.after (mkdir invocation)).root.flat := by
  refine (amounts_mkdir invocation volume).keeps
    (fun later => Retains id volume.root.flat later.root.flat) ?_ (.refl _)
  intro operation between applies retains
  cases operation with
  | createDirectory spelling =>
      exact retains.trans (fun _ => rfl) (Volume.retains_createDirectory spelling)
  | _ => exact applies.elim

theorem root_cd : (volume.after (cd invocation)).root = volume.root := by
  refine (amounts_cd invocation volume).keeps (fun later => later.root = volume.root) ?_ rfl
  intro operation between applies same
  cases operation with
  | changeDirectory spelling =>
      rcases Operation.after_cases invocation.now between (.changeDirectory spelling) with
        unchanged | effect
      · rw [unchanged, same]
      · generalize (Operation.changeDirectory spelling).after invocation.now between = later
          at effect ⊢
        cases effect
        exact same
  | _ => exact applies.elim

theorem retains_touch : Retains (Label.touched invocation.now) volume.root.flat
    (volume.after (touch invocation)).root.flat := by
  have idempotent := Label.touched_touched invocation.now
  have preserves : Preserves (fun later => Retains (Label.touched invocation.now)
      volume.root.flat later.root.flat) (touch invocation) := by
    -- With other texts or at other places neither operation would do.
    apply preserves_touch
    · intro between spelling retains free
      exact retains.trans idempotent (Volume.retains_createFile "" free)
    · intro between spelling attributes content retains found
      exact retains.trans idempotent (Volume.retains_writeFile found)
  exact preserves volume (.refl _)

variable {volume} (wellFormed : volume.WellFormed fun _ => True)

include wellFormed

theorem losesOnly_rmdir :
    LosesOnly (fun label => ∃ attributes, label = .directory attributes) volume.root.flat
      (volume.after (rmdir invocation)).root.flat := by
  have preserves : Preserves (volume.HasLostOnly fun label =>
      ∃ attributes, label = .directory attributes) (rmdir invocation) := by
    apply preserves_rmdir
    intro between spelling attributes lost found
    refine lost.removeNode found ⟨attributes, rfl⟩ fun name rest => ?_
    simp [Node.flat_directory_cons, Entries.get?]
  exact (preserves volume ⟨wellFormed, .refl _⟩).2

theorem losesOnly_rm (noSmall : invocation.hasFlag 'r' = false)
    (noCapital : invocation.hasFlag 'R' = false) :
    LosesOnly (fun label => ∃ attributes content, label = .file attributes content)
      volume.root.flat (volume.after (rm invocation)).root.flat := by
  have preserves : Preserves (volume.HasLostOnly fun label =>
      ∃ attributes content, label = .file attributes content) (rm invocation) := by
    apply preserves_rm
    intro between spelling node lost found allowed
    cases node with
    | file attributes content =>
        exact lost.removeNode found ⟨attributes, content, rfl⟩ (Node.flat_file_cons _ _)
    | directory attributes entries => simp [noSmall, noCapital, Node.isDirectory] at allowed
  exact (preserves volume ⟨wellFormed, .refl _⟩).2

/-- However it is told to remove directories, `rm` leaves the root. -/
theorem flat_nil_rm : (volume.after (rm invocation)).root.flat [] = volume.root.flat [] := by
  refine ((amounts_rm invocation volume).keeps (fun later =>
    later.WellFormed (fun _ => True) ∧ later.root.flat [] = volume.root.flat []) ?_
    ⟨wellFormed, rfl⟩).2
  intro operation between applies ⟨betweenWellFormed, same⟩
  refine ⟨betweenWellFormed.after (fun _ _ _ => trivial) trivial operation, ?_⟩
  cases operation with
  | removeNode spelling => rw [Volume.flat_nil_removeNode betweenWellFormed, same]
  | _ => exact applies.elim

end Builtin

/-! ### Places that are kept -/

namespace FlatMap

variable {root after : Node}

/-- The root, which is a directory, is retained as it is. -/
theorem Retains.flat_nil {now : Instant}
    (retains : Retains (Label.touched now) root.flat after.flat)
    (isDirectory : root.isDirectory = true) : after.flat [] = root.flat [] := by
  cases root with
  | file attributes content => cases isDirectory
  | directory attributes entries =>
      have same := retains [] (.directory attributes) (Node.flat_nil _)
      rwa [Label.touched, or_self] at same

theorem LosesOnly.flat_nil {may : Label → Prop} (loses : LosesOnly may root.flat after.flat) :
    after.flat [] = root.flat [] := by
  rcases loses [] with same | ⟨gone, -⟩
  · exact same
  · rw [Node.flat_nil] at gone
    cases gone

/-- Where only directories are lost, a file is left with everything on the way to it. -/
theorem LosesOnly.front {attributes : Attributes} {content : String} {path front : Path}
    (loses : LosesOnly (fun label => ∃ attributes, label = .directory attributes)
      root.flat after.flat)
    (here : root.flat path = some (.file attributes content)) (isFront : front <+: path) :
    after.flat front = root.flat front := by
  rcases loses front with same | ⟨gone, -⟩
  · exact same
  · -- If the front were gone, so would be the file, which is no directory.
    obtain ⟨rest, rfl⟩ := isFront
    have isThere := loses.eq_of_not here (by simp)
    rw [Node.flat_append_of_free (Node.flat_eq_none_iff.mp gone)] at isThere
    cases isThere

end FlatMap

/-- In every state of a session and with any arguments `mkdir` and `cd` leave every label in its
place, and `touch` too, but for the times of files; `rmdir` leaves every file and every directory
on the way to one, and `rm` without the flags `r` and `R` every directory. None of them changes the
root, whatever its flags. -/
theorem Event.careful_run (opened : Instant) (store : Store) (storageKey home : String)
    (events : List Event) (invocation : Invocation) :
    let volume := run events (Volume.load opened store storageKey home)
    let before := volume.root.flat
    let after (command : Command) := (volume.after (command.run invocation)).root.flat
    (∀ command ∈ [Command.mkdir, .cd], ∀ path label, before path = some label →
      after command path = some label) ∧
    (∀ path label, before path = some label →
      after .touch path = some label ∨ after .touch path = some (label.touched invocation.now)) ∧
    (∀ path attributes content, before path = some (.file attributes content) →
      ∀ front, front <+: path → after .rmdir front = before front) ∧
    (invocation.hasFlag 'r' = false → invocation.hasFlag 'R' = false →
      ∀ path attributes, before path = some (.directory attributes) →
        after .rm path = some (.directory attributes)) ∧
    ∀ command ∈ [Command.mkdir, .cd, .touch, .rmdir, .rm], after command [] = before [] := by
  intro volume before after
  have wellFormed : volume.WellFormed (fun _ => True) :=
    wellFormed_run (fun _ _ _ => trivial)
      (Volume.wellFormed_load (fun _ _ _ => trivial) trivial store storageKey home)
      fun _ _ => trivial
  have made := Builtin.retains_mkdir volume invocation
  have moved : after .cd = before := congrArg Node.flat (Builtin.root_cd volume invocation)
  have touched := Builtin.retains_touch volume invocation
  have emptied := Builtin.losesOnly_rmdir invocation wellFormed
  refine ⟨?_, touched, ?_, ?_, ?_⟩
  · intro command member path label here
    simp only [List.mem_cons, List.not_mem_nil, or_false] at member
    rcases member with rfl | rfl
    · exact or_self_iff.mp (made path label here)
    · rwa [moved]
  · intro path attributes content here front isFront
    exact emptied.front here isFront
  · intro noSmall noCapital path attributes here
    exact (Builtin.losesOnly_rm invocation wellFormed noSmall noCapital).eq_of_not here (by simp)
  · simp only [List.forall_mem_cons]
    refine ⟨?_, congrFun moved [], touched.flat_nil wellFormed.isRoot.isDirectory,
      emptied.flat_nil, Builtin.flat_nil_rm invocation wellFormed, by simp⟩
    exact or_self_iff.mp (made [] _ (Node.flat_nil _))

/-- An empty directory, one that is not empty, and a file in it, given to each of the commands. -/
theorem Event.careful_run_operands :
    let volume := Volume.load ⟨0, 0⟩ (.memory []) "fs" "/home/user"
    let invocation : Invocation :=
      { now := ⟨60, 0⟩, environment := ⟨"user", "linux", ⟨0, 0⟩⟩, history := []
        arguments := ["/tmp", "/etc", "/etc/hosts"], piped := none }
    let before := volume.root.flat
    let after (command : Command) := (volume.after (command.run invocation)).root.flat
    let hosts := (Node.newFile ⟨0, 0⟩ "hosts" Volume.hostsText).label
    let temporary := (Node.newDirectory ⟨0, 0⟩ "tmp").label
    before ["etc", "hosts"] = some hosts ∧ before ["tmp"] = some temporary ∧
      after .mkdir ["tmp"] = some temporary ∧
      (after .touch ["etc", "hosts"] ≠ some hosts ∧
        after .touch ["etc", "hosts"] = some (hosts.touched ⟨60, 0⟩)) ∧
      (after .rmdir ["tmp"] = none ∧ after .rmdir ["etc"] = before ["etc"]) ∧
      (after .rm ["etc", "hosts"] = none ∧ after .rm ["tmp"] = some temporary) ∧
      after .rm [] = before [] := by
  intro volume invocation before after hosts temporary
  have isHosts : before ["etc", "hosts"] = some hosts := by decide +kernel
  have isTemporary : before ["tmp"] = some temporary := by decide +kernel
  have isLater : after .touch ["etc", "hosts"] ≠ some hosts := by decide +kernel
  have noTemporary : after .rmdir ["tmp"] = none := by decide +kernel
  have noHosts : after .rm ["etc", "hosts"] = none := by decide +kernel
  obtain ⟨made, touched, emptied, removed, root⟩ :=
    careful_run ⟨0, 0⟩ (.memory []) "fs" "/home/user" [] invocation
  refine ⟨isHosts, isTemporary, made .mkdir (by decide) _ _ isTemporary, ⟨isLater, ?_⟩,
    ⟨noTemporary, emptied _ _ _ isHosts ["etc"] (by decide)⟩,
    ⟨noHosts, removed (by decide +kernel) (by decide +kernel) _ _ isTemporary⟩,
    root .rm (by decide)⟩
  exact (touched _ _ isHosts).resolve_left isLater

end TreeShell

import TreeShell.Proofs.Failures

/-!
# Lines that only look

Eight commands may change a volume. A pipeline without them changes nothing, however long it is and
wherever it fails. A redirected command without them changes the tree in one place, where its output
goes, and leaves the current path alone.
-/

namespace TreeShell

/-! ### Making a file -/

namespace Operation

variable {now : Instant} {volume changed : Volume} {spelling content : String}

theorem createFile_effect_outside
    (effect : Effect now volume (.createFile spelling content) changed) :
    changed.current = volume.current ∧ ∀ path, ¬ volume.resolve spelling <+: path →
      changed.root.flat path = volume.root.flat path := by
  cases effect with
  | createFile isPath inserted =>
      refine ⟨rfl, fun path outside => ?_⟩
      rw [isPath] at outside
      rw [Volume.save_root, Node.flat_insert? inserted, FlatMap.graft_outside outside]

theorem createFile_after_outside (now : Instant) (volume : Volume) (spelling content : String) :
    let changed := (createFile spelling content).after now volume
    changed.current = volume.current ∧ ∀ path, ¬ volume.resolve spelling <+: path →
      changed.root.flat path = volume.root.flat path := by
  intro changed
  rcases after_cases now volume (.createFile spelling content) with same | effect
  · have unchanged : changed = volume := same
    rw [unchanged]
    exact ⟨rfl, fun _ _ => rfl⟩
  · exact createFile_effect_outside effect

end Operation

/-! ### Lines -/

theorem Command.name_of_named? {name : String} {command : Command}
    (named : named? name = some command) : command.name = name := by
  simpa using List.find?_some named

namespace Line

def Looks (line : Line) : Prop :=
  ∀ words ∈ line.commands, ∀ command ∈ Command.changing, words.head? ≠ some command.name

instance (line : Line) : Decidable line.Looks := by
  unfold Looks; infer_instance

variable {line : Line}

theorem Looks.not_applies (looks : line.Looks) {words : List String}
    (member : words ∈ line.commands) (operation : Operation) : ¬ Applies words operation := by
  rintro ⟨command, named, applies⟩
  obtain ⟨name, isHead, named⟩ := Option.bind_eq_some_iff.mp named
  refine looks words member command (Command.mem_changing_of_applies applies) ?_
  rw [isHead, Command.name_of_named? named]

/-- What lines that only look leave as it was: a pipeline the whole volume with its tree, its
current path and its store, and a redirection the current path and every place that is not at or
below its target. -/
def Spares (before after : Volume) : Line → Prop
  | pipeline _ => after = before
  | redirect _ target =>
      after.current = before.current ∧ ∀ path, ¬ before.resolve target <+: path →
        after.root.flat path = before.root.flat path

/-- Of the operations that a line may apply only the making of its target is left. -/
theorem Looks.spares_of_becomes (looks : line.Looks) {now : Instant} {before after : Volume}
    (becomes : before.Becomes now line.AppliesAny after) : line.Spares before after := by
  cases line with
  | pipeline stages =>
      refine becomes.eq_self ?_
      rintro operation (⟨words, member, applies⟩ | ⟨_, _, _, isRedirect, _⟩)
      · exact looks.not_applies member operation applies
      · cases isRedirect
  | redirect command target =>
      -- The operations come one after the other, and the target is resolved anew for each of them.
      refine becomes.keeps (fun later => (redirect command target).Spares before later) ?_
        ⟨rfl, fun _ _ => rfl⟩
      rintro operation between (⟨words, member, applies⟩ | ⟨_, _, content, same, rfl⟩)
        ⟨sameCurrent, sameOutside⟩
      · exact absurd applies (looks.not_applies member operation)
      · cases same
        have sameTarget : between.resolve target = before.resolve target := by
          rw [Volume.resolve, Volume.resolve, sameCurrent]
        obtain ⟨keptCurrent, keptOutside⟩ :=
          Operation.createFile_after_outside now between target content
        refine ⟨keptCurrent.trans sameCurrent, fun path outside => ?_⟩
        rw [keptOutside path (sameTarget ▸ outside), sameOutside path outside]

/-- A line that only looks spares everything but the target of its redirection, run by itself in any
context or submitted to any shell. -/
theorem spares_of_looks (looks : line.Looks) (volume : Volume) :
    (∀ context, line.Spares volume (volume.after (line.run context))) ∧
      ∀ now text history environment, parse (Text.trim text) = .ok line →
        line.Spares volume
          ((Shell.mk volume history environment).execute now text).shell.volume := by
  constructor
  · intro context
    exact looks.spares_of_becomes (amounts_run context line volume)
  · intro now text history environment isParsed
    have becomes : volume.Becomes now line.AppliesAny
        ((Shell.mk volume history environment).execute now text).shell.volume := by
      refine ((Event.submit now environment history text).becomes volume).mono ?_
      rintro operation ⟨parsed, isParsed', applies⟩
      cases isParsed.symm.trans isParsed'
      exact applies
    exact looks.spares_of_becomes becomes

/-- A file is copied by redirecting what `cat` answers, and a pipeline that fails at its end changes
nothing. -/
theorem spares_of_looks_cat :
    let volume := Volume.load ⟨0, 0⟩ (.memory []) "fs" "/home/user"
    let environment : Environment := ⟨"user", "linux", ⟨0, 0⟩⟩
    let text := "cat /etc/passwd > /tmp/copy"
    let copy := redirect ["cat", "/etc/passwd"] "/tmp/copy"
    let final := ((Shell.mk volume {} environment).execute ⟨60, 0⟩ text).shell.volume
    let failing := pipeline [["cat", "/etc/hosts"], ["nano", "/tmp/new"], ["frobnicate"]]
    (copy.Looks ∧ parse (Text.trim text) = .ok copy ∧
      (final.root.flat ["tmp", "copy"]).isSome ∧
      final.root.flat ["etc", "passwd"] = volume.root.flat ["etc", "passwd"]) ∧
    failing.Looks ∧
      ∀ history, volume.after (failing.run ⟨⟨60, 0⟩, environment, history⟩) = volume := by
  intro volume environment text copy final failing
  have copyLooks : copy.Looks := by decide
  have isParsed : parse (Text.trim "cat /etc/passwd > /tmp/copy") =
      .ok (redirect ["cat", "/etc/passwd"] "/tmp/copy") := by cbv
  have copied : (final.root.flat ["tmp", "copy"]).isSome := by decide +kernel
  have spared := (spares_of_looks copyLooks volume).2 ⟨60, 0⟩ text {} environment isParsed
  have failingLooks : failing.Looks := by decide
  refine ⟨⟨copyLooks, isParsed, copied, spared.2 ["etc", "passwd"] (by decide +kernel)⟩,
    failingLooks, fun history => ?_⟩
  exact (spares_of_looks failingLooks volume).1 ⟨⟨60, 0⟩, environment, history⟩

end Line

end TreeShell

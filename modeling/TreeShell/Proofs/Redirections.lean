import TreeShell.Proofs.Looking
import TreeShell.Proofs.Refinement

/-!
# Redirections that fail

A redirected command is run before its target is looked at, where the command has left the volume.
If the command fails, the volume is as it was. If there is no place for the target, what the command
has done stays done, and nothing else happens; so a redirection that fails changes something exactly
if its command alone succeeds and changes something.
-/

namespace TreeShell

namespace Volume

/-- Making a file fails at the root, and where there is no directory above the file, and in no other
case. -/
theorem createFile_eq_error_iff {now : Instant} {volume final : Volume} {spelling content : String}
    {fault : FileFault} :
    createFile now spelling content volume = .error fault final ↔ final = volume ∧
      (volume.resolve spelling = [] ∧ fault = .notAFile spelling ∨
        volume.resolve spelling ≠ [] ∧
          ¬ volume.root.flat.HasDirectory (volume.resolve spelling).dropLast ∧
          fault = .parentNotFound spelling) := by
  unfold createFile
  cases path : Path.split? (volume.resolve spelling) with
  | none =>
      have isRoot := Path.split?_eq_none_iff.mp path
      constructor
      · intro failed
        cases failed
        exact ⟨rfl, Or.inl ⟨isRoot, rfl⟩⟩
      · rintro ⟨rfl, ⟨-, rfl⟩ | ⟨notRoot, -⟩⟩
        · rfl
        · exact absurd isRoot notRoot
  | some place =>
      obtain ⟨parent, name⟩ := place
      have isPath := Path.split?_eq_some path
      have notRoot : volume.resolve spelling ≠ [] := by simp [isPath]
      have hasParent : (volume.root.insert? parent name (Node.newFile now name content)).isSome ↔
          volume.root.flat.HasDirectory (volume.resolve spelling).dropLast := by
        rw [isPath, List.dropLast_concat, FlatMap.hasDirectory_flat_iff]
        exact Node.isSome_insert?_iff_hasDirectory _ _
      dsimp only
      cases inserted : volume.root.insert? parent name (Node.newFile now name content) with
      | none =>
          have noParent : ¬ volume.root.flat.HasDirectory (volume.resolve spelling).dropLast := by
            rw [← hasParent, inserted]
            simp
          constructor
          · intro failed
            cases failed
            exact ⟨rfl, Or.inr ⟨notRoot, noParent, rfl⟩⟩
          · rintro ⟨rfl, ⟨isRoot, -⟩ | ⟨-, -, rfl⟩⟩
            · exact absurd isRoot notRoot
            · rfl
      | some root =>
          have isParent := hasParent.mp (Option.isSome_of_eq_some inserted)
          constructor
          · intro failed
            cases failed
          · rintro ⟨-, ⟨isRoot, -⟩ | ⟨-, noParent, -⟩⟩
            · exact absurd isRoot notRoot
            · exact absurd isParent noParent

end Volume

namespace Line

variable {context : Context} {command : List String} {target : String} {volume final : Volume}
  {fault : CommandFault}

theorem atomic_runStage (context : Context) (piped : Option String) (words : List String) :
    Atomic (runStage context piped words) := by
  cases words with
  | nil => exact atomic_throw _
  | cons name arguments =>
      simp only [runStage]
      split
      next => exact atomic_throw _
      next command named => exact command.atomic_run _

theorem Looks.steady_runStage {line : Line} (looks : line.Looks) {words : List String}
    (member : words ∈ line.commands) (context : Context) (piped : Option String) :
    Steady (runStage context piped words) :=
  fun volume => (amounts_runStage context piped words volume).eq_self (looks.not_applies member)

/-- How a redirection fails, and the volume after it: the command fails, or it succeeds and its
target is the root or has no directory above it by then. -/
inductive RedirectionFails (context : Context) (command : List String) (target : String)
    (volume : Volume) : CommandFault → Volume → Prop where
  | command {cause : CommandFault}
      (failed : runStage context none command volume = .error cause volume) :
      RedirectionFails context command target volume (.redirectionFailed cause.message) volume
  | root {output : Output} {final : Volume}
      (done : runStage context none command volume = .ok output final)
      (isRoot : final.resolve target = []) :
      RedirectionFails context command target volume
        (.redirectionFailed (FileFault.notAFile target).message) final
  | parent {output : Output} {final : Volume}
      (done : runStage context none command volume = .ok output final)
      (notRoot : final.resolve target ≠ [])
      (noParent : ¬ final.root.flat.HasDirectory (final.resolve target).dropLast) :
      RedirectionFails context command target volume
        (.redirectionFailed (FileFault.parentNotFound target).message) final

theorem runRedirect_eq_error_iff :
    runRedirect context command target volume = .error fault final ↔
      RedirectionFails context command target volume fault final := by
  constructor
  · intro failed
    unfold runRedirect at failed
    cases outcome : runStage context none command volume with
    | error cause changed =>
        rw [outcome] at failed
        cases failed
        have unchanged := atomic_runStage context none command volume cause _ outcome
        subst unchanged
        exact .command outcome
    | ok output changed =>
        rw [outcome] at failed
        dsimp only at failed
        cases made : Volume.createFile context.now target output.piped changed with
        | ok value written =>
            rw [made] at failed
            cases failed
        | error cause written =>
            rw [made] at failed
            cases failed
            obtain ⟨rfl, ⟨isRoot, rfl⟩ | ⟨notRoot, noParent, rfl⟩⟩ :=
              Volume.createFile_eq_error_iff.mp made
            · exact .root outcome isRoot
            · exact .parent outcome notRoot noParent
  · intro fails
    unfold runRedirect
    cases fails with
    | command failed => rw [failed]
    | @root output _ done isRoot =>
        have refused : Volume.createFile context.now target output.piped final =
            .error (.notAFile target) final :=
          Volume.createFile_eq_error_iff.mpr ⟨rfl, Or.inl ⟨isRoot, rfl⟩⟩
        simp only [done, refused]
    | @parent output _ done notRoot noParent =>
        have refused : Volume.createFile context.now target output.piped final =
            .error (.parentNotFound target) final :=
          Volume.createFile_eq_error_iff.mpr ⟨rfl, Or.inr ⟨notRoot, noParent, rfl⟩⟩
        simp only [done, refused]

/-- The redirection itself changes nothing when it fails. -/
theorem RedirectionFails.eq_after
    (fails : RedirectionFails context command target volume fault final) :
    final = volume.after (runStage context none command) := by
  unfold Volume.after
  cases fails with
  | command failed => rw [failed]
  | root done isRoot => rw [done]
  | parent done notRoot noParent => rw [done]

theorem RedirectionFails.eq_self
    (fails : RedirectionFails context command target volume fault final)
    (harmless : (redirect command target).Looks ∨
      ∃ cause changed, runStage context none command volume = .error cause changed) :
    final = volume := by
  rcases harmless with looks | ⟨cause, changed, failed⟩
  · rw [fails.eq_after]
    exact looks.steady_runStage (List.mem_singleton_self command) context none volume
  · cases fails with
    | command _ => rfl
    | root done isRoot => cases failed.symm.trans done
    | parent done notRoot noParent => cases failed.symm.trans done

theorem RedirectionFails.wrapped
    (fails : RedirectionFails context command target volume fault final) :
    ∃ reason, fault = .redirectionFailed reason := by
  cases fails <;> exact ⟨_, rfl⟩

/-- What a shell does with a redirection besides running it cannot fail. -/
theorem redirectionFails_of_execute {now : Instant} {text : String} {history : History}
    {environment : Environment}
    (isParsed : parse (Text.trim text) = .ok (redirect command target))
    (failed : ((Shell.mk volume history environment).execute now text).result = .error fault) :
    let recorded := Shell.mk volume (history.push (Text.trim text)) environment
    RedirectionFails (recorded.context now) command target volume fault
      ((Shell.mk volume history environment).execute now text).shell.volume := by
  intro recorded
  have notBlank : Text.trim text ≠ "" := by
    intro blank
    rw [blank] at isParsed
    cases isParsed
  rw [← runRedirect_eq_error_iff]
  unfold Shell.execute Shell.submit Shell.perform at *
  simp only [notBlank, if_false, isParsed, run] at failed ⊢
  cases outcome : runRedirect (recorded.context now) command target volume with
  | ok output changed =>
      rw [outcome] at failed
      cases failed
  | error cause changed =>
      rw [outcome] at failed
      cases failed
      rfl

/-- A redirection of any words to any target fails in three ways only, each with its own message.
The volume is then as the command alone leaves it: if the command has failed, or is none of those
that may change a volume, it is as it was before, with its tree, its current path and its store. The
same holds for every line that a shell reads as a redirection. -/
theorem redirection_fails (volume : Volume) (command : List String) (target : String) :
    (∀ context fault final, runRedirect context command target volume = .error fault final ↔
      RedirectionFails context command target volume fault final) ∧
    (∀ context fault final, RedirectionFails context command target volume fault final →
      (∃ reason, fault = .redirectionFailed reason) ∧
      final = volume.after (runStage context none command) ∧
      ((redirect command target).Looks ∨
        (∃ cause changed, runStage context none command volume = .error cause changed) →
        final = volume)) ∧
    ∀ now text history environment, parse (Text.trim text) = .ok (redirect command target) →
      let reply := (Shell.mk volume history environment).execute now text
      ∀ fault, reply.result = .error fault → ∃ entries,
        RedirectionFails ⟨now, environment, entries⟩ command target volume fault
          reply.shell.volume := by
  refine ⟨fun _ _ _ => runRedirect_eq_error_iff, fun context fault final fails => ?_, ?_⟩
  · exact ⟨fails.wrapped, fails.eq_after, fails.eq_self⟩
  · intro now text history environment isParsed reply fault failed
    exact ⟨_, redirectionFails_of_execute isParsed failed⟩

/-- A file that is not there is read and leaves nothing behind. A directory that is entered stays
the current one, though the target is missing. -/
theorem redirection_fails_cat :
    let volume := Volume.load ⟨0, 0⟩ (.memory []) "fs" "/home/user"
    let environment : Environment := ⟨"user", "linux", ⟨0, 0⟩⟩
    let context : Context := ⟨⟨60, 0⟩, environment, []⟩
    let text := "cat /nope > /tmp/out"
    let reply := (Shell.mk volume {} environment).execute ⟨60, 0⟩ text
    (parse (Text.trim text) = .ok (redirect ["cat", "/nope"] "/tmp/out") ∧
      (∃ fault, reply.result = .error fault ∧
        fault.message = "redirection failed: cat: '/nope': No such file or directory") ∧
      reply.shell.volume = volume) ∧
    ∃ fault final, runRedirect context ["cd", "/tmp"] "/missing/x" volume = .error fault final ∧
      final = volume.after (runStage context none ["cd", "/tmp"]) ∧ final.current = ["tmp"] := by
  intro volume environment context text reply
  have reported : (match reply.result with
      | .ok _ => none
      | .error fault => some fault.message) =
        some "redirection failed: cat: '/nope': No such file or directory" := by decide +kernel
  have entered : (match runRedirect context ["cd", "/tmp"] "/missing/x" volume with
      | .ok _ _ => none
      | .error _ final => some final.current) = some ["tmp"] := by decide +kernel
  have isParsed : parse (Text.trim "cat /nope > /tmp/out") =
      .ok (redirect ["cat", "/nope"] "/tmp/out") := by cbv
  have looks : (redirect ["cat", "/nope"] "/tmp/out").Looks := by decide
  constructor
  · cases result : reply.result with
    | ok output =>
        rw [result] at reported
        cases reported
    | error fault =>
        rw [result] at reported
        have holds := redirection_fails volume ["cat", "/nope"] "/tmp/out"
        obtain ⟨entries, fails⟩ := holds.2.2 ⟨60, 0⟩ text {} environment isParsed fault result
        exact ⟨isParsed, ⟨fault, rfl, Option.some.inj reported⟩,
          (holds.2.1 _ _ _ fails).2.2 (Or.inl looks)⟩
  · cases outcome : runRedirect context ["cd", "/tmp"] "/missing/x" volume with
    | ok output final =>
        rw [outcome] at entered
        cases entered
    | error fault final =>
        rw [outcome] at entered
        have holds := redirection_fails volume ["cd", "/tmp"] "/missing/x"
        have fails := (holds.1 context fault final).mp outcome
        exact ⟨fault, final, rfl, (holds.2.1 context fault final fails).2.1,
          Option.some.inj entered⟩

/-- A directory stays behind whose making was redirected to a place that is not there. -/
theorem not_forall_redirection_fails_unchanged : ¬ ∀ (opened : Instant) (store : Store)
    (storageKey home : String) (events : List Event) (context : Context) (text : String)
    (command : List String) (target : String) (fault : CommandFault) (final : Volume),
    let volume := Event.run events (Volume.load opened store storageKey home)
    parse text = .ok (redirect command target) →
      runRedirect context command target volume = .error fault final →
      final.root = volume.root ∧ final.current = volume.current ∧
        final.store.get storageKey = volume.store.get storageKey := by
  intro always
  let volume := Volume.load ⟨0, 0⟩ (.memory []) "fs" "/home/user"
  let context : Context := ⟨⟨60, 0⟩, ⟨"user", "linux", ⟨0, 0⟩⟩, []⟩
  have stays : (match runRedirect context ["mkdir", "/tmp/a"] "/missing/x" volume with
      | .ok _ _ => false
      | .error _ final => (final.root.find? ["tmp", "a"]).isSome) = true := by decide +kernel
  have wasFree : (volume.root.find? ["tmp", "a"]).isSome = false := by decide +kernel
  have isParsed : parse "mkdir /tmp/a > /missing/x" =
      .ok (redirect ["mkdir", "/tmp/a"] "/missing/x") := by cbv
  cases outcome : runRedirect context ["mkdir", "/tmp/a"] "/missing/x" volume with
  | ok output final =>
      rw [outcome] at stays
      cases stays
  | error fault final =>
      have unchanged := always ⟨0, 0⟩ (.memory []) "fs" "/home/user" [] context _ _ _ _ _ isParsed
        outcome
      have sameTree : final.root = volume.root := unchanged.1
      rw [outcome] at stays
      dsimp only at stays
      rw [sameTree, wasFree] at stays
      cases stays

end Line

end TreeShell

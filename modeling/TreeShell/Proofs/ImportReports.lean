import TreeShell.Proofs.CuttingBack
import TreeShell.Proofs.Imports
import TreeShell.Proofs.PathLaws
import TreeShell.Proofs.Restart

/-!
# What an import reports

An import reports the current path as the snapshot spells it. The session stands where this
spelling leads to, cut back to a directory, and that is what it saves and what its prompt shows. So
the report names the place of the session only if the snapshot spells the path of a directory of its
own tree, and spells it without needless segments.
-/

namespace TreeShell

namespace Volume

variable {now later : Instant} {volume : Volume}

/-- A spelling is that of the path that is left of it only if nothing had to be taken away. -/
theorem CutBack.eq_spell_iff {spelling : String}
    (cutBack : volume.CutBack (Path.follow [] spelling)) :
    spelling = Path.spell volume.current ↔
      Path.IsCanonical spelling ∧ volume.root.hasDirectory (Path.follow [] spelling) = true := by
  have normal : volume.current.IsNormal :=
    (Path.isNormal_follow_nil spelling).of_front cutBack.isFront
  constructor
  · rintro rfl
    rw [Path.follow_spell [] normal, List.nil_append]
    exact ⟨Path.isCanonical_spell normal, cutBack.stands⟩
  · rintro ⟨canonical, here⟩
    have whole : Path.follow [] spelling <+: volume.current :=
      cutBack.longest _ List.prefix_rfl here
    have same : volume.current = Path.follow [] spelling :=
      cutBack.isFront.eq_of_length_le whole.length_le
    rw [same]
    exact (Path.normalize_eq_self_iff.mpr canonical).symm

/-- An import stands where the spelling that it reports leads to, as far as there are
directories. -/
theorem cutBack_of_reported {text : String} {info : SnapshotInfo} {changed : Volume}
    (imported : importText now text volume = .ok info changed) :
    changed.CutBack (Path.follow [] info.currentPath) := by
  obtain ⟨snapshot, isRead, cutBack⟩ := cutBack_of_importText imported
  unfold importText at imported
  rw [isRead] at imported
  cases imported
  exact cutBack

/-- What is kept reports what an import of it would report. -/
theorem savedInfo_of_importText {text : String} {other final : Volume} {info : SnapshotInfo}
    (kept : volume.store.get volume.storageKey = .ok (some text))
    (imports : importText later text other = .ok info final) :
    volume.savedInfo later = some info := by
  unfold importText at imports
  split at imports
  next => cases imports
  next snapshot isRead =>
    cases imports
    simp only [savedInfo, kept, isRead]

/-- A store that takes snapshots tells the time of an import and where the session stands after
it. -/
theorem savedInfo_importText (valid : now.IsValid) (keeps : volume.Keeps) {text : String}
    {info : SnapshotInfo} {changed : Volume}
    (imported : importText now text volume = .ok info changed) (later : Instant) :
    changed.savedInfo later = some ⟨some now, Path.spell changed.current⟩ := by
  unfold importText at imported
  split at imported
  next => cases imported
  next snapshot isRead =>
    cases imported
    have importable := importable_install valid isRead volume
    have kept := (keeps.set (snapshotText now (install snapshot volume).root
      (install snapshot volume).current)).1
    exact savedInfo_of_importText kept
      (importable.importText_eq Json.Layout.blank_compact valid later volume)

end Volume

namespace Shell

variable {now : Instant} {text : String} {info : SnapshotInfo}

theorem exists_importText_eq_ok {shell : Shell}
    (imported : (shell.importText now text).result = .ok info) :
    ∃ changed, Volume.importText now text shell.volume = .ok info changed ∧
      (shell.importText now text).shell.volume = changed := by
  unfold importText operate at imported ⊢
  cases outcome : Volume.importText now text shell.volume with
  | error fault changed => simp [outcome] at imported
  | ok reported changed =>
      simp only [outcome] at imported ⊢
      cases imported
      exact ⟨changed, rfl, rfl⟩

theorem importMessage_inj {timestamp : Option Instant} {first second : String} :
    importMessage (.ok ⟨timestamp, first⟩) = importMessage (.ok ⟨timestamp, second⟩) ↔
      first = second := by
  constructor
  · intro same
    exact (String.append_right_inj _).mp same
  · rintro rfl
    rfl

/-- An import that succeeds reports the place where the session stands after it, to the caller and
in its message, exactly if it reports the canonical spelling of a directory. A store that takes
snapshots tells that place right afterwards and at any later time. -/
theorem importText_reports_iff (shell : Shell) (valid : now.IsValid)
    (imported : (shell.importText now text).result = .ok info) :
    let after := (shell.importText now text).shell.volume
    let place := Path.spell after.current
    (info.currentPath = place ↔ Path.IsCanonical info.currentPath ∧
      after.root.hasDirectory (Path.follow [] info.currentPath) = true) ∧
    (importMessage (shell.importText now text).result =
      importMessage (.ok ⟨info.timestamp, place⟩) ↔ info.currentPath = place) ∧
    (shell.volume.Keeps → ∀ later, after.savedInfo later = some ⟨some now, place⟩) := by
  intro after place
  obtain ⟨_, done, rfl⟩ := exists_importText_eq_ok imported
  have cutBack : after.CutBack (Path.follow [] info.currentPath) :=
    Volume.cutBack_of_reported done
  refine ⟨cutBack.eq_spell_iff, ?_, fun keeps => Volume.savedInfo_importText valid keeps done⟩
  rw [imported]
  exact importMessage_inj

/-- A terse snapshot is imported by every shell and reported with the roundabout path that it
spells. -/
theorem exists_importText_lenient (shell : Shell) :
    ∃ info, (shell.importText ⟨60, 0⟩ (String.ofList Volume.lenient)).result = .ok info ∧
      info.currentPath = "//a/./gone/far/.." ∧
      (shell.importText ⟨60, 0⟩ (String.ofList Volume.lenient)).shell.volume.current = ["a"] := by
  have accepted : (Snapshot.read ⟨60, 0⟩ (String.ofList Volume.lenient)).toOption.any
      (fun snapshot => snapshot.currentPath == "//a/./gone/far/.." &&
        Volume.surviving
          (snapshot.root.withAttributes { snapshot.root.attributes with name := "/" })
          (Path.follow [] snapshot.currentPath) == ["a"]) = true := by
    -- The characters are handed over as they are, since decoding a text is slow in the kernel.
    rw [Snapshot.read, Json.read, String.toList_ofList]
    decide +kernel
  unfold importText operate Volume.importText
  cases isRead : Snapshot.read ⟨60, 0⟩ (String.ofList Volume.lenient) with
  | error fault =>
      rw [isRead] at accepted
      cases accepted
  | ok snapshot =>
      simp only [isRead, Except.toOption, Option.any_some, Bool.and_eq_true, beq_iff_eq] at accepted
      exact ⟨_, rfl, accepted⟩

/-- The message names a place that is not there, the store tells the place where the session is. -/
theorem importText_reports_iff_lenient :
    let shell := openOver ⟨0, 0⟩ (.memory []) {}
    (⟨60, 0⟩ : Instant).IsValid ∧ shell.volume.Keeps ∧
      ∃ info, (shell.importText ⟨60, 0⟩ (String.ofList Volume.lenient)).result = .ok info ∧
        info.currentPath = "//a/./gone/far/.." ∧
        importMessage (.ok info) ≠ importMessage (.ok ⟨info.timestamp, "/a"⟩) ∧
        ∀ later, (shell.importText ⟨60, 0⟩
          (String.ofList Volume.lenient)).shell.volume.savedInfo later =
            some ⟨some ⟨60, 0⟩, "/a"⟩ := by
  intro shell
  have valid : (⟨60, 0⟩ : Instant).IsValid := by decide
  have keeps : shell.volume.Keeps := fun _ => ⟨_, rfl⟩
  clear_value shell
  obtain ⟨info, imported, isReported, isCurrent⟩ := exists_importText_lenient shell
  have reports := importText_reports_iff shell valid imported
  dsimp only at reports
  rw [isCurrent, imported] at reports
  obtain ⟨-, message, tells⟩ := reports
  refine ⟨valid, keeps, info, imported, isReported, fun same => ?_, tells keeps⟩
  have wrong := message.mp same
  rw [isReported] at wrong
  revert wrong
  decide

/-- What is reported need be neither the place of the session nor what the store tells. -/
theorem not_forall_importText_reports : ¬ ∀ (opened now : Instant) (store : Store)
    (storageKey home text : String) (events : List Event) (history : History)
    (environment : Environment) (info : SnapshotInfo),
    let shell : Shell :=
      ⟨Event.run events (Volume.load opened store storageKey home), history, environment⟩
    let after := (shell.importText now text).shell.volume
    (shell.importText now text).result = .ok info →
      info.currentPath = Path.spell after.current ∧
      ∀ summary, after.savedInfo now = some summary → info.currentPath = summary.currentPath := by
  intro always
  obtain ⟨info, imported, isReported, isCurrent⟩ := exists_importText_lenient
    ⟨Event.run [] (Volume.load ⟨0, 0⟩ (.memory []) "fs" "/home/user"), {},
      ⟨"user", "linux", ⟨0, 0⟩⟩⟩
  have same := (always ⟨0, 0⟩ ⟨60, 0⟩ (.memory []) "fs" "/home/user" (String.ofList Volume.lenient)
    [] {} ⟨"user", "linux", ⟨0, 0⟩⟩ info imported).1
  rw [isReported, isCurrent] at same
  revert same
  decide

end Shell

end TreeShell

import TreeShell.Builtin.Browsing
import TreeShell.Proofs.PathLaws
import TreeShell.Proofs.Quoting

/-!
# Paths as prompts show them

A prompt shows a path with `~` in place of a home that it begins with. Only whole segments are
replaced, and no path begins with `~`, so putting the home back where the `~` stands gives the path
that is shown. The command that changes the directory does so with its argument, and therefore takes
what a prompt shows for the path itself.
-/

namespace TreeShell

/-- What follows a front part of a text is what has to be added to it. -/
theorem Text.afterFront?_eq_some_iff {front text rest : List Char} :
    afterFront? front text = some rest ↔ text = front ++ rest := by
  induction front generalizing text with
  | nil => simp [afterFront?]
  | cons c front ih =>
      cases text with
      | nil => simp [afterFront?]
      | cons d text =>
          by_cases same : c = d
          · simp [afterFront?, same, ih]
          · simp [afterFront?, same, Ne.symm same]

/-! ### Putting the home back -/

namespace Builtin

theorem expandHome_of_ne_tilde {spelling : String} (plain : spelling.toList.head? ≠ some '~')
    (home : String) : expandHome home spelling = spelling := by
  unfold expandHome
  split
  next isTilde => simp [isTilde] at plain
  next rest isTilde => simp [isTilde] at plain
  next => rfl

/-- Spellings that do not begin with `~` are got back from what is displayed, whatever the home
is. -/
theorem expandHome_displayPath {spelling : String} (plain : spelling.toList.head? ≠ some '~')
    (home : String) : expandHome home (Shell.displayPath home spelling) = spelling := by
  unfold Shell.displayPath
  split
  next inside =>
    have isHome := Text.afterFront?_eq_some_iff.mp inside
    rw [List.append_nil] at isHome
    exact (String.toList_inj.mp isHome).symm
  next rest inside =>
    have below := Text.afterFront?_eq_some_iff.mp inside
    simp only [expandHome, String.toList_ofList]
    apply String.toList_inj.mp
    rw [below, String.toList_append, String.toList_ofList]
  next => exact expandHome_of_ne_tilde plain home

end Builtin

theorem Path.IsCanonical.ne_tilde {spelling : String} (canonical : IsCanonical spelling) :
    spelling.toList.head? ≠ some '~' := by
  rw [canonical.absolute]
  decide

namespace Shell

open Builtin Path

variable {home path other : String}

theorem displayPath_inj (canonical : IsCanonical path) (canonical' : IsCanonical other)
    (same : displayPath home path = displayPath home other) : path = other := by
  rw [← expandHome_displayPath canonical.ne_tilde home, same,
    expandHome_displayPath canonical'.ne_tilde home]

/-- The prompts of one user in one home differ only in the path that they show. -/
theorem displayPath_eq_of_prompt_eq {first second : Shell}
    (sameEnvironment : first.environment = second.environment)
    (samePrompt : first.prompt = second.prompt) :
    displayPath (spell first.volume.home) (spell first.volume.current) =
      displayPath (spell second.volume.home) (spell second.volume.current) := by
  unfold prompt at samePrompt
  rw [sameEnvironment, String.append_left_inj, String.append_right_inj] at samePrompt
  exact samePrompt

end Shell

/-! ### Changing the directory -/

namespace Builtin

open Path

variable {volume : Volume} {invocation : Invocation} {argument : String} {path : Path}

/-- What is shown for a path is resolved to it wherever `cd` is called. -/
theorem resolve_displayPath {home : String} (isHome : spell volume.home = home)
    (normal : path.IsNormal) :
    volume.resolve (expandHome (spell volume.home) (Shell.displayPath home (spell path))) =
      path := by
  rw [isHome, expandHome_displayPath (isCanonical_spell normal).ne_tilde home]
  exact resolve_spell volume.current normal

/-- The argument of `cd` stands for a path: if there is a directory, it becomes the current one and
that is saved, and nothing else happens; if there is none, nothing happens at all. -/
theorem cd_of_resolve (isFirst : invocation.arguments.head? = some argument)
    (leads : volume.resolve (expandHome (spell volume.home) argument) = path) :
    (volume.root.hasDirectory path = true → cd invocation volume =
      .ok (.text "") (Volume.save invocation.now { volume with current := path })) ∧
    (volume.root.hasDirectory path = false → ∃ fault, cd invocation volume =
      .error fault volume) := by
  unfold cd Node.hasDirectory
  simp only [isFirst, Option.map_some, Option.getD_some, bind, EStateM.bind, Action.change,
    Volume.changeDirectory, leads]
  cases found : volume.root.find? path with
  | none => simp
  | some node =>
      cases isDirectory : node.isDirectory with
      | true => simp [isDirectory, pure, EStateM.pure]
      | false => simp [isDirectory]

end Builtin

namespace Shell

open Builtin Path

/-- What is shown for paths leads back to them: the home can be put back, no other path is shown in
the same way, one user in one home sees the same prompt only in the same place, and `cd` goes from
everywhere to the directory whose path is shown, or nowhere if there is none. -/
structure LeadsBack (home : String) : Prop where
  expands : ∀ path, IsCanonical path → expandHome home (displayPath home path) = path
  distinct : ∀ path other, IsCanonical path → IsCanonical other →
    displayPath home path = displayPath home other → path = other
  prompts : ∀ first second : Shell, first.environment = second.environment →
    spell first.volume.home = home → spell second.volume.home = home →
    first.volume.current.IsNormal → second.volume.current.IsNormal →
    first.prompt = second.prompt → first.volume.current = second.volume.current
  goes : ∀ (volume : Volume) (invocation : Invocation) (path : Path),
    spell volume.home = home → path.IsNormal →
    invocation.arguments.head? = some (displayPath home (spell path)) →
    volume.root.hasDirectory path = true → cd invocation volume =
      .ok (.text "") (Volume.save invocation.now { volume with current := path })
  stays : ∀ (volume : Volume) (invocation : Invocation) (path : Path),
    spell volume.home = home → path.IsNormal →
    invocation.arguments.head? = some (displayPath home (spell path)) →
    volume.root.hasDirectory path = false → ∃ fault, cd invocation volume = .error fault volume

/-- Whatever the home is, the root or any other place, what is shown for paths leads back. -/
theorem leadsBack_displayPath (home : String) : LeadsBack home where
  expands _ canonical := expandHome_displayPath canonical.ne_tilde home
  distinct _ _ canonical canonical' same := displayPath_inj canonical canonical' same
  prompts first second sameEnvironment isHome isHome' normal normal' samePrompt := by
    have same := displayPath_eq_of_prompt_eq sameEnvironment samePrompt
    rw [isHome, isHome'] at same
    have sameSpelling := displayPath_inj (isCanonical_spell normal) (isCanonical_spell normal') same
    exact (spell_inj normal normal').mp sameSpelling
  goes volume invocation path isHome normal isFirst :=
    (cd_of_resolve isFirst (resolve_displayPath isHome normal)).1
  stays volume invocation path isHome normal isFirst :=
    (cd_of_resolve isFirst (resolve_displayPath isHome normal)).2

-- A directory beside the home may share the beginning of its name, and the root may be the home.
example : displayPath "/home/user" "/home/username" = "/home/username" ∧
    displayPath "/home/user" "/home/user/x" = "~/x" ∧
    displayPath "/" "/" = "~" ∧ displayPath "/" "/etc" = "/etc" := by decide

end Shell

end TreeShell

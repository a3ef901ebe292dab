import TreeShell.Proofs.SideBySide

/-!
# Recalling lines

A history is used like a walk along the recorded lines. The walk starts on the fresh line; an older
line is one place further back, up to the oldest, a newer one is one place nearer, up to the fresh
line, and recording a line leads back to the fresh one. In a session nothing but the lines that are
executed gets into the history, whatever comes of them.
-/

namespace TreeShell

namespace History

/-- Recorded lines and a place among them, counted back from the newest. Place 0 is the fresh
line. -/
structure Walk where
  lines : List String
  place : Nat
  inside : place ≤ lines.length

/-- What is done with a history. -/
inductive Use where
  | push (line : String)
  | previous
  | next

namespace Walk

/-- The walk before any line is recorded. -/
def start : Walk where
  lines := []
  place := 0
  inside := Nat.le_refl 0

/-- The line at the place that the walk has reached; the fresh line is none. -/
def line? (walk : Walk) : Option String :=
  if away : 0 < walk.place then
    have inLines : walk.lines.length - walk.place < walk.lines.length := by
      have inside := walk.inside
      omega
    some walk.lines[walk.lines.length - walk.place]
  else none

def record (walk : Walk) (line : String) : Walk where
  lines := walk.lines ++ [line]
  place := 0
  inside := Nat.zero_le _

def older (walk : Walk) : Walk where
  lines := walk.lines
  place := min (walk.place + 1) walk.lines.length
  inside := Nat.min_le_right _ _

def newer (walk : Walk) : Walk where
  lines := walk.lines
  place := walk.place - 1
  inside := Nat.le_trans (Nat.sub_le _ _) walk.inside

/-- The line that a use answers, and the walk after it. -/
def use (walk : Walk) : Use → Option String × Walk
  | .push line => (none, walk.record line)
  | .previous => (walk.older.line?, walk.older)
  | .next => (walk.newer.line?, walk.newer)

def after (uses : List Use) (walk : Walk) : Walk :=
  uses.foldl (fun walk use => (walk.use use).2) walk

/-- What is answered to uses in turn. -/
def answers : List Use → Walk → List (Option String)
  | [], _ => []
  | use :: rest, walk => (walk.use use).1 :: answers rest (walk.use use).2

/-- The history that is at the same place. -/
def history (walk : Walk) : History where
  entries := walk.lines
  stepsBack := match walk.place with
    | 0 => none
    | back + 1 => some back

end Walk

/-- The line that a use records. -/
def Use.recorded? : Use → Option String
  | .push line => some line
  | _ => none

/-- The line that a use answers, and the history after it. -/
def use (history : History) : Use → Option String × History
  | .push line => (none, history.push line)
  | .previous => history.previous
  | .next => history.next

def after (uses : List Use) (history : History) : History :=
  uses.foldl (fun history use => (history.use use).2) history

/-- What is answered to uses in turn. -/
def answers : List Use → History → List (Option String)
  | [], _ => []
  | use :: rest, history => (history.use use).1 :: answers rest (history.use use).2

/-! ### A history as a walk -/

theorem recalled?_eq_some {history : History} {back : Nat}
    (inside : back < history.entries.length) : history.recalled? back =
      some history.entries[history.entries.length - 1 - back] := by
  rw [recalled?, List.getElem?_reverse inside, List.getElem?_eq_getElem]

namespace Walk

theorem history_of_fresh {walk : Walk} (fresh : walk.place = 0) :
    walk.history = ⟨walk.lines, none⟩ := by
  simp [history, fresh]

theorem history_of_place {walk : Walk} {back : Nat} (here : walk.place = back + 1) :
    walk.history = ⟨walk.lines, some back⟩ := by
  simp [history, here]

theorem line?_of_fresh {walk : Walk} (fresh : walk.place = 0) : walk.line? = none := by
  simp [line?, fresh]

/-- The history counts the lines behind the newest, the walk the places behind the fresh line. -/
theorem line?_of_place {walk : Walk} {back : Nat} (here : walk.place = back + 1) :
    walk.line? = walk.history.recalled? back := by
  have inside := walk.inside
  have inEntries : back < walk.history.entries.length := by
    dsimp only [history]
    omega
  rw [recalled?_eq_some inEntries]
  have away : 0 < walk.place := by omega
  have sameIndex : walk.lines.length - walk.place = walk.lines.length - 1 - back := by omega
  rw [line?, dif_pos away]
  exact congrArg some (getElem_congr_idx sameIndex)

theorem previous_history (walk : Walk) :
    walk.history.previous = (walk.older.line?, walk.older.history) := by
  have inside := walk.inside
  by_cases noLine : walk.lines.length = 0
  · have fresh : walk.place = 0 := by omega
    have stillFresh : walk.older.place = 0 := by
      simp [older, noLine]
    rw [history_of_fresh fresh, history_of_fresh stillFresh, line?_of_fresh stillFresh]
    simp [previous, older, List.length_eq_zero_iff.mp noLine]
  · obtain ⟨first, rest, isList⟩ := List.exists_cons_of_length_pos (Nat.pos_of_ne_zero noLine)
    -- The walk stops at the oldest line where the history stops counting.
    obtain ⟨back, here⟩ : ∃ back, walk.older.place = back + 1 := by
      refine ⟨walk.older.place - 1, ?_⟩
      dsimp only [older]
      omega
    rw [line?_of_place here, history_of_place here]
    have isPlace : min (walk.place + 1) walk.lines.length = back + 1 := here
    cases place : walk.place with
    | zero =>
        have newest : back = 0 := by omega
        simp [history_of_fresh place, previous, isList, older, newest, recalled?]
    | succ current =>
        have capped : min (current + 1) (walk.lines.length - 1) = back := by omega
        rw [isList] at capped
        simp only [history_of_place place, previous, older, isList, capped, recalled?]

theorem next_history (walk : Walk) :
    walk.history.next = (walk.newer.line?, walk.newer.history) := by
  cases place : walk.place with
  | zero =>
      have stillFresh : walk.newer.place = 0 := by simp [newer, place]
      rw [history_of_fresh place, history_of_fresh stillFresh, line?_of_fresh stillFresh]
      rfl
  | succ current =>
      have here : walk.newer.place = current := by simp [newer, place]
      rw [history_of_place place]
      cases current with
      | zero =>
          rw [history_of_fresh here, line?_of_fresh here]
          rfl
      | succ back =>
          rw [line?_of_place here, history_of_place here]
          rfl

theorem push_history (walk : Walk) (line : String) :
    walk.history.push line = (walk.record line).history := rfl

/-- A use of the history is a step of the walk. -/
theorem use_history (walk : Walk) (use : Use) :
    walk.history.use use = ((walk.use use).1, (walk.use use).2.history) := by
  cases use with
  | push line => exact congrArg (Prod.mk none) (walk.push_history line)
  | previous => exact walk.previous_history
  | next => exact walk.next_history

theorem after_history (uses : List Use) (walk : Walk) :
    History.after uses walk.history = (walk.after uses).history := by
  induction uses generalizing walk with
  | nil => rfl
  | cons use rest ih =>
      have step : (walk.history.use use).2 = (walk.use use).2.history :=
        congrArg Prod.snd (walk.use_history use)
      rw [History.after, List.foldl_cons, step]
      exact ih (walk.use use).2

theorem answers_history (uses : List Use) (walk : Walk) :
    History.answers uses walk.history = walk.answers uses := by
  induction uses generalizing walk with
  | nil => rfl
  | cons use rest ih => rw [History.answers, Walk.answers, walk.use_history, ih]

theorem lines_after (uses : List Use) (walk : Walk) :
    (walk.after uses).lines = walk.lines ++ uses.filterMap Use.recorded? := by
  induction uses generalizing walk with
  | nil => simp [after]
  | cons use rest ih =>
      refine (ih (walk.use use).2).trans ?_
      cases use with
      | push line => simp [Walk.use, record, Use.recorded?]
      | previous => rfl
      | next => rfl

/-- The history never counts back beyond its oldest line. -/
theorem stepsBack_history {walk : Walk} {back : Nat}
    (recalled : walk.history.stepsBack = some back) : back < walk.history.entries.length := by
  have inside := walk.inside
  cases place : walk.place with
  | zero => simp [history_of_fresh place] at recalled
  | succ current =>
      have same : current = back := by simpa [history_of_place place] using recalled
      dsimp only [history]
      omega

end Walk

end History

/-! ### The history of a session -/

namespace Shell

/-- Anything that is done in a session: a step, or the recall of a line. -/
inductive Act where
  | take (step : Step)
  | previous
  | next

/-- The shell after something that is done in a session. -/
def act (now : Instant) (shell : Shell) : Act → Shell
  | .take step => (shell.take now step).shell
  | .previous => { shell with history := shell.history.previous.2 }
  | .next => { shell with history := shell.history.next.2 }

/-- The shell after what is done in a session, each thing at its own time. -/
def acted (acts : List (Instant × Act)) (shell : Shell) : Shell :=
  acts.foldl (fun shell act => shell.act act.1 act.2) shell

/-- The line that is executed, without the blanks around it, unless it is blank. -/
def Act.executed? : Act → Option String
  | .take (.execute line) => if Text.trim line = "" then none else some (Text.trim line)
  | _ => none

/-- The use that is made of the history. -/
def Act.use? : Act → Option History.Use
  | .previous => some .previous
  | .next => some .next
  | act => act.executed?.map .push

variable (now : Instant) (shell : Shell)

theorem history_perform {α : Type} (action : Action α) :
    (shell.perform action).2.history = shell.history := by
  unfold perform
  cases action shell.volume <;> rfl

theorem history_operate {α : Type} (operation : Change α) :
    (shell.operate operation).2.history = shell.history := by
  unfold operate
  cases operation shell.volume <;> rfl

theorem history_submit (line : String) :
    (shell.submit now line).2.history = shell.history.push line := by
  unfold submit
  dsimp only
  split
  next => rfl
  next parsed _ => exact history_perform _ _

theorem history_execute (line : String) :
    (shell.execute now line).shell.history =
      if Text.trim line = "" then shell.history else shell.history.push (Text.trim line) := by
  unfold execute
  dsimp only
  split
  next => rfl
  next => exact history_submit now shell _

theorem history_importText (text : String) :
    (shell.importText now text).shell.history = shell.history := by
  have kept := history_operate shell (Volume.importText now text)
  unfold importText
  dsimp only
  split <;> exact kept

/-- Of all steps only the execution of a line that is not blank reaches the history. -/
theorem history_act (act : Act) :
    (shell.act now act).history = shell.history.after act.use?.toList := by
  cases act with
  | previous => rfl
  | next => rfl
  | take step =>
      cases step with
      | execute line =>
          refine (history_execute now shell line).trans ?_
          dsimp only [Act.use?, Act.executed?]
          split <;> rfl
      | operate operation => exact history_operate shell _
      | importText text => exact history_importText now shell text
      | importChosen text =>
          cases text with
          | none => rfl
          | some text => exact history_importText now shell text
      | look look => rfl

theorem history_acted (acts : List (Instant × Act)) :
    (shell.acted acts).history = shell.history.after (acts.filterMap fun act => act.2.use?) := by
  induction acts generalizing shell with
  | nil => rfl
  | cons act rest ih =>
      refine (ih (shell.act act.1 act.2)).trans ?_
      rw [history_act]
      cases use : act.2.use? <;> simp [use, History.after]

theorem filterMap_recorded? (acts : List (Instant × Act)) :
    (acts.filterMap fun act => act.2.use?).filterMap History.Use.recorded? =
      acts.filterMap fun act => act.2.executed? := by
  rw [List.filterMap_filterMap]
  congr 1
  funext act
  cases act.2 with
  | take step =>
      cases executed : (Act.take step).executed? <;>
        simp [Act.use?, executed, History.Use.recorded?]
  | previous => rfl
  | next => rfl

open History in
/-- A history is used like a walk along its lines, whatever is recorded and recalled in whatever
order: the same lines are answered, and it is left at the same place, never beyond the oldest line.
The history of a session is left by the lines that were executed and by the recalls among them, and
its lines are the executed ones that are not blank, in order, without the blanks around them. -/
theorem history_walks (uses : List Use) (opened : Instant) (store : Store) (settings : Settings)
    (acts : List (Instant × Act)) :
    (History.answers uses {} = Walk.start.answers uses ∧
      History.after uses {} = (Walk.start.after uses).history ∧
      ∀ back, (History.after uses {}).stepsBack = some back →
        back < (History.after uses {}).entries.length) ∧
    let shell := (openOver opened store settings).acted acts
    shell.history = (Walk.start.after (acts.filterMap fun act => act.2.use?)).history ∧
      shell.history.entries = acts.filterMap fun act => act.2.executed? := by
  have fresh : ({} : History) = Walk.start.history := rfl
  refine ⟨?_, ?_⟩
  · rw [fresh, Walk.answers_history, Walk.after_history]
    exact ⟨rfl, rfl, fun back => Walk.stepsBack_history⟩
  · intro shell
    have walks : shell.history =
        (Walk.start.after (acts.filterMap fun act => act.2.use?)).history := by
      rw [← Walk.after_history, ← fresh]
      exact history_acted _ acts
    refine ⟨walks, ?_⟩
    rw [walks, ← filterMap_recorded?]
    exact Walk.lines_after _ Walk.start

-- The oldest line stays recalled, and a new line leads back to the fresh one.
example : History.answers [.push "a", .push "b", .previous, .previous, .previous, .next, .push "c",
    .next, .previous] {} =
      [none, none, some "b", some "a", some "a", some "b", none, none, some "c"] := by
  decide

end Shell

end TreeShell

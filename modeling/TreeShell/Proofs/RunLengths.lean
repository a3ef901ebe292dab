import Mathlib.Data.List.Chain
import TreeShell.Filter.Runs

/-!
# Lines and their runs

The runs of lines are taken apart again by repeating every line as often as it stands in a row. If
no run is empty and neighbouring runs have different lines, there is only one way to do this,
whichever end of the lines it starts from. Lines that are read one by one are put into runs by
counting up the last run or beginning another.
-/

namespace TreeShell

namespace Run

/-- The runs stand for the lines, and none of them is empty or could be longer. -/
structure Encode (lines : List String) (runs : List Run) : Prop where
  positive : ∀ run ∈ runs, 1 ≤ run.count
  apart : runs.IsChain fun run next => run.line ≠ next.line
  expands : expand runs = lines

/-- The runs of lines that go on with one more line. -/
def addLast (runs : List Run) (line : String) : List Run :=
  match runs.getLast? with
  | some last =>
      if last.line = line then runs.dropLast ++ [⟨last.count + 1, line⟩] else runs ++ [⟨1, line⟩]
  | none => [⟨1, line⟩]

variable {lines : List String} {runs : List Run} {line : String}

/-! ### Lines one by one -/

theorem addLast_same (front : List Run) (count : Nat) (line : String) :
    addLast (front ++ [⟨count, line⟩]) line = front ++ [⟨count + 1, line⟩] := by
  simp [addLast]

theorem addLast_different (front : List Run) {last : Run} (different : last.line ≠ line) :
    addLast (front ++ [last]) line = front ++ [last] ++ [⟨1, line⟩] := by
  simp [addLast, different]

theorem expand_append (front back : List Run) :
    expand (front ++ back) = expand front ++ expand back :=
  List.flatMap_append

theorem expand_singleton (run : Run) : expand [run] = List.replicate run.count run.line := by
  simp [expand]

theorem encode_nil : Encode [] [] :=
  ⟨fun _ member => (List.not_mem_nil member).elim, .nil, rfl⟩

/-- What is before the last run goes on with any run of the same line. -/
theorem isChain_last {front : List Run} {last other : Run}
    (apart : (front ++ [last]).IsChain fun run next => run.line ≠ next.line)
    (sameLine : other.line = last.line) :
    (front ++ [other]).IsChain fun run next => run.line ≠ next.line := by
  rw [List.isChain_append] at apart ⊢
  refine ⟨apart.1, .singleton _, ?_⟩
  intro run isLast next isNext
  cases isNext
  rw [sameLine]
  exact apart.2.2 run isLast last rfl

theorem Encode.addLast (encode : Encode lines runs) (line : String) :
    Encode (lines ++ [line]) (addLast runs line) := by
  obtain ⟨positive, apart, rfl⟩ := encode
  rcases List.eq_nil_or_concat runs with rfl | ⟨front, ⟨count, last⟩, rfl⟩
  · exact ⟨by simp [Run.addLast], .singleton _, rfl⟩
  rw [List.concat_eq_append] at positive apart ⊢
  have positiveFront : ∀ run ∈ front, 1 ≤ run.count := fun run member =>
    positive run (List.mem_append_left _ member)
  by_cases same : last = line
  · subst same
    rw [addLast_same]
    refine ⟨?_, isChain_last apart rfl, ?_⟩
    · intro run member
      rcases List.mem_append.mp member with inFront | isLast
      · exact positiveFront run inFront
      · rw [List.mem_singleton.mp isLast]
        exact Nat.succ_pos count
    · simp only [expand_append, expand_singleton, List.append_assoc, List.replicate_succ']
  · rw [addLast_different front same]
    refine ⟨?_, ?_, ?_⟩
    · intro run member
      rcases List.mem_append.mp member with earlier | isLast
      · exact positive run earlier
      · rw [List.mem_singleton.mp isLast]
    · rw [List.isChain_append]
      refine ⟨apart, .singleton _, ?_⟩
      intro run isLast next isNext
      rw [List.getLast?_concat] at isLast
      cases isLast
      cases isNext
      exact same
    · rw [expand_append, expand_singleton]
      rfl

/-- What runs stand for is followed by the lines that are read after them. -/
theorem Encode.foldl_addLast (encode : Encode lines runs) (more : List String) :
    Encode (lines ++ more) (more.foldl Run.addLast runs) := by
  induction more generalizing lines runs with
  | nil => rwa [List.append_nil]
  | cons line rest ih =>
      have grown := ih (encode.addLast line)
      rwa [List.append_assoc] at grown

/-! ### The only runs -/

/-- A line that is repeated before others makes a run of its own if these begin with another. -/
theorem ofLines_replicate_append (count : Nat)
    (apart : ∀ run ∈ (ofLines lines).head?, line ≠ run.line) :
    ofLines (List.replicate (count + 1) line ++ lines) = ⟨count + 1, line⟩ :: ofLines lines := by
  induction count with
  | zero =>
      change addLine line (ofLines lines) = _
      cases isRuns : ofLines lines with
      | nil => rfl
      | cons run rest =>
          have different : line ≠ run.line := apart run (by rw [isRuns]; rfl)
          exact if_neg different
  | succ count ih =>
      rw [List.replicate_succ, List.cons_append]
      change addLine line (ofLines _) = _
      rw [ih]
      exact if_pos rfl

theorem Encode.eq_ofLines (encode : Encode lines runs) : runs = ofLines lines := by
  obtain ⟨positive, apart, rfl⟩ := encode
  induction runs with
  | nil => rfl
  | cons run rest ih =>
      obtain ⟨count, line⟩ := run
      obtain ⟨somePositive, restPositive⟩ := List.forall_mem_cons.mp positive
      obtain ⟨headApart, restApart⟩ := List.isChain_cons.mp apart
      have sameRest : rest = ofLines (expand rest) := ih restPositive restApart
      have expanded : expand (⟨count, line⟩ :: rest) = List.replicate count line ++ expand rest :=
        List.flatMap_cons
      obtain ⟨before, rfl⟩ := Nat.exists_eq_add_of_le' somePositive
      rw [expanded, ofLines_replicate_append before (by rwa [← sameRest]), ← sameRest]

/-- Reading the lines one by one, from the front, makes the same runs. -/
theorem foldl_addLast_eq (lines : List String) : lines.foldl addLast [] = ofLines lines :=
  (encode_nil.foldl_addLast lines).eq_ofLines

theorem encode_ofLines (lines : List String) : Encode lines (ofLines lines) := by
  rw [← foldl_addLast_eq]
  exact encode_nil.foldl_addLast lines

theorem encode_map_line {runs : List Run}
    (apart : runs.IsChain fun run next => run.line ≠ next.line) :
    Encode (runs.map Run.line) (runs.map fun run => ⟨1, run.line⟩) := by
  refine ⟨?_, (List.isChain_map _).mpr apart, ?_⟩
  · simp
  · rw [expand, List.flatMap_map]
    exact List.map_eq_flatMap.symm

/-- Lines are encoded by exactly one list of runs, which is found by reading them from either end.
The lines of these runs do not repeat each other, so every run of them has the length 1. -/
theorem encode_iff_eq_ofLines (lines : List String) :
    (∀ runs, Encode lines runs ↔ runs = ofLines lines) ∧
      lines.foldl addLast [] = ofLines lines ∧
      ofLines ((ofLines lines).map Run.line) = (ofLines lines).map fun run => ⟨1, run.line⟩ := by
  refine ⟨fun runs => ⟨Encode.eq_ofLines, ?_⟩, foldl_addLast_eq lines, ?_⟩
  · rintro rfl
    exact encode_ofLines lines
  · exact (encode_map_line (encode_ofLines lines).apart).eq_ofLines.symm

example : ofLines ["a", "a", "", "a"] = [⟨2, "a"⟩, ⟨1, ""⟩, ⟨1, "a"⟩] := by decide

end Run

end TreeShell

import Mathlib.Data.List.Destutter
import Mathlib.Data.List.Sort
import Mathlib.Data.Prod.Lex
import Mathlib.Data.String.Basic
import TreeShell.Filter.Order

/-!
# Sorted lines

Of two lines one always stands before the other: lines are compared by their numbers, if these are
asked for, and lines with equal numbers by their code points. So there is one way to arrange some
lines, and it is the same, read backwards, when the order is reversed. In arranged lines equal ones
are neighbours, so that dropping what repeats the line before it leaves each line once.
-/

namespace TreeShell

/-! ### Runs -/

namespace Run

theorem exists_ofLines_cons (line : String) (rest : List String) :
    ∃ count runs, ofLines (line :: rest) = ⟨count, line⟩ :: runs := by
  change ∃ count runs, addLine line (ofLines rest) = ⟨count, line⟩ :: runs
  cases ofLines rest with
  | nil => exact ⟨1, [], rfl⟩
  | cons run runs =>
      simp only [addLine]
      split
      next same => exact ⟨run.count + 1, runs, by rw [same]⟩
      next => exact ⟨1, run :: runs, rfl⟩

/-- The lines of the runs are those that do not repeat the line before them. -/
theorem map_line_ofLines (lines : List String) :
    (ofLines lines).map line = lines.destutter (· ≠ ·) := by
  cases lines with
  | nil => rfl
  | cons first rest =>
      rw [List.destutter_cons']
      induction rest generalizing first with
      | nil => rfl
      | cons second rest ih =>
          obtain ⟨count, runs, begins⟩ := exists_ofLines_cons second rest
          have later := ih second
          have added : ofLines (first :: second :: rest) =
              addLine first (⟨count, second⟩ :: runs) := congrArg (addLine first) begins
          rw [begins] at later
          rw [added, List.destutter'_cons]
          by_cases same : first = second
          · subst same
            simpa [addLine] using later
          · simpa [addLine, same] using later

end Run

namespace LineOrder

variable (order : LineOrder) (lines : List String)

/-! ### The comparison -/

/-- What lines are compared by. -/
def rank (line : String) : Int ×ₗ String :=
  toLex (if order.numeric then leadingNumber line else 0, line)

theorem rank_injective : Function.Injective order.rank := by
  intro left right same
  exact congrArg (fun rank => (ofLex rank).2) same

theorem precedes_iff_rank_le {left right : String} :
    order.precedes left right = true ↔ order.rank left ≤ order.rank right := by
  unfold precedes rank
  rw [Prod.Lex.toLex_le_toLex]
  cases order.numeric <;> simp

theorem isLinearOrder_precedes :
    IsLinearOrder String fun left right => order.precedes left right = true where
  refl line := order.precedes_iff_rank_le.mpr le_rfl
  trans first second third front back := by
    rw [precedes_iff_rank_le] at *
    exact front.trans back
  antisymm left right before after := by
    rw [precedes_iff_rank_le] at *
    exact order.rank_injective (before.antisymm after)
  total left right := by
    rw [precedes_iff_rank_le, precedes_iff_rank_le]
    exact le_total _ _

/-- Whether a line may stand before another one in the direction of the order. -/
def Before (left right : String) : Prop :=
  if order.reversed then order.precedes right left = true else order.precedes left right = true

theorem Before.antisymm {left right : String} (before : order.Before left right)
    (after : order.Before right left) : left = right := by
  have isOrder := order.isLinearOrder_precedes
  unfold Before at before after
  split at before
  next reversed =>
    rw [if_pos reversed] at after
    exact isOrder.antisymm left right after before
  next forward =>
    rw [if_neg forward] at after
    exact isOrder.antisymm left right before after

instance antisymm_before : Std.Antisymm order.Before :=
  ⟨fun _ _ => Before.antisymm order⟩

/-! ### The arrangement -/

/-- The lines in their order, with repetitions. -/
def arranged : List String :=
  if order.reversed then (lines.mergeSort order.precedes).reverse
  else lines.mergeSort order.precedes

theorem perm_arranged : (order.arranged lines).Perm lines := by
  unfold arranged
  split
  · exact (List.reverse_perm _).trans (List.mergeSort_perm _ _)
  · exact List.mergeSort_perm _ _

theorem pairwise_arranged : (order.arranged lines).Pairwise order.Before := by
  have isOrder := order.isLinearOrder_precedes
  have inOrder := List.pairwise_mergeSort isOrder.trans
    (fun left right => by simpa using isOrder.total left right) lines
  unfold arranged Before
  split
  · rw [List.pairwise_reverse]
    exact inOrder
  · exact inOrder

theorem sort_eq_dedup : order.sort lines =
    if order.distinct then (order.arranged lines).dedup else order.arranged lines := by
  change (if order.distinct then (Run.ofLines (order.arranged lines)).map Run.line
    else order.arranged lines) = _
  rw [Run.map_line_ofLines, (order.pairwise_arranged lines).destutter_eq_dedup]

theorem pairwise_sort : (order.sort lines).Pairwise order.Before := by
  have inOrder := order.pairwise_arranged lines
  rw [sort_eq_dedup]
  split
  · exact inOrder.sublist (List.dedup_sublist _)
  · exact inOrder

theorem perm_sort : (order.sort lines).Perm (if order.distinct then lines.dedup else lines) := by
  rw [sort_eq_dedup]
  split
  · exact (order.perm_arranged lines).dedup
  · exact order.perm_arranged lines

theorem sort_reversed : { order with reversed := true }.sort lines =
    ({ order with reversed := false }.sort lines).reverse := by
  have backwards := { order with reversed := true }.perm_sort lines
  have forwards := { order with reversed := false }.perm_sort lines
  have turned := { order with reversed := false }.pairwise_sort lines
  refine List.Perm.eq_of_pairwise
    (fun _ _ _ _ => Before.antisymm { order with reversed := true })
    ({ order with reversed := true }.pairwise_sort lines) ?_
    (backwards.trans (forwards.symm.trans (List.reverse_perm _).symm))
  rw [List.pairwise_reverse]
  exact turned

theorem mem_sort {line : String} : line ∈ order.sort lines ↔ line ∈ lines := by
  rw [(order.perm_sort lines).mem_iff]
  split
  · exact List.mem_dedup
  · rfl

/-- Wherever the two lines occur, the first one comes before the second one. -/
def AllBefore (lines : List String) (first second : String) : Prop :=
  ∀ i j : Nat, lines[i]? = some first → lines[j]? = some second → i < j

theorem allBefore_sort_iff {first second : String} (isThere : first ∈ lines)
    (isThere' : second ∈ lines) : AllBefore (order.sort lines) first second ↔
      first ≠ second ∧ order.Before first second := by
  have inOrder := order.pairwise_sort lines
  rw [← order.mem_sort] at isThere isThere'
  have before : ∀ {i j : Nat} {earlier later : String}, (order.sort lines)[i]? = some earlier →
      (order.sort lines)[j]? = some later → i < j → order.Before earlier later := by
    intro i j earlier later atFirst atSecond less
    obtain ⟨inside, rfl⟩ := List.getElem?_eq_some_iff.mp atFirst
    obtain ⟨inside', rfl⟩ := List.getElem?_eq_some_iff.mp atSecond
    exact List.pairwise_iff_getElem.mp inOrder i j inside inside' less
  constructor
  · intro allBefore
    obtain ⟨i, atFirst⟩ := List.mem_iff_getElem?.mp isThere
    obtain ⟨j, atSecond⟩ := List.mem_iff_getElem?.mp isThere'
    refine ⟨?_, before atFirst atSecond (allBefore i j atFirst atSecond)⟩
    rintro rfl
    exact lt_irrefl i (allBefore i i atFirst atFirst)
  · rintro ⟨different, mayStand⟩ i j atFirst atSecond
    rcases Nat.lt_trichotomy i j with less | rfl | greater
    · exact less
    · exact absurd (Option.some.inj (atFirst.symm.trans atSecond)) different
    · exact absurd (mayStand.antisymm order (before atSecond atFirst greater)) different

/-- For every list of lines and every order the comparison of lines is a linear order: by leading
numbers, if these are asked for, and then by code points. The sorted lines follow this order in its
direction, and they are the given lines, or each of them once if repetitions are dropped. Reversing
the order reverses the result, and dropping repetitions is what the runs of the lines do. -/
theorem arranges_sort :
    IsLinearOrder String (fun left right => order.precedes left right = true) ∧
    (∀ left right, order.precedes left right = true ↔
      order.numeric = true ∧ leadingNumber left < leadingNumber right ∨
        (order.numeric = true → leadingNumber left = leadingNumber right) ∧
          left.toList ≤ right.toList) ∧
    (order.sort lines).Pairwise (fun left right =>
      if order.reversed then order.precedes right left = true
      else order.precedes left right = true) ∧
    (if order.distinct then
        (order.sort lines).Nodup ∧ ∀ line, line ∈ order.sort lines ↔ line ∈ lines
      else (order.sort lines).Perm lines) ∧
    { order with reversed := true }.sort lines =
      ({ order with reversed := false }.sort lines).reverse ∧
    { order with distinct := true }.sort lines =
      ((Run.ofLines ({ order with distinct := false }.sort lines)).map Run.line) ∧
    { order with distinct := true }.sort lines =
      ({ order with distinct := false }.sort lines).destutter (· ≠ ·) := by
  have sameLines := order.perm_sort lines
  refine ⟨order.isLinearOrder_precedes, ?_, order.pairwise_sort lines, ?_,
    order.sort_reversed lines, rfl, Run.map_line_ofLines _⟩
  · intro left right
    rw [precedes_iff_rank_le, rank, rank, Prod.Lex.toLex_le_toLex, ← String.le_iff_toList_le]
    cases order.numeric <;> simp
  · split
    next distinct =>
      rw [if_pos distinct] at sameLines
      exact ⟨sameLines.symm.nodup (List.nodup_dedup lines), fun line => order.mem_sort lines⟩
    next repeated =>
      rwa [if_neg repeated] at sameLines

end LineOrder

end TreeShell

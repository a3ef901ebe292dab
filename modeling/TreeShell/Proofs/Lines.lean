import TreeShell.Proofs.Paths
import TreeShell.Text.Lines

/-!
# Lines joined and cut again

Joined lines have a line feed between neighbours and none at the end. Cut into lines again, they
lose an empty line at the end, of which nothing is left, and a carriage return at the end of every
other line, which is read as a part of the line feed after it. Everything else comes back.
-/

namespace TreeShell.Text

/-! ### Lines of a text -/

theorem dropReturn_append (front : List Char) (c : Char) :
    dropReturn (front ++ [c]) = if c = '\r' then front else front ++ [c] := by
  by_cases isReturn : c = '\r'
  · simp [dropReturn, beforeBack?, afterFront?, isReturn]
  · simp [dropReturn, beforeBack?, afterFront?, isReturn, Ne.symm isReturn]

theorem dropReturn_prefix (line : List Char) : dropReturn line <+: line := by
  rcases List.eq_nil_or_concat line with rfl | ⟨front, c, rfl⟩
  · exact List.prefix_rfl
  · rw [List.concat_eq_append, dropReturn_append]
    split
    · exact List.prefix_append front [c]
    · exact List.prefix_rfl

theorem dropReturn_eq_self_iff {line : List Char} :
    dropReturn line = line ↔ line.getLast? ≠ some '\r' := by
  rcases List.eq_nil_or_concat line with rfl | ⟨front, c, rfl⟩
  · exact iff_of_true rfl (by simp)
  · rw [List.concat_eq_append, dropReturn_append]
    by_cases isReturn : c = '\r' <;> simp [isReturn]

/-- Lines hold no line feed. -/
def AreLines (lines : List String) : Prop := ∀ line ∈ lines, '\n' ∉ line.toList

theorem exists_piece_of_mem_linesOfPieces {line : List Char} {pieces : List (List Char)}
    (member : line ∈ linesOfPieces pieces) : ∃ piece ∈ pieces, line <+: piece := by
  induction pieces with
  | nil => cases member
  | cons piece rest ih =>
      cases rest with
      | nil =>
          simp only [linesOfPieces] at member
          split at member
          · cases member
          · exact ⟨piece, List.mem_cons_self, List.mem_singleton.mp member ▸ List.prefix_rfl⟩
      | cons next rest =>
          rcases List.mem_cons.mp member with rfl | later
          · exact ⟨piece, List.mem_cons_self, dropReturn_prefix piece⟩
          · obtain ⟨other, isPiece, isFront⟩ := ih later
            exact ⟨other, List.mem_cons_of_mem _ isPiece, isFront⟩

theorem areLines_lines (text : String) : AreLines (lines text) := by
  intro line member
  obtain ⟨chars, isLine, rfl⟩ := List.mem_map.mp member
  obtain ⟨piece, isPiece, isFront⟩ := exists_piece_of_mem_linesOfPieces isLine
  rw [String.toList_ofList]
  exact fun feed => not_mem_of_mem_splitOn isPiece (isFront.subset feed)

/-! ### Joined lines -/

/-- What lines become that are joined and cut again. -/
def handedOn : List String → List String
  | [] => []
  | [last] => if last = "" then [] else [last]
  | line :: next :: rest => String.ofList (dropReturn line.toList) :: handedOn (next :: rest)

theorem map_linesOfPieces (lines : List String) :
    (linesOfPieces (lines.map String.toList)).map String.ofList = handedOn lines := by
  induction lines with
  | nil => rfl
  | cons line rest ih =>
      cases rest with
      | nil => by_cases empty : line = "" <;> simp [linesOfPieces, handedOn, empty]
      | cons next rest => simpa [linesOfPieces, handedOn] using ih

theorem lines_unlines {selected : List String} (areLines : AreLines selected) :
    lines (unlines selected) = handedOn selected := by
  by_cases none : selected = []
  · subst none
    rfl
  · have pieces : splitOn '\n' (unlines selected).toList = selected.map String.toList := by
      rw [unlines, String.toList_intercalate, splitOn_eq]
      refine List.splitOn_intercalate '\n' ?_ (by simpa using none)
      intro piece member
      obtain ⟨line, isLine, rfl⟩ := List.mem_map.mp member
      exact areLines line isLine
    rw [lines, pieces, map_linesOfPieces]

/-- Lines come back as they were exactly if the last one is not empty and no other one ends with a
carriage return. -/
theorem handedOn_eq_self_iff {lines : List String} : handedOn lines = lines ↔
    lines.getLast? ≠ some "" ∧ ∀ line ∈ lines.dropLast, line.toList.getLast? ≠ some '\r' := by
  induction lines with
  | nil => simp [handedOn]
  | cons line rest ih =>
      cases rest with
      | nil => by_cases empty : line = "" <;> simp [handedOn, empty]
      | cons next rest =>
          have kept : String.ofList (dropReturn line.toList) = line ↔
              line.toList.getLast? ≠ some '\r' := by
            rw [← dropReturn_eq_self_iff, ← String.toList_inj, String.toList_ofList]
          simp only [handedOn, List.cons.injEq, kept, ih, List.getLast?_cons_cons,
            List.dropLast_cons_cons, List.forall_mem_cons]
          exact and_left_comm

theorem length_handedOn (lines : List String) : (handedOn lines).length =
    lines.length - if lines.getLast? = some "" then 1 else 0 := by
  induction lines with
  | nil => simp [handedOn]
  | cons line rest ih =>
      cases rest with
      | nil => by_cases empty : line = "" <;> simp [handedOn, empty]
      | cons next rest =>
          rw [handedOn, List.length_cons, ih, List.getLast?_cons_cons]
          split <;> simp

end TreeShell.Text

import TreeShell.Proofs.Json.Scalars
import TreeShell.Proofs.Json.Values

/-!
# Reading what was written

A written value is read back if and only if its arrays and objects are not nested too deeply, and
what is read has the same parts with the keys of every object put in order. The layout makes no
difference, as long as it consists of blanks.
-/

namespace TreeShell

theorem toOption_bind {ε α β : Type} (first : Except ε α) (next : α → Except ε β) :
    (first >>= next).toOption = first.toOption.bind fun value => (next value).toOption := by
  cases first <;> rfl

theorem toOption_eq_some_iff {ε α : Type} {result : Except ε α} {value : α} :
    result.toOption = some value ↔ result = .ok value := by
  cases result <;> simp [Except.toOption]

namespace Json

/-! ### Depth and order -/

mutual

/-- How deep arrays and objects are nested in a value. -/
def depth : Json → Nat
  | null => 0
  | bool _ => 0
  | number _ => 0
  | string _ => 0
  | array elements => depthOfElements elements + 1
  | object members => depthOfMembers members + 1

/-- The greatest depth of some elements. -/
def depthOfElements : List Json → Nat
  | [] => 0
  | element :: others => max (depth element) (depthOfElements others)

/-- The greatest depth of the values of some members. -/
def depthOfMembers : List (String × Json) → Nat
  | [] => 0
  | (_, value) :: others => max (depth value) (depthOfMembers others)

end

theorem depthOfElements_le_iff {elements : List Json} {limit : Nat} :
    depthOfElements elements ≤ limit ↔ ∀ element ∈ elements, element.depth ≤ limit := by
  induction elements with
  | nil => simp [depthOfElements]
  | cons element others ih => rw [depthOfElements, Nat.max_le, ih, List.forall_mem_cons]

theorem depthOfMembers_le_iff {members : List (String × Json)} {limit : Nat} :
    depthOfMembers members ≤ limit ↔ ∀ member ∈ members, member.2.depth ≤ limit := by
  induction members with
  | nil => simp [depthOfMembers]
  | cons member others ih =>
      obtain ⟨key, value⟩ := member
      rw [depthOfMembers, Nat.max_le, ih, List.forall_mem_cons]

theorem depth_lt_of_mem_parts {value part : Json} (isPart : part ∈ value.parts) :
    part.depth < value.depth := by
  cases value with
  | array elements =>
      rw [depth, Nat.lt_succ_iff]
      exact depthOfElements_le_iff.mp (Nat.le_refl _) part isPart
  | object members =>
      obtain ⟨member, isMember, rfl⟩ := List.mem_map.mp isPart
      rw [depth, Nat.lt_succ_iff]
      exact depthOfMembers_le_iff.mp (Nat.le_refl _) member isMember
  | _ => exact absurd isPart List.not_mem_nil

theorem depth_eq_zero_of_isScalar {value : Json} (isScalar : value.IsScalar) :
    value.depth = 0 := by
  cases value with
  | array => exact isScalar.elim
  | object => exact isScalar.elim
  | _ => rfl

theorem depth_le_of_readValue (limit depth : Nat) :
    (readValue limit depth).Yields fun value => value.depth ≤ depth := by
  refine yields_readValue (fun depth value => value.depth ≤ depth) ?_ ?_ ?_ limit depth
  · intro depth value isScalar
    rw [depth_eq_zero_of_isScalar isScalar]
    exact Nat.zero_le depth
  · intro depth elements below
    rw [Json.depth]
    exact Nat.succ_le_succ (depthOfElements_le_iff.mpr below)
  · intro depth members below
    rw [Json.depth]
    refine Nat.succ_le_succ (depthOfMembers_le_iff.mpr ?_)
    exact fun member isMember => below member (Entries.mem_of_mem_ofList isMember)

/-- What is read is nested at most as deep as the reader allows. -/
theorem depth_le_of_read {text : String} {value : Json} (isRead : read text = .ok value) :
    value.depth ≤ depthLimit := by
  obtain ⟨limit, rest, isValue⟩ := exists_readValue_of_read isRead
  exact depth_le_of_readValue limit depthLimit _ _ _ isValue

mutual

/-- The value with the keys of every object in order. -/
def arranged : Json → Json
  | null => null
  | bool value => bool value
  | number value => number value
  | string text => string text
  | array elements => array (arrangedElements elements)
  | object members => object (Entries.ofList (arrangedMembers members))

/-- Elements with the keys of every object in order. -/
def arrangedElements : List Json → List Json
  | [] => []
  | element :: others => arranged element :: arrangedElements others

/-- Members whose values have the keys of every object in order. -/
def arrangedMembers : List (String × Json) → List (String × Json)
  | [] => []
  | (key, value) :: others => (key, arranged value) :: arrangedMembers others

end

/-- Values all of whose numbers are natural numbers of 64 bits. -/
inductive Plain : Json → Prop where
  | null : Plain .null
  | bool (value : Bool) : Plain (.bool value)
  | number {value : Nat} (fits : value < 1 <<< 64) : Plain (.number (.natural value))
  | string (text : String) : Plain (.string text)
  | array {elements : List Json} (below : ∀ element ∈ elements, Plain element) :
      Plain (.array elements)
  | object {members : List (String × Json)} (below : ∀ member ∈ members, Plain member.2) :
      Plain (.object members)

/-- Layouts that consist of blanks. -/
structure Layout.Blank (layout : Layout) : Prop where
  breakAt : ∀ level, ∀ c ∈ layout.breakAt level, isSpace c = true
  afterColon : ∀ c ∈ layout.afterColon, isSpace c = true

theorem Layout.blank_compact : Layout.compact.Blank where
  breakAt _ _ member := absurd member List.not_mem_nil
  afterColon _ member := absurd member List.not_mem_nil

theorem Layout.blank_indented : Layout.indented.Blank where
  breakAt level c member := by
    rcases List.mem_cons.mp member with isLineEnd | isBlank
    · rw [isLineEnd]
      rfl
    · rw [List.eq_of_mem_replicate isBlank]
      rfl
  afterColon c member := by
    rw [List.mem_singleton.mp member]
    rfl

/-! ### Blanks -/

theorem skipSpace_append {before : List Char} (areSpaces : ∀ c ∈ before, isSpace c = true)
    {c : Char} (notSpace : isSpace c = false) (rest : List Char) :
    skipSpace (before ++ c :: rest) = c :: rest := by
  rw [skipSpace, List.dropWhile_append_of_pos areSpaces, List.dropWhile_cons, notSpace]
  rfl

theorem skipSpace_cons {c : Char} (notSpace : isSpace c = false) (rest : List Char) :
    skipSpace (c :: rest) = c :: rest := by
  rw [skipSpace, List.dropWhile_cons, notSpace]
  rfl

/-- Blanks and a closing bracket end a number. -/
theorem endsNumber_append {before : List Char} (areSpaces : ∀ c ∈ before, isSpace c = true)
    {c : Char} {rest : List Char} (ends : EndsNumber (c :: rest)) :
    EndsNumber (before ++ c :: rest) := by
  cases before with
  | nil => exact ends
  | cons first more =>
      have isSpace := areSpaces first List.mem_cons_self
      have blanks : first = ' ' ∨ first = '\n' ∨ first = '\t' ∨ first = '\r' := by
        simpa [Json.isSpace, or_assoc] using isSpace
      rcases blanks with rfl | rfl | rfl | rfl
      all_goals exact endsNumber_cons (by decide) (by decide) _

variable {layout : Layout}

theorem endsNumber_printElements (blank : layout.Blank) (level : Nat) (elements : List Json)
    (rest : List Char) : EndsNumber (printElements layout level elements rest) := by
  cases elements with
  | nil =>
      rw [printElements]
      exact endsNumber_append (blank.breakAt level) (endsNumber_cons (by decide) (by decide) _)
  | cons element others =>
      rw [printElements]
      exact endsNumber_cons (by decide) (by decide) _

theorem endsNumber_printMembers (blank : layout.Blank) (level : Nat)
    (members : List (String × Json)) (rest : List Char) :
    EndsNumber (printMembers layout level members rest) := by
  cases members with
  | nil =>
      rw [printMembers]
      exact endsNumber_append (blank.breakAt level) (endsNumber_cons (by decide) (by decide) _)
  | cons member others =>
      rw [printMembers]
      exact endsNumber_cons (by decide) (by decide) _

/-! ### Room -/

/-- A value is written in front of a rest, which so is the shorter text. -/
def Lengthens (layout : Layout) (value : Json) : Prop :=
  ∀ level rest, rest.length < (print layout level value rest).length

theorem length_lt_printElements {elements : List Json}
    (lengthen : ∀ element ∈ elements, Lengthens layout element) (level : Nat) (rest : List Char) :
    rest.length < (printElements layout level elements rest).length := by
  induction elements with
  | nil =>
      rw [printElements, List.length_append, List.length_cons]
      omega
  | cons element others ih =>
      have later := ih fun other member => lengthen other (List.mem_cons_of_mem _ member)
      have here := lengthen element List.mem_cons_self (level + 1)
        (printElements layout level others rest)
      rw [printElements, List.length_cons, List.length_append]
      omega

theorem length_lt_printMembers {members : List (String × Json)}
    (lengthen : ∀ member ∈ members, Lengthens layout member.2) (level : Nat) (rest : List Char) :
    rest.length < (printMembers layout level members rest).length := by
  induction members with
  | nil =>
      rw [printMembers, List.length_append, List.length_cons]
      omega
  | cons member others ih =>
      obtain ⟨key, value⟩ := member
      have later := ih fun other isOther => lengthen other (List.mem_cons_of_mem _ isOther)
      have here : Lengthens layout value := lengthen _ List.mem_cons_self
      have afterValue := here (level + 1) (printMembers layout level others rest)
      have quoted := length_lt_printString key (':' :: (layout.afterColon ++
        print layout (level + 1) value (printMembers layout level others rest)))
      rw [List.length_cons, List.length_append] at quoted
      rw [printMembers, List.length_cons, List.length_append]
      omega

theorem lengthens (layout : Layout) {value : Json} (plain : value.Plain) :
    Lengthens layout value := by
  induction plain with
  | null =>
      intro level rest
      rw [print, List.length_append]
      exact Nat.lt_add_of_pos_left (by decide)
  | bool value =>
      intro level rest
      cases value
      all_goals
        rw [print, List.length_append]
        exact Nat.lt_add_of_pos_left (by decide)
  | @number value fits =>
      intro level rest
      have digits := Nat.length_toDigits_pos (b := 10) (n := value)
      simpa [print, Number.text] using digits
  | string text => exact fun level rest => length_lt_printString text rest
  | @array elements below ih =>
      intro level rest
      cases elements with
      | nil =>
          rw [print, List.length_cons, List.length_cons]
          omega
      | cons first others =>
          have later := length_lt_printElements (fun other member =>
            ih other (List.mem_cons_of_mem _ member)) level rest
          have here := ih first List.mem_cons_self (level + 1)
            (printElements layout level others rest)
          rw [print, List.length_cons, List.length_append]
          omega
  | @object members below ih =>
      intro level rest
      cases members with
      | nil =>
          rw [print, List.length_cons, List.length_cons]
          omega
      | cons member others =>
          obtain ⟨key, value⟩ := member
          have later := length_lt_printMembers (fun other isOther =>
            ih other (List.mem_cons_of_mem _ isOther)) level rest
          have here : Lengthens layout value := ih _ List.mem_cons_self
          have afterValue := here (level + 1) (printMembers layout level others rest)
          have quoted := length_lt_printString key (':' :: (layout.afterColon ++
            print layout (level + 1) value (printMembers layout level others rest)))
          rw [List.length_cons, List.length_append] at quoted
          rw [print, List.length_cons, List.length_append]
          omega

/-! ### Values without parts -/

/-- A value that is read back from where it is written, wherever that is, if and only if it is not
nested too deeply. -/
def Returns (layout : Layout) (limit : Nat) (value : Json) : Prop :=
  ∀ level before rest depth, (∀ c ∈ before, isSpace c = true) → EndsNumber rest →
    (print layout level value rest).length < limit →
    (readValue limit depth (before ++ print layout level value rest)).toOption =
      if value.depth ≤ depth then some (value.arranged, rest) else none

theorem readWith_append {limit : Nat} {nested : Option (Reader Json)} {before : List Char}
    (areSpaces : ∀ c ∈ before, isSpace c = true) {c : Char} (notSpace : isSpace c = false)
    (rest : List Char) :
    readWith limit nested (before ++ c :: rest) = readWith limit nested (c :: rest) := by
  simp only [readWith, skipSpace_append areSpaces notSpace, skipSpace_cons notSpace]

/-- A value without parts is read back at every depth. -/
theorem returns_of_readWith {limit : Nat} {value : Json} (scalar : value.depth = 0)
    (same : value.arranged = value)
    (isRead : ∀ level before rest nested, (∀ c ∈ before, isSpace c = true) → EndsNumber rest →
      (print layout level value rest).length < limit →
      readWith limit nested (before ++ print layout level value rest) = .ok (value, rest)) :
    Returns layout limit value := by
  intro level before rest depth areSpaces ends room
  rw [scalar, if_pos (Nat.zero_le _), same]
  cases depth with
  | zero =>
      rw [readValue, isRead level before rest none areSpaces ends room]
      rfl
  | succ depth =>
      rw [readValue, isRead level before rest _ areSpaces ends room]
      rfl

theorem returns_null (limit : Nat) : Returns layout limit .null := by
  apply returns_of_readWith (by rw [depth]) (by rw [arranged])
  intro level before rest nested areSpaces _ _
  rw [print]
  exact readWith_append areSpaces (by decide) ('u' :: 'l' :: 'l' :: rest)

theorem returns_bool (limit : Nat) (value : Bool) : Returns layout limit (.bool value) := by
  apply returns_of_readWith (by rw [depth]) (by rw [arranged])
  intro level before rest nested areSpaces _ _
  cases value with
  | false =>
      rw [print]
      exact readWith_append areSpaces (by decide) ('a' :: 'l' :: 's' :: 'e' :: rest)
  | true =>
      rw [print]
      exact readWith_append areSpaces (by decide) ('r' :: 'u' :: 'e' :: rest)

theorem returns_string (limit : Nat) (text : String) : Returns layout limit (.string text) := by
  apply returns_of_readWith (by rw [depth]) (by rw [arranged])
  intro level before rest nested areSpaces _ room
  rw [print] at room ⊢
  obtain ⟨quoted, isString⟩ : ∃ quoted, printString text rest = '"' :: quoted := ⟨_, rfl⟩
  rw [isString] at room ⊢
  rw [List.length_cons] at room
  have isRead := readString_printString isString (by omega : quoted.length < limit)
  rw [readWith_append areSpaces (by decide), readWith, skipSpace_cons (by decide)]
  simp [isRead, bind, Except.bind, pure, Except.pure]

theorem returns_number (limit : Nat) {value : Nat} (fits : value < 1 <<< 64) :
    Returns layout limit (.number (.natural value)) := by
  apply returns_of_readWith (by rw [depth]) (by rw [arranged])
  intro level before rest nested areSpaces ends _
  have written : print layout level (.number (.natural value)) rest =
      Nat.toDigits 10 value ++ rest := by
    simp [print, Number.text]
  have isRead := readNumber_toDigits fits ends
  rw [written]
  cases digits : Nat.toDigits 10 value with
  | nil => exact absurd digits Nat.toDigits_ne_nil
  | cons c others =>
      have isDigit : c.isDigit = true := Nat.isDigit_of_mem_toDigits (b := 10) (n := value)
        (by decide) (by decide) (digits ▸ List.mem_cons_self)
      rw [digits, List.cons_append] at isRead
      rw [List.cons_append]
      obtain ⟨digit, small, rfl⟩ := Text.eq_digitChar_of_isDigit isDigit
      have starts : ∀ digit : Fin 10, isSpace (Nat.digitChar digit) = false ∧
          Nat.digitChar digit ≠ 'n' ∧ Nat.digitChar digit ≠ 't' ∧ Nat.digitChar digit ≠ 'f' ∧
          Nat.digitChar digit ≠ '"' ∧ Nat.digitChar digit ≠ '-' := by decide
      obtain ⟨notSpace, notN, notT, notF, notQuote, notMinus⟩ := starts ⟨digit, small⟩
      have digitSome : (Text.digit? (Nat.digitChar digit)).isSome = true := by
        rw [Text.isSome_digit?, isDigit]
      rw [readWith_append areSpaces notSpace, readWith, skipSpace_cons notSpace]
      simp only [if_neg notN, if_neg notT, if_neg notF, if_neg notQuote, if_neg notMinus,
        if_pos digitSome, isRead, bind, Except.bind, pure, Except.pure]

/-- A value in brackets is read by reading its parts one level further down. -/
theorem returns_of_parts {α : Type} (opening : Char) (build : α → Json)
    (readParts : (depth : Nat) → Reader α) {limit innerDepth : Nat} {value : Json} {parts : α}
    (notSpace : isSpace opening = false) (isDepth : value.depth = innerDepth + 1)
    (isArranged : value.arranged = build parts)
    (exhausted : ∀ text, (readWith limit none (opening :: text)).toOption = none)
    (oneMore : ∀ depth text, readWith limit (some (readValue limit depth)) (opening :: text) =
      readParts depth text >>= fun read => pure (build read.1, read.2))
    (isRead : ∀ level rest depth, (print layout level value rest).length < limit →
      ∃ text, print layout level value rest = opening :: text ∧
        (readParts depth text).toOption =
          if innerDepth ≤ depth then some (parts, rest) else none) :
    Returns layout limit value := by
  intro level before rest depth areSpaces _ room
  obtain ⟨text, starts, partsRead⟩ := isRead level rest (depth - 1) room
  rw [isDepth, isArranged, starts]
  cases depth with
  | zero => rw [readValue, readWith_append areSpaces notSpace, exhausted, if_neg (by omega)]
  | succ depth =>
      rw [Nat.add_sub_cancel] at partsRead
      rw [readValue, readWith_append areSpaces notSpace, oneMore, toOption_bind, partsRead]
      by_cases fits : innerDepth ≤ depth
      · rw [if_pos fits, if_pos (by omega)]
        rfl
      · rw [if_neg fits, if_neg (by omega)]
        rfl

/-! ### Arrays -/

/-- A written value begins with a character that is neither a blank nor a closing bracket. -/
theorem print_eq_cons (layout : Layout) {value : Json} (plain : value.Plain) (level : Nat)
    (rest : List Char) :
    ∃ c more, print layout level value rest = c :: more ∧ isSpace c = false ∧ c ≠ ']' := by
  cases plain with
  | null => exact ⟨'n', _, by rw [print]; rfl, by decide, by decide⟩
  | bool value =>
      cases value with
      | false => exact ⟨'f', _, by rw [print]; rfl, by decide, by decide⟩
      | true => exact ⟨'t', _, by rw [print]; rfl, by decide, by decide⟩
  | @number value fits =>
      cases digits : Nat.toDigits 10 value with
      | nil => exact absurd digits Nat.toDigits_ne_nil
      | cons c others =>
          have isDigit : c.isDigit = true := Nat.isDigit_of_mem_toDigits (b := 10) (n := value)
            (by decide) (by decide) (digits ▸ List.mem_cons_self)
          obtain ⟨digit, small, rfl⟩ := Text.eq_digitChar_of_isDigit isDigit
          have starts : ∀ digit : Fin 10, isSpace (Nat.digitChar digit) = false ∧
              Nat.digitChar digit ≠ ']' := by decide
          obtain ⟨notSpace, notBracket⟩ := starts ⟨digit, small⟩
          exact ⟨_, others ++ rest, by simp [print, Number.text, digits], notSpace, notBracket⟩
  | string text => exact ⟨'"', _, by rw [print]; rfl, by decide, by decide⟩
  | @array elements below =>
      cases elements with
      | nil => exact ⟨'[', _, by rw [print], by decide, by decide⟩
      | cons first others => exact ⟨'[', _, by rw [print], by decide, by decide⟩
  | @object members below =>
      cases members with
      | nil => exact ⟨'\x7b', _, by rw [print], by decide, by decide⟩
      | cons first others => exact ⟨'\x7b', _, by rw [print], by decide, by decide⟩

section

variable {limit depth level steps : Nat} {rest : List Char}

/-- One item and those after it are read one after the other. -/
theorem toOption_readCons {α : Type} {readFirst : Reader α} {readOthers : Reader (List α)}
    {text between : List Char} {first : α} {others : List α} {firstDepth othersDepth : Nat}
    (firstRead : (readFirst text).toOption =
      if firstDepth ≤ depth then some (first, between) else none)
    (othersRead : (readOthers between).toOption =
      if othersDepth ≤ depth then some (others, rest) else none) :
    (readCons readFirst readOthers text).toOption =
      if max firstDepth othersDepth ≤ depth then some (first :: others, rest) else none := by
  rw [readCons, toOption_bind, firstRead]
  by_cases fits : firstDepth ≤ depth
  · rw [if_pos fits, Option.bind_some, toOption_bind, othersRead]
    by_cases othersFit : othersDepth ≤ depth
    · rw [if_pos othersFit, if_pos (Nat.max_le.mpr ⟨fits, othersFit⟩)]
      rfl
    · rw [if_neg othersFit, if_neg fun all => othersFit (Nat.max_le.mp all).2]
      rfl
  · rw [if_neg fits, if_neg fun all => fits (Nat.max_le.mp all).1]
    rfl

/-- An element is read back in front of those after it. -/
theorem toOption_readElement (depth : Nat) {element : Json} {others : List Json}
    (returns : Returns layout limit element) (blank : layout.Blank)
    (room : (print layout (level + 1) element
      (printElements layout level others rest)).length < limit) :
    (readValue limit depth (print layout (level + 1) element
      (printElements layout level others rest))).toOption =
        if element.depth ≤ depth then
          some (element.arranged, printElements layout level others rest)
        else none := by
  have here := returns (level + 1) [] (printElements layout level others rest) depth
    (fun _ member => absurd member List.not_mem_nil) (endsNumber_printElements blank _ _ _) room
  rwa [List.nil_append] at here

/-- The elements after the first and the end of an array. -/
theorem toOption_readElements (depth : Nat) {elements : List Json}
    (plain : ∀ element ∈ elements, element.Plain)
    (return_ : ∀ element ∈ elements, Returns layout limit element) (blank : layout.Blank)
    (room : (printElements layout level elements rest).length < limit)
    (enough : (printElements layout level elements rest).length < steps) :
    (readElements (readValue limit depth) steps false
      (printElements layout level elements rest)).toOption =
        if depthOfElements elements ≤ depth then some (arrangedElements elements, rest)
        else none := by
  -- Every element shortens the text by at least one character, so the steps outlast it.
  induction elements generalizing steps with
  | nil =>
      cases steps with
      | zero => omega
      | succ steps =>
          rw [depthOfElements, if_pos (Nat.zero_le _), printElements, readElements,
            skipSpace_append (blank.breakAt level) (by decide)]
          rfl
  | cons element others ih =>
      cases steps with
      | zero => omega
      | succ steps =>
          rw [printElements, List.length_cons, List.length_append] at room enough
          have shorter := lengthens layout (plain element List.mem_cons_self) (level + 1)
            (printElements layout level others rest)
          have later := ih (fun other member => plain other (List.mem_cons_of_mem _ member))
            (fun other member => return_ other (List.mem_cons_of_mem _ member)) (by omega)
            (by omega : (printElements layout level others rest).length < steps)
          have elementRoom : (print layout (level + 1) element
              (printElements layout level others rest)).length < limit := by omega
          have here := toOption_readElement depth (return_ element List.mem_cons_self) blank
            elementRoom
          rw [depthOfElements, arrangedElements, ← toOption_readCons here later]
          obtain ⟨c, more, starts, notSpace, notBracket⟩ := print_eq_cons layout
            (plain element List.mem_cons_self) (level + 1) (printElements layout level others rest)
          rw [printElements, starts, readElements, skipSpace_cons (by decide)]
          simp only [skipSpace_append (blank.breakAt (level + 1)) notSpace, if_neg notBracket]
          rfl

theorem returns_array {elements : List Json} (plain : ∀ element ∈ elements, element.Plain)
    (return_ : ∀ element ∈ elements, Returns layout limit element) (blank : layout.Blank) :
    Returns layout limit (.array elements) := by
  refine returns_of_parts '[' array (fun depth => readElements (readValue limit depth) limit true)
    (by decide) (by rw [Json.depth]) (by rw [arranged]) (fun _ => rfl) (fun _ _ => rfl) ?_
  intro level rest depth room
  obtain ⟨steps, rfl⟩ : ∃ steps, limit = steps + 1 := ⟨limit - 1, by omega⟩
  cases elements with
  | nil =>
      refine ⟨']' :: rest, by rw [print], ?_⟩
      rw [depthOfElements, if_pos (Nat.zero_le _)]
      rfl
  | cons first others =>
      refine ⟨_, by rw [print], ?_⟩
      rw [print, List.length_cons, List.length_append] at room
      have shorter := lengthens layout (plain first List.mem_cons_self) (level + 1)
        (printElements layout level others rest)
      have later := toOption_readElements depth
        (fun other member => plain other (List.mem_cons_of_mem _ member))
        (fun other member => return_ other (List.mem_cons_of_mem _ member)) blank (by omega)
        (by omega : (printElements layout level others rest).length < steps)
      have firstRoom : (print layout (level + 1) first
          (printElements layout level others rest)).length < steps + 1 := by omega
      have here := toOption_readElement depth (return_ first List.mem_cons_self) blank firstRoom
      rw [depthOfElements, arrangedElements, ← toOption_readCons here later]
      obtain ⟨c, more, starts, notSpace, notBracket⟩ := print_eq_cons layout
        (plain first List.mem_cons_self) (level + 1) (printElements layout level others rest)
      rw [starts, readElements, skipSpace_append (blank.breakAt (level + 1)) notSpace]
      simp only [if_neg notBracket, if_true]

/-! ### Objects -/

/-- A written member is read back. -/
theorem toOption_readMember (depth : Nat) {key : String} {value : Json} {quoted after : List Char}
    (returns : Returns layout limit value) (blank : layout.Blank) (ends : EndsNumber after)
    (isString : printString key (':' :: (layout.afterColon ++
      print layout (level + 1) value after)) = '"' :: quoted)
    (room : quoted.length < limit) :
    (readMember limit (readValue limit depth) quoted).toOption =
      if value.depth ≤ depth then some ((key, value.arranged), after) else none := by
  have shorter := length_lt_printString key (':' :: (layout.afterColon ++
    print layout (level + 1) value after))
  rw [isString, List.length_cons, List.length_cons, List.length_append] at shorter
  have here := returns (level + 1) layout.afterColon after depth blank.afterColon ends (by omega)
  have keyRead := readString_printString isString room
  have unfolded : readMember limit (readValue limit depth) quoted =
      readValue limit depth (layout.afterColon ++ print layout (level + 1) value after) >>=
        fun read => pure ((key, read.1), read.2) := by
    rw [readMember, keyRead]
    rfl
  rw [unfolded, toOption_bind, here]
  by_cases fits : value.depth ≤ depth
  · rw [if_pos fits, if_pos fits]
    rfl
  · rw [if_neg fits, if_neg fits]
    rfl

/-- The members after the first and the end of an object. -/
theorem toOption_readMembers (depth : Nat) {members : List (String × Json)}
    (plain : ∀ member ∈ members, member.2.Plain)
    (return_ : ∀ member ∈ members, Returns layout limit member.2) (blank : layout.Blank)
    (room : (printMembers layout level members rest).length < limit)
    (enough : (printMembers layout level members rest).length < steps) :
    (readMembers limit (readValue limit depth) steps false
      (printMembers layout level members rest)).toOption =
        if depthOfMembers members ≤ depth then some (arrangedMembers members, rest)
        else none := by
  induction members generalizing steps with
  | nil =>
      cases steps with
      | zero => omega
      | succ steps =>
          rw [depthOfMembers, if_pos (Nat.zero_le _), printMembers, readMembers,
            skipSpace_append (blank.breakAt level) (by decide)]
          rfl
  | cons member others ih =>
      obtain ⟨key, value⟩ := member
      cases steps with
      | zero => omega
      | succ steps =>
          rw [printMembers, List.length_cons, List.length_append] at room enough
          have valuePlain : value.Plain := plain _ List.mem_cons_self
          have afterValue := lengthens layout valuePlain (level + 1)
            (printMembers layout level others rest)
          have afterKey := length_lt_printString key (':' :: (layout.afterColon ++
            print layout (level + 1) value (printMembers layout level others rest)))
          rw [List.length_cons, List.length_append] at afterKey
          have later := ih (fun other isOther => plain other (List.mem_cons_of_mem _ isOther))
            (fun other isOther => return_ other (List.mem_cons_of_mem _ isOther)) (by omega)
            (by omega : (printMembers layout level others rest).length < steps)
          obtain ⟨quoted, isString⟩ : ∃ quoted, printString key (':' :: (layout.afterColon ++
              print layout (level + 1) value (printMembers layout level others rest))) =
                '"' :: quoted := ⟨_, rfl⟩
          have quotedRoom : quoted.length < limit := by
            rw [isString, List.length_cons] at room
            omega
          have here := toOption_readMember depth (return_ _ List.mem_cons_self) blank
            (endsNumber_printMembers blank _ _ _) isString quotedRoom
          rw [depthOfMembers, arrangedMembers, ← toOption_readCons here later, printMembers,
            isString, readMembers, skipSpace_cons (by decide)]
          simp only [skipSpace_append (blank.breakAt (level + 1)) (by decide : isSpace '"' = false)]
          rfl

theorem returns_object {members : List (String × Json)}
    (plain : ∀ member ∈ members, member.2.Plain)
    (return_ : ∀ member ∈ members, Returns layout limit member.2) (blank : layout.Blank) :
    Returns layout limit (.object members) := by
  refine returns_of_parts '\x7b' (fun members => object (Entries.ofList members))
    (fun depth => readMembers limit (readValue limit depth) limit true)
    (by decide) (by rw [Json.depth]) (by rw [arranged]) (fun _ => rfl) (fun _ _ => rfl) ?_
  intro level rest depth room
  obtain ⟨steps, rfl⟩ : ∃ steps, limit = steps + 1 := ⟨limit - 1, by omega⟩
  cases members with
  | nil =>
      refine ⟨'\x7d' :: rest, by rw [print], ?_⟩
      rw [depthOfMembers, if_pos (Nat.zero_le _)]
      rfl
  | cons first others =>
      obtain ⟨key, value⟩ := first
      refine ⟨_, by rw [print], ?_⟩
      rw [print, List.length_cons, List.length_append] at room
      have valuePlain : value.Plain := plain _ List.mem_cons_self
      have afterValue := lengthens layout valuePlain (level + 1)
        (printMembers layout level others rest)
      have afterKey := length_lt_printString key (':' :: (layout.afterColon ++
        print layout (level + 1) value (printMembers layout level others rest)))
      rw [List.length_cons, List.length_append] at afterKey
      have later := toOption_readMembers depth
        (fun other isOther => plain other (List.mem_cons_of_mem _ isOther))
        (fun other isOther => return_ other (List.mem_cons_of_mem _ isOther)) blank (by omega)
        (by omega : (printMembers layout level others rest).length < steps)
      obtain ⟨quoted, isString⟩ : ∃ quoted, printString key (':' :: (layout.afterColon ++
          print layout (level + 1) value (printMembers layout level others rest))) =
            '"' :: quoted := ⟨_, rfl⟩
      have quotedRoom : quoted.length < steps + 1 := by
        rw [isString, List.length_cons] at room
        omega
      have here := toOption_readMember depth (return_ _ List.mem_cons_self) blank
        (endsNumber_printMembers blank _ _ _) isString quotedRoom
      rw [depthOfMembers, arrangedMembers, ← toOption_readCons here later, isString, readMembers,
        skipSpace_append (blank.breakAt (level + 1)) (by decide)]
      rfl

end

/-! ### Whole texts -/

/-- A plain value is read back from where it is written. -/
theorem Plain.returns {value : Json} (plain : value.Plain) (blank : layout.Blank) (limit : Nat) :
    Returns layout limit value := by
  induction plain with
  | null => exact returns_null limit
  | bool value => exact returns_bool limit value
  | number fits => exact returns_number limit fits
  | string text => exact returns_string limit text
  | array below ih => exact returns_array below ih blank
  | object below ih => exact returns_object below ih blank

/-- A text written in a layout of blanks is read as the arranged value if arrays and objects are
nested at most 127 deep, and else not at all. -/
theorem toOption_read_written {value : Json} (plain : value.Plain) (blank : layout.Blank) :
    (read (written layout value)).toOption =
      if value.depth ≤ depthLimit then some value.arranged else none := by
  have returns := plain.returns blank ((print layout 0 value []).length + 1) 0 [] [] depthLimit
    (fun _ member => absurd member List.not_mem_nil) endsNumber_nil (Nat.lt_succ_self _)
  rw [List.nil_append] at returns
  have textRead : (readText (print layout 0 value [])).toOption =
      if value.depth ≤ depthLimit then some value.arranged else none := by
    rw [readText, toOption_bind, returns]
    by_cases fits : value.depth ≤ depthLimit
    · rw [if_pos fits, if_pos fits]
      rfl
    · rw [if_neg fits, if_neg fits]
      rfl
  rw [← textRead, read, written, String.toList_ofList]
  cases readText (print layout 0 value []) <;> rfl

end Json

end TreeShell

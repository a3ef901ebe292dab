import TreeShell.Json.Reader
import TreeShell.Proofs.OrderedEntries

/-!
# JSON values in order

Whatever a text holds, every object of the value that is read from it has its keys in order and
each key once.
-/

namespace TreeShell

/-- What a computation that continues another one results in. -/
theorem bind_eq_ok {ε α β : Type} {first : Except ε α} {next : α → Except ε β} {result : β} :
    first >>= next = .ok result ↔ ∃ value, first = .ok value ∧ next value = .ok result := by
  cases first with
  | error fault => simp [bind, Except.bind]
  | ok value => simp [bind, Except.bind]

namespace Json

/-- A property of all values without parts, of all arrays whose elements have it and of all objects
whose members have it is one of all values. -/
@[elab_as_elim, induction_eliminator]
theorem induct {motive : Json → Prop} (null : motive .null) (bool : ∀ value, motive (.bool value))
    (number : ∀ value, motive (.number value)) (string : ∀ text, motive (.string text))
    (array : ∀ elements, (∀ element ∈ elements, motive element) → motive (.array elements))
    (object : ∀ members, (∀ member ∈ members, motive member.2) → motive (.object members))
    (value : Json) : motive value := by
  refine Json.rec (motive_2 := fun elements => ∀ element ∈ elements, motive element)
    (motive_3 := fun members => ∀ member ∈ members, motive member.2)
    (motive_4 := fun member => motive member.2)
    null bool number string array object ?_ ?_ ?_ ?_ ?_ value
  · exact fun element member => absurd member List.not_mem_nil
  · intro first rest here later other member
    rcases List.mem_cons.mp member with same | inRest
    · exact same ▸ here
    · exact later other inRest
  · exact fun other member => absurd member List.not_mem_nil
  · intro first rest here later other member
    rcases List.mem_cons.mp member with same | inRest
    · exact same ▸ here
    · exact later other inRest
  · exact fun _ _ here => here

/-- The elements of an array and the values in an object; other values have no parts. -/
def parts : Json → List Json
  | array elements => elements
  | object members => members.map Prod.snd
  | _ => []

theorem induct_parts {motive : Json → Prop}
    (whole : ∀ value, (∀ part ∈ value.parts, motive part) → motive value) (value : Json) :
    motive value := by
  induction value with
  | null => exact whole .null fun part member => absurd member List.not_mem_nil
  | bool value => exact whole (.bool value) fun part member => absurd member List.not_mem_nil
  | number value => exact whole (.number value) fun part member => absurd member List.not_mem_nil
  | string text => exact whole (.string text) fun part member => absurd member List.not_mem_nil
  | array elements ih => exact whole (.array elements) ih
  | object members ih =>
      refine whole (.object members) ?_
      intro part isPart
      obtain ⟨member, isMember, rfl⟩ := List.mem_map.mp isPart
      exact ih member isMember

/-- Values all of whose objects have their keys in order. -/
inductive InOrder : Json → Prop where
  | null : InOrder .null
  | bool (value : Bool) : InOrder (.bool value)
  | number (value : Number) : InOrder (.number value)
  | string (text : String) : InOrder (.string text)
  | array {elements : List Json} (below : ∀ element ∈ elements, InOrder element) :
      InOrder (.array elements)
  | object {members : List (String × Json)} (ordered : Entries.Ordered members)
      (below : ∀ member ∈ members, InOrder member.2) : InOrder (.object members)

theorem InOrder.of_mem_parts {value part : Json} (inOrder : value.InOrder)
    (isPart : part ∈ value.parts) : part.InOrder := by
  cases inOrder with
  | array below => exact below part isPart
  | object ordered below =>
      obtain ⟨member, isMember, rfl⟩ := List.mem_map.mp isPart
      exact below member isMember
  | _ => exact absurd isPart List.not_mem_nil

/-- A reader all of whose values have a property. -/
def Reader.Yields {α : Type} (property : α → Prop) (reader : Reader α) : Prop :=
  ∀ text value rest, reader text = .ok (value, rest) → property value

/-- A reader all of whose values have their keys in order. -/
def Reader.Orders (readValue : Reader Json) : Prop :=
  ∀ text value rest, readValue text = .ok (value, rest) → InOrder value

/-- Values that are not made of other values. -/
def IsScalar : Json → Prop
  | .array _ | .object _ => False
  | _ => True

/-! ### What is read -/

theorem yields_readName {property : Json → Prop} {value : Json} (has : property value)
    (name : List Char) : (readName value name).Yields property := by
  intro text result rest isRead
  induction name generalizing text with
  | nil =>
      cases isRead
      exact has
  | cons expected name ih =>
      cases text with
      | nil => cases isRead
      | cons c text =>
          simp only [readName] at isRead
          split at isRead
          · exact ih text isRead
          · cases isRead

theorem yields_readCons {α : Type} {property : α → Prop} {readFirst : Reader α}
    {readOthers : Reader (List α)} (first : readFirst.Yields property)
    (others : readOthers.Yields fun items => ∀ item ∈ items, property item) :
    (readCons readFirst readOthers).Yields fun items => ∀ item ∈ items, property item := by
  intro text items rest isRead
  obtain ⟨⟨firstItem, afterFirst⟩, isFirst, isRead⟩ := bind_eq_ok.mp isRead
  obtain ⟨⟨otherItems, afterOthers⟩, areOthers, isRead⟩ := bind_eq_ok.mp isRead
  cases isRead
  intro item member
  rcases List.mem_cons.mp member with same | inRest
  · exact same ▸ first _ _ _ isFirst
  · exact others _ _ _ areOthers item inRest

section

variable {property : Json → Prop} {readValue : Reader Json}

theorem yields_readElements (yields : readValue.Yields property) (steps : Nat) (isFirst : Bool) :
    (readElements readValue steps isFirst).Yields fun elements =>
      ∀ element ∈ elements, property element := by
  induction steps generalizing isFirst with
  | zero => exact fun text elements rest isRead => by cases isRead
  | succ steps ih =>
      intro text elements rest isRead
      have oneMore := yields_readCons yields (ih false)
      simp only [readElements] at isRead
      split at isRead
      next => cases isRead
      next c afterBlanks _ =>
        split at isRead
        next =>
          cases isRead
          exact fun element member => absurd member List.not_mem_nil
        next =>
          split at isRead
          next => exact oneMore _ _ _ isRead
          next =>
            split at isRead
            next =>
              split at isRead
              next => cases isRead
              next =>
                split at isRead
                next => cases isRead
                next => exact oneMore _ _ _ isRead
            next => cases isRead

theorem yields_readMember (yields : readValue.Yields property) (limit : Nat) :
    (readMember limit readValue).Yields fun member => property member.2 := by
  intro text member rest isRead
  unfold readMember at isRead
  obtain ⟨⟨key, afterKey⟩, -, isRead⟩ := bind_eq_ok.mp isRead
  dsimp only at isRead
  split at isRead
  next => cases isRead
  next =>
    split at isRead
    next =>
      obtain ⟨⟨value, afterValue⟩, isValue, isRead⟩ := bind_eq_ok.mp isRead
      cases isRead
      exact yields _ _ _ isValue
    next => cases isRead

theorem yields_readMembers (yields : readValue.Yields property) (limit steps : Nat)
    (isFirst : Bool) : (readMembers limit readValue steps isFirst).Yields fun members =>
      ∀ member ∈ members, property member.2 := by
  induction steps generalizing isFirst with
  | zero => exact fun text members rest isRead => by cases isRead
  | succ steps ih =>
      intro text members rest isRead
      have oneMore := yields_readCons (yields_readMember yields limit) (ih false)
      simp only [readMembers] at isRead
      split at isRead
      next => cases isRead
      next =>
        split at isRead
        next =>
          cases isRead
          exact fun member isMember => absurd isMember List.not_mem_nil
        next =>
          split at isRead
          next =>
            split at isRead
            next => exact oneMore _ _ _ isRead
            next => cases isRead
          next =>
            split at isRead
            next =>
              split at isRead
              next => cases isRead
              next =>
                split at isRead
                next => exact oneMore _ _ _ isRead
                next =>
                  split at isRead
                  next => cases isRead
                  next => cases isRead
            next => cases isRead

end

/-- What holds of scalars, and of arrays and objects if something else holds of their parts, holds
of every value that is read. -/
theorem yields_readWith {whole : Json → Prop} (part : Json → Prop) {limit : Nat}
    {nested : Option (Reader Json)} (scalar : ∀ value : Json, value.IsScalar → whole value)
    (yields : ∀ readValue ∈ nested, Reader.Yields part readValue)
    (array : nested.isSome → ∀ elements, (∀ element ∈ elements, part element) →
      whole (.array elements))
    (object : nested.isSome → ∀ members : List (String × Json),
      (∀ member ∈ members, part member.2) → whole (.object (Entries.ofList members))) :
    (readWith limit nested).Yields whole := by
  intro text value rest isRead
  unfold readWith at isRead
  split at isRead
  next => cases isRead
  next =>
    split at isRead
    next => exact yields_readName (scalar .null trivial) _ _ _ _ isRead
    split at isRead
    next => exact yields_readName (scalar (.bool true) trivial) _ _ _ _ isRead
    split at isRead
    next => exact yields_readName (scalar (.bool false) trivial) _ _ _ _ isRead
    split at isRead
    next =>
      obtain ⟨⟨text, afterText⟩, -, isRead⟩ := bind_eq_ok.mp isRead
      cases isRead
      exact scalar (.string text) trivial
    split at isRead
    next =>
      obtain ⟨⟨number, afterNumber⟩, -, isRead⟩ := bind_eq_ok.mp isRead
      cases isRead
      exact scalar (.number number) trivial
    split at isRead
    next =>
      obtain ⟨⟨number, afterNumber⟩, -, isRead⟩ := bind_eq_ok.mp isRead
      cases isRead
      exact scalar (.number number) trivial
    split at isRead
    next =>
      cases nested with
      | none => cases isRead
      | some readValue =>
          obtain ⟨⟨elements, afterElements⟩, areElements, isRead⟩ := bind_eq_ok.mp isRead
          cases isRead
          refine array rfl elements ?_
          exact yields_readElements (yields readValue rfl) _ _ _ _ _ areElements
    split at isRead
    next =>
      cases nested with
      | none => cases isRead
      | some readValue =>
          obtain ⟨⟨members, afterMembers⟩, areMembers, isRead⟩ := bind_eq_ok.mp isRead
          cases isRead
          refine object rfl members ?_
          exact yields_readMembers (yields readValue rfl) _ _ _ _ _ _ areMembers
    next => cases isRead

/-- A property of values up to a depth, which parts pass on to the whole, is one of what is read. -/
theorem yields_readValue (property : Nat → Json → Prop)
    (scalar : ∀ depth (value : Json), value.IsScalar → property depth value)
    (array : ∀ depth elements, (∀ element ∈ elements, property depth element) →
      property (depth + 1) (.array elements))
    (object : ∀ depth (members : List (String × Json)),
      (∀ member ∈ members, property depth member.2) →
        property (depth + 1) (.object (Entries.ofList members))) (limit depth : Nat) :
    (readValue limit depth).Yields (property depth) := by
  induction depth with
  | zero =>
      -- Nothing is nested, so it does not matter what is asked of the parts.
      refine yields_readWith (property 0) (scalar 0) ?_ ?_ ?_
      · exact fun _ isNested => by cases isNested
      · exact fun isNested => by cases isNested
      · exact fun isNested => by cases isNested
  | succ depth ih =>
      refine yields_readWith (property depth) (scalar (depth + 1)) ?_ ?_ ?_
      · intro readValue isNested
        cases isNested
        exact ih
      · exact fun _ => array depth
      · exact fun _ => object depth

theorem exists_readValue_of_read {text : String} {value : Json} (isRead : read text = .ok value) :
    ∃ limit rest, readValue limit depthLimit text.toList = .ok (value, rest) := by
  unfold read at isRead
  split at isRead
  next =>
    cases isRead
    next isText =>
    obtain ⟨⟨value', rest⟩, isValue, isText⟩ := bind_eq_ok.mp isText
    dsimp only at isText
    split at isText
    next =>
      cases isText
      exact ⟨_, rest, isValue⟩
    next => cases isText
  next => cases isRead

/-! ### Order -/

theorem inOrder_of_isScalar {value : Json} (isScalar : value.IsScalar) : InOrder value := by
  cases value with
  | null => exact .null
  | bool value => exact .bool value
  | number value => exact .number value
  | string text => exact .string text
  | array => exact isScalar.elim
  | object => exact isScalar.elim

theorem orders_readValue (limit depth : Nat) : Reader.Orders (readValue limit depth) := by
  refine yields_readValue (fun _ => InOrder) ?_ ?_ ?_ limit depth
  · exact fun _ _ => inOrder_of_isScalar
  · exact fun _ _ below => .array below
  · intro _ members below
    refine .object (Entries.ordered_ofList members) ?_
    exact fun member isMember => below member (Entries.mem_of_mem_ofList isMember)

/-- A value that is read has its keys in order. -/
theorem inOrder_of_read {text : String} {value : Json} (isRead : read text = .ok value) :
    InOrder value := by
  obtain ⟨limit, rest, isValue⟩ := exists_readValue_of_read isRead
  exact orders_readValue limit depthLimit _ _ _ isValue

end Json

end TreeShell

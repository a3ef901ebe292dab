import Mathlib.Data.List.Basic
import TreeShell.Proofs.Landings
import TreeShell.Proofs.Quoting
import TreeShell.Proofs.Refinement

/-!
# Completing the name of an entry

The last word of an input is what follows its last blank. The part of it up to the last slash names
a directory, and what follows is how the name of an entry starts. The input is completed to the
entries of this directory whose names go on from there: to all of them as candidates, or, if there
is only one, to a line that begins with the input and ends with a spelling of the path of the entry.
-/

namespace TreeShell

namespace Text

theorem splitLast?_append_cons {separator : Char} (before : List Char) {after : List Char}
    (absent : separator ∉ after) :
    splitLast? separator (before ++ separator :: after) = some (before, after) := by
  induction before with
  | nil => simp [splitLast?, splitLast?_eq_none_iff.mpr absent]
  | cons c before ih => simp [splitLast?, ih]

theorem beginsWith_iff {text front : String} :
    beginsWith text front = true ↔ front.toList <+: text.toList := by
  rw [beginsWith, Option.isSome_iff_ne_none, Ne, afterFront?_eq_none_iff, Decidable.not_not]

end Text

theorem Path.follow_append_slash (start : Path) (front : String) :
    follow start (front ++ "/") = follow start front := by
  have slash := follow_slash start front ""
  rwa [String.append_empty, follow_empty] at slash

/-- Entries in order are determined by which they are. -/
theorem Entries.eq_of_ordered {α : Type} {first second : Entries α} (orderedFirst : Ordered first)
    (orderedSecond : Ordered second) (same : ∀ entry, entry ∈ first ↔ entry ∈ second) :
    first = second := by
  have nodup {entries : Entries α} (ordered : Ordered entries) : entries.Nodup := by
    refine List.Pairwise.imp ?_ ordered
    intro entry later less equal
    rw [equal] at less
    exact String.lt_irrefl _ less
  have perm := (List.perm_ext_iff_of_nodup (nodup orderedFirst) (nodup orderedSecond)).mpr same
  refine List.Perm.eq_of_pairwise ?_ orderedFirst orderedSecond perm
  intro entry other _ _ less greater
  exact absurd greater (String.lt_asymm less)

namespace Completion

/-- An input with a blank, cut behind its last blank and behind the last slash that follows. -/
structure EntryInput where
  front : String
  directory : String
  start : String
  endsFront : front.toList.getLast? = some ' '
  endsDirectory : directory = "" ∨ directory.toList.getLast? = some '/'
  noBlank : ' ' ∉ directory.toList ++ start.toList
  noSlash : '/' ∉ start.toList

def EntryInput.text (asked : EntryInput) : String :=
  asked.front ++ asked.directory ++ asked.start

/-- An entry as it is shown, and as it is written into a line. -/
def marked (entry : String × Node) : String :=
  if entry.2.isDirectory then entry.1 ++ "/" else entry.1

/-- The last word of the line that an input is completed to. -/
def EntryInput.completedWord (asked : EntryInput) (entry : String × Node) : String :=
  asked.directory ++ marked entry

/-! ### Cutting the input -/

theorem cutBehindLast_append {separator : Char} {front back : List Char}
    (ends : front = [] ∨ front.getLast? = some separator) (absent : separator ∉ back) :
    cutBehindLast separator (front ++ back) = (String.ofList front, String.ofList back) := by
  rcases ends with rfl | ends
  · simp [cutBehindLast, Text.splitLast?_eq_none_iff.mpr absent]
  · obtain ⟨before, rfl⟩ := List.getLast?_eq_some_iff.mp ends
    rw [List.append_assoc, List.singleton_append, cutBehindLast,
      Text.splitLast?_append_cons before absent]

theorem exists_cut (separator : Char) (text : List Char) : ∃ front back, text = front ++ back ∧
    (separator ∉ text ∧ front = [] ∨ front.getLast? = some separator) ∧ separator ∉ back := by
  cases found : Text.splitLast? separator text with
  | none =>
      have absent := Text.splitLast?_eq_none_iff.mp found
      exact ⟨[], text, rfl, Or.inl ⟨absent, rfl⟩, absent⟩
  | some parts =>
      obtain ⟨isText, absent⟩ := Text.splitLast?_eq_some found
      exact ⟨parts.1 ++ [separator], parts.2, by simp [isText], Or.inr (by simp), absent⟩

/-- Every input with a blank can be cut so. -/
theorem exists_text_eq {input : String} (blank : ' ' ∈ input.toList) :
    ∃ asked : EntryInput, asked.text = input := by
  obtain ⟨front, word, isInput, isFront, noBlank⟩ := exists_cut ' ' input.toList
  obtain ⟨directory, start, rfl, isDirectory, noSlash⟩ := exists_cut '/' word
  have endsDirectory : String.ofList directory = "" ∨ directory.getLast? = some '/' :=
    isDirectory.imp_left fun empty => by rw [empty.2]
  refine ⟨⟨String.ofList front, String.ofList directory, String.ofList start, ?_, ?_, ?_, ?_⟩, ?_⟩
  · rw [String.toList_ofList]
    exact isFront.resolve_left fun without => without.1 blank
  · rwa [String.toList_ofList]
  · simpa using noBlank
  · rwa [String.toList_ofList]
  · apply String.toList_inj.mp
    simp [EntryInput.text, isInput]

variable (asked : EntryInput)

theorem EntryInput.front_ne_empty : asked.front ≠ "" := by
  intro empty
  have ends := asked.endsFront
  simp [empty] at ends

theorem complete_text (volume : Volume) :
    volume.complete asked.text =
      ofEntry volume asked.front (asked.directory ++ asked.start) := by
  have cut : cutBehindLast ' ' asked.text.toList =
      (asked.front, asked.directory ++ asked.start) := by
    have isText : asked.text.toList =
        asked.front.toList ++ (asked.directory.toList ++ asked.start.toList) := by
      simp [EntryInput.text]
    rw [isText, cutBehindLast_append (Or.inr asked.endsFront) asked.noBlank]
    simp
  rw [Volume.complete, cut]
  exact if_neg asked.front_ne_empty

theorem cutBehindLast_word :
    cutBehindLast '/' (asked.directory ++ asked.start).toList = (asked.directory, asked.start) := by
  have ends : asked.directory.toList = [] ∨ asked.directory.toList.getLast? = some '/' :=
    asked.endsDirectory.imp_left fun empty => by rw [empty]; rfl
  rw [String.toList_append, cutBehindLast_append ends asked.noSlash]
  simp

theorem ofCandidates_eq_noMatch_iff {finish : String → String} {names : List String} :
    ofCandidates finish names = noMatch ↔ names = [] := by
  match names with
  | [] => simp [ofCandidates]
  | [only] => simp [ofCandidates]
  | first :: second :: rest => simp [ofCandidates]

theorem ofCandidates_eq_line_iff {finish : String → String} {names : List String}
    {text : String} :
    ofCandidates finish names = line text ↔ ∃ only, names = [only] ∧ text = finish only := by
  match names with
  | [] => simp [ofCandidates]
  | [only] => simp [ofCandidates, eq_comm]
  | first :: second :: rest => simp [ofCandidates]

theorem ofCandidates_eq_candidates_iff {finish : String → String} {names shown : List String} :
    ofCandidates finish names = candidates shown ↔ 2 ≤ names.length ∧ shown = names := by
  match names with
  | [] => simp [ofCandidates]
  | [only] => simp [ofCandidates]
  | first :: second :: rest => simp [ofCandidates, eq_comm]

end Completion

open Completion

namespace Volume

variable {times : Instant → Prop} {volume : Volume} {asked : EntryInput}

/-- The directory in which the last word of an input is looked for. -/
def searched (volume : Volume) (asked : EntryInput) : Path :=
  if asked.directory = "" then volume.current else volume.resolve asked.directory

/-- The directory that is searched has an entry whose name goes on from the last word. -/
def Offers (volume : Volume) (asked : EntryInput) (entry : String × Node) : Prop :=
  volume.root.find? (volume.searched asked ++ [entry.1]) = some entry.2 ∧
    asked.start.toList <+: entry.1.toList

/-! ### Where a completed word leads -/

/-- A name behind the directory part of a word names an entry of the directory. -/
theorem resolve_directory_append (asked : EntryInput) {name : String}
    (isName : Path.IsName name) :
    volume.resolve (asked.directory ++ name) = volume.searched asked ++ [name] := by
  have noSlash := isName.2.2.2
  unfold searched resolve
  split
  next empty =>
    have relative : ("" ++ name).toList.head? ≠ some '/' := by
      intro slash
      obtain ⟨rest, isName⟩ := List.head?_eq_some_iff.mp slash
      exact noSlash (by simpa using isName ▸ List.mem_cons_self)
    rw [empty, Path.resolve_eq_follow, if_neg relative, String.empty_append,
      Path.follow_of_noSlash _ noSlash, Path.step_of_isName isName]
  next notEmpty =>
    obtain ⟨front, isFront⟩ :=
      List.getLast?_eq_some_iff.mp (asked.endsDirectory.resolve_left notEmpty)
    have spelled : asked.directory = String.ofList front ++ "/" := by
      apply String.toList_inj.mp
      simpa using isFront
    have sameStart : (String.ofList front ++ "/" ++ name).toList.head? =
        (String.ofList front ++ "/").toList.head? := by
      cases front <;> simp
    rw [spelled, Path.resolve_eq_follow, Path.resolve_eq_follow, sameStart, Path.follow_slash,
      Path.follow_append_slash, Path.follow_of_noSlash _ noSlash, Path.step_of_isName isName]

/-- A slash at the end changes nothing. -/
theorem resolve_append_slash {spelling : String} (notEmpty : spelling ≠ "") :
    volume.resolve (spelling ++ "/") = volume.resolve spelling := by
  have sameStart : (spelling ++ "/").toList.head? = spelling.toList.head? := by
    cases isSpelling : spelling.toList with
    | nil => exact absurd (String.toList_inj.mp isSpelling) notEmpty
    | cons c rest => simp [isSpelling]
  unfold resolve
  rw [Path.resolve_eq_follow, sameStart, Path.follow_append_slash, ← Path.resolve_eq_follow]

theorem resolve_completedWord (asked : EntryInput) {entry : String × Node}
    (isName : Path.IsName entry.1) :
    volume.resolve (asked.completedWord entry) = volume.searched asked ++ [entry.1] := by
  unfold EntryInput.completedWord marked
  split
  · have notEmpty : asked.directory ++ entry.1 ≠ "" := by
      simp [String.append_eq_empty_iff, isName.1]
    rw [← String.append_assoc, resolve_append_slash notEmpty, resolve_directory_append asked isName]
  · exact resolve_directory_append asked isName

theorem slash_completedWord_iff (asked : EntryInput) {entry : String × Node}
    (isName : Path.IsName entry.1) :
    (asked.completedWord entry).toList.getLast? = some '/' ↔ entry.2.isDirectory = true := by
  unfold EntryInput.completedWord marked
  split
  next isDirectory => simp [isDirectory]
  next isFile =>
    obtain ⟨someName, -, -, noSlash⟩ := isName
    refine iff_of_false (fun slash => noSlash ?_) isFile
    have someChar : entry.1.toList ≠ [] := by simpa using someName
    rw [String.toList_append, List.getLast?_append_of_ne_nil _ someChar] at slash
    exact List.mem_of_getLast? slash

theorem text_prefix_completed {entry : String × Node} (offers : volume.Offers asked entry) :
    asked.text.toList <+: (asked.front ++ asked.completedWord entry).toList := by
  have goesOn : asked.start.toList <+: (marked entry).toList := by
    unfold marked
    split
    · rw [String.toList_append]
      exact offers.2.trans (List.prefix_append _ _)
    · exact offers.2
  simpa [EntryInput.text, EntryInput.completedWord] using goesOn

/-! ### What an input is completed to -/

theorem listDirectory_searched_iff (normal : volume.current.IsNormal)
    {entries : List (String × Node)} :
    volume.listDirectory (if asked.directory = "" then none else some asked.directory) =
      .ok entries ↔
        ∃ attributes, volume.root.find? (volume.searched asked) =
          some (.directory attributes entries) := by
  rw [listDirectory_ok_iff, searched]
  split
  · rw [Option.getD_none, resolve, Path.resolve_spell _ normal]
  · rfl

/-- The entries that an input can be completed to, in order of their names. -/
theorem exists_offered (wellFormed : volume.WellFormed times) (asked : EntryInput) :
    ∃ offered : List (String × Node), Entries.Ordered offered ∧
      (∀ entry, entry ∈ offered ↔ volume.Offers asked entry) ∧
      volume.complete asked.text =
        ofCandidates (fun name => asked.front ++ asked.directory ++ name) (offered.map marked) := by
  have lists (entries : List (String × Node)) :=
    @listDirectory_searched_iff volume asked wellFormed.current entries
  rw [complete_text]
  unfold ofEntry
  rw [cutBehindLast_word]
  dsimp only
  cases listed : volume.listDirectory
      (if asked.directory = "" then none else some asked.directory) with
  | error fault =>
      refine ⟨[], Entries.ordered_nil, fun entry => ?_, rfl⟩
      refine iff_of_false List.not_mem_nil fun offers => ?_
      obtain ⟨attributes, entries, isThere⟩ := Node.exists_directory_of_find?_append offers.1
      cases ((lists entries).mpr ⟨attributes, isThere⟩).symm.trans listed
  | ok entries =>
      obtain ⟨attributes, isThere⟩ := (lists entries).mp listed
      have directory := (wellFormed.isRoot.wellFormed.find? isThere).1
      have named : ∀ entry ∈ entries, entry.2.name = entry.1 := fun entry member =>
        (directory.entry (Entries.get?_of_mem directory.ordered member)).2.2
      refine ⟨entries.filter fun entry => Text.beginsWith entry.1 asked.start,
        List.Pairwise.filter _ directory.ordered, fun entry => ?_, ?_⟩
      · have isEntry : entry ∈ entries ↔ Entries.get? entry.1 entries = some entry.2 :=
          ⟨Entries.get?_of_mem directory.ordered, Entries.mem_of_get?⟩
        rw [List.mem_filter, Text.beginsWith_iff, isEntry, Offers, Node.find?_append, isThere]
        simp
      · have sameFilter : entries.filter
            ((fun node => Text.beginsWith node.name asked.start) ∘ Prod.snd) =
              entries.filter fun entry => Text.beginsWith entry.1 asked.start := by
          refine List.filter_congr fun entry member => ?_
          rw [Function.comp, named entry member]
        dsimp only
        rw [List.filter_map, List.map_map, sameFilter]
        congr 1
        refine List.map_congr_left fun entry member => ?_
        rw [Function.comp, candidate, marked, named entry (List.mem_of_mem_filter member)]

/-- What an input with a blank is completed to, and where that leads. -/
structure Completes (volume : Volume) (asked : EntryInput) : Prop where
  noMatch : volume.complete asked.text = .noMatch ↔
    ¬ volume.root.hasDirectory (volume.searched asked) = true ∨
      ∀ entry, ¬ volume.Offers asked entry
  candidates : ∀ names, volume.complete asked.text = .candidates names ↔
    ∃ offered : List (String × Node), Entries.Ordered offered ∧
      (∀ entry, entry ∈ offered ↔ volume.Offers asked entry) ∧ 2 ≤ offered.length ∧
      names = offered.map marked
  line : ∀ text, volume.complete asked.text = .line text ↔
    ∃ entry, (∀ other, volume.Offers asked other ↔ other = entry) ∧
      text = asked.front ++ asked.completedWord entry
  goesOn : ∀ entry, volume.Offers asked entry →
    asked.text.toList <+: (asked.front ++ asked.completedWord entry).toList
  resolve : ∀ entry, volume.Offers asked entry →
    volume.resolve (asked.completedWord entry) = volume.searched asked ++ [entry.1]
  slash : ∀ entry, volume.Offers asked entry →
    ((asked.completedWord entry).toList.getLast? = some '/' ↔ entry.2.isDirectory = true)

theorem WellFormed.isName_of_offers (wellFormed : volume.WellFormed times) {entry : String × Node}
    (offers : volume.Offers asked entry) : Path.IsName entry.1 := by
  have normal := (wellFormed.isRoot.wellFormed.find? offers.1).2
  exact normal entry.1 (List.mem_append_right _ List.mem_cons_self)

theorem WellFormed.completes (wellFormed : volume.WellFormed times) (asked : EntryInput) :
    volume.Completes asked := by
  have isName {entry : String × Node} (offers : volume.Offers asked entry) :=
    wellFormed.isName_of_offers offers
  obtain ⟨offered, ordered, members, completed⟩ := exists_offered wellFormed asked
  refine
    { noMatch := ?_, candidates := ?_, line := ?_
      goesOn := fun entry offers => text_prefix_completed offers
      resolve := fun entry offers => resolve_completedWord asked (isName offers)
      slash := fun entry offers => slash_completedWord_iff asked (isName offers) }
  · rw [completed, ofCandidates_eq_noMatch_iff, List.map_eq_nil_iff, List.eq_nil_iff_forall_not_mem]
    simp only [members]
    constructor
    · exact Or.inr
    · rintro (missing | none) entry offers
      · obtain ⟨attributes, entries, isThere⟩ := Node.exists_directory_of_find?_append offers.1
        exact missing (Node.hasDirectory_iff.mpr ⟨attributes, entries, isThere⟩)
      · exact none entry offers
  · intro names
    rw [completed, ofCandidates_eq_candidates_iff, List.length_map]
    constructor
    · rintro ⟨several, rfl⟩
      exact ⟨offered, ordered, members, several, rfl⟩
    · rintro ⟨others, orderedOthers, membersOthers, several, rfl⟩
      have same : others = offered := Entries.eq_of_ordered orderedOthers ordered fun entry =>
        (membersOthers entry).trans (members entry).symm
      exact ⟨same ▸ several, by rw [same]⟩
  · intro text
    rw [completed, ofCandidates_eq_line_iff]
    constructor
    · rintro ⟨only, isOnly, rfl⟩
      obtain ⟨entry, rfl, rfl⟩ := List.map_eq_singleton_iff.mp isOnly
      refine ⟨entry, fun other => ?_, ?_⟩
      · rw [← members, List.mem_singleton]
      · rw [EntryInput.completedWord, String.append_assoc]
    · rintro ⟨entry, only, rfl⟩
      have alone : offered = [entry] := by
        refine Entries.eq_of_ordered ordered (List.pairwise_singleton _ _) fun other => ?_
        rw [members, only, List.mem_singleton]
      refine ⟨marked entry, by rw [alone]; rfl, ?_⟩
      rw [EntryInput.completedWord, String.append_assoc]

end Volume

/-- Every input with a blank can be cut behind its last blank and behind the last slash after it. In
every state of a session it is completed to nothing exactly if there is no directory to search or no
entry in it whose name goes on from the last word, to candidates exactly if there are several, which
are then all of them in order, and to a line exactly if there is one. The line begins with the
input, and its last word is resolved to the path of the entry and ends with a slash exactly if the
entry is a directory. -/
theorem Event.completes_run (opened : Instant) (store : Store) (storageKey home : String)
    (events : List Event) :
    (∀ input : String, ' ' ∈ input.toList → ∃ asked : EntryInput, asked.text = input) ∧
      ∀ asked : EntryInput,
        (run events (Volume.load opened store storageKey home)).Completes asked :=
  ⟨fun _ blank => exists_text_eq blank,
    (wellFormed_run_load opened store storageKey home events).completes⟩

end TreeShell

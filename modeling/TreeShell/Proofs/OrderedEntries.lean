import TreeShell.Entries

/-!
# Entries in order

Entries whose names strictly increase hold at most one value under a name, so looking up, putting
and removing act on them as on a finite map, and putting entries one after the other keeps
ordered entries as they are.
-/

namespace TreeShell.Entries

variable {α β : Type}

/-- The names strictly increase. -/
def Ordered (entries : Entries α) : Prop :=
  entries.Pairwise fun earlier later => earlier.1 < later.1

@[simp]
theorem ordered_nil : Ordered ([] : Entries α) := List.Pairwise.nil

theorem ordered_cons {entry : String × α} {rest : Entries α} :
    Ordered (entry :: rest) ↔ (∀ later ∈ rest, entry.1 < later.1) ∧ Ordered rest :=
  List.pairwise_cons

theorem Ordered.tail {entry : String × α} {rest : Entries α} (ordered : Ordered (entry :: rest)) :
    Ordered rest :=
  (ordered_cons.mp ordered).2

/-- Order is a matter of the names alone. -/
theorem ordered_iff_names {entries : Entries α} :
    Ordered entries ↔ (entries.map Prod.fst).Pairwise fun earlier later => earlier < later :=
  List.pairwise_map.symm

/-- A change that keeps names keeps order. -/
theorem ordered_map {entries : Entries α} (change : String × α → String × β)
    (keepsName : ∀ entry ∈ entries, (change entry).1 = entry.1) :
    Ordered (entries.map change) ↔ Ordered entries := by
  have sameNames : (entries.map change).map Prod.fst = entries.map Prod.fst := by
    rw [List.map_map]
    exact List.map_congr_left keepsName
  rw [ordered_iff_names, ordered_iff_names, sameNames]

/-! ### Looking up -/

theorem mem_of_get? {name : String} {value : α} {entries : Entries α}
    (found : get? name entries = some value) : (name, value) ∈ entries := by
  induction entries with
  | nil => cases found
  | cons entry rest ih =>
      obtain ⟨key, old⟩ := entry
      simp only [get?] at found
      split at found
      next same =>
        cases found
        rw [same]
        exact List.mem_cons_self
      next => exact List.mem_cons_of_mem _ (ih found)

theorem get?_eq_none_iff {name : String} {entries : Entries α} :
    get? name entries = none ↔ ∀ entry ∈ entries, entry.1 ≠ name := by
  induction entries with
  | nil => simp [get?]
  | cons entry rest ih =>
      obtain ⟨key, old⟩ := entry
      simp only [get?, List.mem_cons, forall_eq_or_imp, ne_eq]
      split
      next same => simp [same]
      next different => simp [different, ih]

theorem get?_of_mem {name : String} {value : α} {entries : Entries α} (ordered : Ordered entries)
    (member : (name, value) ∈ entries) : get? name entries = some value := by
  induction entries with
  | nil => cases member
  | cons entry rest ih =>
      obtain ⟨key, old⟩ := entry
      obtain ⟨first, orderedRest⟩ := ordered_cons.mp ordered
      rcases List.mem_cons.mp member with same | later
      · cases same
        simp [get?]
      · have different : key ≠ name := String.ne_of_lt (first _ later)
        simp [get?, different, ih orderedRest later]

/-! ### Putting -/

theorem mem_put {name : String} {value : α} {entry : String × α} {entries : Entries α}
    (member : entry ∈ put name value entries) : entry = (name, value) ∨ entry ∈ entries := by
  induction entries with
  | nil => exact Or.inl (by simpa [put] using member)
  | cons head rest ih =>
      obtain ⟨key, old⟩ := head
      simp only [put] at member
      split at member
      next => simpa using member
      next =>
        split at member
        next =>
          rcases List.mem_cons.mp member with same | later
          · exact Or.inl same
          · exact Or.inr (List.mem_cons_of_mem _ later)
        next =>
          rcases List.mem_cons.mp member with same | later
          · exact Or.inr (same ▸ List.mem_cons_self)
          · exact (ih later).imp_right (List.mem_cons_of_mem _)

theorem ordered_put (name : String) (value : α) {entries : Entries α} (ordered : Ordered entries) :
    Ordered (put name value entries) := by
  induction entries with
  | nil => exact List.pairwise_singleton _ _
  | cons head rest ih =>
      obtain ⟨key, old⟩ := head
      obtain ⟨first, orderedRest⟩ := ordered_cons.mp ordered
      simp only [put]
      split
      next before =>
        refine ordered_cons.mpr ⟨?_, ordered⟩
        intro later member
        rcases List.mem_cons.mp member with same | inRest
        · exact same ▸ before
        · exact String.lt_trans before (first later inRest)
      next notBefore =>
        split
        next same => exact ordered_cons.mpr ⟨same ▸ first, orderedRest⟩
        next different =>
          refine ordered_cons.mpr ⟨?_, ih orderedRest⟩
          intro later member
          rcases mem_put member with same | inRest
          · rw [same]
            exact Std.lt_of_le_of_ne (String.not_lt.mp notBefore) different
          · exact first later inRest

/-- A name that comes after all others is put at the end. -/
theorem put_of_forall_lt {name : String} (value : α) {entries : Entries α}
    (last : ∀ entry ∈ entries, entry.1 < name) :
    put name value entries = entries ++ [(name, value)] := by
  induction entries with
  | nil => rfl
  | cons head rest ih =>
      obtain ⟨key, old⟩ := head
      have before : key < name := last _ List.mem_cons_self
      have notBefore : ¬ name < key := String.lt_asymm before
      have different : key ≠ name := String.ne_of_lt before
      simp [put, notBefore, different, -String.not_lt,
        ih fun entry member => last entry (List.mem_cons_of_mem _ member)]

theorem get?_put (name other : String) (value : α) (entries : Entries α) :
    get? other (put name value entries) =
      if other = name then some value else get? other entries := by
  split
  next same => rw [same, get?_put_self]
  next different => exact get?_put_of_ne different value entries

/-! ### Removing -/

theorem remove_sublist (name : String) (entries : Entries α) :
    List.Sublist (remove name entries) entries := by
  induction entries with
  | nil => exact List.Sublist.refl _
  | cons head rest ih =>
      simp only [remove]
      split
      · exact List.sublist_cons_self _ _
      · exact ih.cons_cons _

theorem ordered_remove (name : String) {entries : Entries α} (ordered : Ordered entries) :
    Ordered (remove name entries) :=
  List.Pairwise.sublist (remove_sublist name entries) ordered

theorem get?_remove_self (name : String) {entries : Entries α} (ordered : Ordered entries) :
    get? name (remove name entries) = none := by
  induction entries with
  | nil => rfl
  | cons head rest ih =>
      obtain ⟨key, old⟩ := head
      obtain ⟨first, orderedRest⟩ := ordered_cons.mp ordered
      simp only [remove]
      split
      next same =>
        refine get?_eq_none_iff.mpr ?_
        intro entry member equal
        exact String.ne_of_lt (first entry member) (same.trans equal.symm)
      next different => simp [get?, different, ih orderedRest]

/-! ### Putting one after the other -/

theorem ordered_ofList (pairs : List (String × α)) : Ordered (ofList pairs) := by
  have keepsOrder : ∀ (pairs : List (String × α)) (entries : Entries α), Ordered entries →
      Ordered (pairs.foldl (fun entries pair => put pair.1 pair.2 entries) entries) := by
    intro pairs
    induction pairs with
    | nil => exact fun entries ordered => ordered
    | cons pair rest ih =>
        exact fun entries ordered => ih _ (ordered_put pair.1 pair.2 ordered)
  exact keepsOrder pairs [] ordered_nil

theorem mem_of_mem_ofList {entry : String × α} {pairs : List (String × α)}
    (member : entry ∈ ofList pairs) : entry ∈ pairs := by
  have comesFrom : ∀ (pairs : List (String × α)) (entries : Entries α),
      entry ∈ pairs.foldl (fun entries pair => put pair.1 pair.2 entries) entries →
        entry ∈ entries ∨ entry ∈ pairs := by
    intro pairs
    induction pairs with
    | nil => exact fun entries member => Or.inl member
    | cons pair rest ih =>
        intro entries member
        rcases ih _ member with put | later
        · exact (mem_put put).elim (fun same => Or.inr (same ▸ List.mem_cons_self)) Or.inl
        · exact Or.inr (List.mem_cons_of_mem _ later)
  exact (comesFrom pairs [] member).resolve_left List.not_mem_nil

/-- Entries that are in order already stay as they are. -/
theorem ofList_of_ordered {entries : Entries α} (ordered : Ordered entries) :
    ofList entries = entries := by
  have appends : ∀ (rest front : Entries α), Ordered (front ++ rest) →
      rest.foldl (fun entries pair => put pair.1 pair.2 entries) front = front ++ rest := by
    intro rest
    induction rest with
    | nil => exact fun front _ => (List.append_nil front).symm
    | cons pair rest ih =>
        intro front ordered
        have last : ∀ entry ∈ front, entry.1 < pair.1 := fun entry member =>
          (List.pairwise_append.mp ordered).2.2 entry member pair List.mem_cons_self
        have split : front ++ pair :: rest = (front ++ [pair]) ++ rest := by simp
        simp only [List.foldl_cons, put_of_forall_lt pair.2 last]
        rw [split] at ordered ⊢
        exact ih _ ordered
  exact appends entries [] ordered

end TreeShell.Entries

import TreeShell.Proofs.Session

/-!
# Writing through

Every operation that succeeds saves the volume after its last change, unless it has nothing to do.
So a session over a memory store finds there, after whatever it did, the snapshot of its volume as
it is, taken at the time of the last operation that saved, and everything under other keys as it
was.
-/

namespace TreeShell

namespace Store

/-- A memory store that holds what some texts are, except under one key. -/
def SameBut (key : String) (texts : Entries KeptText) (store : Store) : Prop :=
  ∃ kept, store = memory kept ∧
    ∀ other, other ≠ key → Entries.get? other kept = Entries.get? other texts

variable {key : String} {texts : Entries KeptText} {store : Store}

theorem SameBut.set (same : store.SameBut key texts) (text : KeptText) :
    (store.after (Store.set key text)).SameBut key texts ∧
      (store.after (Store.set key text)).get key = .ok (some text.get) := by
  obtain ⟨kept, rfl, others⟩ := same
  refine ⟨⟨Entries.put key text kept, rfl, ?_⟩, ?_⟩
  · intro other different
    rw [Entries.get?_put_of_ne different, others other different]
  · simp [after, Store.set, get]

theorem SameBut.remove (same : store.SameBut key texts) :
    (store.after (Store.remove key)).SameBut key texts := by
  obtain ⟨kept, rfl, others⟩ := same
  refine ⟨Entries.remove key kept, rfl, ?_⟩
  intro other different
  rw [Entries.get?_remove_of_ne different, others other different]

theorem SameBut.get_eq (same : store.SameBut key texts) {other : String} (different : other ≠ key) :
    store.get other = (memory texts).get other := by
  obtain ⟨kept, rfl, others⟩ := same
  simp [get, others other different]

end Store

namespace Volume

variable {texts : Entries KeptText} {taken : Instant} {volume : Volume}

/-- The store holds a snapshot of the volume as it is, taken at a time, and besides it what some
texts are. -/
structure WrittenThrough (texts : Entries KeptText) (taken : Instant) (volume : Volume) :
    Prop where
  others : volume.store.SameBut volume.storageKey texts
  kept : volume.store.get volume.storageKey =
    .ok (some (Snapshot.document taken volume.root (Path.spell volume.current)).compact)

theorem writtenThrough_save (same : volume.store.SameBut volume.storageKey texts)
    (now : Instant) : (volume.save now).WrittenThrough texts now := by
  obtain ⟨others, kept⟩ := same.set (snapshotText now volume.root volume.current)
  exact ⟨others, kept⟩

/-- A volume that finds nothing in its store is saved as soon as it is opened. -/
theorem writtenThrough_load {storageKey : String} (free : Entries.get? storageKey texts = none)
    (opened : Instant) (home : String) :
    (load opened (.memory texts) storageKey home).WrittenThrough texts opened := by
  have nothing : (Store.memory texts).get storageKey = .ok none := by
    rw [Store.get, free]
    rfl
  unfold load
  rw [nothing]
  exact writtenThrough_save ⟨texts, rfl, fun _ _ => rfl⟩ opened

end Volume

namespace Operation

def saves (now : Instant) (operation : Operation) (volume : Volume) : Bool :=
  match operation.perform now volume with
  | .ok _ _ => !operation.idle volume
  | .error _ _ => false

/-- The time of the last of some operations that saves; as long as none does, the time of what was
saved before. -/
def lastSave (before : Instant) : List (Instant × Operation) → Volume → Instant
  | [], _ => before
  | (now, operation) :: rest, volume =>
      lastSave (if operation.saves now volume then now else before) rest
        (operation.after now volume)

variable {texts : Entries KeptText} {taken : Instant} {volume : Volume}

theorem writtenThrough_after (written : volume.WrittenThrough texts taken) (now : Instant)
    (operation : Operation) : (operation.after now volume).WrittenThrough texts
      (if operation.saves now volume then now else taken) := by
  unfold after Volume.after saves
  rcases perform_cases now volume operation with ⟨fault, failed⟩ | ⟨changed, done, effect⟩
  · rw [failed]
    exact written
  · rw [done]
    rcases effect.saves with ⟨idle, rfl⟩ | ⟨busy, unsaved, rfl, sameKey, sameStore⟩
    · simpa [idle] using written
    · have others : unsaved.store.SameBut unsaved.storageKey texts := by
        rw [sameKey]
        rcases sameStore with same | dropped
        · exact same ▸ written.others
        · exact dropped ▸ written.others.remove
      simpa [busy] using Volume.writtenThrough_save others now

theorem writtenThrough_run (written : volume.WrittenThrough texts taken)
    (performed : List (Instant × Operation)) :
    (run performed volume).WrittenThrough texts (lastSave taken performed volume) := by
  induction performed generalizing volume taken with
  | nil => exact written
  | cons step rest ih =>
      obtain ⟨now, operation⟩ := step
      exact ih (writtenThrough_after written now operation)

end Operation

namespace Event

/-- In every state of a session over a memory store that held nothing under the session's key, the
store holds under this key the compact text of the volume as it is, taken at the time of the last
operation that saved, and under every other key what it held at first. Which operations the events
of the session are taken to amount to makes no difference. -/
theorem kept_text_run (opened : Instant) {texts : Entries KeptText} {storageKey : String}
    (free : Entries.get? storageKey texts = none) (home : String) (events : List Event) :
    let start := Volume.load opened (.memory texts) storageKey home
    let final := run events start
    (∃ performed, Performs events start performed) ∧
      (∀ performed, Performs events start performed →
        final.store.get storageKey = .ok (some
          (Snapshot.document (Operation.lastSave opened performed start) final.root
            (Path.spell final.current)).compact)) ∧
      ∀ key, key ≠ storageKey → final.store.get key = (Store.memory texts).get key := by
  intro start final
  have sameKey : final.storageKey = storageKey :=
    (run_home_storageKey opened (.memory texts) storageKey home events).2
  have written : ∀ performed, Performs events start performed →
      final.WrittenThrough texts (Operation.lastSave opened performed start) := by
    intro performed performs
    have startWritten := Volume.writtenThrough_load free opened home
    rw [show final = _ from performs.run_eq]
    exact Operation.writtenThrough_run startWritten performed
  obtain ⟨some, performsSome⟩ := exists_performs events start
  refine ⟨⟨some, performsSome⟩, ?_, ?_⟩
  · intro performed performs
    exact sameKey ▸ (written performed performs).kept
  · intro key different
    exact (written some performsSome).others.get_eq (sameKey ▸ different)

/-- A directory that is there already and a move that moves nothing leave the text of the first
operation in the store. -/
theorem kept_text_run_idle :
    let texts : Entries KeptText := [("other", Thunk.pure "kept")]
    let performed : List (Instant × Operation) :=
      [(⟨60, 0⟩, .createDirectory "/tmp/new"), (⟨120, 0⟩, .createDirectory "/tmp/new"),
        (⟨180, 0⟩, .moveNode "/tmp" "/var/../tmp")]
    let start := Volume.load ⟨0, 0⟩ (.memory texts) "fs" "/home/user"
    let final := run (performed.map fun step => operate step.1 step.2) start
    Entries.get? "fs" texts = none ∧ final.store.get "other" = .ok (some "kept") ∧
      final.store.get "fs" = .ok (some
        (Snapshot.document ⟨60, 0⟩ final.root (Path.spell final.current)).compact) := by
  intro texts performed start final
  have free : Entries.get? "fs" texts = none := by decide
  have run := kept_text_run ⟨0, 0⟩ free "/home/user"
    (performed.map fun step => operate step.1 step.2)
  have taken : Operation.lastSave ⟨0, 0⟩ performed start = ⟨60, 0⟩ := by decide +kernel
  refine ⟨free, run.2.2 "other" (by decide), ?_⟩
  rw [← taken]
  exact run.2.1 performed (performs_operations performed start)

end Event

end TreeShell

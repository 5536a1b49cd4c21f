/-
What is on file when a save may fail.

A change is made in memory first and saved afterwards, and a save that fails leaves
it there. Whether there is something to save is decided by what the call changes in
memory, not by what the file holds. So there are two states of a store: in one the
file has everything, in the other a save has failed and nothing was written since.
The second state is not left by a call that changes nothing, although that call does
not fail: `repeated_change_is_not_on_file` sets a color, cannot save it, sets it once
more and is told that all is well, with nothing on file.

What does hold is `reopened_store_has_same_entries`. A call that does not fail leaves
the file with all bookmarks of the store if no save is pending, and it leaves it so
in any state if it writes the file itself.

A file may name a file without bookmarks, and then a purge that drops nothing drops
that name without saving. This is why the statements compare the bookmarks of each
file, which are the same, and not the two dictionaries.
-/
import SourceOutline.Proofs.Bookmarks
import SourceOutline.Proofs.Store

set_option autoImplicit false

namespace SourceOutline

/-! ## Changes that are not saved -/

namespace Bookmarks

/-- Bookmarks that hold the same for every file. -/
def SameEntries (first second : Bookmarks) : Prop :=
  ∀ file, first.ofFile file = second.ofFile file

theorem SameEntries.trans {first second third : Bookmarks} (h : first.SameEntries second)
    (h' : second.SameEntries third) : first.SameEntries third :=
  fun file => (h file).trans (h' file)

theorem sameEntries_set {bookmarks : Bookmarks} {file id color : String}
    (h : (bookmarks.set file id color).mustSave = false) :
    bookmarks.SameEntries (bookmarks.set file id color).bookmarks := by
  intro other
  have hcolor : (bookmarks.ofFile file).find? id = some color := by
    simpa [set, color?] using h
  rw [set]
  dsimp only
  rw [Dictionary.insert_eq_self hcolor, ofFile, ofFile, Dictionary.find?_insert]
  by_cases hother : other = file
  · rw [if_pos hother, hother]
    rfl
  · rw [if_neg hother]

theorem sameEntries_purge {bookmarks : Bookmarks} {file : String} {valid : List String}
    (h : (bookmarks.purge file valid).mustSave = false) :
    bookmarks.SameEntries (bookmarks.purge file valid).bookmarks := by
  intro other
  by_cases hother : other = file
  · subst hother
    rw [ofFile_purge_self]
    symm
    apply Dictionary.filterKeys_eq_self
    -- The number of stale bookmarks is what the purge goes by.
    cases hfile : bookmarks.find? other with
    | none =>
      rw [ofFile, hfile]
      exact Nat.le_refl _
    | some entries =>
      rw [purge, hfile] at h
      have hcount : bookmarks.staleCount other valid = 0 := by
        have hnot := of_decide_eq_false h
        omega
      rw [staleCount] at hcount
      omega
  · rw [ofFile, ofFile, find?_purge_of_ne _ _ hother]

theorem sameEntries_clear {bookmarks : Bookmarks} {file : String}
    (h : (bookmarks.clear file).mustSave = false) :
    bookmarks.SameEntries (bookmarks.clear file).bookmarks := by
  intro other
  have hfile : bookmarks.find? file = none := by
    simpa [clear] using h
  rw [clear]
  dsimp only
  rw [Dictionary.erase_eq_self hfile]

end Bookmarks

/-! ## Calls -/

namespace StoreCall

/-- The change that a call makes, if it is one that makes any. -/
def change? (bookmarks : Bookmarks) : StoreCall → Option Change
  | .read _ _ => none
  | .entries _ => none
  | .set file id color => some (bookmarks.set file id color)
  | .purge file valid => some (bookmarks.purge file valid)
  | .clear file => some (bookmarks.clear file)

/-- Whether a call finds something to save. -/
def saves (bookmarks : Bookmarks) (call : StoreCall) : Bool :=
  ((call.change? bookmarks).map Change.mustSave).getD false

/-- A change with nothing to save changes no bookmarks. -/
theorem sameEntries_change {bookmarks : Bookmarks} {call : StoreCall} {change : Change}
    (hchange : call.change? bookmarks = some change) (h : change.mustSave = false) :
    bookmarks.SameEntries change.bookmarks := by
  cases call with
  | read file id => cases hchange
  | entries file => cases hchange
  | set file id color =>
    cases hchange
    exact Bookmarks.sameEntries_set h
  | purge file valid =>
    cases hchange
    exact Bookmarks.sameEntries_purge h
  | clear file =>
    cases hchange
    exact Bookmarks.sameEntries_clear h

end StoreCall

namespace Store

/-- What a call that makes a change does to store and disk, and when it fails. -/
theorem answer_of_change {store : Store} {call : StoreCall} {change : Change}
    (h : call.change? store.bookmarks = some change) (disk : FileTree) :
    (store.answer disk call).2 = (store.apply disk change).2
      ∧ ((store.answer disk call).1.isFailedWrite = true
        ↔ ∃ error, (store.apply disk change).1 = .error error) := by
  cases call with
  | read file id => cases h
  | entries file => cases h
  | set file id color =>
    cases h
    rw [answer, set]
    refine ⟨rfl, ?_⟩
    cases hresult : (store.apply disk (store.bookmarks.set file id color)).1 <;>
      simp [hresult, StoreAnswer.isFailedWrite]
  | purge file valid =>
    cases h
    rw [answer, purge]
    refine ⟨rfl, ?_⟩
    cases hresult : (store.apply disk (store.bookmarks.purge file valid)).1 <;>
      simp [hresult, StoreAnswer.isFailedWrite, Except.map]
  | clear file =>
    cases h
    rw [answer, clear]
    refine ⟨rfl, ?_⟩
    cases hresult : (store.apply disk (store.bookmarks.clear file)).1 <;>
      simp [hresult, StoreAnswer.isFailedWrite]

/-- A call that makes no change leaves everything as it is. -/
theorem answer_of_no_change {store : Store} {call : StoreCall}
    (h : call.change? store.bookmarks = none) (disk : FileTree) :
    (store.answer disk call).2 = (store, disk)
      ∧ (store.answer disk call).1.isFailedWrite = false := by
  cases call with
  | read file id => exact ⟨rfl, rfl⟩
  | entries file => exact ⟨rfl, rfl⟩
  | set file id color => cases h
  | purge file valid => cases h
  | clear file => cases h

/-- A change, by what becomes of it: it is on file, it is in memory only, or there was
nothing to save. -/
theorem apply_cases (store : Store) (disk : FileTree) (change : Change) :
    (change.mustSave = true ∧ ∃ after,
      Store.save { store with bookmarks := change.bookmarks } disk = .ok after
      ∧ store.apply disk change = (.ok (), { store with bookmarks := change.bookmarks }, after))
    ∨ (∃ error, store.apply disk change
        = (.error error, { store with bookmarks := change.bookmarks }, disk))
    ∨ (change.mustSave = false ∧ store.apply disk change
        = (.ok (), { store with bookmarks := change.bookmarks }, disk)) := by
  rw [apply]
  cases hmust : change.mustSave with
  | false => exact .inr (.inr ⟨rfl, rfl⟩)
  | true =>
    cases hsave : Store.save { store with bookmarks := change.bookmarks } disk with
    | ok after => exact .inl ⟨rfl, after, rfl, by rw [if_pos rfl]⟩
    | error error => exact .inr (.inl ⟨error, by rw [if_pos rfl]⟩)

/-- Calls never move a store to another file. -/
theorem path_answer (store : Store) (disk : FileTree) (call : StoreCall) :
    (store.answer disk call).2.1.path = store.path := by
  cases hchange : call.change? store.bookmarks with
  | none => rw [(answer_of_no_change hchange disk).1]
  | some change =>
    rw [(answer_of_change hchange disk).1]
    rcases store.apply_cases disk change with
      ⟨-, after, -, happly⟩ | ⟨error, happly⟩ | ⟨-, happly⟩ <;>
      rw [happly]

/-- A call that finds nothing to save does not touch the disk, whatever the file holds. -/
theorem disk_answer_of_not_saves {store : Store} {call : StoreCall}
    (h : call.saves store.bookmarks = false) (disk : FileTree) :
    (store.answer disk call).2.2 = disk := by
  cases hchange : call.change? store.bookmarks with
  | none => rw [(answer_of_no_change hchange disk).1]
  | some change =>
    have hmust : change.mustSave = false := by
      rw [StoreCall.saves, hchange] at h
      exact h
    rw [(answer_of_change hchange disk).1, apply, hmust]
    rfl

end Store

/-! ## Runs in which saves fail -/

/-- Whether a save is pending after a call: one that fails makes it so, one that writes
the file settles it, and any other leaves it. -/
def StoreCall.pendingAfter (store : Store) (disk : FileTree) (pending : Bool) (call : StoreCall) :
    Bool :=
  if (store.answer disk call).1.isFailedWrite then true
  else if call.saves store.bookmarks then false
  else pending

/-- A run of a store that a file backs, up to a store and a disk. The flag tells whether
a save has failed since the last one that did not. -/
inductive FaultyRun (path : String) : Store → FileTree → Bool → Prop where
  | opened {store : Store} {disk : FileTree} (load : Store.load disk path = .ok store) :
      FaultyRun path store disk false
  /-- The disk changes, but not the file. -/
  | elsewhere {store : Store} {disk disk' : FileTree} {pending : Bool}
      (run : FaultyRun path store disk pending)
      (untouched : Store.load disk' path = Store.load disk path) :
      FaultyRun path store disk' pending
  | call {store : Store} {disk : FileTree} {pending : Bool}
      (run : FaultyRun path store disk pending) (call : StoreCall) :
      FaultyRun path (store.answer disk call).2.1 (store.answer disk call).2.2
        (call.pendingAfter store disk pending)
  /-- The save fails for no reason that the disk shows: the call goes as it does on some
  disk that refuses it, and this disk stays as it is. -/
  | refused {store : Store} {disk : FileTree} {pending : Bool}
      (run : FaultyRun path store disk pending) (call : StoreCall) (refusing : FileTree)
      (failure : (store.answer refusing call).1.isFailedWrite = true) :
      FaultyRun path (store.answer refusing call).2.1 disk true

/-- The file of a store in a run, whatever has failed. It can be opened, and it has all
bookmarks of the store unless a save is pending. -/
structure OnFile (path : String) (store : Store) (disk : FileTree) (pending : Bool) : Prop where
  backed : store.path = some path
  opens : ∃ kept, Store.load disk path = .ok kept
    ∧ (pending = false → kept.bookmarks.SameEntries store.bookmarks)

/-- **One call.** -/
theorem OnFile.answer {path : String} {store : Store} {disk : FileTree} {pending : Bool}
    (h : OnFile path store disk pending) (call : StoreCall) :
    OnFile path (store.answer disk call).2.1 (store.answer disk call).2.2
      (call.pendingAfter store disk pending) := by
  obtain ⟨kept, hload, hsame⟩ := h.opens
  refine ⟨by rw [Store.path_answer, h.backed], ?_⟩
  rw [StoreCall.pendingAfter]
  cases hchange : call.change? store.bookmarks with
  | none =>
    obtain ⟨hstate, hanswer⟩ := Store.answer_of_no_change hchange disk
    have hsaves : call.saves store.bookmarks = false := by rw [StoreCall.saves, hchange]; rfl
    rw [hstate, hanswer, hsaves]
    exact ⟨kept, hload, by simpa using hsame⟩
  | some change =>
    obtain ⟨hstate, hfailed⟩ := Store.answer_of_change hchange disk
    have hsaves : call.saves store.bookmarks = change.mustSave := by
      rw [StoreCall.saves, hchange]
      rfl
    rw [hstate, hsaves]
    rcases store.apply_cases disk change with
      ⟨hmust, after, hsave, happly⟩ | ⟨error, happly⟩ | ⟨hmust, happly⟩
    · -- The file is written, and read back as the store.
      rw [happly]
      have hpath : Store.path { store with bookmarks := change.bookmarks } = some path := h.backed
      exact ⟨_, Store.load_of_save hpath hsave, fun _ _ => rfl⟩
    · -- The file is as it was, and a save is pending.
      have hfails : (store.answer disk call).1.isFailedWrite = true :=
        hfailed.2 ⟨error, by rw [happly]⟩
      rw [happly, if_pos hfails]
      exact ⟨kept, hload, by simp⟩
    · -- Nothing is written, so the file is as good as it was before the call.
      have hworks : ¬(store.answer disk call).1.isFailedWrite = true := by
        rw [hfailed, happly]
        simp
      rw [happly, if_neg hworks, hmust]
      refine ⟨kept, hload, fun hpending => ?_⟩
      exact (hsame (by simpa using hpending)).trans (StoreCall.sameEntries_change hchange hmust)

/-- **All runs**, by induction on the run. -/
theorem FaultyRun.onFile {path : String} {store : Store} {disk : FileTree} {pending : Bool}
    (run : FaultyRun path store disk pending) : OnFile path store disk pending := by
  induction run with
  | opened hload => exact ⟨Store.path_of_load hload, _, hload, fun _ _ => rfl⟩
  | elsewhere run huntouched ih =>
    obtain ⟨kept, hload, hsame⟩ := ih.opens
    exact ⟨ih.backed, kept, huntouched.trans hload, hsame⟩
  | call run call ih => exact ih.answer call
  | refused run call refusing hfailure ih =>
    -- The disk is not touched, and with a save pending nothing is asked of its bookmarks.
    obtain ⟨kept, hload, -⟩ := ih.opens
    exact ⟨by rw [Store.path_answer, ih.backed], kept, hload, by simp⟩

/-- **What is on file after a call that does not fail.** In every run in which saves may
fail, opening the file gives the same bookmarks of every file as the store, provided
that no save was pending before the call, or that the call writes the file. -/
theorem reopened_store_has_same_entries {path : String} {store : Store} {disk : FileTree}
    {pending : Bool} (run : FaultyRun path store disk pending) (call : StoreCall)
    (hok : (store.answer disk call).1.isFailedWrite = false)
    (h : pending = false ∨ call.saves store.bookmarks = true) :
    ∃ kept, Store.load (store.answer disk call).2.2 path = .ok kept
      ∧ ∀ file, kept.bookmarks.ofFile file
        = (store.answer disk call).2.1.bookmarks.ofFile file := by
  have hsettled : call.pendingAfter store disk pending = false := by
    rw [StoreCall.pendingAfter, hok, if_neg Bool.false_ne_true]
    rcases h with hpending | hsaves
    · rw [hpending, ite_self]
    · rw [if_pos hsaves]
  obtain ⟨kept, hload, hsame⟩ := (run.call call).onFile.opens
  exact ⟨kept, hload, hsame hsettled⟩

/-- A save fails once although the disk is in order, and the next change is written. -/
theorem reopened_store_has_same_entries_after_recovery :
    let path := "d/b.json"
    let disk : FileTree := { home := "/w" }
    let refusing : FileTree := { home := "/w", nodes := [(["w", "d"], .text "")] }
    let failed := (Store.answer { path := some path } refusing (.set "a.py" "x" "red")).2.1
    let call : StoreCall := .set "a.py" "y" "blue"
    FaultyRun path failed disk true
    ∧ call.saves failed.bookmarks = true
    ∧ ∃ kept, Store.load (failed.answer disk call).2.2 path = .ok kept
      ∧ ∀ file, kept.bookmarks.ofFile file
        = (failed.answer disk call).2.1.bookmarks.ofFile file := by
  intro path disk refusing failed call
  have hload : Store.load disk path = .ok { path := some path } := by
    rw [Store.load, if_neg (by decide +kernel)]
  have hrun : FaultyRun path failed disk true :=
    (FaultyRun.opened hload).refused (.set "a.py" "x" "red") refusing (by decide +kernel)
  have hsaves : call.saves failed.bookmarks = true := by decide +kernel
  exact ⟨hrun, hsaves, reopened_store_has_same_entries hrun call (by decide +kernel) (.inr hsaves)⟩

/-- **A change that is repeated after a failure is not on file.** A file stands where the
directory of the store has to be, so a color cannot be saved. That file is removed, and
the same color is set again. The call does not fail, but there is still nothing on file. -/
theorem repeated_change_is_not_on_file :
    let path := "d/b.json"
    let blocked : FileTree := { home := "/w", nodes := [(["w", "d"], .text "")] }
    let free : FileTree := { home := "/w" }
    let call : StoreCall := .set "a.py" "x" "red"
    ∃ store, Store.load blocked path = .ok store
      ∧ (store.answer blocked call).1.isFailedWrite = true
      ∧ ∃ failed, failed = (store.answer blocked call).2.1
        ∧ FaultyRun path failed free true
        ∧ (failed.answer free call).1.isFailedWrite = false
        ∧ (failed.answer free call).2.1.bookmarks.color? "a.py" "x" = some "red"
        ∧ ∃ kept, Store.load (failed.answer free call).2.2 path = .ok kept
          ∧ kept.bookmarks.color? "a.py" "x" = none := by
  intro path blocked free call
  have hblocked : Store.load blocked path = .ok { path := some path } := by
    rw [Store.load, if_neg (by decide +kernel)]
  have hfree : Store.load free path = .ok { path := some path } := by
    rw [Store.load, if_neg (by decide +kernel)]
  have hfails : (Store.answer { path := some path } blocked call).1.isFailedWrite = true := by
    decide +kernel
  refine ⟨_, hblocked, hfails, _, rfl, ?_, by decide +kernel, by decide +kernel, ?_⟩
  · exact ((FaultyRun.opened hblocked).elsewhere (hfree.trans hblocked.symm)).refused call blocked
      hfails
  · refine ⟨{ path := some path }, ?_, rfl⟩
    -- The second call finds its color in memory, and so nothing to save.
    have hsaves :
        call.saves (Store.answer { path := some path } blocked call).2.1.bookmarks = false := by
      decide +kernel
    rw [Store.disk_answer_of_not_saves hsaves, hfree]

end SourceOutline

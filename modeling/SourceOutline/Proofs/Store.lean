/-
A store that a file backs behaves like one that is never closed.

`Store.load disk path = .ok store` says that opening the file at this moment gives
the store as it is in memory. It is the invariant of a run: a change that is saved
is read back (`FileTree.find_save`, `Bookmarks.parse?_render`), and a change that is
not saved is none (`Bookmarks.Saves`). The latter needs that no file is on record
without bookmarks, or else a purge that drops nothing would still drop the file;
each change keeps that, `Bookmarks.Filled`.

With the invariant, opening the file again in the middle of a run gives back the
same store, so these steps can be left out; and without them the file plays no part
in the answers.
-/
import SourceOutline.Proofs.Dictionary
import SourceOutline.Proofs.FileTree
import SourceOutline.Proofs.Json
import SourceOutline.Bookmarks.Store

set_option autoImplicit false

namespace SourceOutline

/-! ## Bookmarks on file -/

theorem mapM_map_eq_some {α β : Type} {write : α → β} {read : β → Option α} {l : List α}
    (h : ∀ a ∈ l, read (write a) = some a) : (l.map write).mapM read = some l := by
  induction l with
  | nil => rfl
  | cons a l ih =>
    obtain ⟨ha, hl⟩ := List.forall_mem_cons.1 h
    rw [List.map_cons, List.mapM_cons, ha, ih hl]
    rfl

/-- A dictionary is read back if each of its values is. -/
theorem Dictionary.ofJson?_obj {α : Type} {read : Json → Option α} {write : α → Json}
    (dictionary : Dictionary α)
    (h : ∀ entry ∈ dictionary.entries, read (write entry.2) = some entry.2) :
    Dictionary.ofJson? read
        (.obj (dictionary.entries.map fun entry => (entry.1, write entry.2)))
      = some dictionary := by
  have hentries : (dictionary.entries.map fun entry => (entry.1, write entry.2)).mapM
        (fun field => (read field.2).map fun value => (field.1, value))
      = some dictionary.entries := by
    refine mapM_map_eq_some fun entry hentry => ?_
    rw [h entry hentry, Option.map_some]
  rw [Dictionary.ofJson?, Json.asFields?]
  dsimp only [bind, Option.bind]
  rw [hentries]
  exact congrArg some dictionary.ofList_entries

namespace Bookmarks

theorem ofJson?_toJson (bookmarks : Bookmarks) :
    Bookmarks.ofJson? bookmarks.toJson = some bookmarks := by
  have hfile : ∀ entries : FileBookmarks,
      Dictionary.ofJson? Json.asString? entries.toJson = some entries := by
    intro entries
    exact Dictionary.ofJson?_obj entries fun _ _ => rfl
  have hfiles : Bookmarks.ofFiles? (.obj (bookmarks.entries.map fun entry =>
      (entry.1, FileBookmarks.toJson entry.2))) = some bookmarks :=
    Dictionary.ofJson?_obj bookmarks fun entry _ => hfile entry.2
  exact hfiles

theorem writable_toJson (bookmarks : Bookmarks) : Json.Writable bookmarks.toJson := by
  have hfile : ∀ entries : FileBookmarks, Json.Writable entries.toJson := by
    intro entries
    refine .obj fun field hfield => ?_
    obtain ⟨entry, -, rfl⟩ := List.mem_map.1 hfield
    exact .str entry.2
  refine .obj fun field hfield => ?_
  rw [List.mem_singleton.1 hfield]
  refine .obj fun field hfield => ?_
  obtain ⟨entry, -, rfl⟩ := List.mem_map.1 hfield
  exact hfile entry.2

/-- An object on file is read for bookmarks, whatever it is. -/
theorem parse?_pretty {fields : List (String × Json)} (h : Json.Writable (.obj fields)) :
    Bookmarks.parse? (Json.obj fields).pretty = Bookmarks.ofJson? (.obj fields) := by
  have hblank : Text.isBlankLine (Json.obj fields).pretty.toList = false := by
    rw [Json.pretty, String.toList_ofList]
    cases fields with
    | nil => rfl
    | cons field fields => rfl
  rw [parse?, hblank, if_neg Bool.false_ne_true, Json.parse?_pretty h]
  rfl

/-- **Bookmarks are read back**, whatever texts they are made of. -/
theorem parse?_render (bookmarks : Bookmarks) :
    Bookmarks.parse? bookmarks.render = some bookmarks :=
  (parse?_pretty bookmarks.writable_toJson).trans bookmarks.ofJson?_toJson

/-! ## Changes -/

/-- No file is on record without bookmarks. -/
def Filled (bookmarks : Bookmarks) : Prop :=
  ∀ file entries, bookmarks.find? file = some entries → entries ≠ .empty

theorem filled_empty : Filled .empty := by
  intro file entries h
  cases h

theorem Filled.insert {bookmarks : Bookmarks} (h : Filled bookmarks) (file : String)
    {entries : FileBookmarks} (hentries : entries ≠ .empty) :
    Filled (bookmarks.insert file entries) := by
  intro other found hfound
  rw [Dictionary.find?_insert] at hfound
  split at hfound
  · cases hfound
    exact hentries
  · exact h other found hfound

theorem Filled.erase {bookmarks : Bookmarks} (h : Filled bookmarks) (file : String) :
    Filled (bookmarks.erase file) := by
  intro other found hfound
  rw [Dictionary.find?_erase] at hfound
  split at hfound
  · cases hfound
  · exact h other found hfound

/-- A change that keeps the files filled and saves whatever is new. -/
structure Saves (bookmarks : Bookmarks) (change : Change) : Prop where
  filled : Filled change.bookmarks
  unchanged : change.mustSave = false → change.bookmarks = bookmarks

theorem saves_set {bookmarks : Bookmarks} (h : Filled bookmarks) (file id color : String) :
    Saves bookmarks (bookmarks.set file id color) := by
  constructor
  · refine h.insert file ?_
    intro hempty
    have hfind := congrArg (fun entries : FileBookmarks => entries.find? id) hempty
    simp at hfind
  · intro hsame
    have hcolor : bookmarks.color? file id = some color := by
      rw [set] at hsame
      simpa using hsame
    -- The file has a bookmark, so it is on record.
    have hfile : bookmarks.find? file = some (bookmarks.ofFile file) := by
      cases hfind : bookmarks.find? file with
      | none =>
        rw [color?, ofFile, hfind] at hcolor
        cases hcolor
      | some entries => rw [ofFile, hfind, Option.getD_some]
    rw [set]
    dsimp only
    rw [Dictionary.insert_eq_self hcolor, Dictionary.insert_eq_self hfile]

theorem saves_purge {bookmarks : Bookmarks} (h : Filled bookmarks) (file : String)
    (valid : List String) : Saves bookmarks (bookmarks.purge file valid) := by
  rw [purge]
  cases hfile : bookmarks.find? file with
  | none => exact ⟨h, fun _ => rfl⟩
  | some entries =>
    dsimp only
    constructor
    · dsimp only
      split
      · exact h.erase file
      · rename_i hkept
        exact h.insert file fun hempty => hkept ((Dictionary.isEmpty_iff _).2 hempty)
    · intro hsame
      have hcount : bookmarks.staleCount file valid = 0 := by
        have hnot := of_decide_eq_false hsame
        omega
      have hkept : entries.filterKeys valid.contains = entries := by
        refine Dictionary.filterKeys_eq_self ?_
        rw [staleCount, ofFile, hfile, Option.getD_some] at hcount
        omega
      -- Here it matters that the file had bookmarks: it keeps them, and its entry.
      have hfilled : ¬entries.isEmpty = true :=
        fun hempty => h file entries hfile ((Dictionary.isEmpty_iff _).1 hempty)
      dsimp only
      rw [hkept, if_neg hfilled, Dictionary.insert_eq_self hfile]

theorem saves_clear {bookmarks : Bookmarks} (h : Filled bookmarks) (file : String) :
    Saves bookmarks (bookmarks.clear file) := by
  constructor
  · exact h.erase file
  · intro hsame
    have hfile : bookmarks.find? file = none := Option.not_isSome_iff_eq_none.1 (by
      rw [show (bookmarks.find? file).isSome = false from hsame]
      decide)
    exact Dictionary.erase_eq_self hfile

end Bookmarks

/-! ## Runs -/

/-- One call of a store. -/
inductive StoreCall where
  | read (file id : String)
  | entries (file : String)
  | set (file id color : String)
  | purge (file : String) (valid : List String)
  | clear (file : String)
deriving DecidableEq, Repr

/-- A call, or that the file is opened again. -/
inductive StoreStep where
  | call (call : StoreCall)
  | reopen

/-- Whether a step is a call. -/
def StoreStep.isCall : StoreStep → Bool
  | .call _ => true
  | .reopen => false

/-- What can be heard from a store. -/
inductive StoreAnswer where
  | color (color : Option String)
  | entries (entries : FileBookmarks)
  | done (result : Except StoreError Unit)
  | removed (result : Except StoreError Nat)
  /-- The file could not be opened again. -/
  | closed (error : StoreError)
deriving DecidableEq

/-- Whether a change could not be saved. -/
def StoreAnswer.isFailedWrite : StoreAnswer → Bool
  | .done (.error _) => true
  | .removed (.error _) => true
  | _ => false

namespace Store

/-- Makes a call. -/
def answer (store : Store) (disk : FileTree) : StoreCall → StoreAnswer × Store × FileTree
  | .read file id => (.color (store.bookmarks.color? file id), store, disk)
  | .entries file => (.entries (store.bookmarks.ofFile file), store, disk)
  | .set file id color =>
    let (result, store, disk) := store.set disk file id color
    (.done result, store, disk)
  | .purge file valid =>
    let (result, store, disk) := store.purge disk file valid
    (.removed result, store, disk)
  | .clear file =>
    let (result, store, disk) := store.clear disk file
    (.done result, store, disk)

/-- The answers along some steps. They end early if the file cannot be opened. -/
def run (path : String) (store : Store) (disk : FileTree) : List StoreStep → List StoreAnswer
  | [] => []
  | .call call :: rest =>
    let (answer, store, disk) := store.answer disk call
    answer :: run path store disk rest
  | .reopen :: rest =>
    match Store.load disk path with
    | .ok store => run path store disk rest
    | .error error => [.closed error]

theorem path_of_load {disk : FileTree} {path : String} {store : Store}
    (h : Store.load disk path = .ok store) : store.path = some path := by
  rw [load] at h
  split at h
  · split at h
    · cases h
    · split at h
      · cases h
        rfl
      · cases h
  · cases h
    rfl

/-- Opening a file gives the bookmarks that are in its text. -/
theorem load_of_find {disk : FileTree} {path content : String} {bookmarks : Bookmarks}
    (hfind : disk.find path = .ok (.text content))
    (hparse : Bookmarks.parse? content = some bookmarks) :
    Store.load disk path = .ok { bookmarks := bookmarks, path := some path } := by
  have hexists : disk.exists? path = true := by
    rw [FileTree.exists?, hfind]
  have hread : disk.read path = .ok content := by
    rw [FileTree.read, hfind]
    rfl
  rw [load, if_pos hexists, hread]
  dsimp only
  rw [hparse]

/-- What is saved is what opening the file gives. -/
theorem load_of_save {store : Store} {disk after : FileTree} {path : String}
    (hpath : store.path = some path) (h : store.save disk = .ok after) :
    Store.load after path = .ok store := by
  rw [save, hpath] at h
  dsimp only at h
  cases hsave : disk.save path (.text store.bookmarks.render) with
  | error error =>
    rw [hsave] at h
    cases h
  | ok saved =>
    rw [hsave] at h
    cases h
    rw [load_of_find (FileTree.find_save hsave) (Bookmarks.parse?_render _), ← hpath]

end Store

/-- A store that a file backs and a store in memory that hold the same bookmarks, the
first with nothing that its file does not have. -/
structure InStep (path : String) (store : Store) (disk : FileTree) (memory : Store) : Prop where
  same : memory.bookmarks = store.bookmarks
  filled : store.bookmarks.Filled
  loaded : Store.load disk path = .ok store
  unbacked : memory.path = none

/-- **One change.** If it does not fail, the two stores stay in step. The one in memory
cannot fail. -/
theorem InStep.apply {path : String} {store memory : Store} {disk : FileTree}
    (h : InStep path store disk memory) {change : Change}
    (hsaves : Bookmarks.Saves store.bookmarks change) (other : FileTree)
    (hok : ∀ error, (store.apply disk change).1 ≠ .error error) :
    (store.apply disk change).1 = .ok () ∧ (memory.apply other change).1 = .ok ()
      ∧ InStep path (store.apply disk change).2.1 (store.apply disk change).2.2
          (memory.apply other change).2.1 := by
  have hmemory : memory.apply other change
      = (.ok (), { memory with bookmarks := change.bookmarks }, other) := by
    rw [Store.apply, Store.save]
    simp only [h.unbacked]
    split <;> rfl
  have hpath := Store.path_of_load h.loaded
  rw [hmemory]
  rw [Store.apply] at hok ⊢
  dsimp only at hok ⊢
  split
  · rename_i hmust
    rw [if_pos hmust] at hok
    cases hsave : Store.save { store with bookmarks := change.bookmarks } disk with
    | error error =>
      rw [hsave] at hok
      exact absurd rfl (hok error)
    | ok after =>
      exact ⟨rfl, rfl, rfl, hsaves.filled, Store.load_of_save hpath hsave, h.unbacked⟩
  · -- What is not saved is nothing new, so the file still has it all.
    rename_i hmust
    have hsame := hsaves.unchanged (Bool.eq_false_iff.2 hmust)
    refine ⟨rfl, rfl, rfl, hsaves.filled, ?_, h.unbacked⟩
    dsimp only
    rw [hsame]
    exact h.loaded

/-- **One call.** The two stores answer alike and stay in step. -/
theorem InStep.answer {path : String} {store memory : Store} {disk : FileTree}
    (h : InStep path store disk memory) (other : FileTree) (call : StoreCall)
    (hok : (store.answer disk call).1.isFailedWrite = false) :
    (store.answer disk call).1 = (memory.answer other call).1
      ∧ InStep path (store.answer disk call).2.1 (store.answer disk call).2.2
          (memory.answer other call).2.1 := by
  cases call with
  | read file id => exact ⟨by rw [Store.answer, Store.answer, h.same], h⟩
  | entries file => exact ⟨by rw [Store.answer, Store.answer, h.same], h⟩
  | set file id color =>
    rw [Store.answer, Store.set] at hok ⊢
    rw [Store.answer, Store.set, h.same]
    obtain ⟨hstore, hmemory, hstep⟩ :=
      h.apply (Bookmarks.saves_set h.filled file id color) other (by
        intro error herror
        simp only [herror] at hok
        cases hok)
    exact ⟨by simp only [hstore, hmemory], hstep⟩
  | purge file valid =>
    rw [Store.answer, Store.purge] at hok ⊢
    rw [Store.answer, Store.purge, h.same]
    obtain ⟨hstore, hmemory, hstep⟩ :=
      h.apply (Bookmarks.saves_purge h.filled file valid) other (by
        intro error herror
        simp only [herror] at hok
        cases hok)
    exact ⟨by simp only [hstore, hmemory], hstep⟩
  | clear file =>
    rw [Store.answer, Store.clear] at hok ⊢
    rw [Store.answer, Store.clear, h.same]
    obtain ⟨hstore, hmemory, hstep⟩ :=
      h.apply (Bookmarks.saves_clear h.filled file) other (by
        intro error herror
        simp only [herror] at hok
        cases hok)
    exact ⟨by simp only [hstore, hmemory], hstep⟩

/-- **All steps.** The file may be opened again anywhere between the calls. -/
theorem InStep.run {path : String} {store memory : Store} {disk : FileTree}
    (h : InStep path store disk memory) (other : FileTree) (steps : List StoreStep)
    (hok : ∀ answer ∈ store.run path disk steps, answer.isFailedWrite = false) :
    store.run path disk steps = memory.run path other (steps.filter StoreStep.isCall) := by
  induction steps generalizing store disk memory other with
  | nil => rfl
  | cons step rest ih =>
    cases step with
    | call call =>
      rw [Store.run] at hok
      obtain ⟨hanswer, hrest⟩ := List.forall_mem_cons.1 hok
      obtain ⟨hsame, hstep⟩ := h.answer other call hanswer
      rw [Store.run, List.filter_cons_of_pos rfl, Store.run]
      dsimp only
      rw [hsame, ih hstep _ hrest]
    | reopen =>
      -- Opening the file gives the store that is in memory already.
      have hreopen : store.run path disk (.reopen :: rest) = store.run path disk rest := by
        rw [Store.run, h.loaded]
      rw [hreopen] at hok ⊢
      rw [List.filter_cons_of_neg (by decide)]
      exact ih h other hok

/-- **A store on file answers like one in memory.** It starts from a path with no file
and may be opened again at any point; as long as no change fails to be saved, nobody
can tell the difference. In particular, bookmarks of any texts are read back from the
file they are written to. -/
theorem file_store_answers_like_memory :
    (∀ (disk : FileTree) (path : String), disk.exists? path = false →
      ∃ store, Store.load disk path = .ok store
        ∧ ∀ steps : List StoreStep,
          (∀ answer ∈ store.run path disk steps, answer.isFailedWrite = false) →
          store.run path disk steps
            = Store.inMemory.run path disk (steps.filter StoreStep.isCall))
    ∧ ∀ bookmarks : Bookmarks, Bookmarks.parse? bookmarks.render = some bookmarks := by
  refine ⟨?_, Bookmarks.parse?_render⟩
  intro disk path hfresh
  have hload : Store.load disk path = .ok { path := some path } := by
    rw [Store.load, hfresh, if_neg Bool.false_ne_true]
  have hstart : InStep path { path := some path } disk .inMemory :=
    ⟨rfl, Bookmarks.filled_empty, hload, rfl⟩
  exact ⟨_, hload, fun steps hok => hstart.run disk steps hok⟩

/-- Two bookmarks, one with a quote and a line end in its identity. That one is read after the
file is opened again, and dropped before it is opened once more. -/
theorem file_store_answers_like_memory_when_reopened :
    let disk : FileTree := { home := "/w" }
    let path := "d/b.json"
    let steps : List StoreStep := [.call (.set "a.py" "\"x\n" "red"),
      .call (.set "a.py" "y" "blue"), .reopen, .call (.read "a.py" "\"x\n"),
      .call (.purge "a.py" ["y"]), .reopen, .call (.entries "a.py")]
    let answers : List StoreAnswer := [.done (.ok ()), .done (.ok ()), .color (some "red"),
      .removed (.ok 1), .entries ⟨[("y", "blue")], List.pairwise_singleton _ _⟩]
    disk.exists? path = false
    ∧ ∃ store, Store.load disk path = .ok store
      ∧ store.run path disk steps = answers
      ∧ store.run path disk steps
          = Store.inMemory.run path disk (steps.filter StoreStep.isCall) := by
  intro disk path steps answers
  have hfresh : disk.exists? path = false := by decide +kernel
  obtain ⟨store, hload, hrun⟩ := file_store_answers_like_memory.1 disk path hfresh
  have hstore : store = { path := some path } := by
    rw [Store.load, hfresh, if_neg Bool.false_ne_true] at hload
    cases hload
    rfl
  subst hstore
  have hanswers : Store.run path { path := some path } disk steps = answers := by decide +kernel
  have hok : ∀ answer ∈ Store.run path { path := some path } disk steps,
      answer.isFailedWrite = false := by
    rw [hanswers]
    decide
  exact ⟨hfresh, _, hload, hanswers, hrun steps hok⟩

end SourceOutline

/-
What a request for an outline does to bookmarks.

The colors an outline shows are read before anything is dropped, and what is
dropped is decided by the identities of all members of the source, so that hiding
a member never costs its bookmark. A request that gives no outline drops nothing,
however often it was tried.

Both parts rest on `Generator.generate_cases`: failures leave the store alone, so
the successful attempt reads the very bookmarks there were at the start.
-/
import SourceOutline.Proofs.Dictionary
import SourceOutline.Proofs.Generation

set_option autoImplicit false

namespace SourceOutline

/-! ## Dropping bookmarks of one file -/

namespace Bookmarks

/-- Other files keep their bookmarks. -/
theorem find?_purge_of_ne (bookmarks : Bookmarks) {file other : String} (valid : List String)
    (h : other ≠ file) :
    (bookmarks.purge file valid).bookmarks.find? other = bookmarks.find? other := by
  rw [purge]
  cases bookmarks.find? file with
  | none => rfl
  | some entries =>
    dsimp only
    split
    · rw [Dictionary.find?_erase, if_neg h]
    · rw [Dictionary.find?_insert, if_neg h]

/-- The file keeps its bookmarks of valid identities, with their colors. A file that
keeps none has no entry any more, which comes to the same. -/
theorem ofFile_purge_self (bookmarks : Bookmarks) (file : String) (valid : List String) :
    (bookmarks.purge file valid).bookmarks.ofFile file
      = (bookmarks.ofFile file).filterKeys valid.contains := by
  rw [purge, ofFile, ofFile]
  cases hfile : bookmarks.find? file with
  | none =>
    dsimp only
    rw [hfile]
    rfl
  | some entries =>
    dsimp only
    split
    · rename_i hempty
      rw [Dictionary.find?_erase, if_pos rfl]
      exact ((Dictionary.isEmpty_iff _).1 hempty).symm
    · rw [Dictionary.find?_insert, if_pos rfl]
      rfl

end Bookmarks

theorem Store.purge_bookmarks (store : Store) (disk : FileTree) (file : String)
    (valid : List String) :
    (store.purge disk file valid).2.1.bookmarks = (store.bookmarks.purge file valid).bookmarks := by
  rw [Store.purge, Store.apply]
  dsimp only
  split
  · cases Store.save { store with bookmarks := (store.bookmarks.purge file valid).bookmarks } disk
      <;> rfl
  · rfl

/-! ## Colors of items -/

/-- After the colors are joined, every entry has the color that goes with its
identity. -/
theorem Forest.colorTag_joinColors (forest : Forest) (bookmarks : Bookmarks) (key : String)
    {entry : Entry} (h : entry ∈ (forest.joinColors bookmarks (some key)).entries) :
    entry.colorTag = bookmarks.color? key entry.id := by
  rw [Forest.joinColors, Forest.entries_mapEntries] at h
  obtain ⟨plain, -, rfl⟩ := List.mem_map.1 h
  rfl

namespace Completion

variable {σ : Type} {generator : Generator σ} {source : Source} {options : Options}
  {world : World σ}

/-- An item shows the color that the store held for it. -/
theorem colorTag_of_mem_items (run : Completion generator source options world) {key : String}
    (hkey : source.fileKey? = some key) {item : Item} (hitem : item ∈ run.items) :
    item.colorTag = world.store.bookmarks.color? key item.id := by
  rw [items, hkey] at hitem
  obtain ⟨rows, hrows, hemit⟩ := Forest.emit_eq_map
    (run.forest.joinColors world.store.bookmarks (some key)).nest options
    run.mapper.encodesContainment
  rw [hemit] at hitem
  obtain ⟨entry, hentry, rfl⟩ := List.mem_map.1 hitem
  refine Forest.colorTag_joinColors run.forest world.store.bookmarks key ?_
  exact (Forest.nest_entries_perm _).subset (hrows.subset hentry)

/-- What a request leaves in the store: the bookmarks of its file are purged by the
identities of the whole forest. -/
theorem bookmarks_worldAfter (run : Completion generator source options world) {key : String}
    (hkey : source.fileKey? = some key) :
    run.worldAfter.store.bookmarks
      = (world.store.bookmarks.purge key run.forest.ids).bookmarks := by
  rw [worldAfter, Generator.purge]
  simp only [hkey]
  exact Store.purge_bookmarks _ _ _ _

end Completion

/-- **Bookmarks across a request.** With an outline, the items show what the store
held, the bookmarks of the file are those of its members, shown or not, and no other
file is touched. Without one, all bookmarks are as they were. -/
theorem bookmarks_after_generate {σ : Type} (generator : Generator σ) (source : Source)
    (key : String) (hkey : source.fileKey? = some key) (options : Options) (world : World σ) :
    (∀ outline after,
      generator.generate source options world = (.ready outline, after) →
      ∃ run : Completion generator source options world,
        outline = run.outline
        ∧ (∀ item ∈ outline.items,
            item.colorTag = world.store.bookmarks.color? key item.id)
        ∧ after.store.bookmarks.ofFile key
            = (world.store.bookmarks.ofFile key).filterKeys (fun id => decide (id ∈ run.forest.ids))
        ∧ ∀ file, file ≠ key →
            after.store.bookmarks.find? file = world.store.bookmarks.find? file)
    ∧ ∀ outcome after,
      generator.generate source options world = (outcome, after) →
      (∀ outline, outcome ≠ .ready outline) →
      after.store.bookmarks = world.store.bookmarks := by
  constructor
  · intro outline after hready
    obtain ⟨run, rfl, rfl⟩ := Generator.generate_ready hready
    have hpurge := run.bookmarks_worldAfter hkey
    refine ⟨run, rfl, fun item hitem => run.colorTag_of_mem_items hkey hitem, ?_, ?_⟩
    · rw [hpurge, Bookmarks.ofFile_purge_self]
      congr 1
      funext id
      exact List.contains_eq_mem id run.forest.ids
    · intro file hfile
      rw [hpurge]
      exact Bookmarks.find?_purge_of_ne _ _ hfile
  · intro outcome after hgenerate hnot
    rw [(Generator.generate_frame hgenerate hnot).1]

/-- A file with a bookmark for its one field and another for a member that is gone,
when fields are hidden. -/
theorem bookmarks_after_generate_hidden_field :
    let source : Source := .text "" "py" (some "a.py")
    let generator := Generator.ofMembers [.leaf { kind := .field, name := "x", startLine := 0 }]
    let options : Options := { fields := ⟨false, false⟩ }
    let bookmarks : Bookmarks := .ofList [("a.py", .ofList [("gone", "red"), ("x", "blue")])]
    let world : World Unit := ⟨{ home := "/" }, { bookmarks := bookmarks }, ()⟩
    source.fileKey? = some "a.py"
    ∧ ∃ outline after, generator.generate source options world = (.ready outline, after)
      ∧ ∃ run : Completion generator source options world,
        outline = run.outline
        ∧ (∀ item ∈ outline.items, item.colorTag = bookmarks.color? "a.py" item.id)
        ∧ after.store.bookmarks.ofFile "a.py"
            = (bookmarks.ofFile "a.py").filterKeys (fun id => decide (id ∈ run.forest.ids))
        ∧ ∀ file, file ≠ "a.py" → after.store.bookmarks.find? file = bookmarks.find? file := by
  intro source generator options bookmarks world
  have hkey : source.fileKey? = some "a.py" := by decide +kernel
  have hready := Generator.generate_ofMembers
    [.leaf { kind := .field, name := "x", startLine := 0 }] "" (some "a.py") options world
  exact ⟨hkey, _, _, hready,
    (bookmarks_after_generate generator source "a.py" hkey options world).1 _ _ hready⟩

end SourceOutline

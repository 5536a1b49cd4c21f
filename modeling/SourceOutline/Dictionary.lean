/-
Dictionaries with texts as keys, in the order of their keys. The order is part of
the type, so two dictionaries with the same entries are equal, and printing one
needs no sorting.

Main statement: insertion keeps the order, `pairwise_insertEntry`.
-/

set_option autoImplicit false

namespace SourceOutline

/-- Entries with strictly increasing keys. -/
structure Dictionary (α : Type) where
  entries : List (String × α) := []
  ordered : entries.Pairwise (fun a b => a.1 < b.1) := by simp
deriving DecidableEq

namespace Dictionary

variable {α : Type}

/-! ## Entries in order -/

/-- Puts an entry at its place in the order, instead of one with the same key. -/
def insertEntry (key : String) (value : α) : List (String × α) → List (String × α)
  | [] => [(key, value)]
  | (other, old) :: rest =>
    if key < other then (key, value) :: (other, old) :: rest
    else if key = other then (key, value) :: rest
    else (other, old) :: insertEntry key value rest

/-- The keys after an insertion are the new one and those there were. -/
theorem mem_keys_insertEntry {key : String} {value : α} {entries : List (String × α)}
    {entry : String × α} (h : entry ∈ insertEntry key value entries) :
    entry = (key, value) ∨ entry ∈ entries := by
  induction entries with
  | nil => simpa [insertEntry] using h
  | cons first rest ih =>
    obtain ⟨other, old⟩ := first
    simp only [insertEntry] at h
    split at h
    · simpa using h
    · split at h
      · rcases List.mem_cons.1 h with h | h
        · exact .inl h
        · exact .inr (List.mem_cons_of_mem _ h)
      · rcases List.mem_cons.1 h with h | h
        · exact .inr (h ▸ List.mem_cons_self)
        · exact (ih h).imp id (List.mem_cons_of_mem _)

/-- Insertion keeps the order. -/
theorem pairwise_insertEntry (key : String) (value : α) {entries : List (String × α)}
    (h : entries.Pairwise (fun a b => a.1 < b.1)) :
    (insertEntry key value entries).Pairwise (fun a b => a.1 < b.1) := by
  induction entries with
  | nil => simp [insertEntry]
  | cons first rest ih =>
    obtain ⟨other, old⟩ := first
    obtain ⟨below, ordered⟩ := List.pairwise_cons.1 h
    simp only [insertEntry]
    split
    · rename_i lt
      refine List.pairwise_cons.2 ⟨fun entry mem => ?_, h⟩
      rcases List.mem_cons.1 mem with rfl | mem
      · exact lt
      · exact String.lt_trans lt (below entry mem)
    · split
      · rename_i eq
        subst eq
        exact List.pairwise_cons.2 ⟨below, ordered⟩
      · rename_i notLt ne
        refine List.pairwise_cons.2 ⟨fun entry mem => ?_, ih ordered⟩
        rcases mem_keys_insertEntry mem with rfl | mem
        · exact Classical.byContradiction fun h =>
            ne (String.le_antisymm (String.not_lt.1 h) (String.not_lt.1 notLt))
        · exact below entry mem

/-! ## Operations -/

/-- The dictionary without entries. -/
def empty : Dictionary α := {}

/-- The value under a key. -/
def find? (dictionary : Dictionary α) (key : String) : Option α :=
  dictionary.entries.lookup key

/-- Puts a value under a key, instead of the one that is there. -/
def insert (dictionary : Dictionary α) (key : String) (value : α) : Dictionary α where
  entries := insertEntry key value dictionary.entries
  ordered := pairwise_insertEntry key value dictionary.ordered

/-- Keeps the entries whose key satisfies a condition. -/
def filterKeys (dictionary : Dictionary α) (keep : String → Bool) : Dictionary α where
  entries := dictionary.entries.filter fun entry => keep entry.1
  ordered := dictionary.ordered.filter _

/-- Drops the entry under a key. -/
def erase (dictionary : Dictionary α) (key : String) : Dictionary α :=
  dictionary.filterKeys (· != key)

/-- The number of entries. -/
def size (dictionary : Dictionary α) : Nat := dictionary.entries.length

/-- Whether there are no entries. -/
def isEmpty (dictionary : Dictionary α) : Bool := dictionary.entries.isEmpty

/-- The dictionary of a list of entries, in which the last of equal keys wins. -/
def ofList (entries : List (String × α)) : Dictionary α :=
  entries.foldl (fun dictionary entry => dictionary.insert entry.1 entry.2) empty

end Dictionary

end SourceOutline

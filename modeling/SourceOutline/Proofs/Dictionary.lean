/-
Dictionaries by what they answer. `find?` is the view: what an operation does is
said by what `find?` gives afterwards, and two dictionaries that answer alike are
equal (`Dictionary.ext_find?`), because the order of the entries is part of the
type. An equality of dictionaries is therefore proved key by key.

Main statements: `find?_insert`, `find?_filterKeys` and `find?_erase`, and that a
dictionary is rebuilt from its own entries, `ofList_entries`.
-/
import Mathlib.Data.List.Sort
import SourceOutline.Dictionary

set_option autoImplicit false

namespace SourceOutline.Dictionary

variable {α : Type}

/-! ## Looking up -/

theorem ext_entries {first second : Dictionary α} (h : first.entries = second.entries) :
    first = second := by
  cases first
  cases second
  cases h
  rfl

theorem lookup_cons_eq (key other : String) (old : α) (rest : List (String × α)) :
    ((other, old) :: rest).lookup key = if key = other then some old else rest.lookup key := by
  rw [List.lookup_cons]
  by_cases h : key = other
  · rw [if_pos h, beq_iff_eq.2 h]
  · rw [if_neg h, beq_false_of_ne h]

/-- The value under a key is the one that an entry has there. Keys are in strict
order, so there is no second entry. -/
theorem find?_eq_some_iff (dictionary : Dictionary α) (key : String) (value : α) :
    dictionary.find? key = some value ↔ (key, value) ∈ dictionary.entries := by
  obtain ⟨entries, hordered⟩ := dictionary
  rw [find?]
  induction entries with
  | nil => simp
  | cons first rest ih =>
    obtain ⟨other, old⟩ := first
    obtain ⟨hbelow, hrest⟩ := List.pairwise_cons.1 hordered
    rw [lookup_cons_eq, List.mem_cons]
    by_cases hkey : key = other
    · subst hkey
      simp only [if_true, Option.some.injEq, Prod.mk.injEq, true_and]
      constructor
      · intro h
        exact .inl h.symm
      · rintro (h | h)
        · exact h.symm
        · exact absurd (hbelow _ h) (String.lt_irrefl _)
    · simp only [hkey, if_false, Prod.mk.injEq, false_and, false_or]
      exact ih hrest

/-- Dictionaries that answer alike are equal. -/
theorem ext_find? {first second : Dictionary α}
    (h : ∀ key, first.find? key = second.find? key) : first = second := by
  refine ext_entries (List.Perm.eq_of_pairwise ?_ first.ordered second.ordered ?_)
  · intro a b _ _ hab hba
    exact absurd (String.lt_trans hab hba) (String.lt_irrefl _)
  · have hnodup : ∀ dictionary : Dictionary α, dictionary.entries.Nodup := by
      intro dictionary
      refine dictionary.ordered.imp ?_
      rintro a b hab rfl
      exact String.lt_irrefl _ hab
    refine (List.perm_ext_iff_of_nodup (hnodup first) (hnodup second)).2 ?_
    rintro ⟨key, value⟩
    rw [← find?_eq_some_iff, ← find?_eq_some_iff, h]

@[simp] theorem find?_empty (key : String) : (empty : Dictionary α).find? key = none := rfl

/-! ## Changing -/

theorem lookup_insertEntry (key : String) (value : α) (entries : List (String × α))
    (key' : String) :
    (insertEntry key value entries).lookup key'
      = if key' = key then some value else entries.lookup key' := by
  induction entries with
  | nil => rw [insertEntry, lookup_cons_eq]
  | cons first rest ih =>
    obtain ⟨other, old⟩ := first
    rw [insertEntry]
    split
    · rw [lookup_cons_eq]
    · split
      · rename_i hsame
        subst hsame
        rw [lookup_cons_eq, lookup_cons_eq]
        split <;> rfl
      · rename_i hother
        rw [lookup_cons_eq, lookup_cons_eq, ih]
        by_cases h : key' = key
        · subst h
          simp only [hother, if_false]
        · simp only [h, if_false]

@[simp] theorem find?_insert (dictionary : Dictionary α) (key key' : String) (value : α) :
    (dictionary.insert key value).find? key'
      = if key' = key then some value else dictionary.find? key' :=
  lookup_insertEntry key value dictionary.entries key'

@[simp] theorem find?_filterKeys (dictionary : Dictionary α) (keep : String → Bool)
    (key : String) :
    (dictionary.filterKeys keep).find? key
      = if keep key then dictionary.find? key else none := by
  rw [filterKeys, find?, find?]
  dsimp only
  induction dictionary.entries with
  | nil => simp
  | cons first rest ih =>
    obtain ⟨other, old⟩ := first
    rw [List.filter_cons]
    by_cases hkeep : keep other = true
    · rw [if_pos hkeep, lookup_cons_eq, lookup_cons_eq, ih]
      by_cases hkey : key = other
      · simp only [hkey, hkeep, if_true]
      · simp only [hkey, if_false]
    · rw [if_neg hkeep, lookup_cons_eq, ih]
      by_cases hkey : key = other
      · simp only [hkey, hkeep]
        rfl
      · simp only [hkey, if_false]

@[simp] theorem find?_erase (dictionary : Dictionary α) (key key' : String) :
    (dictionary.erase key).find? key' = if key' = key then none else dictionary.find? key' := by
  rw [erase, find?_filterKeys]
  by_cases h : key' = key <;> simp [h]

/-- A dictionary without entries answers nothing, and no other one does. -/
theorem isEmpty_iff (dictionary : Dictionary α) :
    dictionary.isEmpty = true ↔ dictionary = empty := by
  rw [isEmpty, List.isEmpty_iff]
  constructor
  · intro h
    exact ext_entries h
  · rintro rfl
    rfl

/-- Putting in what is there changes nothing. -/
theorem insert_eq_self {dictionary : Dictionary α} {key : String} {value : α}
    (h : dictionary.find? key = some value) : dictionary.insert key value = dictionary := by
  refine ext_find? fun key' => ?_
  rw [find?_insert]
  split
  · rename_i heq
    rw [heq, h]
  · rfl

/-- Dropping what is not there changes nothing. -/
theorem erase_eq_self {dictionary : Dictionary α} {key : String}
    (h : dictionary.find? key = none) : dictionary.erase key = dictionary := by
  refine ext_find? fun key' => ?_
  rw [find?_erase]
  split
  · rename_i heq
    rw [heq, h]
  · rfl

/-- A filter that keeps as many entries as there are keeps them all. -/
theorem filterKeys_eq_self {dictionary : Dictionary α} {keep : String → Bool}
    (h : dictionary.size ≤ (dictionary.filterKeys keep).size) :
    dictionary.filterKeys keep = dictionary := by
  refine ext_entries ?_
  have hsub : (dictionary.filterKeys keep).entries.Sublist dictionary.entries :=
    List.filter_sublist
  exact hsub.eq_of_length_le h

/-! ## Rebuilding -/

/-- A key after all others goes to the end. -/
theorem insertEntry_eq_append {key : String} {value : α} {entries : List (String × α)}
    (h : ∀ entry ∈ entries, entry.1 < key) :
    insertEntry key value entries = entries ++ [(key, value)] := by
  induction entries with
  | nil => rfl
  | cons first rest ih =>
    obtain ⟨other, old⟩ := first
    have hother : other < key := h (other, old) List.mem_cons_self
    rw [insertEntry, if_neg (fun hlt => String.lt_irrefl _ (String.lt_trans hother hlt)),
      if_neg (fun heq => String.lt_irrefl _ (heq ▸ hother)),
      ih (fun entry hentry => h entry (List.mem_cons_of_mem _ hentry))]
    rfl

/-- Putting in entries in their order, all of them after those there are, adds them at
the end. -/
theorem foldl_insert_entries (dictionary : Dictionary α) (entries : List (String × α))
    (h : (dictionary.entries ++ entries).Pairwise (fun a b => a.1 < b.1)) :
    (entries.foldl (fun dictionary entry => dictionary.insert entry.1 entry.2) dictionary).entries
      = dictionary.entries ++ entries := by
  induction entries generalizing dictionary with
  | nil => simp
  | cons first rest ih =>
    have hfirst : ∀ entry ∈ dictionary.entries, entry.1 < first.1 := by
      intro entry hentry
      exact (List.pairwise_append.1 h).2.2 entry hentry first List.mem_cons_self
    have hinsert : (dictionary.insert first.1 first.2).entries = dictionary.entries ++ [first] :=
      insertEntry_eq_append hfirst
    rw [List.foldl_cons, ih, hinsert, List.append_assoc, List.singleton_append]
    rw [hinsert, List.append_assoc, List.singleton_append]
    exact h

/-- **A dictionary is rebuilt from its entries.** -/
theorem ofList_entries (dictionary : Dictionary α) : ofList dictionary.entries = dictionary := by
  refine ext_entries ?_
  rw [ofList, foldl_insert_entries empty dictionary.entries dictionary.ordered]
  rfl

end SourceOutline.Dictionary

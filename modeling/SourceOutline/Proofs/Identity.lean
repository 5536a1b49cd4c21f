/-
Identities are never empty and never given twice.

A member that wants a key somebody has gets a suffix, and the suffixed key can
itself be what another member wants, so nothing is free by its form alone. What
decides is the list of identities given out so far: `freeVariant` looks for a
variant outside it, and finds one because there are more variants to try than
identities given out (`exists_free_variant`, a pigeonhole argument). One step of
the walk then keeps the list distinct, `Distinct.cons_freeVariant`, and the list at
the end of a walk is exactly what the walk has written into the forest,
`Forest.assignIdsFrom_taken`.

Later stages only move entries and leave some out, so what holds of the forest
holds of the items of an outline.
-/
import Mathlib.Data.List.Nodup
import SourceOutline.Proofs.Generation

set_option autoImplicit false

namespace SourceOutline

open scoped List

/-! ## The search for a free variant -/

/-- Two ordinals make two variants: the digits can be read back. -/
theorem suffixed_injective (key : String) : Function.Injective (suffixed key) := by
  intro first second h
  have hdigits : Nat.toDigits 10 first = Nat.toDigits 10 second := by
    have hchars := congrArg String.toList h
    simp only [suffixed, String.toList_append, String.toList_ofList] at hchars
    exact List.append_cancel_left hchars
  rw [← Nat.ofDigitChars_ten_toDigits (n := first), hdigits, Nat.ofDigitChars_ten_toDigits]

theorem suffixed_ne_empty (key : String) (ordinal : Nat) : suffixed key ordinal ≠ "" := by
  intro h
  have hchars := congrArg String.toList h
  simp only [suffixed, String.toList_append] at hchars
  simp at hchars

/-- **There is always a free variant** among the first ones, one more than the keys
taken. If all of these were taken, distinct elements of `taken` would outnumber
its length. -/
theorem exists_free_variant (taken : List String) (key : String) :
    ∃ n ≤ taken.length, suffixed key (n + 2) ∉ taken := by
  by_contra hall
  push Not at hall
  have hnodup : ((List.range (taken.length + 1)).map fun n => suffixed key (n + 2)).Nodup := by
    refine List.Nodup.map ?_ List.nodup_range
    intro first second h
    exact Nat.add_right_cancel (suffixed_injective key h)
  have hsubset : ((List.range (taken.length + 1)).map fun n => suffixed key (n + 2)) ⊆ taken := by
    intro variant hvariant
    obtain ⟨n, hn, rfl⟩ := List.mem_map.1 hvariant
    exact hall n (Nat.le_of_lt_succ (List.mem_range.1 hn))
  have hlength := (List.subperm_of_subset hnodup hsubset).length_le
  rw [List.length_map, List.length_range] at hlength
  omega

/-- **The search ends**, and it ends at the first free variant: all before it are
taken. -/
theorem freeVariant_of_mem {taken : List String} {key : String} (h : key ∈ taken) :
    ∃ n ≤ taken.length, freeVariant taken key = suffixed key (n + 2)
      ∧ suffixed key (n + 2) ∉ taken ∧ ∀ m < n, suffixed key (m + 2) ∈ taken := by
  rw [freeVariant, if_pos (List.contains_iff_mem.2 h)]
  dsimp only
  rw [List.find?_map]
  cases hfound : (List.range (taken.length + 1)).find?
      ((fun variant => !taken.contains variant) ∘ fun n => suffixed key (n + 2)) with
  | none =>
    obtain ⟨n, hle, hfree⟩ := exists_free_variant taken key
    have htaken := List.find?_range_eq_none.1 hfound n (Nat.lt_succ_of_le hle)
    simp only [Function.comp_apply, Bool.not_not, List.contains_iff_mem] at htaken
    exact absurd htaken hfree
  | some n =>
    obtain ⟨hfree, hrange, hbefore⟩ := List.find?_range_eq_some.1 hfound
    simp only [Function.comp_apply, Bool.not_eq_true', Bool.not_not, List.contains_eq_mem,
      decide_eq_false_iff_not, decide_eq_true_eq] at hfree hbefore
    exact ⟨n, Nat.le_of_lt_succ (List.mem_range.1 hrange), rfl, hfree, hbefore⟩

theorem freeVariant_of_not_mem {taken : List String} {key : String} (h : key ∉ taken) :
    freeVariant taken key = key := by
  rw [freeVariant, if_neg (mt List.contains_iff_mem.1 h)]

theorem freeVariant_not_mem (taken : List String) (key : String) :
    freeVariant taken key ∉ taken := by
  by_cases h : key ∈ taken
  · obtain ⟨n, -, hfound, hfree, -⟩ := freeVariant_of_mem h
    rwa [hfound]
  · rwa [freeVariant_of_not_mem h]

theorem freeVariant_ne_empty (taken : List String) {key : String} (hkey : key ≠ "") :
    freeVariant taken key ≠ "" := by
  by_cases h : key ∈ taken
  · obtain ⟨n, -, hfound, -, -⟩ := freeVariant_of_mem h
    rw [hfound]
    exact suffixed_ne_empty key _
  · rwa [freeVariant_of_not_mem h]

/-! ## The walk -/

/-- Identities that tell members apart. -/
structure Distinct (ids : List String) : Prop where
  nodup : ids.Nodup
  nonempty : ∀ id ∈ ids, id ≠ ""

theorem Distinct.nil : Distinct [] :=
  ⟨List.nodup_nil, List.forall_mem_nil _⟩

/-- A part of distinct identities, in any order, is distinct. -/
theorem Distinct.subperm {ids part : List String} (h : Distinct ids) (hpart : part <+~ ids) :
    Distinct part := by
  obtain ⟨kept, hperm, hsub⟩ := hpart
  refine ⟨hperm.nodup_iff.1 (hsub.nodup h.nodup), ?_⟩
  intro id hid
  exact h.nonempty id (hsub.subset (hperm.mem_iff.2 hid))

theorem Entry.keyOr_ne_empty (entry : Entry) (token : String) : entry.keyOr token ≠ "" := by
  rw [Entry.keyOr]
  split
  · rw [Ne, String.append_eq_empty_iff]
    rintro ⟨h, -⟩
    exact absurd h (by decide)
  · rename_i h
    exact fun hempty => h (String.isEmpty_iff.2 hempty)

theorem Entry.keyOr_of_ne {entry : Entry} (h : entry.key ≠ "") (token : String) :
    entry.keyOr token = entry.key := by
  rw [Entry.keyOr]
  exact if_neg fun hempty => h (String.isEmpty_iff.1 hempty)

/-- **One step of the walk.** What a member gets is new and not empty. -/
theorem Distinct.cons_freeVariant {taken : List String} (h : Distinct taken) (entry : Entry)
    (token : String) : Distinct (freeVariant taken (entry.keyOr token) :: taken) := by
  refine ⟨List.nodup_cons.2 ⟨freeVariant_not_mem _ _, h.nodup⟩, ?_⟩
  intro id hid
  rcases List.mem_cons.1 hid with rfl | hid
  · exact freeVariant_ne_empty _ (entry.keyOr_ne_empty token)
  · exact h.nonempty id hid

mutual

/-- The list that a walk hands on is distinct if the one it was given is. -/
theorem Member.assignIds_distinct (tokens : Nat → String) {taken : List String}
    (h : Distinct taken) :
    (member : Member) → Distinct (member.assignIds tokens taken).2
  | .node entry children => by
    rw [Member.assignIds]
    exact Forest.assignIdsFrom_distinct tokens (h.cons_freeVariant entry _) children

theorem Forest.assignIdsFrom_distinct (tokens : Nat → String) {taken : List String}
    (h : Distinct taken) :
    (forest : Forest) → Distinct (Forest.assignIdsFrom tokens taken forest).2
  | [] => h
  | member :: rest => by
    rw [Forest.assignIdsFrom]
    exact Forest.assignIdsFrom_distinct tokens (Member.assignIds_distinct tokens h member) rest

end

mutual

/-- The list that a walk hands on is the one it was given with the identities that
stand in the forest now before it, the last one first. -/
theorem Member.assignIds_taken (tokens : Nat → String) (taken : List String) :
    (member : Member) → (member.assignIds tokens taken).2
      = ((member.assignIds tokens taken).1.entries.map Entry.id).reverse ++ taken
  | .node entry children => by
    rw [Member.assignIds]
    dsimp only
    rw [Forest.assignIdsFrom_taken, Member.entries, List.map_cons, List.reverse_cons,
      List.append_assoc, List.singleton_append]
    rfl

theorem Forest.assignIdsFrom_taken (tokens : Nat → String) (taken : List String) :
    (forest : Forest) → (Forest.assignIdsFrom tokens taken forest).2
      = ((Forest.assignIdsFrom tokens taken forest).1.ids).reverse ++ taken
  | [] => rfl
  | member :: rest => by
    rw [Forest.assignIdsFrom]
    dsimp only
    rw [Forest.assignIdsFrom_taken tokens _ rest, Member.assignIds_taken tokens taken member,
      Forest.ids, Forest.ids, Forest.entries, List.map_append, List.reverse_append,
      List.append_assoc]

end

/-- **Assigned identities are distinct.** -/
theorem Forest.assignIds_distinct (tokens : Nat → String) (forest : Forest) :
    Distinct (forest.assignIds tokens).ids := by
  have hwalk := Forest.assignIdsFrom_distinct tokens Distinct.nil forest
  rw [Forest.assignIdsFrom_taken, List.append_nil] at hwalk
  exact hwalk.subperm (List.reverse_perm _).symm.subperm

/-! ## Nothing else changes -/

mutual

/-- A view of entries that does not look at identities sees no difference. -/
theorem Member.mapEntries_assignIds {f : Entry → Entry}
    (hf : ∀ (entry : Entry) (id : String), f { entry with id := id } = f entry)
    (tokens : Nat → String) (taken : List String) :
    (member : Member) → (member.assignIds tokens taken).1.mapEntries f = member.mapEntries f
  | .node entry children => by
    rw [Member.assignIds, Member.mapEntries, Member.mapEntries, hf,
      Forest.mapEntries_assignIdsFrom hf tokens _ children]

theorem Forest.mapEntries_assignIdsFrom {f : Entry → Entry}
    (hf : ∀ (entry : Entry) (id : String), f { entry with id := id } = f entry)
    (tokens : Nat → String) (taken : List String) :
    (forest : Forest) →
      (Forest.assignIdsFrom tokens taken forest).1.mapEntries f = forest.mapEntries f
  | [] => rfl
  | member :: rest => by
    rw [Forest.assignIdsFrom, Forest.mapEntries, Forest.mapEntries,
      Member.mapEntries_assignIds hf tokens taken member,
      Forest.mapEntries_assignIdsFrom hf tokens _ rest]

end

/-- The walk writes one identity for each member. -/
theorem Forest.length_ids_assignIds (tokens : Nat → String) (forest : Forest) :
    (forest.assignIds tokens).ids.length = forest.entries.length := by
  have hshape := congrArg (fun forest : Forest => forest.entries.length)
    (Forest.mapEntries_assignIdsFrom (f := fun entry => { entry with id := "" })
      (fun _ _ => rfl) tokens [] forest)
  simp only [Forest.entries_mapEntries, List.length_map] at hshape
  rw [Forest.ids, List.length_map]
  exact hshape

/-! ## The items of an outline -/

/-- Up to order, the identities of the items are some of those of the forest. -/
theorem Forest.ids_emit_subperm (forest : Forest) (options : Options)
    (encodesContainment : Bool) :
    (forest.nest.emit options encodesContainment).map Item.id <+~ forest.ids := by
  obtain ⟨rows, hrows, hemit⟩ := forest.nest.emit_eq_map options encodesContainment
  obtain ⟨kept, hperm, hsub⟩ := hrows.trans forest.nest_entries_perm.subperm
  rw [hemit, List.map_map]
  exact ⟨kept.map Entry.id, hperm.map _, hsub.map _⟩

/-- The items of an outline have distinct identities. -/
theorem Completion.ids_distinct {σ : Type} {generator : Generator σ} {source : Source}
    {options : Options} {world : World σ} (run : Completion generator source options world) :
    Distinct (run.items.map Item.id) := by
  have hforest : Distinct run.forest.ids := Forest.assignIds_distinct generator.tokens _
  refine hforest.subperm ?_
  rw [← Forest.ids_joinColors run.forest world.store.bookmarks source.fileKey?]
  exact Forest.ids_emit_subperm _ options _

/-- **Identities are distinct and not empty**, in every outline and, before anything
is left out, in every forest after the walk; and the walk's search for a free
variant always comes to an end, at the first variant that is free. -/
theorem identities_distinct :
    (∀ {σ : Type} (generator : Generator σ) (source : Source) (options : Options)
        (world after : World σ) (outline : Outline),
      generator.generate source options world = (.ready outline, after) →
      (outline.items.map Item.id).Nodup ∧ ∀ item ∈ outline.items, item.id ≠ "")
    ∧ (∀ (tokens : Nat → String) (forest : Forest),
      (forest.assignIds tokens).ids.Nodup
        ∧ (∀ id ∈ (forest.assignIds tokens).ids, id ≠ "")
        ∧ (forest.assignIds tokens).ids.length = forest.entries.length)
    ∧ ∀ (taken : List String) (key : String), key ∈ taken →
      ∃ n ≤ taken.length, freeVariant taken key = suffixed key (n + 2)
        ∧ suffixed key (n + 2) ∉ taken ∧ ∀ m < n, suffixed key (m + 2) ∈ taken := by
  refine ⟨?_, ?_, ?_⟩
  · intro σ generator source options world after outline hready
    obtain ⟨run, rfl, -⟩ := Generator.generate_ready hready
    have hdistinct := run.ids_distinct
    exact ⟨hdistinct.nodup, fun item hitem => hdistinct.nonempty _ (List.mem_map_of_mem hitem)⟩
  · intro tokens forest
    have hdistinct := forest.assignIds_distinct tokens
    exact ⟨hdistinct.nodup, hdistinct.nonempty, forest.length_ids_assignIds tokens⟩
  · intro taken key hkey
    exact freeVariant_of_mem hkey

/-- Two fields of one name, a third whose name is the variant of the second, and one
without a name. -/
theorem identities_distinct_of_clashing_names :
    let members : Forest := [
      .leaf { kind := .field, name := "x", startLine := 0 },
      .leaf { kind := .field, name := "x", startLine := 1 },
      .leaf { kind := .field, name := "x#2", startLine := 2 },
      .leaf { kind := .field, name := "", startLine := 3 }]
    let world : World Unit := ⟨{ home := "/" }, .inMemory, ()⟩
    (Forest.assignIds (fun _ => "token") members).ids = ["x", "x#2", "x#2#2", "member-token"]
    ∧ ∃ outline after,
      (Generator.ofMembers members).generate (.text "" "py" none) {} world = (.ready outline, after)
      ∧ (outline.items.map Item.id).Nodup ∧ ∀ item ∈ outline.items, item.id ≠ "" := by
  refine ⟨by decide +kernel, _, _, Generator.generate_ofMembers _ _ _ _ _, ?_⟩
  exact identities_distinct.1 _ _ _ _ _ _ (Generator.generate_ofMembers _ _ _ _ _)

end SourceOutline

/-
When a member gets the key it wants.

A key says what a member is and where it is declared, so it stays the same when the member
is moved about in its file. An identity is settled by a walk that goes by what was given out
before. Of two members with one key the later one gets a variant, and variants are texts
like any other: `a#2` is what a second `a` gets, and it is also the key of a rule for the
selector `a#2`. So a member can find its key taken although nobody else wants it
(`sole_key_lost_to_variant`), and what it gets then depends on what stands before it.

`sole_key_is_identity` says when this happens and when not. A key that nobody else wants is
refused for one reason only: an earlier member holds it, as a variant of its own key or as
the token of a member without one. A key that no other member may take in this way is
always given, and then it does not matter where anything stands.

The walk goes through the forest in preorder, so it is followed along the list of entries
(`identities`), where what comes before a member is the first part of the list.
-/
import Mathlib
import SourceOutline.Proofs.Identity
import SourceOutline.Stylesheet

set_option autoImplicit false

namespace SourceOutline

open scoped List

/-! ## The walk along the entries -/

/-- The identities of entries in preorder. -/
def identities (tokens : Nat → String) (taken : List String) : List Entry → List String
  | [] => []
  | entry :: rest =>
    let id := freeVariant taken (entry.keyOr (tokens taken.length))
    id :: identities tokens (id :: taken) rest

/-- What comes later finds taken what was given out before. -/
theorem identities_append (tokens : Nat → String) (taken : List String)
    (first second : List Entry) :
    identities tokens taken (first ++ second)
      = identities tokens taken first
        ++ identities tokens ((identities tokens taken first).reverse ++ taken) second := by
  induction first generalizing taken with
  | nil => rfl
  | cons entry rest ih =>
    rw [List.cons_append, identities, identities, ih, List.cons_append, List.reverse_cons,
      List.append_assoc, List.singleton_append]

theorem length_identities (tokens : Nat → String) (taken : List String) (entries : List Entry) :
    (identities tokens taken entries).length = entries.length := by
  induction entries generalizing taken with
  | nil => rfl
  | cons entry rest ih =>
    rw [identities, List.length_cons, ih, List.length_cons]

mutual

theorem Member.map_id_assignIds (tokens : Nat → String) (taken : List String) :
    (member : Member) → (member.assignIds tokens taken).1.entries.map Entry.id
      = identities tokens taken member.entries
  | .node entry children => by
    rw [Member.assignIds, Member.entries, Member.entries, List.map_cons, identities]
    congr 1
    exact Forest.ids_assignIdsFrom tokens _ children

/-- The walk through a forest is the walk along its entries. -/
theorem Forest.ids_assignIdsFrom (tokens : Nat → String) (taken : List String) :
    (forest : Forest) → (Forest.assignIdsFrom tokens taken forest).1.ids
      = identities tokens taken forest.entries
  | [] => rfl
  | member :: rest => by
    have hmember := Member.map_id_assignIds tokens taken member
    have hrest := Forest.ids_assignIdsFrom tokens (member.assignIds tokens taken).2 rest
    -- The rest starts from what the first member leaves taken.
    rw [Member.assignIds_taken, hmember, Forest.ids] at hrest
    rw [Forest.assignIdsFrom, Forest.ids, Forest.entries, List.map_append, hmember,
      Member.assignIds_taken, hmember, hrest, Forest.entries, identities_append]

end

/-- What is given to a member with a key: the key, or its first free variant, as far as the
members before it leave them. -/
theorem Forest.ids_assignIds_at {forest : Forest} {before after : List Entry} {entry : Entry}
    (tokens : Nat → String) (hsplit : forest.entries = before ++ entry :: after)
    (hkey : entry.key ≠ "") :
    (forest.assignIds tokens).ids[before.length]?
      = some (freeVariant ((forest.assignIds tokens).ids.take before.length).reverse entry.key) := by
  have hids : (forest.assignIds tokens).ids
      = identities tokens [] before
        ++ identities tokens (identities tokens [] before).reverse (entry :: after) := by
    rw [Forest.assignIds, Forest.ids_assignIdsFrom, hsplit, identities_append, List.append_nil]
  have hlength := length_identities tokens [] before
  have hbefore : (forest.assignIds tokens).ids.take before.length = identities tokens [] before := by
    rw [hids, ← hlength, List.take_left]
  rw [hbefore, hids, List.getElem?_append_right (by omega), hlength, Nat.sub_self, identities,
    Entry.keyOr_of_ne hkey]
  rfl

/-! ## What a member may take -/

/-- Whether a member may come by an identity: it is its key, or a token if it has no key,
with or without an ordinal. -/
def Entry.MayTake (tokens : Nat → String) (entry : Entry) (id : String) : Prop :=
  ∃ place, id = entry.keyOr (tokens place)
    ∨ ∃ ordinal, 2 ≤ ordinal ∧ id = suffixed (entry.keyOr (tokens place)) ordinal

theorem Entry.mayTake_freeVariant (tokens : Nat → String) (taken : List String) (entry : Entry) :
    entry.MayTake tokens (freeVariant taken (entry.keyOr (tokens taken.length))) := by
  refine ⟨taken.length, ?_⟩
  by_cases htaken : entry.keyOr (tokens taken.length) ∈ taken
  · obtain ⟨n, -, hfound, -, -⟩ := freeVariant_of_mem htaken
    exact .inr ⟨n + 2, by omega, hfound⟩
  · exact .inl (freeVariant_of_not_mem htaken)

/-- A member with a key takes that or a variant of it. -/
theorem Entry.mayTake_iff {entry : Entry} (h : entry.key ≠ "") (tokens : Nat → String)
    (id : String) :
    entry.MayTake tokens id
      ↔ id = entry.key ∨ ∃ ordinal, 2 ≤ ordinal ∧ id = suffixed entry.key ordinal := by
  have hkey : ∀ token, entry.keyOr token = entry.key := Entry.keyOr_of_ne h
  simp only [Entry.MayTake, hkey, exists_const]

/-- **Every member gets what it may take.** -/
theorem mayTake_of_identities {tokens : Nat → String} {taken : List String} {entries : List Entry}
    {place : Nat} {id : String} (h : (identities tokens taken entries)[place]? = some id) :
    ∃ entry, entries[place]? = some entry ∧ entry.MayTake tokens id := by
  induction entries generalizing taken place with
  | nil => simp [identities] at h
  | cons entry rest ih =>
    rw [identities] at h
    cases place with
    | zero =>
      rw [List.getElem?_cons_zero, Option.some.injEq] at h
      rw [← h]
      exact ⟨entry, rfl, entry.mayTake_freeVariant tokens taken⟩
    | succ place =>
      rw [List.getElem?_cons_succ] at h ⊢
      exact ih h

/-- Who has an identity before a member may take it. -/
theorem Forest.mayTake_of_lt {forest : Forest} {before after : List Entry} {entry : Entry}
    {tokens : Nat → String} (hsplit : forest.entries = before ++ entry :: after) {place : Nat}
    (hplace : place < before.length) {id : String}
    (h : (forest.assignIds tokens).ids[place]? = some id) :
    ∃ holder, before[place]? = some holder ∧ holder.MayTake tokens id := by
  rw [Forest.assignIds, Forest.ids_assignIdsFrom] at h
  obtain ⟨holder, hholder, hmay⟩ := mayTake_of_identities h
  rw [hsplit, List.getElem?_append_left hplace] at hholder
  exact ⟨holder, hholder, hmay⟩

/-- The key is given if and only if nobody has it before. -/
theorem Forest.ids_assignIds_eq_key_iff {forest : Forest} {before after : List Entry}
    {entry : Entry} (tokens : Nat → String)
    (hsplit : forest.entries = before ++ entry :: after) (hkey : entry.key ≠ "") :
    (forest.assignIds tokens).ids[before.length]? = some entry.key
      ↔ entry.key ∉ (forest.assignIds tokens).ids.take before.length := by
  rw [Forest.ids_assignIds_at tokens hsplit hkey, Option.some.injEq, ← List.mem_reverse]
  constructor
  · intro hgiven htaken
    have hfree := freeVariant_not_mem
      ((forest.assignIds tokens).ids.take before.length).reverse entry.key
    rw [hgiven] at hfree
    exact hfree htaken
  · exact freeVariant_of_not_mem

/-- A key that no other member may take is given, whoever comes before. -/
theorem Forest.ids_assignIds_of_not_mayTake {forest : Forest} {before after : List Entry}
    {entry : Entry} {tokens : Nat → String}
    (hsplit : forest.entries = before ++ entry :: after) (hkey : entry.key ≠ "")
    (hothers : ∀ other ∈ before ++ after, ¬other.MayTake tokens entry.key) :
    (forest.assignIds tokens).ids[before.length]? = some entry.key := by
  rw [Forest.ids_assignIds_eq_key_iff tokens hsplit hkey]
  intro htaken
  obtain ⟨place, hplace⟩ := List.getElem?_of_mem htaken
  rw [List.getElem?_take] at hplace
  by_cases hlt : place < before.length
  · rw [if_pos hlt] at hplace
    obtain ⟨holder, hholder, hmay⟩ := Forest.mayTake_of_lt hsplit hlt hplace
    exact hothers holder (List.mem_append_left _ (List.mem_of_getElem? hholder)) hmay
  · rw [if_neg hlt] at hplace
    cases hplace

/-! ## Members in another place -/

/-- An entry without its place in the file, and without what is settled afterwards. -/
def Entry.unplaced (entry : Entry) : Entry :=
  { entry with startLine := 0, endLine := none, column := 0, id := "", colorTag := none }

/-- No place goes into a key. -/
theorem Entry.key_unplaced (entry : Entry) : entry.unplaced.key = entry.key := rfl

/-- What other members may not take they may not take in other places either. -/
theorem not_mayTake_of_perm {tokens : Nat → String} {id : String} {others others' : List Entry}
    (hperm : others'.map Entry.unplaced ~ others.map Entry.unplaced)
    (h : ∀ other ∈ others, ¬other.MayTake tokens id) :
    ∀ other ∈ others', ¬other.MayTake tokens id := by
  intro other hother hmay
  have hmem := hperm.mem_iff.1 (List.mem_map_of_mem (f := Entry.unplaced) hother)
  obtain ⟨same, hsame, heq⟩ := List.mem_map.1 hmem
  have hkey : same.key = other.key := by
    rw [← same.key_unplaced, heq, other.key_unplaced]
  refine h same hsame ?_
  unfold Entry.MayTake Entry.keyOr at hmay ⊢
  rwa [hkey]

/-- **When a key that nobody else wants is given.** It is given unless an earlier member has
it. Such a member has no key, and so a token, or it has the key with one ordinal less. If no
other member may come by the key at all, then it is given wherever the members stand. -/
theorem sole_key_is_identity (tokens : Nat → String) (forest : Forest)
    (before after : List Entry) (entry : Entry)
    (hsplit : forest.entries = before ++ entry :: after) (hkey : entry.key ≠ "")
    (hsole : ∀ other ∈ before ++ after, other.key ≠ entry.key) :
    ((forest.assignIds tokens).ids[before.length]? = some entry.key
      ↔ entry.key ∉ (forest.assignIds tokens).ids.take before.length)
    ∧ (∀ place < before.length, (forest.assignIds tokens).ids[place]? = some entry.key →
      ∃ holder, before[place]? = some holder
        ∧ (holder.key = "" ∨ ∃ ordinal, 2 ≤ ordinal ∧ entry.key = suffixed holder.key ordinal))
    ∧ ((∀ other ∈ before ++ after, ¬other.MayTake tokens entry.key) →
      ∀ (moved : Forest) (before' after' : List Entry) (entry' : Entry),
      moved.entries = before' ++ entry' :: after' → entry'.unplaced = entry.unplaced →
      (before' ++ after').map Entry.unplaced ~ (before ++ after).map Entry.unplaced →
      (moved.assignIds tokens).ids[before'.length]? = some entry.key) := by
  refine ⟨Forest.ids_assignIds_eq_key_iff tokens hsplit hkey, ?_, ?_⟩
  · intro place hplace hid
    obtain ⟨holder, hholder, hmay⟩ := Forest.mayTake_of_lt hsplit hplace hid
    refine ⟨holder, hholder, ?_⟩
    by_cases hnone : holder.key = ""
    · exact .inl hnone
    · have hother : holder.key ≠ entry.key :=
        hsole holder (List.mem_append_left _ (List.mem_of_getElem? hholder))
      rcases (Entry.mayTake_iff hnone tokens entry.key).1 hmay with hsame | hvariant
      · exact absurd hsame.symm hother
      · exact .inr hvariant
  · intro hothers moved before' after' entry' hsplit' hentry hperm
    have hkey' : entry'.key = entry.key := by
      rw [← entry'.key_unplaced, hentry, entry.key_unplaced]
    rw [← hkey']
    refine Forest.ids_assignIds_of_not_mayTake hsplit' (by rw [hkey']; exact hkey) ?_
    rw [hkey']
    exact not_mayTake_of_perm hperm hothers

/-- Rules for `a`, for `a` again and for `b#2`, and the same with the last one in front. -/
theorem sole_key_is_identity_of_other_selector :
    let rule (name : String) (line : Nat) : Entry :=
      { kind := .field, name := name, startLine := line }
    let forest := Stylesheet.members "a \x7b\n\x7d\na \x7b\n\x7d\nb#2 \x7b\n\x7d"
    let moved := Stylesheet.members "b#2 \x7b\n\x7d\na \x7b\n\x7d\na \x7b\n\x7d"
    let tokens : Nat → String := fun _ => "token"
    forest.entries = [rule "a" 0, rule "a" 2] ++ rule "b#2" 4 :: []
    ∧ (rule "b#2" 4).key ≠ ""
    ∧ (∀ other ∈ [rule "a" 0, rule "a" 2] ++ [], other.key ≠ (rule "b#2" 4).key)
    ∧ (∀ other ∈ [rule "a" 0, rule "a" 2] ++ [], ¬other.MayTake tokens (rule "b#2" 4).key)
    ∧ moved.entries = [] ++ rule "b#2" 0 :: [rule "a" 2, rule "a" 4]
    ∧ (moved.assignIds tokens).ids[0]? = some (rule "b#2" 4).key := by
  intro rule forest moved tokens
  have hsplit : forest.entries = [rule "a" 0, rule "a" 2] ++ rule "b#2" 4 :: [] := by
    dsimp only [forest, rule]
    cbv
  have hsplit' : moved.entries = [] ++ rule "b#2" 0 :: [rule "a" 2, rule "a" 4] := by
    dsimp only [moved, rule]
    cbv
  have hkey : (rule "b#2" 4).key = "b#2" := by
    dsimp only [rule]
    cbv
  have hkeys : ∀ other ∈ [rule "a" 0, rule "a" 2] ++ [], other.key = "a" := by
    have hrule : ∀ line, (rule "a" line).key = "a" := by
      intro line
      dsimp only [rule]
      cbv
    simp [hrule]
  have hne : (rule "b#2" 4).key ≠ "" := by
    rw [hkey]
    decide
  have hsole : ∀ other ∈ [rule "a" 0, rule "a" 2] ++ [], other.key ≠ (rule "b#2" 4).key := by
    intro other hother
    rw [hkeys other hother, hkey]
    decide
  have hothers : ∀ other ∈ [rule "a" 0, rule "a" 2] ++ [],
      ¬other.MayTake tokens (rule "b#2" 4).key := by
    intro other hother hmay
    have hnone : other.key ≠ "" := by
      rw [hkeys other hother]
      decide
    rw [Entry.mayTake_iff hnone, hkeys other hother, hkey] at hmay
    rcases hmay with hsame | ⟨ordinal, -, hvariant⟩
    · exact absurd hsame (by decide)
    · -- A variant of `a` begins with that letter.
      have hhead := congrArg (fun text => text.toList.head?) hvariant
      simp [suffixed, String.toList_append] at hhead
  refine ⟨hsplit, hne, hsole, hothers, hsplit', ?_⟩
  have hgiven := (sole_key_is_identity tokens forest _ _ _ hsplit hne hsole).2.2 hothers
    moved _ _ _ hsplit' rfl (.refl _)
  rwa [List.length_nil] at hgiven

/-- **A key that nobody else wants can be lost.** A style sheet has two rules for `a` and one
for `a#2`, so that the key of the last one is its own. The second rule gets `a#2` as a
variant, and the last one finds its key taken. With the last rule in front it is given, and
the two others have other identities than before. -/
theorem sole_key_lost_to_variant :
    let forest := Stylesheet.members "a \x7b\n\x7d\na \x7b\n\x7d\na#2 \x7b\n\x7d"
    let moved := Stylesheet.members "a#2 \x7b\n\x7d\na \x7b\n\x7d\na \x7b\n\x7d"
    let tokens : Nat → String := fun _ => "token"
    forest.entries.map Entry.key = ["a", "a", "a#2"]
    ∧ (forest.assignIds tokens).ids = ["a", "a#2", "a#2#2"]
    ∧ moved.entries.map Entry.key = ["a#2", "a", "a"]
    ∧ (moved.assignIds tokens).ids = ["a#2", "a", "a#3"] := by
  dsimp only
  refine ⟨?_, ?_, ?_, ?_⟩
  · cbv
  · cbv
  · cbv
  · cbv

end SourceOutline

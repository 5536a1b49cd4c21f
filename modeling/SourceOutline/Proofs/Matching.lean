/-
What a pattern finds, told without continuations.

The matcher tries one way after the other and stops at the first that can be gone on with.
Here all ways are listed, in the order in which they are tried: `Pattern.ends` gives the
places at which they end, and the matcher takes the first of these that its continuation
accepts (`Pattern.run_eq_findSome?_ends`).

Two notions are read off the list. A pattern `Leads` from one place to another if that is
the end of its first way, and a search from there finds it (`Pattern.search_of_leads`).
What is read on the way to any end is a word of the `language` of the pattern, in which
preferences and the surroundings play no part (`Pattern.mem_language_of_mem_ends`); so a text
without a word of the language is searched in vain (`Pattern.search_eq_none`).
-/
import Mathlib.Computability.Language
import SourceOutline.Proofs.Substrings
import SourceOutline.Text.Pattern

set_option autoImplicit false

open scoped Computability

/-- A set of texts, with the operations of regular expressions. -/
abbrev TextLanguage := Language Char

namespace SourceOutline.Text

/-! ## The reach of a class -/

namespace Cursor

theorem mem_reach {accepts : Char → Bool} {groups : List (Nat × Capture)} {before : Option Char}
    {rest : List Char} {nearer : List Cursor} {later : Cursor}
    (h : later ∈ reach accepts groups before rest nearer) :
    later ∈ nearer ∨ ∃ part, (∀ c ∈ part, accepts c = true) ∧ rest = part ++ later.rest := by
  induction rest generalizing before nearer with
  | nil =>
    rw [reach, List.mem_cons] at h
    rcases h with rfl | h
    · exact .inr ⟨[], by simp, rfl⟩
    · exact .inl h
  | cons c cs ih =>
    rw [reach] at h
    split at h
    · rename_i hc
      rcases ih h with hnearer | ⟨part, hpart, hcs⟩
      · rcases List.mem_cons.1 hnearer with rfl | hnearer
        · exact .inr ⟨[], by simp, rfl⟩
        · exact .inl hnearer
      · exact .inr ⟨c :: part, by simpa [hc] using hpart, by rw [hcs, List.cons_append]⟩
    · rcases List.mem_cons.1 h with rfl | h
      · exact .inr ⟨[], by simp, rfl⟩
      · exact .inl h

/-- The character before a place, one character further on. -/
theorem getLast?_cons_or (c : Char) (part : List Char) (before : Option Char) :
    (c :: part).getLast?.or before = part.getLast?.or (some c) := by
  rw [List.getLast?_cons]
  cases part.getLast? <;> rfl

/-- The furthest place is right before the first character outside the class. -/
theorem head?_reach {accepts : Char → Bool} {groups : List (Nat × Capture)} {before : Option Char}
    {part rest : List Char} (hpart : ∀ c ∈ part, accepts c = true)
    (hrest : ∀ c ∈ rest.head?, accepts c = false) (nearer : List Cursor) :
    (reach accepts groups before (part ++ rest) nearer).head?
      = some ⟨part.getLast?.or before, rest, groups⟩ := by
  induction part generalizing before nearer with
  | nil =>
    cases rest with
    | nil => rfl
    | cons c cs => simp [reach, hrest c rfl]
  | cons c cs ih =>
    rw [List.forall_mem_cons] at hpart
    rw [List.cons_append, reach, if_pos hpart.1, ih hpart.2, getLast?_cons_or]

end Cursor

namespace Pattern

/-! ## All ways to match -/

/-- The places to which a step leads that is repeated at most `rounds` times. -/
def endsRepeated (step : Cursor → List Cursor) : Nat → Cursor → List Cursor
  | 0, cursor => [cursor]
  | rounds + 1, cursor =>
    ((step cursor).filter fun later => later.rest.length < cursor.rest.length).flatMap
      (endsRepeated step rounds) ++ [cursor]

/-- The places to which a pattern leads, in the order in which they are tried. -/
def ends : Pattern → Cursor → List Cursor
  | one accepts, cursor =>
    match cursor.rest with
    | c :: rest => if accepts c then [{ cursor with before := some c, rest := rest }] else []
    | [] => []
  | span accepts, cursor => Cursor.reach accepts cursor.groups cursor.before cursor.rest []
  | empty, cursor => [cursor]
  | seq first second, cursor => (ends first cursor).flatMap (ends second)
  | either first second, cursor => ends first cursor ++ ends second cursor
  | many body, cursor => endsRepeated (ends body) cursor.rest.length cursor
  | capture group body, cursor =>
    (ends body cursor).map fun later =>
      { later with groups := (group, ⟨cursor.rest, later.rest⟩) :: later.groups }
  | wordEdge, cursor => if cursor.atWordEdge then [cursor] else []
  | textStart, cursor => if cursor.before.isNone then [cursor] else []
  | textEnd, cursor => if cursor.rest.isEmpty then [cursor] else []

section Ends

variable (accepts : Char → Bool) (first second body : Pattern) (cursor : Cursor)

theorem ends_one_cons (before : Option Char) (c : Char) (rest : List Char)
    (groups : List (Nat × Capture)) :
    (one accepts).ends ⟨before, c :: rest, groups⟩
      = if accepts c then [⟨some c, rest, groups⟩] else [] := rfl

theorem ends_span :
    (span accepts).ends cursor
      = Cursor.reach accepts cursor.groups cursor.before cursor.rest [] := rfl

theorem ends_empty : empty.ends cursor = [cursor] := rfl

theorem ends_seq : (seq first second).ends cursor = (first.ends cursor).flatMap second.ends := rfl

theorem ends_either :
    (either first second).ends cursor = first.ends cursor ++ second.ends cursor := rfl

theorem ends_many :
    (many body).ends cursor = endsRepeated body.ends cursor.rest.length cursor := rfl

theorem ends_capture (group : Nat) :
    (capture group body).ends cursor
      = (body.ends cursor).map fun later =>
          { later with groups := (group, ⟨cursor.rest, later.rest⟩) :: later.groups } := rfl

theorem ends_wordEdge : wordEdge.ends cursor = if cursor.atWordEdge then [cursor] else [] := rfl

theorem ends_textStart :
    textStart.ends cursor = if cursor.before.isNone then [cursor] else [] := rfl

theorem ends_textEnd : textEnd.ends cursor = if cursor.rest.isEmpty then [cursor] else [] := rfl

end Ends

theorem findSome?_flatMap {α β γ : Type} (f : α → List β) (g : β → Option γ) (l : List α) :
    (l.flatMap f).findSome? g = l.findSome? fun a => (f a).findSome? g := by
  induction l with
  | nil => rfl
  | cons a l ih =>
    rw [List.flatMap_cons, List.findSome?_append, ih, List.findSome?_cons]
    cases (f a).findSome? g <;> rfl

theorem findSome?_filter {α β : Type} (p : α → Bool) (g : α → Option β) (l : List α) :
    (l.filter p).findSome? g = l.findSome? fun a => if p a then g a else none := by
  induction l with
  | nil => rfl
  | cons a l ih =>
    rw [List.filter_cons, List.findSome?_cons]
    cases p a <;> simp [List.findSome?_cons, ih]

theorem repeated_eq_findSome? {step : Cursor → Next → Option Cursor} {steps : Cursor → List Cursor}
    (h : ∀ cursor next, step cursor next = (steps cursor).findSome? next) (rounds : Nat)
    (cursor : Cursor) (next : Next) :
    repeated step rounds cursor next = (endsRepeated steps rounds cursor).findSome? next := by
  induction rounds generalizing cursor with
  | zero =>
    rw [repeated, endsRepeated, List.findSome?_singleton]
  | succ rounds ih =>
    rw [repeated, endsRepeated, h, List.findSome?_append, findSome?_flatMap, findSome?_filter,
      List.findSome?_singleton]
    simp only [ih, decide_eq_true_eq]
    cases (steps cursor).findSome? _ <;> rfl

/-- The matcher takes the first end that can be gone on from. -/
theorem run_eq_findSome?_ends (pattern : Pattern) (cursor : Cursor) (next : Next) :
    pattern.run cursor next = (pattern.ends cursor).findSome? next := by
  induction pattern generalizing cursor next with
  | one accepts =>
    obtain ⟨before, rest, groups⟩ := cursor
    cases rest with
    | nil => rfl
    | cons c rest =>
      rw [run, ends_one_cons]
      dsimp only
      split
      · rw [List.findSome?_singleton]
      · rfl
  | span accepts => rw [run, ends_span]
  | empty => rw [run, ends_empty, List.findSome?_singleton]
  | seq first second ihfirst ihsecond =>
    rw [run, ends_seq, findSome?_flatMap, ihfirst]
    simp only [ihsecond]
  | either first second ihfirst ihsecond =>
    rw [run, ends_either, List.findSome?_append, ihfirst, ihsecond]
    cases (first.ends cursor).findSome? next <;> rfl
  | many body ih => rw [run, ends_many, repeated_eq_findSome? ih]
  | capture group body ih =>
    rw [run, ends_capture, List.findSome?_map, ih]
    rfl
  | wordEdge | textStart | textEnd =>
    simp only [run, ends_wordEdge, ends_textStart, ends_textEnd]
    split
    · rw [List.findSome?_singleton]
    · rfl

/-! ## The language of a pattern -/

/-- The words a pattern can read, wherever they stand. -/
def language : Pattern → TextLanguage
  | one accepts => {part | ∃ c, accepts c = true ∧ part = [c]}
  | span accepts => {part | ∀ c ∈ part, accepts c = true}
  | seq first second => first.language * second.language
  | either first second => first.language + second.language
  | many body => body.language∗
  | capture _ body => body.language
  | empty | wordEdge | textStart | textEnd => 1

theorem mem_language_of_mem_endsRepeated {step : Cursor → List Cursor} {words : TextLanguage}
    (h : ∀ cursor, ∀ later ∈ step cursor, ∃ part ∈ words, cursor.rest = part ++ later.rest)
    {rounds : Nat} {cursor later : Cursor} (hlater : later ∈ endsRepeated step rounds cursor) :
    ∃ part ∈ words∗, cursor.rest = part ++ later.rest := by
  induction rounds generalizing cursor with
  | zero =>
    rw [endsRepeated, List.mem_singleton] at hlater
    exact ⟨[], Language.nil_mem_kstar _, by rw [hlater, List.nil_append]⟩
  | succ rounds ih =>
    rw [endsRepeated, List.mem_append, List.mem_singleton, List.mem_flatMap] at hlater
    rcases hlater with ⟨middle, hmiddle, hlater⟩ | rfl
    · obtain ⟨first, hfirst, hrest⟩ := h cursor middle (List.mem_filter.1 hmiddle).1
      obtain ⟨second, hsecond, hrest'⟩ := ih hlater
      refine ⟨first ++ second, ?_, by rw [hrest, hrest', List.append_assoc]⟩
      exact (mul_kstar_le_kstar : words * words∗ ≤ words∗) (Language.append_mem_mul hfirst hsecond)
    · exact ⟨[], Language.nil_mem_kstar _, rfl⟩

/-- What is read on the way to an end is a word of the language. -/
theorem mem_language_of_mem_ends {pattern : Pattern} {cursor later : Cursor}
    (h : later ∈ pattern.ends cursor) :
    ∃ part ∈ pattern.language, cursor.rest = part ++ later.rest := by
  induction pattern generalizing cursor later with
  | one accepts =>
    obtain ⟨before, rest, groups⟩ := cursor
    cases rest with
    | nil => cases h
    | cons c rest =>
      rw [ends_one_cons] at h
      split at h
      · rename_i hc
        rw [List.mem_singleton.1 h]
        exact ⟨[c], ⟨c, hc, rfl⟩, rfl⟩
      · cases h
  | span accepts =>
    rw [ends_span] at h
    rcases Cursor.mem_reach h with h | ⟨part, hpart, hrest⟩
    · cases h
    · exact ⟨part, hpart, hrest⟩
  | seq first second ihfirst ihsecond =>
    rw [ends_seq, List.mem_flatMap] at h
    obtain ⟨middle, hmiddle, hlater⟩ := h
    obtain ⟨part, hpart, hrest⟩ := ihfirst hmiddle
    obtain ⟨part', hpart', hrest'⟩ := ihsecond hlater
    exact ⟨part ++ part', Language.append_mem_mul hpart hpart', by
      rw [hrest, hrest', List.append_assoc]⟩
  | either first second ihfirst ihsecond =>
    rw [ends_either, List.mem_append] at h
    rcases h with h | h
    · obtain ⟨part, hpart, hrest⟩ := ihfirst h
      exact ⟨part, .inl hpart, hrest⟩
    · obtain ⟨part, hpart, hrest⟩ := ihsecond h
      exact ⟨part, .inr hpart, hrest⟩
  | many body ih =>
    rw [ends_many] at h
    exact mem_language_of_mem_endsRepeated (fun _ _ => ih) h
  | capture group body ih =>
    rw [ends_capture, List.mem_map] at h
    obtain ⟨middle, hmiddle, rfl⟩ := h
    obtain ⟨part, hpart, hrest⟩ := ih hmiddle
    exact ⟨part, hpart, hrest⟩
  | empty =>
    rw [ends_empty, List.mem_singleton] at h
    exact ⟨[], rfl, by rw [h, List.nil_append]⟩
  | wordEdge | textStart | textEnd =>
    simp only [ends_wordEdge, ends_textStart, ends_textEnd] at h
    split at h
    · rw [List.mem_singleton.1 h]
      exact ⟨[], rfl, rfl⟩
    · cases h

/-! ## The first way to match -/

/-- The first way a pattern matches at one place ends at another. -/
def Leads (pattern : Pattern) (cursor later : Cursor) : Prop :=
  (pattern.ends cursor).head? = some later

variable {first second body : Pattern} {accepts : Char → Bool} {cursor middle later : Cursor}
  {before : Option Char} {part rest : List Char} {groups : List (Nat × Capture)}

theorem leads_one {c : Char} (h : accepts c = true) :
    (one accepts).Leads ⟨before, c :: rest, groups⟩ ⟨some c, rest, groups⟩ := by
  rw [Leads, ends_one_cons, if_pos h, List.head?_cons]

/-- A stretch of a class is read to its end. -/
theorem leads_span (hpart : ∀ c ∈ part, accepts c = true)
    (hrest : ∀ c ∈ rest.head?, accepts c = false) :
    (span accepts).Leads ⟨before, part ++ rest, groups⟩ ⟨part.getLast?.or before, rest, groups⟩ :=
  Cursor.head?_reach hpart hrest []

theorem Leads.seq (hfirst : first.Leads cursor middle) (hsecond : second.Leads middle later) :
    (seq first second).Leads cursor later := by
  obtain ⟨others, hothers⟩ := List.head?_eq_some_iff.1 hfirst
  rw [Leads, ends_seq, hothers, List.flatMap_cons, List.head?_append, hsecond, Option.some_or]

theorem Leads.either (h : first.Leads cursor later) (second : Pattern) :
    (either first second).Leads cursor later := by
  rw [Leads, ends_either, List.head?_append, h, Option.some_or]

theorem Leads.either_of_nil (hfirst : first.ends cursor = []) (h : second.Leads cursor later) :
    (Pattern.either first second).Leads cursor later := by
  rw [Leads, ends_either, hfirst, List.nil_append, h]

/-- What may come before the second pattern is passed by if it leads to no match there. -/
theorem Leads.opt_seq (hbody : (Pattern.seq body second).ends cursor = [])
    (h : second.Leads cursor later) : (Pattern.seq (opt body) second).Leads cursor later := by
  have hends : (Pattern.seq (opt body) second).ends cursor
      = (Pattern.seq body second).ends cursor ++ second.ends cursor := by
    simp only [opt, ends_seq, ends_either, ends_empty, List.flatMap_append, List.flatMap_cons, List.flatMap_nil, List.append_nil]
  rw [Leads, hends, hbody, List.nil_append, h]

theorem Leads.capture (h : body.Leads cursor later) (group : Nat) :
    (capture group body).Leads cursor
      { later with groups := (group, ⟨cursor.rest, later.rest⟩) :: later.groups } := by
  rw [Leads, ends_capture, List.head?_map, h, Option.map_some]

theorem leads_wordEdge (h : cursor.atWordEdge = true) : wordEdge.Leads cursor cursor := by
  rw [Leads, ends_wordEdge, if_pos h, List.head?_cons]

theorem leads_textStart (h : cursor.before = none) : textStart.Leads cursor cursor := by
  rw [Leads, ends_textStart, h]
  rfl

/-- A place to which repeated first ways lead, up to one where there is no way on. -/
inductive Rounds (body : Pattern) (later : Cursor) : Cursor → Prop where
  | stop (h : body.ends later = []) : Rounds body later later
  | again {cursor middle : Cursor} (h : body.Leads cursor middle)
      (hshorter : middle.rest.length < cursor.rest.length) (hlater : Rounds body later middle) :
      Rounds body later cursor

theorem Rounds.leads (h : body.Rounds later cursor) : (many body).Leads cursor later := by
  suffices ∀ rounds, cursor.rest.length ≤ rounds →
      (endsRepeated body.ends rounds cursor).head? = some later from this _ le_rfl
  induction h with
  | stop h =>
    intro rounds _
    cases rounds with
    | zero => rfl
    | succ rounds => rw [endsRepeated, h]; rfl
  | @again cursor middle h hshorter _ ih =>
    intro rounds hrounds
    cases rounds with
    | zero => omega
    | succ rounds =>
      obtain ⟨others, hothers⟩ := List.head?_eq_some_iff.1 h
      rw [endsRepeated, hothers, List.filter_cons_of_pos (by simpa using hshorter),
        List.flatMap_cons, List.append_assoc, List.head?_append, ih rounds (by omega),
        Option.some_or]

/-! ## Searches -/

theorem searchFrom_cons (pattern : Pattern) (before : Option Char) (c : Char) (rest : List Char) :
    pattern.searchFrom before (c :: rest)
      = ((pattern.ends ⟨before, c :: rest, []⟩).head?).or (pattern.searchFrom (some c) rest) := by
  rw [searchFrom, run_eq_findSome?_ends]
  cases pattern.ends ⟨before, c :: rest, []⟩ <;> rfl

theorem searchFrom_nil (pattern : Pattern) (before : Option Char) :
    pattern.searchFrom before [] = (pattern.ends ⟨before, [], []⟩).head? := by
  rw [searchFrom, run_eq_findSome?_ends]
  cases pattern.ends ⟨before, [], []⟩ <;> rfl

theorem searchFrom_of_leads {pattern : Pattern} {text : List Char}
    (h : pattern.Leads ⟨before, text, []⟩ later) : pattern.searchFrom before text = some later := by
  cases text with
  | nil => rw [searchFrom_nil, h]
  | cons c rest => rw [searchFrom_cons, h, Option.some_or]

/-- What the pattern leads to from the beginning of a text is found. -/
theorem search_of_leads {pattern : Pattern} {text : List Char}
    (h : pattern.Leads (.start text) later) : pattern.search text = some later :=
  searchFrom_of_leads h

/-- Where no word of the language begins the pattern leads nowhere. -/
theorem ends_eq_nil {pattern : Pattern} {cursor : Cursor}
    (h : ∀ part ∈ pattern.language, ¬part <+: cursor.rest) : pattern.ends cursor = [] := by
  refine List.eq_nil_iff_forall_not_mem.2 fun later hlater => ?_
  obtain ⟨part, hpart, hrest⟩ := mem_language_of_mem_ends hlater
  exact h part hpart ⟨later.rest, hrest.symm⟩

/-- A search passes over characters at which no word of the language begins. -/
theorem searchFrom_append {pattern : Pattern} {skipped : List Char} (rest : List Char)
    (h : ∀ part ∈ pattern.language, ∀ tail, tail <:+ skipped → tail ≠ [] → ¬part <+: tail ++ rest)
    (before : Option Char) :
    pattern.searchFrom before (skipped ++ rest)
      = pattern.searchFrom (skipped.getLast?.or before) rest := by
  induction skipped generalizing before with
  | nil => rfl
  | cons c cs ih =>
    have hnone : pattern.ends ⟨before, c :: (cs ++ rest), []⟩ = [] :=
      ends_eq_nil fun part hpart => h part hpart (c :: cs) List.suffix_rfl (List.cons_ne_nil _ _)
    rw [List.cons_append, searchFrom_cons, hnone, List.head?_nil, Option.none_or,
      ih fun part hpart tail htail => h part hpart tail (htail.trans (List.suffix_cons c cs)),
      Cursor.getLast?_cons_or]

/-- A text without a word of the language is searched in vain. -/
theorem search_eq_none {pattern : Pattern} {text : List Char}
    (h : ∀ part ∈ pattern.language, ¬part <:+: text) : pattern.search text = none := by
  have hnone : pattern.ends ⟨text.getLast?.or none, [], []⟩ = [] :=
    ends_eq_nil fun part hpart hbegins => h part hpart (hbegins.isInfix.trans List.nil_infix)
  rw [search, ← List.append_nil text, searchFrom_append, searchFrom_nil, hnone, List.head?_nil]
  intro part hpart tail htail _ hbegins
  rw [List.append_nil] at hbegins
  exact h part hpart (hbegins.isInfix.trans htail.isInfix)

/-- A pattern that matches at the start of a text only. -/
def Anchored (pattern : Pattern) : Prop := ∀ cursor, cursor.before ≠ none → pattern.ends cursor = []

theorem anchored_textStart : textStart.Anchored := by
  intro cursor h
  rw [ends_textStart, if_neg (by simpa using h)]

theorem Anchored.seq (h : first.Anchored) (second : Pattern) : (seq first second).Anchored := by
  intro cursor hbefore
  rw [ends_seq, h cursor hbefore, List.flatMap_nil]

/-- A pattern that matches at the start only is searched in vain if no word of its language
begins the text. -/
theorem Anchored.search_eq_none {pattern : Pattern} {text : List Char} (hanchored : pattern.Anchored)
    (h : ∀ part ∈ pattern.language, ¬part <+: text) : pattern.search text = none := by
  have hstart : pattern.ends (.start text) = [] := ends_eq_nil h
  have hlater : ∀ c rest, pattern.searchFrom (some c) rest = none := by
    intro c rest
    induction rest generalizing c with
    | nil => rw [searchFrom_nil, hanchored _ (by simp), List.head?_nil]
    | cons d rest ih =>
      rw [searchFrom_cons, ih, hanchored _ (by simp), List.head?_nil, Option.or_none]
  cases text with
  | nil => rw [search, searchFrom_nil]; exact congrArg List.head? hstart
  | cons c rest =>
    rw [search, searchFrom_cons, hlater, Option.or_none]
    exact congrArg List.head? hstart

/-! ## Characters that must be there -/

/-- No word of the language is without a character. -/
def Requires (pattern : Pattern) (c : Char) : Prop := ∀ part ∈ pattern.language, c ∈ part

theorem requires_char (c : Char) : (char c).Requires c := by
  rintro _ ⟨d, hd, rfl⟩
  exact List.mem_singleton.2 (beq_iff_eq.1 hd).symm

theorem Requires.seq_left {c : Char} (h : first.Requires c) (second : Pattern) :
    (Pattern.seq first second).Requires c := by
  rintro _ ⟨part, hpart, part', -, rfl⟩
  exact List.mem_append_left _ (h part hpart)

theorem Requires.seq_right {c : Char} (first : Pattern) (h : second.Requires c) :
    (Pattern.seq first second).Requires c := by
  rintro _ ⟨part, -, part', hpart', rfl⟩
  exact List.mem_append_right _ (h part' hpart')

theorem Requires.search_eq_none {pattern : Pattern} {c : Char} (h : pattern.Requires c)
    {text : List Char} (hc : c ∉ text) : pattern.search text = none :=
  Pattern.search_eq_none fun part hpart hwithin => hc (hwithin.subset (h part hpart))

/-! ## Shorthands -/

theorem eq_of_mem_language_text {word : String} (h : part ∈ (text word).language) :
    part = word.toList := by
  rw [text] at h
  generalize word.toList = cs at h ⊢
  induction cs generalizing part with
  | nil => exact h
  | cons c cs ih =>
    cases cs with
    | nil =>
      obtain ⟨d, hd, rfl⟩ := h
      rw [beq_iff_eq.1 hd]
    | cons c' cs =>
      obtain ⟨_, ⟨d, hd, rfl⟩, part', hpart', rfl⟩ := h
      rw [beq_iff_eq.1 hd, ih hpart']
      rfl

theorem requires_text {word : String} {c : Char} (h : c ∈ word.toList) : (text word).Requires c :=
  fun _ hpart => eq_of_mem_language_text hpart ▸ h

theorem leads_text (word : String) (rest : List Char) :
    (text word).Leads ⟨before, word.toList ++ rest, groups⟩
      ⟨word.toList.getLast?.or before, rest, groups⟩ := by
  rw [text]
  induction word.toList generalizing before with
  | nil => rfl
  | cons c cs ih =>
    cases cs with
    | nil => exact leads_one (beq_self_eq_true c)
    | cons c' cs =>
      rw [Cursor.getLast?_cons_or]
      exact (leads_one (beq_self_eq_true c)).seq ih

theorem ends_text_eq_nil {word : String} (h : ¬word.toList <+: cursor.rest) :
    (text word).ends cursor = [] :=
  ends_eq_nil fun _ hpart => eq_of_mem_language_text hpart ▸ h

theorem exists_of_mem_language_oneOf {words : List String} (h : part ∈ (oneOf words).language) :
    ∃ word ∈ words, part = word.toList := by
  rw [oneOf] at h
  induction words with
  | nil =>
    obtain ⟨c, hc, -⟩ := h
    cases hc
  | cons word others ih =>
    cases others with
    | nil => exact ⟨word, List.mem_cons_self, eq_of_mem_language_text h⟩
    | cons other others =>
      rcases h with h | h
      · exact ⟨word, List.mem_cons_self, eq_of_mem_language_text h⟩
      · obtain ⟨found, hfound, hpart⟩ := ih h
        exact ⟨found, List.mem_cons_of_mem _ hfound, hpart⟩

/-- Of several words none of which begins another, the one that is there is read. -/
theorem leads_oneOf {words : List String}
    (hfree : words.Pairwise fun a b => ¬a.toList <+: b.toList ∧ ¬b.toList <+: a.toList)
    {word : String} (hword : word ∈ words) :
    (oneOf words).Leads ⟨before, word.toList ++ rest, groups⟩
      ⟨word.toList.getLast?.or before, rest, groups⟩ := by
  rw [oneOf]
  induction words with
  | nil => cases hword
  | cons other others ih =>
    obtain ⟨hother, hothers⟩ := List.pairwise_cons.1 hfree
    cases others with
    | nil =>
      obtain rfl := List.mem_singleton.1 hword
      exact leads_text word rest
    | cons next others =>
      rcases List.mem_cons.1 hword with rfl | hword
      · exact (leads_text word rest).either _
      · refine Leads.either_of_nil (ends_text_eq_nil fun hbegins => ?_) (ih hothers hword)
        rcases List.prefix_or_prefix_of_prefix hbegins (List.prefix_append _ rest) with h | h
        · exact (hother word hword).1 h
        · exact (hother word hword).2 h

theorem leads_span_nil (hrest : ∀ c ∈ rest.head?, accepts c = false) :
    (span accepts).Leads ⟨before, rest, groups⟩ ⟨before, rest, groups⟩ :=
  leads_span (List.forall_mem_nil _) hrest

theorem leads_span1 (hnil : part ≠ []) (hpart : ∀ c ∈ part, accepts c = true)
    (hrest : ∀ c ∈ rest.head?, accepts c = false) :
    (span1 accepts).Leads ⟨before, part ++ rest, groups⟩ ⟨part.getLast?.or before, rest, groups⟩ := by
  obtain ⟨c, cs, rfl⟩ := List.exists_cons_of_ne_nil hnil
  rw [List.forall_mem_cons] at hpart
  rw [Cursor.getLast?_cons_or]
  exact (leads_one hpart.1).seq (leads_span hpart.2 hrest)

theorem of_mem_language_span1 (h : part ∈ (span1 accepts).language) :
    part ≠ [] ∧ ∀ c ∈ part, accepts c = true := by
  obtain ⟨_, ⟨c, hc, rfl⟩, part, hpart, rfl⟩ := h
  exact ⟨List.cons_ne_nil _ _, List.forall_mem_cons.2 ⟨hc, hpart⟩⟩

theorem leads_opt_nil (h : body.ends cursor = []) : (opt body).Leads cursor cursor :=
  Leads.either_of_nil h rfl

end Pattern

end SourceOutline.Text

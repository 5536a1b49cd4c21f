/-
Beginnings, ends and parts of a text, as they are looked for and as they are.

The functions that look for a part walk along the text. What they find is said here without
a walk: a text begins or ends with a part if it is that part with something behind or in
front of it, and a filter occurs in a text if the two, in lower case, stand in Mathlib's
infix relation. What is trimmed off a text is a stretch of blanks.
-/
import Mathlib.Data.List.Infix
import SourceOutline.Options.Basic

set_option autoImplicit false

namespace SourceOutline

namespace Text

theorem dropStart?_eq_some_iff {part text rest : List Char} :
    dropStart? part text = some rest ↔ text = part ++ rest := by
  induction part generalizing text with
  | nil => simp [dropStart?, eq_comm]
  | cons p ps ih =>
    cases text with
    | nil => simp [dropStart?]
    | cons c cs =>
      rw [dropStart?, List.cons_append, List.cons.injEq]
      by_cases hpc : p = c
      · rw [if_pos hpc, ih]
        simp [hpc]
      · rw [if_neg hpc]
        simp [Ne.symm hpc]

theorem dropEnd?_eq_some_iff {part text rest : List Char} :
    dropEnd? part text = some rest ↔ text = rest ++ part := by
  rw [dropEnd?, Option.map_eq_some_iff]
  constructor
  · rintro ⟨front, hfront, rfl⟩
    rw [dropStart?_eq_some_iff] at hfront
    rw [← List.reverse_reverse text, hfront, List.reverse_append, List.reverse_reverse]
  · rintro rfl
    refine ⟨rest.reverse, ?_, rest.reverse_reverse⟩
    rw [dropStart?_eq_some_iff, List.reverse_append]

theorem startsWith_iff {part text : List Char} : startsWith part text = true ↔ part <+: text := by
  rw [startsWith, Option.isSome_iff_exists]
  constructor
  · rintro ⟨rest, hrest⟩
    exact ⟨rest, (dropStart?_eq_some_iff.1 hrest).symm⟩
  · rintro ⟨rest, hrest⟩
    exact ⟨rest, dropStart?_eq_some_iff.2 hrest.symm⟩

theorem occursIn_iff {part text : List Char} : occursIn part text = true ↔ part <:+: text := by
  induction text with
  | nil => rw [occursIn, startsWith_iff, List.infix_nil, List.prefix_nil]
  | cons c cs ih => rw [occursIn, Bool.or_eq_true, startsWith_iff, ih, List.infix_cons_iff]

/-- Blanks before a text make no difference once it is trimmed. -/
theorem trimStart_append {blanks : List Char} (hblanks : ∀ c ∈ blanks, isBlank c = true)
    (rest : List Char) : trimStart (blanks ++ rest) = trimStart rest :=
  List.dropWhile_append_of_pos hblanks

theorem exists_blanks (text : List Char) :
    ∃ blanks, text = blanks ++ trimStart text ∧ ∀ c ∈ blanks, isBlank c = true :=
  ⟨text.takeWhile isBlank, List.takeWhile_append_dropWhile.symm,
    List.all_eq_true.1 List.all_takeWhile⟩

theorem trimStart_eq_self {text : List Char} (h : ∀ c ∈ text.head?, isBlank c = false) :
    trimStart text = text := by
  cases text with
  | nil => rfl
  | cons c cs => exact List.dropWhile_cons_of_neg (by simp [h c rfl])

/-- Blanks before a text that begins with another character come off. -/
theorem trim_append {blanks text : List Char} (hblanks : ∀ c ∈ blanks, isBlank c = true)
    (htext : ∀ c ∈ text.head?, isBlank c = false) : trim (blanks ++ text) = trimEnd text := by
  rw [trim, trimStart_append hblanks, trimStart_eq_self htext]

/-- Only the blanks behind the last character of another kind are taken off. -/
theorem trimEnd_append_cons (before : List Char) {c : Char} (hc : isBlank c = false)
    (after : List Char) : trimEnd (before ++ c :: after) = before ++ c :: trimEnd after := by
  have hstop : (c :: before.reverse).dropWhile isBlank = c :: before.reverse :=
    List.dropWhile_cons_of_neg (by simp [hc])
  rw [trimEnd, List.reverse_append, List.reverse_cons, List.append_assoc, List.singleton_append,
    List.dropWhile_append, hstop]
  cases hrest : after.reverse.dropWhile isBlank <;> simp [trimEnd, hrest]

theorem trimEnd_eq_self {text : List Char} (h : ∀ c ∈ text.getLast?, isBlank c = false) :
    trimEnd text = text := by
  cases text using List.reverseRecOn with
  | nil => rfl
  | append_singleton front c =>
    exact trimEnd_append_cons front (h c List.getLast?_concat) []

theorem not_blank_of_mem_getLast?_trimEnd (text : List Char) :
    ∀ c ∈ (trimEnd text).getLast?, isBlank c = false := by
  intro c hc
  rw [trimEnd, List.getLast?_reverse] at hc
  have hstop := List.head?_dropWhile_not isBlank text.reverse
  rw [hc] at hstop
  simpa using hstop

theorem not_blank_of_mem_head?_trimStart (text : List Char) :
    ∀ c ∈ (trimStart text).head?, isBlank c = false := by
  intro c hc
  have hstop := List.head?_dropWhile_not isBlank text
  rw [trimStart] at hc
  rw [hc] at hstop
  simpa using hstop

theorem trimEnd_append {blanks : List Char} (hblanks : ∀ c ∈ blanks, isBlank c = true)
    (text : List Char) : trimEnd (text ++ blanks) = trimEnd text := by
  have hreverse : ∀ c ∈ blanks.reverse, isBlank c = true := by simpa using hblanks
  rw [trimEnd, List.reverse_append, List.dropWhile_append_of_pos hreverse, trimEnd]

theorem exists_blanks_behind (text : List Char) :
    ∃ blanks, text = trimEnd text ++ blanks ∧ ∀ c ∈ blanks, isBlank c = true := by
  obtain ⟨blanks, hsplit, hblanks⟩ := exists_blanks text.reverse
  refine ⟨blanks.reverse, ?_, by simpa using hblanks⟩
  have hturned := congrArg List.reverse hsplit
  rwa [List.reverse_reverse, List.reverse_append] at hturned

/-- Blanks around a text make no difference once it is trimmed. -/
theorem trim_surrounded {before after : List Char} (hbefore : ∀ c ∈ before, isBlank c = true)
    (hafter : ∀ c ∈ after, isBlank c = true) (text : List Char) :
    trim (before ++ (text ++ after)) = trim text := by
  have hblank : trimStart after = [] := by
    rw [← List.append_nil after, trimStart_append hafter]
    rfl
  rw [trim, trimStart_append hbefore, trim, trimStart, trimStart, List.dropWhile_append]
  split
  · -- Of a text of blanks nothing is left in either case.
    rename_i hnone
    rw [← trimStart, hblank, List.isEmpty_iff.1 hnone]
  · exact trimEnd_append hafter _

theorem trim_trimEnd (text : List Char) : trim (trimEnd text) = trim text := by
  obtain ⟨blanks, hsplit, hblanks⟩ := exists_blanks_behind text
  have hsame := trim_surrounded (List.forall_mem_nil _) hblanks (trimEnd text)
  rw [List.nil_append, ← hsplit] at hsame
  exact hsame.symm

/-- A beginning of a trimmed text has no blanks before it. -/
theorem trimStart_left {front behind : List Char}
    (h : trimStart (front ++ behind) = front ++ behind) : trimStart front = front := by
  refine trimStart_eq_self fun c hc => not_blank_of_mem_head?_trimStart (front ++ behind) c ?_
  rw [h, List.head?_append, hc]
  rfl

/-- An end of a trimmed text has no blanks behind it. -/
theorem trimEnd_of_suffix_trim {text part : List Char} (h : part <:+ trim text) :
    trimEnd part = part := by
  obtain ⟨front, hsplit⟩ := h
  refine trimEnd_eq_self fun c hc => not_blank_of_mem_getLast?_trimEnd (trimStart text) c ?_
  rw [← trim, ← hsplit, List.getLast?_append, hc]
  rfl

theorem trimStart_trim (text : List Char) : trimStart (trim text) = trim text := by
  obtain ⟨blanks, hsplit, -⟩ := exists_blanks_behind (trimStart text)
  refine @trimStart_left (trim text) blanks ?_
  rw [trim, ← hsplit]
  exact trimStart_eq_self (not_blank_of_mem_head?_trimStart text)

/-- One text holds another, up to case. -/
def Holds (text part : String) : Prop :=
  lowerChars part.toList <:+: lowerChars text.toList

instance (text part : String) : Decidable (Holds text part) :=
  inferInstanceAs (Decidable (_ <:+: _))

end Text

/-- A text passes a filter if there is none or if it holds it. -/
theorem matchesFilter_iff {text : String} {filter : Option String} :
    matchesFilter text filter = true ↔ ∀ part ∈ filter, Text.Holds text part := by
  cases filter with
  | none => simp [matchesFilter]
  | some part => simp [matchesFilter, Text.occursIn_iff, Text.Holds]

end SourceOutline

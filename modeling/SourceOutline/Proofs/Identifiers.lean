/-
Identifiers, and lists of them, as parts of a line.

A line of code is cut by what stands between its names. Where a stretch of a text ends is
settled as soon as the character behind it does not occur in it (`append_cons_inj`), and no
character of an identifier is a blank or a sign of punctuation. So the names of a line can be
told from the line, and a list of parameters that is written with commas is already in the
form in which parameters are kept (`Identifier.collapse_list`).
-/
import SourceOutline.Proofs.Blocks
import SourceOutline.Proofs.Substrings
import SourceOutline.Text.WordTable

set_option autoImplicit false

namespace SourceOutline

/-! ## Stretches -/

/-- A text is cut in one way only before a character that the stretch in front of the other
cut does not have. -/
theorem append_cons_inj {α : Type} {first first' rest rest' : List α} {a a' : α}
    (ha : a ∉ first') (ha' : a' ∉ first) (h : first ++ a :: rest = first' ++ a' :: rest') :
    first = first' ∧ a = a' ∧ rest = rest' := by
  induction first generalizing first' with
  | nil =>
    cases first' with
    | nil => exact ⟨rfl, List.cons.inj h⟩
    | cons b cs => exact absurd ((List.cons.inj h).1 ▸ List.mem_cons_self) ha
  | cons c cs ih =>
    cases first' with
    | nil => exact absurd ((List.cons.inj h).1 ▸ List.mem_cons_self) ha'
    | cons b bs =>
      obtain ⟨rfl, hrest⟩ := List.cons.inj h
      obtain ⟨rfl, hmark, htail⟩ := ih (fun hmem => ha (List.mem_cons_of_mem _ hmem))
        (fun hmem => ha' (List.mem_cons_of_mem _ hmem)) hrest
      exact ⟨rfl, hmark, htail⟩

/-- A part with a mark in it, within a text that is cut before its first such mark, ends its first
stretch there or is within the rest. -/
theorem infix_append_cons {α : Type} {part tail first rest : List α} {a : α} (hpart : a ∉ part)
    (hfirst : a ∉ first) (h : part ++ a :: tail <:+: first ++ a :: rest) :
    (part <:+ first ∧ tail <+: rest) ∨ part ++ a :: tail <:+: rest := by
  obtain ⟨front, back, h⟩ := h
  by_cases hfront : a ∈ front
  · obtain ⟨start, middle, rfl, hstart⟩ := List.eq_append_cons_of_mem hfront
    simp only [List.append_assoc, List.cons_append] at h
    obtain ⟨-, -, hrest⟩ := append_cons_inj hfirst hstart h
    exact .inr ⟨middle, back, by simp [← hrest]⟩
  · have hmem : a ∉ front ++ part := by simp [hfront, hpart]
    simp only [← List.append_assoc front part] at h
    rw [List.append_assoc, List.cons_append] at h
    obtain ⟨hstretch, -, hrest⟩ := append_cons_inj hfirst hmem h
    exact .inl ⟨⟨front, hstretch⟩, ⟨back, hrest⟩⟩

/-- What comes behind blanks is the first character of a text that does not begin with a blank. -/
theorem eq_of_blanks_append {blanks more rest : List Char} {c d : Char}
    (hblanks : ∀ b ∈ blanks, Text.isBlank b = true) (hd : Text.isBlank d = false)
    (h : blanks ++ c :: more = d :: rest) : c = d := by
  cases blanks with
  | nil => exact (List.cons.inj h).1
  | cons b blanks =>
    have hb := hblanks b List.mem_cons_self
    rw [(List.cons.inj h).1, hd] at hb
    cases hb

/-! ## Characters of names -/

/-- A letter, a digit or an underscore. -/
def isNamePart (c : Char) : Bool := c.isAlphanum || c == '_'

/-- The characters of names are between the digit zero and the end of ASCII. -/
theorem toNat_of_isNamePart {c : Char} (h : isNamePart c = true) :
    48 ≤ c.toNat ∧ c.toNat < 128 := by
  have hrange : ∀ low high : Char, 48 ≤ low.toNat → high.toNat < 128 →
      low.val ≤ c.val ∧ c.val ≤ high.val → 48 ≤ c.toNat ∧ c.toNat < 128 :=
    fun _ _ hlow hhigh hbetween => ⟨hlow.trans (UInt32.le_iff_toNat_le.1 hbetween.1),
      (UInt32.le_iff_toNat_le.1 hbetween.2).trans_lt hhigh⟩
  have hboth : ∀ {p q : Prop} [Decidable p] [Decidable q], (decide p && decide q) = true → p ∧ q :=
    fun h => (Bool.and_eq_true_iff.1 h).imp of_decide_eq_true of_decide_eq_true
  rcases Bool.or_eq_true_iff.1 h with h | h
  · rcases Bool.or_eq_true_iff.1 h with h | h
    · rcases Bool.or_eq_true_iff.1 h with h | h
      · exact hrange 'A' 'Z' (by decide) (by decide) (of_decide_eq_true h)
      · exact hrange 'a' 'z' (by decide) (by decide) (hboth h)
    · exact hrange '0' '9' (by decide) (by decide) (hboth h)
  · rw [beq_iff_eq.1 h]
    decide

theorem forall_not_isBlank {part : List Char} (h : part.any Text.isBlank = false) :
    ∀ c ∈ part, Text.isBlank c = false := by
  simpa using h

theorem isWord_of_isNamePart {c : Char} (h : isNamePart c = true) : Text.isWord c = true := by
  rw [Text.isWord, if_pos (toNat_of_isNamePart h).2]
  exact h

theorem not_isBlank_of_isNamePart {c : Char} (h : isNamePart c = true) : Text.isBlank c = false := by
  have hbounds := toNat_of_isNamePart h
  simp only [Text.isBlank, Bool.or_eq_false_iff, Bool.and_eq_false_iff, decide_eq_false_iff_not,
    beq_eq_false_iff_ne]
  omega

/-! ## Identifiers -/

/-- A name of letters, digits and underscores that does not begin with a digit. -/
structure Identifier where
  text : String
  nonempty : text.toList ≠ [] := by decide
  allParts : text.toList.all isNamePart = true := by decide
  noDigitFirst : text.toList.head?.any Char.isDigit = false := by decide

namespace Identifier

theorem parts (name : Identifier) : ∀ c ∈ name.text.toList, isNamePart c = true :=
  List.all_eq_true.1 name.allParts

/-- A character that is no part of names is not in an identifier. -/
theorem not_mem (name : Identifier) {c : Char} (h : isNamePart c = false) : c ∉ name.text.toList :=
  fun hmem => by rw [name.parts c hmem] at h; cases h

theorem not_mem_of_isBlank (name : Identifier) {c : Char} (h : Text.isBlank c = true) :
    c ∉ name.text.toList :=
  fun hmem => by rw [not_isBlank_of_isNamePart (name.parts c hmem)] at h; cases h

theorem not_isBlank (name : Identifier) : ∀ c ∈ name.text.toList, Text.isBlank c = false :=
  fun c hc => not_isBlank_of_isNamePart (name.parts c hc)

theorem exists_cons (name : Identifier) :
    ∃ c cs, name.text.toList = c :: cs ∧ isNamePart c = true := by
  obtain ⟨c, cs, hname⟩ := List.exists_cons_of_ne_nil name.nonempty
  exact ⟨c, cs, hname, name.parts c (hname ▸ List.mem_cons_self)⟩

theorem isWord (name : Identifier) : ∀ c ∈ name.text.toList, Text.isWord c = true :=
  fun c hc => isWord_of_isNamePart (name.parts c hc)

/-! ## Lists with commas -/

/-- Identifiers with commas and blanks between them, as parameters are written. -/
def list (names : List Identifier) : String := ", ".intercalate (names.map text)

theorem toList_list (names : List Identifier) :
    (list names).toList = [',', ' '].intercalate (names.map fun name => name.text.toList) := by
  rw [list, String.toList_intercalate, List.map_map]
  rfl

theorem toList_list_cons_cons (name other : Identifier) (rest : List Identifier) :
    (list (name :: other :: rest)).toList
      = (name.text.toList ++ [',']) ++ ' ' :: (list (other :: rest)).toList := by
  simp [toList_list]

theorem toList_list_singleton (name : Identifier) : (list [name]).toList = name.text.toList := by
  simp [toList_list]

theorem mem_list {names : List Identifier} {c : Char} (h : c ∈ (list names).toList) :
    isNamePart c = true ∨ c = ',' ∨ c = ' ' := by
  induction names with
  | nil => simp [list] at h
  | cons name rest ih =>
    cases rest with
    | nil =>
      rw [toList_list_singleton] at h
      exact .inl (name.parts c h)
    | cons other rest =>
      rw [toList_list_cons_cons, List.mem_append, List.mem_append, List.mem_singleton,
        List.mem_cons] at h
      rcases h with (h | h) | h | h
      · exact .inl (name.parts c h)
      · exact .inr (.inl h)
      · exact .inr (.inr h)
      · exact ih h

end Identifier

/-! ## Words of a list -/

namespace Text

theorem words_append_blank {piece : List Char} (hnil : piece ≠ [])
    (hpiece : ∀ c ∈ piece, isBlank c = false) {blank : Char} (hblank : isBlank blank = true)
    (rest : List Char) : words (piece ++ blank :: rest) = piece :: words rest := by
  rw [words, splitAt_append_cons hblank, splitAt_eq_singleton hpiece, words]
  simp [hnil]

theorem words_of_unbroken {piece : List Char} (hnil : piece ≠ [])
    (hpiece : ∀ c ∈ piece, isBlank c = false) : words piece = [piece] := by
  rw [words, splitAt_eq_singleton hpiece]
  simp [hnil]

end Text

/-- A list of identifiers is kept as it is written. -/
theorem Identifier.collapse_list (names : List Identifier) :
    Text.collapse (list names) = list names := by
  -- Of two or more names there are two or more words.
  suffices Text.join [' '] (Text.words (list names).toList) = (list names).toList
      ∧ (names ≠ [] → Text.words (list names).toList ≠ []) by
    rw [Text.collapse, this.1, String.ofList_toList]
  induction names with
  | nil => exact ⟨rfl, fun h => absurd rfl h⟩
  | cons name rest ih =>
    cases rest with
    | nil =>
      rw [toList_list_singleton, Text.words_of_unbroken name.nonempty name.not_isBlank]
      exact ⟨rfl, fun _ => List.cons_ne_nil _ _⟩
    | cons other rest =>
      have hpiece : ∀ c ∈ name.text.toList ++ [','], Text.isBlank c = false := by
        intro c hc
        rcases List.mem_append.1 hc with hc | hc
        · exact name.not_isBlank c hc
        · rw [List.mem_singleton.1 hc]
          rfl
      rw [toList_list_cons_cons, Text.words_append_blank (by simp) hpiece rfl]
      obtain ⟨word, others, hwords⟩ := List.exists_cons_of_ne_nil (ih.2 (List.cons_ne_nil _ _))
      have hrest := ih.1
      rw [hwords] at hrest ⊢
      refine ⟨?_, fun _ => List.cons_ne_nil _ _⟩
      rw [Text.join, hrest]
      · simp
      · exact List.cons_ne_nil _ _

end SourceOutline

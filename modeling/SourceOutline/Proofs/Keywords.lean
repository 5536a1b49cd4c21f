/-
Keywords of region markers, by characters and by bytes.

A keyword at the beginning of a text is a word that spells it, with capitals too if the style is not
exact, and is followed by nothing or by a blank (`afterKeyword?_eq_some_iff`). The keywords are made
of lower-case letters, so a word that spells one has no blank in it, ends in the letter `n` and
tells which of the two it is.

A text can also be looked at by bytes: as many are cut off as the keyword has, they are compared,
and the rest is what begins at that byte. In a text beyond ASCII the byte may lie inside a
character, and a text that begins there does not exist. This is an error here (`Text.BadCut`), and
the reading by bytes never meets it: what is compared equal has whole characters, so the rest can
be asked for (`afterBytes_eq`).
-/
import SourceOutline.Region.Marker
import SourceOutline.Proofs.Substrings

set_option autoImplicit false

namespace SourceOutline

namespace Text

/-! ## Cuts by bytes -/

/-- A text in two parts, the first of the given number of bytes. There are none if that is more
than the text has, or if it ends inside a character. -/
def cut? : Nat → List Char → Option (List Char × List Char)
  | 0, text => some ([], text)
  | _ + 1, [] => none
  | width + 1, c :: text =>
    if c.utf8Size ≤ width + 1 then
      (cut? (width + 1 - c.utf8Size) text).map fun (head, rest) => (c :: head, rest)
    else none

/-- A place of a text, in bytes, that is not between two of its characters. -/
structure BadCut where
  offset : Nat
deriving DecidableEq, Repr

/-- What begins at the given byte. It is an error to ask for it inside a character. -/
def fromByte (offset : Nat) (text : List Char) : Except BadCut (List Char) :=
  match cut? offset text with
  | some (_, rest) => .ok rest
  | none => .error ⟨offset⟩

theorem byteLength_cons (c : Char) (text : List Char) :
    byteLength (c :: text) = c.utf8Size + byteLength text := rfl

theorem cut?_append (head rest : List Char) :
    cut? (byteLength head) (head ++ rest) = some (head, rest) := by
  induction head with
  | nil => cases rest <;> rfl
  | cons c head ih =>
    have hpos := c.utf8Size_pos
    have hwidth : byteLength (c :: head) = (c.utf8Size + byteLength head - 1) + 1 := by
      rw [byteLength_cons]
      omega
    have hleft : c.utf8Size + byteLength head - 1 + 1 - c.utf8Size = byteLength head := by omega
    rw [hwidth, List.cons_append, cut?, if_pos (by omega), hleft, ih]
    rfl

/-- A cut is where a beginning of the text has that many bytes, and nowhere else. -/
theorem cut?_eq_some_iff {width : Nat} {text head rest : List Char} :
    cut? width text = some (head, rest) ↔ text = head ++ rest ∧ byteLength head = width := by
  constructor
  · intro h
    fun_induction cut? width text generalizing head with
    | case1 text =>
      cases h
      exact ⟨rfl, rfl⟩
    | case2 => cases h
    | case3 width c text hle ih =>
      obtain ⟨⟨head', rest'⟩, hcut, heq⟩ := Option.map_eq_some_iff.1 h
      cases heq
      obtain ⟨htext, hwidth⟩ := ih hcut
      refine ⟨by rw [htext, List.cons_append], ?_⟩
      rw [byteLength_cons]
      omega
    | case4 => cases h
  · rintro ⟨rfl, rfl⟩
    exact cut?_append head rest

/-- The letter `ö` has two bytes, and nothing begins at the second of them. -/
example : fromByte 9 "endregioö".toList = .error ⟨9⟩ := by decide

/-- Lower case of ASCII does not change the width of a character. -/
theorem utf8Size_toLower (c : Char) : c.toLower.utf8Size = c.utf8Size := by
  by_cases hupper : c.val ≥ 'A'.val ∧ c.val ≤ 'Z'.val
  · have hlower : c.toLower.val = c.val + ('a'.val - 'A'.val) :=
      congrArg Char.val (dif_pos hupper)
    have hhigh : c.val.toNat ≤ 90 := hupper.2
    have hstep : ('a'.val - 'A'.val).toNat = 32 := rfl
    have hascii : (127 : UInt32).toNat = 127 := rfl
    have hwide : c.utf8Size = 1 := by
      rw [Char.utf8Size_eq_one_iff, UInt32.le_iff_toNat_le]
      omega
    have hwide' : c.toLower.utf8Size = 1 := by
      rw [Char.utf8Size_eq_one_iff, hlower, UInt32.le_iff_toNat_le, UInt32.toNat_add, hstep]
      omega
    rw [hwide, hwide']
  · have hsame : c.toLower = c := dif_neg hupper
    rw [hsame]

theorem byteLength_map_toLower (text : List Char) :
    byteLength (text.map Char.toLower) = byteLength text := by
  induction text with
  | nil => rfl
  | cons c text ih => rw [List.map_cons, byteLength_cons, utf8Size_toLower, ih, byteLength_cons]

/-- Blanks are no letters. -/
theorem toLower_of_isBlank {c : Char} (h : isBlank c = true) : c.toLower = c := by
  by_cases hupper : c.val ≥ 'A'.val ∧ c.val ≤ 'Z'.val
  · exfalso
    have hlow : 65 ≤ c.toNat := hupper.1
    have hhigh : c.toNat ≤ 90 := hupper.2
    simp only [isBlank, Bool.or_eq_true, Bool.and_eq_true, decide_eq_true_eq, beq_iff_eq] at h
    omega
  · exact dif_neg hupper

end Text

namespace MarkerStyle

/-! ## Keywords at the beginning of a text -/

/-- How a keyword may be spelled: as it is, or with any of its letters in upper case if the style
is not exact. -/
def Spells (exact : Bool) (keyword word : List Char) : Prop :=
  if exact then word = keyword else word.map Char.toLower = keyword

instance (exact : Bool) (keyword word : List Char) : Decidable (Spells exact keyword word) :=
  inferInstanceAs (Decidable (if exact then _ else _))

theorem spells_iff {exact : Bool} {keyword word : List Char} :
    Spells exact keyword word
      ↔ word.map (fun c => if exact then c else c.toLower) = keyword := by
  cases exact <;> simp [Spells]

theorem dropKeyword?_eq_some_iff {exact : Bool} {keyword text rest : List Char} :
    dropKeyword? exact keyword text = some rest
      ↔ ∃ word, text = word ++ rest ∧ Spells exact keyword word := by
  simp only [spells_iff]
  induction keyword generalizing text with
  | nil => simp [dropKeyword?]
  | cons k keyword ih =>
    cases text with
    | nil =>
      rw [dropKeyword?]
      simp only [reduceCtorEq, false_iff, not_exists, not_and]
      intro word htext hword
      rw [(List.append_eq_nil_iff.1 htext.symm).1] at hword
      cases hword
    | cons c text =>
      rw [dropKeyword?]
      by_cases hk : k = if exact then c else c.toLower
      · rw [if_pos hk, ih]
        constructor
        · rintro ⟨word, rfl, hword⟩
          exact ⟨c :: word, rfl, by rw [List.map_cons, hword, ← hk]⟩
        · rintro ⟨_ | ⟨d, word⟩, htext, hword⟩
          · cases hword
          · rw [List.cons_append, List.cons.injEq] at htext
            exact ⟨word, htext.2, (List.cons.inj hword).2⟩
      · rw [if_neg hk]
        simp only [reduceCtorEq, false_iff, not_exists, not_and]
        rintro (_ | ⟨d, word⟩) htext hword
        · cases hword
        · rw [List.cons_append, List.cons.injEq] at htext
          rw [← htext.1, List.map_cons, List.cons.injEq] at hword
          exact hk hword.1.symm

theorem afterKeyword?_eq (exact : Bool) (keyword text : List Char) :
    afterKeyword? exact keyword text
      = (dropKeyword? exact keyword text).filter fun rest => rest.head?.all Text.isBlank := by
  unfold afterKeyword?
  split <;> rename_i hdrop <;> rw [hdrop] <;> rfl

/-- A keyword is followed by nothing or by a blank. -/
theorem afterKeyword?_eq_some_iff {exact : Bool} {keyword text rest : List Char} :
    afterKeyword? exact keyword text = some rest
      ↔ ∃ word, text = word ++ rest ∧ Spells exact keyword word
        ∧ ∀ c ∈ rest.head?, Text.isBlank c = true := by
  rw [afterKeyword?_eq, Option.filter_eq_some_iff, dropKeyword?_eq_some_iff, Option.all_eq_true]
  simp only [Option.mem_def, ← exists_and_right, and_assoc]

/-! ## Words that spell a keyword -/

theorem toLower_keyword (boundary : Boundary) :
    (keyword boundary).map Char.toLower = keyword boundary := by
  cases boundary <;> decide

section Spelled

variable {exact : Bool} {boundary : Boundary} {word : List Char}

theorem Spells.map_toLower (h : Spells exact (keyword boundary) word) :
    word.map Char.toLower = keyword boundary := by
  cases exact with
  | false => exact h
  | true =>
    have hword : word = keyword boundary := h
    rw [hword, toLower_keyword]

theorem Spells.not_blank (h : Spells exact (keyword boundary) word) :
    ∀ c ∈ word, Text.isBlank c = false := by
  intro c hc
  have hletter : c.toLower ∈ keyword boundary := by
    rw [← h.map_toLower]
    exact List.mem_map_of_mem hc
  have hkeyword : (keyword boundary).any Text.isBlank = false := by cases boundary <;> decide
  by_cases hblank : Text.isBlank c = true
  · rw [Text.toLower_of_isBlank hblank] at hletter
    exact Bool.eq_false_iff.2 (List.any_eq_false.1 hkeyword c hletter)
  · exact Bool.eq_false_iff.2 hblank

/-- Both keywords end in the letter `n`. -/
theorem Spells.exists_concat (h : Spells exact (keyword boundary) word) :
    ∃ front last, word = front ++ [last] ∧ last.toLower = 'n' := by
  have hlower := h.map_toLower
  obtain rfl | ⟨front, last, rfl⟩ := List.eq_nil_or_concat word
  · cases boundary <;> cases hlower
  · refine ⟨front, last, List.concat_eq_append, ?_⟩
    have hkeyword : (keyword boundary).getLast? = some 'n' := by cases boundary <;> decide
    rw [← hlower, List.concat_eq_append, List.map_append, List.map_singleton,
      List.getLast?_concat, Option.some.injEq] at hkeyword
    exact hkeyword

theorem Spells.ne_nil (h : Spells exact (keyword boundary) word) : word ≠ [] := by
  obtain ⟨front, last, rfl, -⟩ := h.exists_concat
  simp

/-- Nothing is trimmed off before a keyword. -/
theorem Spells.trimStart_append (h : Spells exact (keyword boundary) word) (text : List Char) :
    Text.trimStart (word ++ text) = word ++ text := by
  obtain ⟨c, word, rfl⟩ := List.exists_cons_of_ne_nil h.ne_nil
  exact Text.trimStart_eq_self (by simpa using h.not_blank c List.mem_cons_self)

/-- Behind a keyword a text is trimmed as it is by itself. -/
theorem Spells.trimEnd_append (h : Spells exact (keyword boundary) word)
    (before after : List Char) :
    Text.trimEnd (before ++ (word ++ after)) = before ++ (word ++ Text.trimEnd after) := by
  have hblank := h.not_blank
  obtain ⟨front, last, rfl, -⟩ := h.exists_concat
  have hlast := hblank last (by simp)
  simpa using Text.trimEnd_append_cons (before ++ front) hlast after

end Spelled

/-- The keywords differ in their first letters, so a text begins with one of them at most. -/
theorem boundary_eq_of_afterKeyword? {exact : Bool} {first second : Boundary}
    {text rest rest' : List Char} (hfirst : afterKeyword? exact (keyword first) text = some rest)
    (hsecond : afterKeyword? exact (keyword second) text = some rest') : first = second := by
  have hhead : ∀ {boundary rest}, afterKeyword? exact (keyword boundary) text = some rest →
      text.head?.map Char.toLower = (keyword boundary).head? := by
    intro boundary rest h
    obtain ⟨word, rfl, hword, -⟩ := afterKeyword?_eq_some_iff.1 h
    rw [← hword.map_toLower, List.head?_map, List.head?_append_of_ne_nil _ hword.ne_nil]
  have hsame := (hhead hfirst).symm.trans (hhead hsecond)
  cases first <;> cases second
  · rfl
  · exact absurd hsame (by decide)
  · exact absurd hsame (by decide)
  · rfl

/-! ## Keywords by bytes -/

/-- As `afterKeyword?`, with the text cut after as many bytes as the keyword has. -/
def afterBytes (exact : Bool) (keyword text : List Char) :
    Except Text.BadCut (Option (List Char)) :=
  match (Text.cut? (Text.byteLength keyword) text).map Prod.fst with
  | none => .ok none
  | some head =>
    if (if exact then head = keyword else head.map Char.toLower = keyword.map Char.toLower) then
      (Text.fromByte (Text.byteLength keyword) text).map fun rest =>
        if rest.head?.all Text.isBlank then some rest else none
    else .ok none

theorem Spells.byteLength_eq {exact : Bool} {keyword word : List Char}
    (h : Spells exact keyword word) : Text.byteLength word = Text.byteLength keyword := by
  cases exact with
  | true =>
    have hword : word = keyword := h
    rw [hword]
  | false =>
    have hword : word.map Char.toLower = keyword := h
    rw [← hword, Text.byteLength_map_toLower]

/-- A word that spells a keyword is as wide as the keyword, so the cut is behind it. -/
theorem cut?_of_afterKeyword? {exact : Bool} {keyword text rest : List Char}
    (h : afterKeyword? exact keyword text = some rest) :
    ∃ word, Text.cut? (Text.byteLength keyword) text = some (word, rest)
      ∧ Spells exact keyword word ∧ rest.head?.all Text.isBlank = true := by
  obtain ⟨word, rfl, hword, hoff⟩ := afterKeyword?_eq_some_iff.1 h
  refine ⟨word, ?_, hword, by simpa [Option.all_eq_true] using hoff⟩
  rw [← hword.byteLength_eq]
  exact Text.cut?_append word rest

/-- **No character is cut apart.** Reading a keyword by bytes never fails, and it finds what the
characters say. -/
theorem afterBytes_eq (exact : Bool) {keyword : List Char}
    (hlower : keyword.map Char.toLower = keyword) (text : List Char) :
    afterBytes exact keyword text = .ok (afterKeyword? exact keyword text) := by
  have hcompare : ∀ head : List Char,
      (if exact then head = keyword else head.map Char.toLower = keyword.map Char.toLower)
        ↔ Spells exact keyword head := by
    intro head
    rw [hlower]
    rfl
  unfold afterBytes Text.fromByte
  cases hafter : afterKeyword? exact keyword text with
  | some rest =>
    obtain ⟨word, hcut, hword, hoff⟩ := cut?_of_afterKeyword? hafter
    simp only [hcut, Option.map_some, if_pos ((hcompare word).2 hword), Except.map, if_pos hoff]
  | none =>
    cases hcut : Text.cut? (Text.byteLength keyword) text with
    | none => rfl
    | some parts =>
      obtain ⟨head, rest⟩ := parts
      obtain ⟨rfl, -⟩ := Text.cut?_eq_some_iff.1 hcut
      simp only [Option.map_some]
      by_cases hword : Spells exact keyword head
      · -- The keyword is there, so what keeps it from being read is what follows it.
        have hoff : ¬rest.head?.all Text.isBlank = true := by
          intro hoff
          have hread := afterKeyword?_eq_some_iff.2
            ⟨head, rfl, hword, by simpa [Option.all_eq_true] using hoff⟩
          rw [hafter] at hread
          cases hread
        simp only [if_pos ((hcompare head).2 hword), Except.map, if_neg hoff]
      · rw [if_neg (mt (hcompare head).1 hword)]

end MarkerStyle

end SourceOutline

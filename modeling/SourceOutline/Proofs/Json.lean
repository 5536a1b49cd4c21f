/-
What is written can be read back.

A string is read in two steps, and so is the proof: the reader turns the written
form of a character into its piece (`readPieces_escapeChar`), and the pieces of a
text join to that text (`joinPieces_map_piece`).

For values the statement is made about any text that follows and any gaps that
precede, `Readable`, so that it can be used for the parts of a value. The bound on
the depth of the reader is the length of what is read; every step takes at least
one character off, so it is never reached. The text that follows a number must not
continue it, which is what `Stops` says.

Main statement: `parse?_pretty`, for every value without a numeral that is no
natural number and without a halved string.
-/
import SourceOutline.Json.Printer
import SourceOutline.Json.Reader

set_option autoImplicit false

namespace SourceOutline.Json

/-! ## Strings -/

/-- The control characters with an escape of one letter. -/
def shortEscapes : List Char := ['\n', '\r', '\t', '\x08', '\x0c']

/-- What the reader finds for a character: a control character without an escape of its
own comes back as its number. -/
def piece (c : Char) : Piece :=
  if c.toNat < 32 ∧ c ∉ shortEscapes then .unit c.toNat else .char c

/-- The digits of a control character name its number. -/
theorem hexUnit?_digitChar : ∀ n < 32,
    hexUnit? '0' '0' (Nat.digitChar (n / 16)) (Nat.digitChar (n % 16)) = some n := by
  decide

theorem readPieces_plain {c : Char} (hquote : c ≠ '\x22') (hslash : c ≠ '\\')
    (hprintable : ¬c.toNat < 32) (cs : List Char) :
    readPieces (c :: cs) = (readPieces cs).map fun found => (.char c :: found.1, found.2) := by
  rw [readPieces.eq_def]
  split
  · rename_i heq
    cases heq
  · rename_i heq
    cases heq
    exact absurd rfl hquote
  · rename_i heq
    cases heq
    exact absurd rfl hslash
  · rename_i heq
    cases heq
    exact absurd rfl hslash
  · rename_i heq
    cases heq
    rw [if_neg (by simp [hprintable, hslash])]
    cases readPieces cs <;> rfl

/-- An escape of one letter. -/
theorem readPieces_escaped {e c : Char} (he : escaped? e = some c) (cs : List Char) :
    readPieces ('\\' :: e :: cs)
      = (readPieces cs).map fun found => (.char c :: found.1, found.2) := by
  have hu : e ≠ 'u' := by
    rintro rfl
    cases he
  rw [readPieces.eq_def]
  split
  · rename_i heq
    cases heq
  · rename_i heq
    cases heq
  · rename_i heq
    cases heq
    exact absurd rfl hu
  · rename_i heq
    cases heq
    rw [he]
    cases readPieces cs <;> rfl
  · rename_i hno heq
    cases heq
    exact absurd rfl (hno e cs rfl)

/-- An escape by number. -/
theorem readPieces_numbered {a b c d : Char} {n : Nat} (h : hexUnit? a b c d = some n)
    (cs : List Char) :
    readPieces ('\\' :: 'u' :: a :: b :: c :: d :: cs)
      = (readPieces cs).map fun found => (.unit n :: found.1, found.2) := by
  rw [readPieces, h]
  cases readPieces cs <;> rfl

/-- The characters with an escape of one letter. -/
theorem escapeChar_of_mem {c : Char} (h : c ∈ '\x22' :: '\\' :: shortEscapes) :
    ∃ e, escapeChar c = ['\\', e] ∧ escaped? e = some c ∧ ¬(c.toNat < 32 ∧ c ∉ shortEscapes) := by
  simp only [shortEscapes, List.mem_cons, List.not_mem_nil, or_false] at h
  rcases h with rfl | rfl | rfl | rfl | rfl | rfl | rfl
  · exact ⟨'\x22', rfl, rfl, by decide⟩
  · exact ⟨'\\', rfl, rfl, by decide⟩
  · exact ⟨'n', rfl, rfl, by decide⟩
  · exact ⟨'r', rfl, rfl, by decide⟩
  · exact ⟨'t', rfl, rfl, by decide⟩
  · exact ⟨'b', rfl, rfl, by decide⟩
  · exact ⟨'f', rfl, rfl, by decide⟩

theorem escapeChar_of_not_mem {c : Char} (h : c ∉ '\x22' :: '\\' :: shortEscapes) :
    escapeChar c
      = if c.toNat < 32 then
          ['\\', 'u', '0', '0', Nat.digitChar (c.toNat / 16), Nat.digitChar (c.toNat % 16)]
        else [c] := by
  simp only [shortEscapes, List.mem_cons, List.not_mem_nil, or_false, not_or] at h
  simp [escapeChar, h]

/-- **One character.** Its written form is read as its piece. -/
theorem readPieces_escapeChar (c : Char) (cs : List Char) :
    readPieces (escapeChar c ++ cs)
      = (readPieces cs).map fun found => (piece c :: found.1, found.2) := by
  by_cases hshort : c ∈ '\x22' :: '\\' :: shortEscapes
  · obtain ⟨e, hescape, he, hpiece⟩ := escapeChar_of_mem hshort
    rw [hescape, piece, if_neg hpiece]
    exact readPieces_escaped he cs
  · rw [escapeChar_of_not_mem hshort]
    simp only [List.mem_cons, not_or] at hshort
    split
    · rename_i hcontrol
      rw [piece, if_pos ⟨hcontrol, hshort.2.2⟩]
      exact readPieces_numbered (hexUnit?_digitChar c.toNat hcontrol) cs
    · rename_i hprintable
      rw [piece, if_neg fun h => hprintable h.1]
      exact readPieces_plain hshort.1 hshort.2.1 hprintable cs

/-- The written form of a text up to its closing quote. -/
theorem readPieces_escaped_text (text rest : List Char) :
    readPieces (text.flatMap escapeChar ++ '\x22' :: rest) = some (text.map piece, rest) := by
  induction text with
  | nil => rfl
  | cons c text ih =>
    rw [List.flatMap_cons, List.append_assoc, readPieces_escapeChar, ih]
    rfl

/-- A number below the halves of characters stands for a character by itself. -/
theorem joinPieces_unit {n : Nat} (h : n < 0xd800) (pieces : List Piece) :
    joinPieces (.unit n :: pieces) = (joinPieces pieces).map (Char.ofNat n :: ·) := by
  have hhigh : isHighUnit n = false := by
    rw [isHighUnit, decide_eq_false (by omega), Bool.false_and]
  have hlow : isLowUnit n = false := by
    rw [isLowUnit, decide_eq_false (by omega), Bool.false_and]
  cases pieces with
  | nil => simp [joinPieces, hhigh, hlow]
  | cons next pieces => cases next <;> simp [joinPieces, hhigh, hlow]

/-- **The pieces of a text join to the text.** -/
theorem joinPieces_map_piece (text : List Char) : joinPieces (text.map piece) = some text := by
  induction text with
  | nil => rfl
  | cons c text ih =>
    rw [List.map_cons, piece]
    split
    · rename_i h
      rw [joinPieces_unit (by omega), ih, Option.map_some, Char.ofNat_toNat]
    · rw [joinPieces, ih, Option.map_some]

theorem readString_quoted (s : String) (rest : List Char) :
    readString (s.toList.flatMap escapeChar ++ '\x22' :: rest) = some (some s, rest) := by
  rw [readString, readPieces_escaped_text, Option.map_some]
  dsimp only
  rw [joinPieces_map_piece, Option.map_some, String.ofList_toList]

/-! ## Numbers -/

/-- A text that does not continue a number. -/
def Stops (rest : List Char) : Prop :=
  ∀ c ∈ rest.head?, c.isDigit = false ∧ c ≠ '.' ∧ c ≠ 'e' ∧ c ≠ 'E'

theorem stops_nil : Stops [] := fun _ h => by cases h

theorem stops_cons {c : Char} (h : c.isDigit = false ∧ c ≠ '.' ∧ c ≠ 'e' ∧ c ≠ 'E')
    (rest : List Char) : Stops (c :: rest) := by
  intro first hfirst
  cases hfirst
  exact h

theorem readDigits_append {digits rest : List Char} (hne : digits ≠ [])
    (hdigits : ∀ c ∈ digits, c.isDigit = true) (hrest : Stops rest) :
    readDigits (digits ++ rest) = some (digits, rest) := by
  have htake : rest.takeWhile Char.isDigit = [] := by
    cases rest with
    | nil => rfl
    | cons c cs => rw [List.takeWhile_cons, (hrest c rfl).1, if_neg Bool.false_ne_true]
  have hdrop : rest.dropWhile Char.isDigit = rest := by
    cases rest with
    | nil => rfl
    | cons c cs => rw [List.dropWhile_cons, (hrest c rfl).1, if_neg Bool.false_ne_true]
  rw [readDigits, List.takeWhile_append_of_pos hdigits, List.dropWhile_append_of_pos hdigits,
    htake, hdrop, List.append_nil]
  rw [if_neg (by simpa using hne)]

/-- A number other than zero does not begin with a zero. -/
theorem head_toDigits_ne_zero {n : Nat} (hn : 0 < n) :
    ∃ d ds, Nat.toDigits 10 n = d :: ds ∧ d ≠ '0' := by
  induction n using Nat.strongRecOn with
  | ind n ih =>
    by_cases hlt : n < 10
    · refine ⟨n.digitChar, [], Nat.toDigits_of_lt_base hlt, ?_⟩
      have hdigits : ∀ m < 10, 0 < m → m.digitChar ≠ '0' := by decide
      exact hdigits n hlt hn
    · obtain ⟨d, ds, heq, hd⟩ := ih (n / 10) (by omega) (by omega)
      refine ⟨d, ds ++ [(n % 10).digitChar], ?_, hd⟩
      rw [Nat.toDigits_of_base_le (by decide) (by omega), heq, List.cons_append]

theorem isDigit_of_mem_toDigits {n : Nat} {c : Char} (h : c ∈ Nat.toDigits 10 n) :
    c.isDigit = true :=
  Nat.isDigit_of_mem_toDigits (by decide) (by decide) h

theorem readWhole_toDigits (n : Nat) {rest : List Char} (hrest : Stops rest) :
    readWhole (Nat.toDigits 10 n ++ rest) = some (Nat.toDigits 10 n, rest) := by
  rcases Nat.eq_zero_or_pos n with rfl | hn
  · rw [Nat.toDigits_zero]
    rfl
  · obtain ⟨d, ds, heq, hd⟩ := head_toDigits_ne_zero hn
    have hread : readDigits (Nat.toDigits 10 n ++ rest) = some (Nat.toDigits 10 n, rest) :=
      readDigits_append Nat.toDigits_ne_nil (fun c hc => isDigit_of_mem_toDigits hc) hrest
    rw [← hread, heq]
    unfold readWhole
    split
    · rename_i h
      cases h
      exact absurd rfl hd
    · rfl

theorem readFraction_of_stops {rest : List Char} (h : Stops rest) :
    readFraction rest = some ([], rest) := by
  unfold readFraction
  split
  · exact absurd rfl (h '.' rfl).2.1
  · rfl

theorem readExponent_of_stops {rest : List Char} (h : Stops rest) :
    readExponent rest = some ([], rest) := by
  cases rest with
  | nil => rfl
  | cons c cs =>
    have hc := (h c rfl).2.2
    unfold readExponent
    dsimp only
    rw [if_neg (by simp [hc])]

/-- A natural number is read back. -/
theorem readNumeral_toDigits (n : Nat) {rest : List Char} (h : Stops rest) :
    readNumeral (Nat.toDigits 10 n ++ rest) = some (.nat n, rest) := by
  have hunsigned : readUnsigned (Nat.toDigits 10 n ++ rest)
      = some (Nat.toDigits 10 n, [], [], rest) := by
    simp [readUnsigned, readWhole_toDigits n h, readFraction_of_stops h, readExponent_of_stops h]
  unfold readNumeral
  split
  · rename_i heq
    obtain ⟨d, ds, hdigits⟩ := List.exists_cons_of_ne_nil (@Nat.toDigits_ne_nil n 10)
    have hdash : d = '-' := by
      rw [hdigits, List.cons_append] at heq
      exact (List.cons.inj heq).1
    have hdigit : d.isDigit = true :=
      isDigit_of_mem_toDigits (by rw [hdigits]; exact List.mem_cons_self)
    rw [hdash] at hdigit
    exact absurd hdigit (by decide)
  · rw [hunsigned]
    simp [Nat.ofDigitChars_ten_toDigits]

/-! ## Gaps -/

theorem skipGap_cons_of_isGap {c : Char} (h : isGap c = true) (cs : List Char) :
    skipGap (c :: cs) = skipGap cs := by
  rw [skipGap, List.dropWhile_cons, if_pos h, skipGap]

theorem skipGap_cons_of_not_isGap {c : Char} (h : isGap c = false) (cs : List Char) :
    skipGap (c :: cs) = c :: cs := by
  rw [skipGap, List.dropWhile_cons, if_neg (by rw [h]; decide)]

theorem skipGap_newLine (level : Nat) (cs : List Char) :
    skipGap (newLine level ++ cs) = skipGap cs := by
  have hgap : ∀ c ∈ newLine level, isGap c = true := by
    intro c hc
    rcases List.mem_cons.1 hc with rfl | hc
    · decide
    · rw [List.eq_of_mem_replicate hc]
      decide
  rw [skipGap, List.dropWhile_append_of_pos hgap, skipGap]

/-! ## Values -/

/-- Values that are written as they are: no numeral but natural numbers, and no halved
string. -/
inductive Writable : Json → Prop where
  | null : Writable .null
  | bool (value : Bool) : Writable (.bool value)
  | nat (value : Nat) : Writable (.nat value)
  | str (value : String) : Writable (.str value)
  | arr {items : List Json} (h : ∀ item ∈ items, Writable item) : Writable (.arr items)
  | obj {fields : List (String × Json)} (h : ∀ field ∈ fields, Writable field.2) :
      Writable (.obj fields)

/-- A value that is read back behind any gaps and before any text that does not
continue it, if the bound exceeds what is read. -/
def Readable (value : Json) : Prop :=
  ∀ (level fuel : Nat) (cs rest : List Char), Stops rest →
    skipGap cs = prettyAt level value ++ rest → (prettyAt level value).length < fuel →
    readValue fuel cs = some (value, rest)

/-- A written value begins with a character of its own, which ends no array. -/
theorem exists_head_prettyAt {value : Json} (h : Writable value) (level : Nat) :
    ∃ c cs, prettyAt level value = c :: cs ∧ isGap c = false ∧ c ≠ ']' := by
  cases h with
  | null => exact ⟨'n', _, rfl, by decide, by decide⟩
  | bool value => cases value <;> exact ⟨_, _, rfl, by decide, by decide⟩
  | nat n =>
    obtain ⟨d, ds, hdigits⟩ := List.exists_cons_of_ne_nil (@Nat.toDigits_ne_nil n 10)
    have hdigit : d.isDigit = true :=
      isDigit_of_mem_toDigits (by rw [hdigits]; exact List.mem_cons_self)
    refine ⟨d, ds, hdigits, ?_, ?_⟩
    · rw [isGap, Bool.or_eq_false_iff, Bool.or_eq_false_iff, Bool.or_eq_false_iff]
      refine ⟨⟨⟨?_, ?_⟩, ?_⟩, ?_⟩ <;>
        exact beq_false_of_ne fun heq => absurd (heq ▸ hdigit) (by decide)
    · rintro rfl
      exact absurd hdigit (by decide)
  | str s => exact ⟨'\x22', _, rfl, by decide, by decide⟩
  | @arr items _ => cases items <;> exact ⟨'[', _, rfl, by decide, by decide⟩
  | @obj fields _ =>
    cases fields with
    | nil => exact ⟨'\x7b', _, rfl, by decide, by decide⟩
    | cons field fields =>
      obtain ⟨name, value⟩ := field
      exact ⟨'\x7b', _, rfl, by decide, by decide⟩

theorem skipGap_prettyAt {value : Json} (h : Writable value) (level : Nat) (rest : List Char) :
    skipGap (prettyAt level value ++ rest) = prettyAt level value ++ rest := by
  obtain ⟨c, cs, heq, hgap, -⟩ := exists_head_prettyAt h level
  rw [heq, List.cons_append, skipGap_cons_of_not_isGap hgap]

/-! ### The reader by the first character -/

section Reader

-- All of the following goes by the equations of the four readers, one first character each.
attribute [local simp] readValue readItems readField readFields

theorem readValue_quote {cs text : List Char} (h : skipGap cs = '\x22' :: text) (fuel : Nat) :
    readValue (fuel + 1) cs
      = (readString text).map fun found => ((found.1.map Json.str).getD .halved, found.2) := by
  rw [readValue, h]
  rfl

theorem readValue_digit {cs digits : List Char} {d : Char} (h : skipGap cs = d :: digits)
    (hd : d.isDigit = true) (fuel : Nat) :
    readValue (fuel + 1) cs = readNumeral (d :: digits) := by
  -- No other kind of value begins with a digit.
  have hhead : ∀ {c : Char} {tail : List Char}, d :: digits = c :: tail → c.isDigit = true := by
    rintro c tail ⟨⟩
    exact hd
  rw [readValue, h]
  split <;> first
    | rfl
    | (rename_i heq; exact absurd (hhead heq) (by decide))

theorem readValue_arr_nil {cs rest : List Char} (h : skipGap cs = '[' :: ']' :: rest)
    (fuel : Nat) : readValue (fuel + 1) cs = some (.arr [], rest) := by
  rw [readValue, h]
  rfl

theorem readValue_arr_cons {cs text tail : List Char} {c : Char} (h : skipGap cs = '[' :: text)
    (htext : skipGap text = c :: tail) (hc : c ≠ ']') (fuel : Nat) :
    readValue (fuel + 1) cs
      = (readValue fuel (c :: tail)).bind fun first =>
          (readItems fuel (skipGap first.2)).bind fun further =>
            some (.arr (first.1 :: further.1), further.2) := by
  simp only [readValue, h, htext]
  split
  · rename_i heq
    cases heq
    exact absurd rfl hc
  · rfl

theorem readValue_obj_nil {cs rest : List Char} (h : skipGap cs = '\x7b' :: '\x7d' :: rest)
    (fuel : Nat) : readValue (fuel + 1) cs = some (.obj [], rest) := by
  rw [readValue, h]
  rfl

theorem readValue_obj_cons {cs text tail : List Char} (h : skipGap cs = '\x7b' :: text)
    (htext : skipGap text = '\x22' :: tail) (fuel : Nat) :
    readValue (fuel + 1) cs
      = (readField fuel ('\x22' :: tail)).bind fun first =>
          (readFields fuel (skipGap first.2)).bind fun further =>
            some (ofFields first.1 further.1, further.2) := by
  simp only [readValue, h, htext]
  rfl

theorem readItems_comma (fuel : Nat) (cs : List Char) :
    readItems (fuel + 1) (',' :: cs)
      = (readValue fuel cs).bind fun first =>
          (readItems fuel (skipGap first.2)).bind fun further =>
            some (first.1 :: further.1, further.2) := by
  rw [readItems]
  rfl

theorem readFields_comma (fuel : Nat) (cs : List Char) :
    readFields (fuel + 1) (',' :: cs)
      = (readField fuel (skipGap cs)).bind fun first =>
          (readFields fuel (skipGap first.2)).bind fun further =>
            some (first.1 :: further.1, further.2) := by
  rw [readFields]
  rfl

end Reader

/-! ### Values without parts -/

theorem readable_null : Readable .null := by
  intro level fuel cs rest _ hcs hfuel
  obtain ⟨fuel, rfl⟩ := Nat.exists_eq_add_one_of_ne_zero (Nat.ne_zero_of_lt hfuel)
  rw [readValue, hcs]
  rfl

theorem readable_bool (value : Bool) : Readable (.bool value) := by
  intro level fuel cs rest _ hcs hfuel
  obtain ⟨fuel, rfl⟩ := Nat.exists_eq_add_one_of_ne_zero (Nat.ne_zero_of_lt hfuel)
  rw [readValue, hcs]
  cases value <;> rfl

theorem readable_nat (n : Nat) : Readable (.nat n) := by
  intro level fuel cs rest hrest hcs hfuel
  obtain ⟨fuel, rfl⟩ := Nat.exists_eq_add_one_of_ne_zero (Nat.ne_zero_of_lt hfuel)
  have hread := readNumeral_toDigits n hrest
  have htext : skipGap cs = Nat.toDigits 10 n ++ rest := hcs
  obtain ⟨d, ds, hdigits⟩ := List.exists_cons_of_ne_nil (@Nat.toDigits_ne_nil n 10)
  have hdigit : d.isDigit = true :=
    isDigit_of_mem_toDigits (by rw [hdigits]; exact List.mem_cons_self)
  rw [hdigits, List.cons_append] at hread htext
  rw [readValue_digit htext hdigit, hread]

theorem quoted_append (s : String) (rest : List Char) :
    quoted s ++ rest = '\x22' :: (s.toList.flatMap escapeChar ++ '\x22' :: rest) := by
  simp [quoted]

theorem readable_str (s : String) : Readable (.str s) := by
  intro level fuel cs rest _ hcs hfuel
  obtain ⟨fuel, rfl⟩ := Nat.exists_eq_add_one_of_ne_zero (Nat.ne_zero_of_lt hfuel)
  have htext : skipGap cs = quoted s ++ rest := hcs
  rw [quoted_append] at htext
  rw [readValue_quote htext, readString_quoted]
  rfl

/-! ### Arrays -/

theorem stops_newLine (level : Nat) (rest : List Char) : Stops (newLine level ++ rest) :=
  stops_cons (by decide) _

theorem stops_prettyItems (level : Nat) (items : List Json) (rest : List Char) :
    Stops (prettyItems level items ++ rest) := by
  cases items with
  | nil =>
    rw [prettyItems, List.append_assoc]
    exact stops_newLine level _
  | cons item items =>
    rw [prettyItems]
    exact stops_cons (by decide) _

/-- The further items of an array are read back if each of them is. -/
theorem readItems_prettyItems {items : List Json}
    (h : ∀ item ∈ items, Writable item ∧ Readable item) (level fuel : Nat) (rest : List Char)
    (hfuel : (prettyItems level items).length < fuel) :
    readItems fuel (skipGap (prettyItems level items ++ rest)) = some (items, rest) := by
  induction items generalizing fuel with
  | nil =>
    obtain ⟨fuel, rfl⟩ := Nat.exists_eq_add_one_of_ne_zero (Nat.ne_zero_of_lt hfuel)
    rw [prettyItems, List.append_assoc, skipGap_newLine]
    rw [List.singleton_append, skipGap_cons_of_not_isGap (by decide), readItems]
  | cons item items ih =>
    obtain ⟨⟨hwritable, hreadable⟩, hitems⟩ := List.forall_mem_cons.1 h
    obtain ⟨fuel, rfl⟩ := Nat.exists_eq_add_one_of_ne_zero (Nat.ne_zero_of_lt hfuel)
    rw [prettyItems] at hfuel ⊢
    simp only [List.length_append, List.length_cons] at hfuel
    rw [List.append_assoc, List.append_assoc, List.cons_append,
      skipGap_cons_of_not_isGap (by decide), readItems_comma]
    -- The line end before the item is a gap, and the text behind it ends a number.
    have hitem : readValue fuel
        (newLine (level + 1) ++ (prettyAt (level + 1) item ++ (prettyItems level items ++ rest)))
          = some (item, prettyItems level items ++ rest) := by
      refine hreadable (level + 1) fuel _ _ (stops_prettyItems level items rest) ?_ (by omega)
      rw [skipGap_newLine, skipGap_prettyAt hwritable]
    rw [hitem, Option.bind_some, ih hitems fuel (by omega), Option.bind_some]

theorem readable_arr {items : List Json} (h : ∀ item ∈ items, Writable item ∧ Readable item) :
    Readable (.arr items) := by
  intro level fuel cs rest _ hcs hfuel
  obtain ⟨fuel, rfl⟩ := Nat.exists_eq_add_one_of_ne_zero (Nat.ne_zero_of_lt hfuel)
  cases items with
  | nil => exact readValue_arr_nil hcs fuel
  | cons item items =>
    obtain ⟨⟨hwritable, hreadable⟩, hitems⟩ := List.forall_mem_cons.1 h
    obtain ⟨c, tail, hhead, -, hc⟩ := exists_head_prettyAt hwritable (level + 1)
    rw [prettyAt] at hcs hfuel
    simp only [List.length_append, List.length_cons] at hfuel
    rw [List.append_assoc, List.append_assoc, List.cons_append] at hcs
    have htext : skipGap
        (newLine (level + 1) ++ (prettyAt (level + 1) item ++ (prettyItems level items ++ rest)))
          = prettyAt (level + 1) item ++ (prettyItems level items ++ rest) := by
      rw [skipGap_newLine, skipGap_prettyAt hwritable]
    have hitem := hreadable (level + 1) fuel _ _ (stops_prettyItems level items rest)
      (skipGap_prettyAt hwritable (level + 1) _) (by omega)
    rw [hhead, List.cons_append] at htext hitem
    rw [hhead] at hcs
    rw [readValue_arr_cons hcs htext hc, hitem, Option.bind_some,
      readItems_prettyItems hitems level fuel rest (by omega), Option.bind_some]

/-! ### Objects -/

theorem stops_prettyFields (level : Nat) (fields : List (String × Json)) (rest : List Char) :
    Stops (prettyFields level fields ++ rest) := by
  cases fields with
  | nil =>
    rw [prettyFields, List.append_assoc]
    exact stops_newLine level _
  | cons field fields =>
    obtain ⟨name, value⟩ := field
    rw [prettyFields]
    exact stops_cons (by decide) _

/-- A field is read back if its value is. -/
theorem readField_quoted {value : Json} (hwritable : Writable value) (hreadable : Readable value)
    (name : String) (level fuel : Nat) {rest : List Char} (hrest : Stops rest)
    (hfuel : (prettyAt level value).length + 1 < fuel) :
    readField fuel (quoted name ++ ':' :: ' ' :: (prettyAt level value ++ rest))
      = some (some (name, value), rest) := by
  obtain ⟨fuel, rfl⟩ := Nat.exists_eq_add_one_of_ne_zero (Nat.ne_zero_of_lt hfuel)
  -- The blank behind the colon is a gap.
  have hvalue : readValue fuel (' ' :: (prettyAt level value ++ rest)) = some (value, rest) := by
    refine hreadable level fuel _ rest hrest ?_ (by omega)
    rw [skipGap_cons_of_isGap (by decide), skipGap_prettyAt hwritable]
  rw [quoted_append, readField]
  simp only [readString_quoted, Option.bind_eq_bind, Option.bind_some]
  rw [skipGap_cons_of_not_isGap (by decide)]
  simp only [hvalue]
  rfl

/-- The further fields of an object are read back if the value of each is. -/
theorem readFields_prettyFields {fields : List (String × Json)}
    (h : ∀ field ∈ fields, Writable field.2 ∧ Readable field.2) (level fuel : Nat)
    (rest : List Char) (hfuel : (prettyFields level fields).length < fuel) :
    readFields fuel (skipGap (prettyFields level fields ++ rest))
      = some (fields.map some, rest) := by
  induction fields generalizing fuel with
  | nil =>
    obtain ⟨fuel, rfl⟩ := Nat.exists_eq_add_one_of_ne_zero (Nat.ne_zero_of_lt hfuel)
    rw [prettyFields, List.append_assoc, skipGap_newLine]
    rw [List.singleton_append, skipGap_cons_of_not_isGap (by decide), readFields]
    rfl
  | cons field fields ih =>
    obtain ⟨name, value⟩ := field
    obtain ⟨⟨hwritable, hreadable⟩, hfields⟩ := List.forall_mem_cons.1 h
    dsimp only at hwritable hreadable
    obtain ⟨fuel, rfl⟩ := Nat.exists_eq_add_one_of_ne_zero (Nat.ne_zero_of_lt hfuel)
    rw [prettyFields] at hfuel ⊢
    simp only [List.length_append, List.length_cons, List.length_nil] at hfuel
    simp only [List.append_assoc, List.cons_append, List.nil_append]
    rw [skipGap_cons_of_not_isGap (by decide), readFields_comma, skipGap_newLine]
    have hquote : ∀ tail, skipGap (quoted name ++ tail) = quoted name ++ tail := by
      intro tail
      rw [quoted_append, skipGap_cons_of_not_isGap (by decide)]
    have hfield := readField_quoted hwritable hreadable name (level + 1) fuel
      (stops_prettyFields level fields rest) (by omega)
    rw [hquote, hfield, Option.bind_some, ih hfields fuel (by omega), Option.bind_some]
    rfl

theorem ofFields_map_some (field : String × Json) (fields : List (String × Json)) :
    ofFields (some field) (fields.map some) = .obj (field :: fields) := by
  have hsome : (some field :: fields.map some).all Option.isSome = true := by simp
  rw [ofFields, if_pos hsome]
  simp

theorem readable_obj {fields : List (String × Json)}
    (h : ∀ field ∈ fields, Writable field.2 ∧ Readable field.2) : Readable (.obj fields) := by
  intro level fuel cs rest _ hcs hfuel
  obtain ⟨fuel, rfl⟩ := Nat.exists_eq_add_one_of_ne_zero (Nat.ne_zero_of_lt hfuel)
  cases fields with
  | nil => exact readValue_obj_nil hcs fuel
  | cons field fields =>
    obtain ⟨name, value⟩ := field
    obtain ⟨⟨hwritable, hreadable⟩, hfields⟩ := List.forall_mem_cons.1 h
    dsimp only at hwritable hreadable
    rw [prettyAt] at hcs hfuel
    simp only [List.length_append, List.length_cons, List.length_nil] at hfuel
    simp only [List.append_assoc, List.cons_append, List.nil_append] at hcs
    have hfield := readField_quoted hwritable hreadable name (level + 1) fuel
      (stops_prettyFields level fields rest) (by omega)
    have htext := skipGap_newLine (level + 1) (quoted name
      ++ ':' :: ' ' :: (prettyAt (level + 1) value ++ (prettyFields level fields ++ rest)))
    rw [quoted_append, skipGap_cons_of_not_isGap (by decide)] at htext
    rw [quoted_append] at hcs hfield
    rw [readValue_obj_cons hcs htext, hfield, Option.bind_some,
      readFields_prettyFields hfields level fuel rest (by omega), Option.bind_some,
      ofFields_map_some]

/-! ### All values -/

/-- **Every writable value is read back**, at any place. -/
theorem Writable.readable {value : Json} (h : Writable value) : Readable value := by
  induction h with
  | null => exact readable_null
  | bool value => exact readable_bool value
  | nat n => exact readable_nat n
  | str s => exact readable_str s
  | arr hitems ih => exact readable_arr fun item hitem => ⟨hitems item hitem, ih item hitem⟩
  | obj hfields ih =>
    exact readable_obj fun field hfield => ⟨hfields field hfield, ih field hfield⟩

/-- **The layout on file is read back.** -/
theorem parse?_pretty {value : Json} (h : Writable value) :
    parse? value.pretty = some value := by
  have hgap : skipGap (prettyAt 0 value) = prettyAt 0 value ++ [] := by
    have hskip := skipGap_prettyAt h 0 []
    rwa [List.append_nil] at hskip ⊢
  have hread := h.readable 0 ((prettyAt 0 value).length + 1) (prettyAt 0 value) [] stops_nil hgap
    (Nat.lt_succ_self _)
  rw [parse?, pretty, String.toList_ofList, hread]
  rfl

end SourceOutline.Json

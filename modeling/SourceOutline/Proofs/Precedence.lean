/-
What an idiom does not find on the line of another.

The idioms are tried in a fixed order, so that a line is read as meant only if the idioms
before the one that is meant find nothing on it, wherever they look. Most idioms have a sign
in all of their words that the line does not have. Where they share their signs, it is the
place of a sign that decides: what stands between two full stops, behind an equals sign, or
around a blank.
-/
import SourceOutline.Proofs.Idioms

set_option autoImplicit false

namespace SourceOutline.Script

open Text Text.Pattern

variable {text : List Char} (identifier : Identifier) (names : List Identifier)

/-! ## Signs that an idiom needs -/

theorem requires_windowMember : windowMember.Requires '.' :=
  (requires_text (by decide)).seq_left _

theorem requires_windowPath : windowPath.Requires '.' :=
  (requires_text (by decide)).seq_left _

theorem requires_objectProperty : objectProperty.Requires ':' :=
  .seq_right _ (.seq_right _ (.seq_right _ ((requires_char ':').seq_left _)))

theorem requires_openParameters : openParameters.Requires '(' := (requires_char '(').seq_left _

theorem requires_variableFunction : variableFunction.Requires '(' :=
  .seq_right _ (.seq_right _ requires_openParameters)

theorem requires_variableArrow : variableArrow.Requires '(' :=
  .seq_right _ (.seq_right _ ((requires_char '(').seq_left _))

/-! ## Signs that a line has -/

/-- A part of a name, or a sign that stands in functions and their parameters. -/
def isPlain (c : Char) : Bool := isNamePart c || " (,)\x7b=>".toList.contains c

theorem isPlain_of_isNamePart {c : Char} (h : isNamePart c = true) : isPlain c = true := by
  rw [isPlain, h, Bool.true_or]

theorem isPlain_list : ∀ c ∈ (Identifier.list names).toList, isPlain c = true := by
  intro c hc
  rcases Identifier.mem_list hc with h | rfl | rfl
  · exact isPlain_of_isNamePart h
  · rfl
  · rfl

theorem isPlain_identifier : ∀ c ∈ identifier.text.toList, isPlain c = true :=
  fun c hc => isPlain_of_isNamePart (identifier.parts c hc)

theorem isPlain_functionText : ∀ c ∈ functionText names, isPlain c = true :=
  List.forall_mem_append.2 ⟨List.all_eq_true.1 (by decide),
    List.forall_mem_append.2 ⟨isPlain_list names, List.all_eq_true.1 (by decide)⟩⟩

theorem isPlain_callText : ∀ c ∈ callText identifier names, isPlain c = true :=
  List.forall_mem_append.2 ⟨isPlain_identifier identifier, List.forall_mem_cons.2
    ⟨rfl, List.forall_mem_append.2 ⟨isPlain_list names, List.all_eq_true.1 (by decide)⟩⟩⟩

theorem isPlain_methodText {modifiers : List String}
    (hmodifiers : ∀ modifier ∈ modifiers, modifier ∈ methodModifiers) :
    ∀ c ∈ methodText modifiers identifier names, isPlain c = true := by
  induction modifiers with
  | nil => exact isPlain_callText identifier names
  | cons modifier modifiers ih =>
    rw [List.forall_mem_cons] at hmodifiers
    rw [methodText_cons, List.forall_mem_append, List.forall_mem_cons]
    refine ⟨fun c hc => ?_, rfl, ih hmodifiers.2⟩
    exact isPlain_of_isNamePart ((firstWord_modifier hmodifiers.1 []).parts c hc)

theorem isPlain_variableText {keyword : String} (hkeyword : keyword ∈ variableKeywords)
    {value : List Char} (hvalue : ∀ c ∈ value, isPlain c = true) :
    ∀ c ∈ variableText keyword identifier value, isPlain c = true := by
  have hkeywords : ∀ word ∈ variableKeywords, word.toList.all isPlain = true := by decide
  refine List.forall_mem_append.2
    ⟨List.all_eq_true.1 (hkeywords keyword hkeyword), List.forall_mem_cons.2 ⟨rfl, ?_⟩⟩
  exact List.forall_mem_append.2 ⟨isPlain_identifier identifier,
    List.forall_mem_append.2 ⟨List.all_eq_true.1 (by decide), hvalue⟩⟩

theorem isPlain_arrowText : ∀ c ∈ arrowText names, isPlain c = true :=
  List.forall_mem_cons.2
    ⟨rfl, List.forall_mem_append.2 ⟨isPlain_list names, List.all_eq_true.1 (by decide)⟩⟩

theorem isPlain_arrowSingleText (parameter : Identifier) :
    ∀ c ∈ arrowSingleText parameter, isPlain c = true :=
  List.forall_mem_append.2 ⟨isPlain_identifier parameter, List.all_eq_true.1 (by decide)⟩

/-- There is no parenthesis in an arrow function with a bare parameter. -/
theorem parenthesis_not_mem_arrowSingle {keyword : String} (hkeyword : keyword ∈ variableKeywords)
    (parameter : Identifier) :
    '(' ∉ variableText keyword identifier (arrowSingleText parameter) := by
  have hkeywords : ∀ word ∈ variableKeywords, '(' ∉ word.toList := by decide
  simp [variableText, arrowSingleText, hkeywords keyword hkeyword, identifier.not_mem,
    parameter.not_mem, isNamePart]

/-- On a line of plain signs, none of the idioms with a full stop or a colon finds a function. -/
theorem search_eq_none_of_plain (hplain : ∀ c ∈ text, isPlain c = true) :
    windowMember.search text = none ∧ windowPath.search text = none
      ∧ objectProperty.search text = none := by
  have hnot : ∀ c, isPlain c = false → c ∉ text := fun c hc hmem => by
    rw [hplain c hmem] at hc
    cases hc
  exact ⟨requires_windowMember.search_eq_none (hnot '.' rfl),
    requires_windowPath.search_eq_none (hnot '.' rfl),
    requires_objectProperty.search_eq_none (hnot ':' rfl)⟩

theorem not_mem_of_isWord {part : List Char} (h : ∀ c ∈ part, isWord c = true) {c : Char}
    (hc : isWord c = false) : c ∉ part := fun hmem => by
  rw [h c hmem] at hc
  cases hc

/-! ## Dotted paths -/

/-- Names with a full stop behind each, before something else. -/
def dottedText (outer : List Identifier) (rest : List Char) : List Char :=
  outer.foldr (fun owner rest => owner.text.toList ++ '.' :: rest) rest

theorem dottedText_append (outer : List Identifier) (rest more : List Char) :
    dottedText outer rest ++ more = dottedText outer (rest ++ more) := by
  induction outer with
  | nil => rfl
  | cons owner outer ih => simpa [dottedText] using ih

theorem dottedText_ne_nil (outer : List Identifier) (member : Identifier) :
    dottedText outer member.text.toList ≠ [] := by
  cases outer with
  | nil => exact member.nonempty
  | cons owner outer => simp [dottedText]

theorem isPathPart_dottedText (outer : List Identifier) (member : Identifier) :
    ∀ c ∈ dottedText outer member.text.toList, (isWord c || c == '.') = true := by
  have hname : ∀ name : Identifier, ∀ c ∈ name.text.toList, (isWord c || c == '.') = true :=
    fun name c hc => by rw [name.isWord c hc, Bool.true_or]
  induction outer with
  | nil => exact hname member
  | cons owner outer ih =>
    exact List.forall_mem_append.2 ⟨hname owner, List.forall_mem_cons.2 ⟨rfl, ih⟩⟩

theorem exists_of_mem_language_windowMember {part : List Char} (h : part ∈ windowMember.language) :
    ∃ member next tail, part = "window".toList ++ '.' :: (member ++ next :: tail)
      ∧ '.' ∉ member ∧ isNamePart next = false ∧ next ≠ '.' := by
  obtain ⟨_, hword, _, ⟨member, hmember, _, ⟨blanks, hblanks, _,
    ⟨_, ⟨e, he, rfl⟩, tail, -, rfl⟩, rfl⟩, rfl⟩, rfl⟩ := h
  obtain rfl := beq_iff_eq.1 he
  have hstop : '.' ∉ member := not_mem_of_isWord (of_mem_language_span1 hmember).2 rfl
  rw [eq_of_mem_language_text hword]
  cases blanks with
  | nil => exact ⟨member, '=', tail, by simp, hstop, rfl, by decide⟩
  | cons b blanks =>
    have hb := hblanks b List.mem_cons_self
    refine ⟨member, b, blanks ++ '=' :: tail, by simp, hstop, not_isNamePart_of_isBlank hb, ?_⟩
    rintro rfl
    cases hb

/-- What is found as a member of the window is the last name of a path, and the name before it ends
in `window`. -/
theorem not_infix_dottedText {found tail rest : List Char} {next : Char} (hfound : '.' ∉ found)
    (hpart : isNamePart next = false) (hnext : next ≠ '.') (hrest : '.' ∉ rest) {owner : Identifier}
    (howner : ¬"window".toList <:+ owner.text.toList) (outer : List Identifier) {first : List Char}
    (hfirst : '.' ∉ first) :
    ¬"window".toList ++ '.' :: (found ++ next :: tail)
      <:+: first ++ '.' :: dottedText (outer ++ [owner]) rest := by
  have hwindow : '.' ∉ "window".toList := by decide
  have hname : ∀ name : Identifier, '.' ∉ name.text.toList := fun name => name.not_mem rfl
  -- A name before a full stop is not what is found, for no full stop follows that.
  have hstretch : ∀ (name : Identifier) (after : List Char),
      ¬found ++ next :: tail <+: name.text.toList ++ '.' :: after := by
    rintro name after ⟨more, hmore⟩
    rw [List.append_assoc, List.cons_append] at hmore
    exact hnext (append_cons_inj (name.not_mem hpart) hfound hmore).2.1
  induction outer generalizing first with
  | nil =>
    intro h
    rcases infix_append_cons hwindow hfirst h with ⟨-, h⟩ | h
    · exact hstretch owner rest h
    · rcases infix_append_cons hwindow (hname owner) h with ⟨h, -⟩ | h
      · exact howner h
      · exact hrest (h.subset (by simp))
  | cons name outer ih =>
    intro h
    rcases infix_append_cons hwindow hfirst h with ⟨-, h⟩ | h
    · exact hstretch name _ h
    · exact ih (hname name) h

/-- Of a path of which the last but one name does not end in `window`, the idiom for a member of
the window finds no part. -/
theorem search_windowMember_path (outer : List Identifier) {owner : Identifier}
    (howner : ¬"window".toList <:+ owner.text.toList) (member : Identifier) :
    windowMember.search ("window".toList ++ '.' :: (dottedText (outer ++ [owner])
      (member.text.toList ++ (" = ".toList ++ functionText names)))) = none := by
  refine search_eq_none fun part hpart hwithin => ?_
  obtain ⟨found, next, tail, rfl, hfound, hmark, hnext⟩ :=
    exists_of_mem_language_windowMember hpart
  refine not_infix_dottedText hfound hmark hnext ?_ howner outer (by decide) hwithin
  have hfunction : '.' ∉ functionText names := fun hmem => by cases isPlain_functionText names _ hmem
  simp [member.not_mem, isNamePart, hfunction]

/-! ## Functions with a name -/

/-- Behind an `n` and a blank there is neither a word nor another blank, so that `function` does not
stand before a name. -/
def Nameless (text : List Char) : Prop :=
  ∀ b c more, isBlank b = true → (isBlank c || isWord c) = true → ¬ 'n' :: b :: c :: more <:+ text

theorem nameless_of_unbroken (h : ∀ c ∈ text, isBlank c = false) : Nameless text := by
  intro b c more hb _ hsuffix
  rw [h b (hsuffix.subset (by simp))] at hb
  cases hb

theorem nameless_brace : Nameless ['\x7b'] := nameless_of_unbroken (forall_not_isBlank rfl)

/-- A blank is put behind a stretch that does not end in an `n`, or before a sign. -/
theorem Nameless.append_blank {rest : List Char} (hrest : Nameless rest) {piece : List Char}
    (hpiece : ∀ c ∈ piece, isBlank c = false)
    (hedge : piece.getLast? ≠ some 'n' ∨ ∀ c ∈ rest.head?, (isBlank c || isWord c) = false) :
    Nameless (piece ++ ' ' :: rest) := by
  intro b c more hb hc hsuffix
  induction piece with
  | nil =>
    rcases List.suffix_cons_iff.1 hsuffix with h | h
    · cases (List.cons.inj h).1
    · exact hrest b c more hb hc h
  | cons d piece ih =>
    rw [List.forall_mem_cons] at hpiece
    rcases List.suffix_cons_iff.1 hsuffix with h | h
    · obtain ⟨rfl, htail⟩ := List.cons.inj h
      cases piece with
      | nil =>
        obtain ⟨rfl, rfl⟩ := List.cons.inj htail
        rcases hedge with hedge | hedge
        · exact hedge rfl
        · rw [hedge c rfl] at hc
          cases hc
      | cons e piece =>
        obtain rfl := (List.cons.inj htail).1
        rw [hpiece.2 b List.mem_cons_self] at hb
        cases hb
    · refine ih hpiece.2 (hedge.imp_left fun hlast => ?_) h
      cases piece with
      | nil => exact nofun
      | cons e piece => rwa [List.getLast?_cons_cons] at hlast

theorem search_functionKeyword_of_nameless (hplain : ∀ c ∈ text, isPlain c = true)
    (h : Nameless text) : functionKeyword.search text = none := by
  refine search_eq_none fun part hpart hwithin => ?_
  obtain ⟨tail, rfl, htail⟩ := exists_of_mem_language_functionKeyword hpart
  rcases htail with hstar | ⟨b, c, more, rfl, hb, hc⟩
  · cases hplain '*' (hwithin.subset (List.mem_append_right _ hstar))
  · obtain ⟨front, back, rfl⟩ := hwithin
    exact h b c (more ++ back) hb (Bool.or_eq_true_iff.2 hc) ⟨front ++ "functio".toList, by simp⟩

/-- Parameters are parted by commas, and what comes behind them by a parenthesis. -/
theorem nameless_parameters {rest : List Char} (hrest : Nameless rest) (front : List Char)
    (hfront : ∀ c ∈ front, isBlank c = false) :
    Nameless (front ++ ((Identifier.list names).toList ++ ')' :: ' ' :: rest)) := by
  have hclosed : ∀ piece : List Char, (∀ c ∈ piece, isBlank c = false) →
      Nameless (piece ++ ')' :: ' ' :: rest) := by
    intro piece hpiece
    rw [List.append_cons]
    exact hrest.append_blank (List.forall_mem_append.2 ⟨hpiece, forall_not_isBlank rfl⟩) (.inl (by simp))
  induction names generalizing front with
  | nil => exact hclosed front hfront
  | cons name others ih =>
    have hpiece := List.forall_mem_append.2 ⟨hfront, name.not_isBlank⟩
    cases others with
    | nil =>
      rw [Identifier.toList_list_singleton, ← List.append_assoc]
      exact hclosed _ hpiece
    | cons other others =>
      rw [Identifier.toList_list_cons_cons, List.append_assoc, List.cons_append,
        ← List.append_assoc, ← List.append_assoc]
      exact (ih [] (by simp)).append_blank
        (List.forall_mem_append.2 ⟨hpiece, forall_not_isBlank rfl⟩) (.inl (by simp))

theorem nameless_functionText : Nameless (functionText names) := by
  have hkeyword : ∀ c ∈ "function".toList, isBlank c = false := forall_not_isBlank rfl
  have hparameters := nameless_parameters names nameless_brace ['('] (forall_not_isBlank rfl)
  exact hparameters.append_blank hkeyword (.inr (stops_at rfl))

theorem nameless_arrowText : Nameless (arrowText names) := by
  have harrow : ∀ c ∈ "=>".toList, isBlank c = false := forall_not_isBlank rfl
  have hend := nameless_brace.append_blank harrow (.inl (by decide))
  exact nameless_parameters names hend ['('] (forall_not_isBlank rfl)

theorem nameless_arrowSingleText (parameter : Identifier) :
    Nameless (arrowSingleText parameter) := by
  have harrow : ∀ c ∈ "=>".toList, isBlank c = false := forall_not_isBlank rfl
  exact (nameless_brace.append_blank harrow (.inl (by decide))).append_blank parameter.not_isBlank
    (.inr (stops_at rfl))

theorem nameless_callText : Nameless (callText identifier names) := by
  have hfront : ∀ c ∈ identifier.text.toList ++ ['('], isBlank c = false :=
    List.forall_mem_append.2 ⟨identifier.not_isBlank, forall_not_isBlank rfl⟩
  have hcall := nameless_parameters names nameless_brace _ hfront
  rwa [← List.append_cons] at hcall

theorem nameless_methodText {modifiers : List String}
    (hmodifiers : ∀ modifier ∈ modifiers, modifier ∈ methodModifiers) :
    Nameless (methodText modifiers identifier names) := by
  have hwords : ∀ word ∈ methodModifiers,
      word.toList.any isBlank = false ∧ word.toList.getLast? ≠ some 'n' := by decide
  induction modifiers with
  | nil => exact nameless_callText identifier names
  | cons modifier modifiers ih =>
    rw [List.forall_mem_cons] at hmodifiers
    obtain ⟨hblank, hlast⟩ := hwords modifier hmodifiers.1
    rw [methodText_cons]
    exact (ih hmodifiers.2).append_blank (forall_not_isBlank hblank) (.inl hlast)

theorem nameless_variableText {keyword : String} (hkeyword : keyword ∈ variableKeywords)
    {value : List Char} (hvalue : Nameless value) :
    Nameless (variableText keyword identifier value) := by
  have hwords : ∀ word ∈ variableKeywords,
      word.toList.any isBlank = false ∧ word.toList.getLast? ≠ some 'n' := by decide
  obtain ⟨hblank, hlast⟩ := hwords keyword hkeyword
  have hequals : ∀ c ∈ ['='], isBlank c = false := forall_not_isBlank rfl
  have hassigned := hvalue.append_blank hequals (.inl (by decide))
  have hnamed := hassigned.append_blank identifier.not_isBlank (.inr (stops_at rfl))
  exact hnamed.append_blank (forall_not_isBlank hblank) (.inl hlast)

/-! ## Methods and variables -/

theorem mem_language_modifiers {words : List String} {part : List Char}
    (h : part ∈ (many (seq (oneOf words) blanks1)).language) :
    part = [] ∨ ∃ word ∈ words, ∃ b tail, part = word.toList ++ b :: tail ∧ isBlank b = true := by
  obtain ⟨rounds, rfl, hrounds⟩ := Language.mem_kstar.1 h
  cases rounds with
  | nil => exact .inl rfl
  | cons first others =>
    obtain ⟨_, hfirst, _, ⟨_, ⟨b, hb, rfl⟩, blanks, -, rfl⟩, rfl⟩ := hrounds first List.mem_cons_self
    obtain ⟨word, hword, rfl⟩ := exists_of_mem_language_oneOf hfirst
    exact .inr ⟨word, hword, b, blanks ++ others.flatten, by simp, hb⟩

theorem firstWord_variableText {keyword : String} (hkeyword : keyword ∈ variableKeywords)
    (value : List Char) : FirstWord (variableText keyword identifier value) keyword.toList ' ' := by
  have hwords : ∀ word ∈ variableKeywords,
      word.toList ≠ [] ∧ word.toList.all isNamePart = true := by decide
  exact firstWord_keyword ⟨_, rfl⟩ (hwords keyword hkeyword).1 (hwords keyword hkeyword).2 rfl

/-- A variable is no method: its keyword is no modifier, and no parenthesis follows it. -/
theorem search_bareMethod_variable {keyword : String} (hkeyword : keyword ∈ variableKeywords)
    (value : List Char) : bareMethod.search (variableText keyword identifier value) = none := by
  have hfirst := firstWord_variableText identifier hkeyword value
  refine (anchored_textStart.seq _).search_eq_none ?_
  rintro _ ⟨_, rfl, _, ⟨modifiers, hmodifiers, _, ⟨star, hstar, _, ⟨found, hfound, _,
    ⟨blanks, hblanks, _, ⟨_, ⟨d, hd, rfl⟩, tail, -, rfl⟩, rfl⟩, rfl⟩, rfl⟩, rfl⟩, rfl⟩ hbegins
  obtain rfl := beq_iff_eq.1 hd
  rcases mem_language_modifiers hmodifiers with rfl | ⟨modifier, hmodifier, b, more, rfl, hb⟩
  · rcases hstar with ⟨e, he, rfl⟩ | rfl
    · obtain ⟨k, ks, htext, hk⟩ := hfirst.exists_cons
      rw [htext] at hbegins
      obtain rfl := (List.cons_prefix_cons.1 hbegins).1
      rw [beq_iff_eq.1 he] at hk
      cases hk
    · -- The name is the keyword, and behind the blank the name of the variable begins.
      have hblank : ' ' ∉ found := not_mem_of_isWord (of_mem_language_span1 hfound).2 rfl
      obtain ⟨i, is, hname, hi⟩ := identifier.exists_cons
      obtain ⟨after, hafter⟩ := hbegins
      simp only [List.nil_append, List.append_assoc, List.cons_append, variableText, hname] at hafter
      cases blanks with
      | nil => cases (append_cons_inj (hfirst.not_mem rfl) hblank hafter).2.1
      | cons b blanks =>
        have hb := not_isNamePart_of_isBlank (hblanks b List.mem_cons_self)
        obtain ⟨-, -, htail⟩ := append_cons_inj (hfirst.not_mem hb) hblank hafter
        have hi' := not_isBlank_of_isNamePart hi
        obtain rfl := eq_of_blanks_append (List.forall_mem_cons.1 hblanks).2 hi' htail
        cases hi
  · have hmodifiers : ∀ word ∈ methodModifiers, word ∉ variableKeywords := by decide
    have hparts := (firstWord_modifier hmodifier []).parts
    simp only [List.nil_append, List.append_assoc, List.cons_append] at hbegins
    obtain ⟨hword, -⟩ := hfirst.eq_of_begins hparts (not_isNamePart_of_isBlank hb) hbegins
    exact hmodifiers modifier hmodifier (String.toList_injective hword ▸ hkeyword)

theorem exists_of_mem_language_variableHead {part : List Char} (h : part ∈ variableHead.language) :
    ∃ front blanks, part = front ++ '=' :: blanks ∧ '=' ∉ front
      ∧ ∀ c ∈ blanks, isBlank c = true := by
  obtain ⟨_, rfl, _, ⟨_, hkeyword, _, ⟨blanks₁, hblanks₁, _, ⟨found, hfound, _, ⟨blanks₂, hblanks₂, _,
    ⟨_, ⟨d, hd, rfl⟩, blanks₃, hblanks₃, rfl⟩, rfl⟩, rfl⟩, rfl⟩, rfl⟩, rfl⟩ := h
  obtain rfl := beq_iff_eq.1 hd
  obtain ⟨word, hword, rfl⟩ := exists_of_mem_language_oneOf hkeyword
  have hwords : ∀ word ∈ variableKeywords, '=' ∉ word.toList := by decide
  refine ⟨word.toList ++ blanks₁ ++ found ++ blanks₂, blanks₃, by simp, ?_, hblanks₃⟩
  simp only [List.mem_append, not_or]
  refine ⟨⟨⟨hwords word hword, ?_⟩, ?_⟩, ?_⟩
  · intro hmem
    cases (of_mem_language_span1 hblanks₁).2 '=' hmem
  · exact not_mem_of_isWord (of_mem_language_span1 hfound).2 rfl
  · intro hmem
    cases hblanks₂ '=' hmem

theorem exists_of_mem_language_functionHead {part : List Char} (h : part ∈ functionHead.language) :
    ∃ c tail, part = c :: tail ∧ (c = 'a' ∨ c = 'f') := by
  obtain ⟨_, hasync, _, ⟨_, hword, rest, -, rfl⟩, rfl⟩ := h
  rw [eq_of_mem_language_text hword]
  rcases hasync with ⟨_, hasync, tail, -, rfl⟩ | rfl
  · rw [eq_of_mem_language_text hasync]
    exact ⟨'a', _, rfl, .inl rfl⟩
  · exact ⟨'f', _, rfl, .inr rfl⟩

/-- Behind the equals sign of a variable with an arrow function, no `function` stands. -/
theorem search_variableFunction_arrow {keyword : String} (hkeyword : keyword ∈ variableKeywords) :
    variableFunction.search (variableText keyword identifier (arrowText names)) = none := by
  refine (anchored_textStart.seq _ |>.seq _).search_eq_none ?_
  rintro _ ⟨_, hhead, _, ⟨_, hfunction, tail, -, rfl⟩, rfl⟩ ⟨after, hafter⟩
  obtain ⟨front, blanks, rfl, hfront, hblanks⟩ := exists_of_mem_language_variableHead hhead
  obtain ⟨c, more, rfl, hc⟩ := exists_of_mem_language_functionHead hfunction
  have hbefore : '=' ∉ keyword.toList ++ ' ' :: (identifier.text.toList ++ [' ']) := by
    have hmem := (firstWord_variableText identifier hkeyword []).not_mem (c := '=') rfl
    simp [hmem, identifier.not_mem, isNamePart]
  have hcut : front ++ '=' :: (blanks ++ c :: (more ++ (tail ++ after)))
      = (keyword.toList ++ ' ' :: (identifier.text.toList ++ [' ']))
        ++ '=' :: ' ' :: arrowText names := by
    simpa [variableText] using hafter
  obtain ⟨-, -, hvalue⟩ := append_cons_inj hbefore hfront hcut
  cases blanks with
  | nil =>
    obtain rfl := (List.cons.inj hvalue).1
    exact absurd hc (by decide)
  | cons b blanks =>
    obtain rfl := eq_of_blanks_append (List.forall_mem_cons.1 hblanks).2 rfl (List.cons.inj hvalue).2
    exact absurd hc (by decide)

end SourceOutline.Script
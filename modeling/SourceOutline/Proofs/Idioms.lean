/-
What the function idioms of scripts read, and what a line must have for them.

An idiom is a row of parts, and so is a line. `Finds` says that an idiom finds a name and
parameters on a line; it is proved part by part, in the order of the pattern. That an idiom
finds nothing is a matter of its language alone: there is a character that all of its words
have and the line has not, or the first stretches of the word and of the line differ.
-/
import SourceOutline.Proofs.Identifiers
import SourceOutline.Proofs.Matching
import SourceOutline.Script.Lines

set_option autoImplicit false

namespace SourceOutline.Script

open Text Text.Pattern

/-! ## What is found -/

/-- A pattern finds a name and parameters in a text. -/
def Finds (pattern : Text.Pattern) (text name parameters : List Char) : Prop :=
  ∃ found, pattern.search text = some found ∧ found.group? 1 = some name
    ∧ found.group? 2 = some parameters

theorem text_capture (part rest : List Char) : (⟨part ++ rest, rest⟩ : Capture).text = part := by
  simp [Capture.text]

/-- The two groups that an idiom keeps, the parameters last. -/
def groupsOf (name afterName parameters afterParameters : List Char) : List (Nat × Capture) :=
  [(2, ⟨parameters ++ afterParameters, afterParameters⟩), (1, ⟨name ++ afterName, afterName⟩)]

theorem finds_of_search {pattern : Text.Pattern} {text name parameters : List Char}
    (before : Option Char) (rest afterName afterParameters : List Char)
    (h : pattern.search text
      = some ⟨before, rest, groupsOf name afterName parameters afterParameters⟩) :
    Finds pattern text name parameters :=
  ⟨_, h, congrArg some (text_capture name afterName),
    congrArg some (text_capture parameters afterParameters)⟩

/-- A pattern finds what it keeps on the first way from the start of a text. -/
theorem finds_of_leads {pattern : Text.Pattern} {text name parameters : List Char}
    (before : Option Char) (rest afterName afterParameters : List Char)
    (h : pattern.Leads (.start text)
      ⟨before, rest, groupsOf name afterName parameters afterParameters⟩) :
    Finds pattern text name parameters :=
  finds_of_search _ _ _ _ (search_of_leads h)

/-! ## Parts -/

variable {before : Option Char} {groups : List (Nat × Capture)}

/-- A stretch of a class ends before a character outside of it. -/
theorem stops_at {accepts : Char → Bool} {c : Char} {rest : List Char} (h : accepts c = false) :
    ∀ d ∈ (c :: rest).head?, accepts d = false := by
  rintro _ ⟨⟩
  exact h

theorem leads_blank {rest : List Char} (hrest : ∀ c ∈ rest.head?, isBlank c = false) :
    blanks.Leads ⟨before, ' ' :: rest, groups⟩ ⟨some ' ', rest, groups⟩ :=
  leads_span (List.forall_mem_singleton.2 rfl) hrest

theorem leads_blank1 {rest : List Char} (hrest : ∀ c ∈ rest.head?, isBlank c = false) :
    blanks1.Leads ⟨before, ' ' :: rest, groups⟩ ⟨some ' ', rest, groups⟩ :=
  .seq (leads_one rfl) (leads_span_nil hrest)

theorem leads_name (identifier : Identifier) {rest : List Char}
    (hrest : ∀ c ∈ rest.head?, isWord c = false) :
    name.Leads ⟨before, identifier.text.toList ++ rest, groups⟩
      ⟨identifier.text.toList.getLast?.or before, rest,
        (1, ⟨identifier.text.toList ++ rest, rest⟩) :: groups⟩ :=
  (leads_span1 identifier.nonempty identifier.isWord hrest).capture 1

theorem leads_parameters (names : List Identifier) (rest : List Char) :
    parameters.Leads ⟨before, (Identifier.list names).toList ++ ')' :: rest, groups⟩
      ⟨(Identifier.list names).toList.getLast?.or before, ')' :: rest,
        (2, ⟨(Identifier.list names).toList ++ ')' :: rest, ')' :: rest⟩) :: groups⟩ := by
  refine (leads_span (fun c hc => ?_) (by simp [noneOf])).capture 2
  rcases Identifier.mem_list hc with h | rfl | rfl
  · have hne : c ≠ ')' := by
      rintro rfl
      cases h
    simpa [noneOf] using hne
  · decide
  · decide

theorem leads_openParameters (names : List Identifier) (rest : List Char) :
    openParameters.Leads ⟨before, '(' :: ((Identifier.list names).toList ++ ')' :: rest), groups⟩
      ⟨some ')', rest,
        (2, ⟨(Identifier.list names).toList ++ ')' :: rest, ')' :: rest⟩) :: groups⟩ :=
  .seq (leads_one rfl) (.seq (leads_parameters names rest) ((leads_one rfl).either _))

/-- What is no `async` is passed by. -/
theorem leads_asyncWord_nil {rest : List Char} (h : ¬"async".toList <+: rest) :
    asyncWord.Leads ⟨before, rest, groups⟩ ⟨before, rest, groups⟩ := by
  refine leads_opt_nil ?_
  rw [ends_seq, ends_text_eq_nil h, List.flatMap_nil]

theorem leads_functionHead (rest : List Char) :
    functionHead.Leads ⟨before, "function (".toList ++ rest, groups⟩
      ⟨some ' ', '(' :: rest, groups⟩ := by
  refine .seq (leads_asyncWord_nil (by simp)) ?_
  refine .seq (leads_text "function" (' ' :: '(' :: rest)) ?_
  refine .seq (leads_wordEdge rfl) ?_
  refine .seq (leads_opt_nil rfl) ?_
  refine .seq (leads_blank (stops_at rfl)) ?_
  exact .seq (leads_span_nil (stops_at rfl)) (leads_span_nil (stops_at rfl))

/-- A function without a name of its own, up to the brace that opens its block. -/
def functionText (names : List Identifier) : List Char :=
  "function (".toList ++ ((Identifier.list names).toList ++ ") \x7b".toList)

theorem leads_function (names : List Identifier) :
    (seq functionHead openParameters).Leads ⟨before, functionText names, groups⟩
      ⟨some ')', [' ', '\x7b'],
        (2, ⟨(Identifier.list names).toList ++ ") \x7b".toList, ") \x7b".toList⟩) :: groups⟩ :=
  .seq (leads_functionHead _) (leads_openParameters names [' ', '\x7b'])

/-! ## What the idioms find -/

theorem finds_windowMember (identifier : Identifier) (names : List Identifier) :
    Finds windowMember
      ("window.".toList ++ (identifier.text.toList ++ (" = ".toList ++ functionText names)))
      identifier.text.toList (Identifier.list names).toList := by
  refine finds_of_leads (some ')') [' ', '\x7b'] (" = ".toList ++ functionText names)
    ") \x7b".toList ?_
  refine .seq (leads_text "window." _) ?_
  refine .seq (leads_name identifier (stops_at rfl)) ?_
  refine .seq (leads_blank (stops_at rfl)) ?_
  refine .seq (leads_one rfl) ?_
  refine .seq (leads_blank (stops_at rfl)) ?_
  exact .seq (leads_functionHead _) ((leads_openParameters names [' ', '\x7b']).either _)

theorem finds_windowPath {path : List Char} (hnil : path ≠ [])
    (hpath : ∀ c ∈ path, (isWord c || c == '.') = true) (names : List Identifier) :
    Finds windowPath ("window.".toList ++ (path ++ (" = ".toList ++ functionText names)))
      path (Identifier.list names).toList := by
  refine finds_of_leads (some ')') [' ', '\x7b'] (" = ".toList ++ functionText names)
    ") \x7b".toList ?_
  refine .seq (leads_text "window." _) ?_
  refine .seq ((leads_span1 hnil hpath (stops_at rfl)).capture 1) ?_
  refine .seq (leads_blank (stops_at rfl)) ?_
  refine .seq (leads_one rfl) ?_
  refine .seq (leads_blank (stops_at rfl)) ?_
  exact .seq (leads_functionHead _) (leads_openParameters names [' ', '\x7b'])

theorem finds_objectProperty (identifier : Identifier) (names : List Identifier) :
    Finds objectProperty (identifier.text.toList ++ (": ".toList ++ functionText names))
      identifier.text.toList (Identifier.list names).toList := by
  refine finds_of_leads (some ')') [' ', '\x7b'] (": ".toList ++ functionText names)
    ") \x7b".toList ?_
  refine .seq (leads_wordEdge ?_) ?_
  · obtain ⟨c, cs, hname, hc⟩ := identifier.exists_cons
    simp [Cursor.start, Cursor.atWordEdge, hname, isWord_of_isNamePart hc]
  refine .seq (leads_name identifier (stops_at rfl)) ?_
  refine .seq (leads_span_nil (stops_at rfl)) ?_
  refine .seq (leads_one rfl) ?_
  refine .seq (leads_blank (stops_at rfl)) ?_
  exact .seq (leads_functionHead _) ((leads_openParameters names [' ', '\x7b']).either _)

/-- A name with parameters, up to the brace that opens a block. -/
def callText (identifier : Identifier) (names : List Identifier) : List Char :=
  identifier.text.toList ++ ('(' :: ((Identifier.list names).toList ++ ") \x7b".toList))

theorem leads_functionKeyword (identifier : Identifier) (names : List Identifier)
    (hbefore : before.any isWord = false) :
    functionKeyword.Leads ⟨before, "function ".toList ++ callText identifier names, []⟩
      ⟨some ')', [' ', '\x7b'], groupsOf identifier.text.toList
        ('(' :: ((Identifier.list names).toList ++ ") \x7b".toList))
        (Identifier.list names).toList ") \x7b".toList⟩ := by
  obtain ⟨c, cs, hname, hc⟩ := identifier.exists_cons
  refine .seq (leads_wordEdge ?_) ?_
  · cases before with
    | none => rfl
    | some b =>
      change (isWord b != true) = true
      have hb : isWord b = false := hbefore
      rw [hb]
      rfl
  refine .seq (leads_text "function" (' ' :: callText identifier names)) ?_
  refine .seq (leads_wordEdge rfl) ?_
  refine .seq (leads_opt_nil rfl) ?_
  refine .seq (leads_blank1 ?_) ?_
  · rw [callText, hname]
    exact stops_at (not_isBlank_of_isNamePart hc)
  refine .seq (leads_name identifier (stops_at rfl)) ?_
  exact .seq (leads_span_nil (stops_at rfl)) (leads_openParameters names [' ', '\x7b'])

theorem finds_functionKeyword (identifier : Identifier) (names : List Identifier) :
    Finds functionKeyword ("function ".toList ++ callText identifier names)
      identifier.text.toList (Identifier.list names).toList :=
  finds_of_leads _ _ _ _ (leads_functionKeyword identifier names rfl)

theorem exists_of_mem_language_functionKeyword {part : List Char}
    (h : part ∈ functionKeyword.language) :
    ∃ tail, part = "function".toList ++ tail
      ∧ ('*' ∈ tail ∨ ∃ b c more, tail = b :: c :: more ∧ isBlank b = true
        ∧ (isBlank c = true ∨ isWord c = true)) := by
  obtain ⟨_, rfl, _, ⟨word, hword, _, ⟨_, rfl, _, ⟨star, hstar, _,
    ⟨_, ⟨_, ⟨b, hb, rfl⟩, blanks, hblanks, rfl⟩, _,
      ⟨_, ⟨_, ⟨c, hc, rfl⟩, name, -, rfl⟩, more, -, rfl⟩, rfl⟩, rfl⟩, rfl⟩, rfl⟩, rfl⟩ := h
  rw [eq_of_mem_language_text hword]
  refine ⟨_, rfl, ?_⟩
  rcases hstar with ⟨d, hd, rfl⟩ | rfl
  · rw [beq_iff_eq.1 hd]
    exact .inl List.mem_cons_self
  · refine .inr ?_
    cases blanks with
    | nil => exact ⟨b, c, _, rfl, hb, .inr hc⟩
    | cons b' blanks => exact ⟨b, b', _, rfl, hb, .inl (hblanks b' List.mem_cons_self)⟩

/-- The keyword is found behind another word. -/
theorem finds_functionKeyword_async (identifier : Identifier) (names : List Identifier) :
    Finds functionKeyword ("async ".toList ++ ("function ".toList ++ callText identifier names))
      identifier.text.toList (Identifier.list names).toList := by
  have hbefore : ("async ".toList.getLast?.or none).any isWord = false := by decide
  refine finds_of_search _ _ _ _ ((searchFrom_append _ ?_ none).trans
    (searchFrom_of_leads (leads_functionKeyword identifier names hbefore)))
  -- No character that is passed over is the first one of the keyword.
  intro part hpart tail htail hnil hbegins
  obtain ⟨more, rfl, -⟩ := exists_of_mem_language_functionKeyword hpart
  obtain ⟨c, cs, rfl⟩ := List.exists_cons_of_ne_nil hnil
  have hc : c ∈ "async ".toList := htail.subset List.mem_cons_self
  have hf : 'f' = c := (List.cons_prefix_cons.1 hbegins).1
  rw [← hf] at hc
  exact absurd hc (by decide)

/-- The keyword, the name and the equals sign of a variable. -/
def variableText (keyword : String) (identifier : Identifier) (value : List Char) : List Char :=
  keyword.toList ++ ' ' :: (identifier.text.toList ++ (" = ".toList ++ value))

/-- The words by which a variable is declared. -/
def variableKeywords : List String := ["var", "let", "const"]

theorem leads_variableHead {keyword : String} (hkeyword : keyword ∈ variableKeywords)
    (identifier : Identifier) {value : List Char} (hvalue : ∀ c ∈ value.head?, isBlank c = false) :
    variableHead.Leads (.start (variableText keyword identifier value))
      ⟨some ' ', value,
        [(1, ⟨identifier.text.toList ++ (" = ".toList ++ value), " = ".toList ++ value⟩)]⟩ := by
  obtain ⟨c, cs, hname, hc⟩ := identifier.exists_cons
  refine .seq (leads_textStart rfl) ?_
  refine .seq (leads_oneOf (by decide) hkeyword) ?_
  refine .seq (leads_blank1 ?_) ?_
  · rw [hname]
    exact stops_at (not_isBlank_of_isNamePart hc)
  refine .seq (leads_name identifier (stops_at rfl)) ?_
  refine .seq (leads_blank (stops_at rfl)) ?_
  exact .seq (leads_one rfl) (leads_blank hvalue)

theorem finds_variableFunction {keyword : String} (hkeyword : keyword ∈ variableKeywords)
    (identifier : Identifier) (names : List Identifier) :
    Finds variableFunction (variableText keyword identifier (functionText names))
      identifier.text.toList (Identifier.list names).toList :=
  finds_of_leads (some ')') [' ', '\x7b'] (" = ".toList ++ functionText names) ") \x7b".toList
    (.seq (leads_variableHead hkeyword identifier (stops_at rfl)) (leads_function names))

/-- An arrow function with a list of parameters. -/
def arrowText (names : List Identifier) : List Char :=
  '(' :: ((Identifier.list names).toList ++ ") => \x7b".toList)

theorem finds_variableArrow {keyword : String} (hkeyword : keyword ∈ variableKeywords)
    (identifier : Identifier) (names : List Identifier) :
    Finds variableArrow (variableText keyword identifier (arrowText names))
      identifier.text.toList (Identifier.list names).toList := by
  refine finds_of_leads (some '>') [' ', '\x7b'] (" = ".toList ++ arrowText names)
    ") => \x7b".toList ?_
  refine .seq (leads_variableHead hkeyword identifier (stops_at rfl)) ?_
  refine .seq (leads_asyncWord_nil (by simp [arrowText])) ?_
  refine .seq (leads_one rfl) ?_
  refine .seq (leads_parameters names _) ?_
  refine .seq (leads_one rfl) ?_
  refine .seq (leads_span (List.forall_mem_singleton.2 rfl) (stops_at rfl)) ?_
  exact leads_text "=>" [' ', '\x7b']

/-- An arrow function with one parameter and no parentheses. -/
def arrowSingleText (parameter : Identifier) : List Char :=
  parameter.text.toList ++ " => \x7b".toList

theorem isNameChar_of_isNamePart {c : Char} (h : isNamePart c = true) : isNameChar c = true := by
  rw [isNameChar, isWord_of_isNamePart h, Bool.true_or]

/-- An identifier can be a parameter without parentheses. -/
theorem leads_bareParameter (parameter : Identifier) {rest : List Char}
    (hrest : ∀ c ∈ rest.head?, isNameChar c = false) :
    (capture 2 (seq (one isParameterStart) (span isNameChar))).Leads
      ⟨before, parameter.text.toList ++ rest, groups⟩
      ⟨parameter.text.toList.getLast?.or before, rest,
        (2, ⟨parameter.text.toList ++ rest, rest⟩) :: groups⟩ := by
  suffices h : (seq (one isParameterStart) (span isNameChar)).Leads
      ⟨before, parameter.text.toList ++ rest, groups⟩
      ⟨parameter.text.toList.getLast?.or before, rest, groups⟩ from h.capture 2
  have hfirst := parameter.noDigitFirst
  have hparts := parameter.parts
  obtain ⟨c, cs, hname, hc⟩ := parameter.exists_cons
  rw [hname] at hfirst hparts ⊢
  have hdigit : c.isDigit = false := hfirst
  rw [Cursor.getLast?_cons_or]
  refine .seq (leads_one ?_) (leads_span (fun d hd => ?_) hrest)
  · rw [isNamePart, Char.isAlphanum, hdigit, Bool.or_false] at hc
    rw [isParameterStart, hc, Bool.true_or]
  · exact isNameChar_of_isNamePart (hparts d (List.mem_cons_of_mem _ hd))

theorem finds_variableArrowSingle {keyword : String} (hkeyword : keyword ∈ variableKeywords)
    (identifier parameter : Identifier) :
    Finds variableArrowSingle (variableText keyword identifier (arrowSingleText parameter))
      identifier.text.toList parameter.text.toList := by
  refine finds_of_leads (some '>') [' ', '\x7b'] (" = ".toList ++ arrowSingleText parameter)
    " => \x7b".toList ?_
  obtain ⟨c, cs, hname, hc⟩ := parameter.exists_cons
  refine .seq (leads_variableHead hkeyword identifier ?_) ?_
  · rw [arrowSingleText, hname]
    exact stops_at (not_isBlank_of_isNamePart hc)
  refine .opt_seq (ends_eq_nil ?_) ?_
  · -- A parameter with the name `async` is the whole word, and no parameter follows it.
    rintro _ ⟨_, ⟨word, hword, _, ⟨_, ⟨b, hb, rfl⟩, blanks, hblanks, rfl⟩, rfl⟩, _,
      ⟨_, ⟨_, ⟨d, hd, rfl⟩, part, -, rfl⟩, more, -, rfl⟩, rfl⟩ ⟨after, hbegins⟩
    rw [eq_of_mem_language_text hword] at hbegins
    simp only [List.append_assoc, List.cons_append, arrowSingleText] at hbegins
    have hasync : ' ' ∉ "async".toList := by decide
    obtain ⟨-, -, hrest⟩ := append_cons_inj (parameter.not_mem_of_isBlank hb) hasync hbegins
    obtain rfl := eq_of_blanks_append hblanks rfl hrest
    cases hd
  refine .seq (leads_bareParameter parameter (stops_at rfl)) ?_
  exact .seq (leads_blank (stops_at rfl)) (leads_text "=>" [' ', '\x7b'])

/-! ## First words -/

/-- A text begins with a word, and a sign that is no part of it follows. -/
structure FirstWord (text word : List Char) (next : Char) : Prop where
  exists_rest : ∃ rest, text = word ++ next :: rest
  nonempty : word ≠ []
  parts : ∀ c ∈ word, isNamePart c = true
  stops : isNamePart next = false

theorem not_isNamePart_of_isBlank {c : Char} (h : isBlank c = true) : isNamePart c = false := by
  rw [← Bool.not_eq_true]
  intro hpart
  rw [not_isBlank_of_isNamePart hpart] at h
  cases h

theorem FirstWord.exists_cons {text word : List Char} {next : Char} (h : FirstWord text word next) :
    ∃ c cs, text = c :: cs ∧ isNamePart c = true := by
  obtain ⟨rest, rfl⟩ := h.exists_rest
  obtain ⟨c, cs, rfl⟩ := List.exists_cons_of_ne_nil h.nonempty
  exact ⟨c, _, rfl, h.parts c List.mem_cons_self⟩

theorem FirstWord.not_mem {text word : List Char} {next : Char} (h : FirstWord text word next)
    {c : Char} (hc : isNamePart c = false) : c ∉ word := fun hmem => by
  rw [h.parts c hmem] at hc
  cases hc

/-- There is only one first word. -/
theorem FirstWord.eq_of_begins {text word : List Char} {next : Char} (h : FirstWord text word next)
    {keyword : List Char} (hkeyword : ∀ c ∈ keyword, isNamePart c = true) {b : Char}
    (hb : isNamePart b = false) {tail : List Char} (hbegins : keyword ++ b :: tail <+: text) :
    keyword = word ∧ b = next := by
  obtain ⟨rest, hrest⟩ := h.exists_rest
  obtain ⟨more, hmore⟩ := hbegins
  rw [hrest, List.append_assoc, List.cons_append] at hmore
  have hnext : next ∉ keyword := fun hmem => by
    have hstops := h.stops
    rw [hkeyword next hmem] at hstops
    cases hstops
  obtain ⟨hword, hmark, -⟩ := append_cons_inj (h.not_mem hb) hnext hmore
  exact ⟨hword, hmark⟩

theorem firstWord_callText (identifier : Identifier) (names : List Identifier) :
    FirstWord (callText identifier names) identifier.text.toList '(' :=
  ⟨⟨_, rfl⟩, identifier.nonempty, identifier.parts, rfl⟩

/-! ## Methods -/

theorem firstWord_keyword {text : List Char} {word : String} {next : Char}
    (htext : ∃ rest, text = word.toList ++ next :: rest) (hnil : word.toList ≠ [])
    (hparts : word.toList.all isNamePart = true) (hnext : isNamePart next = false) :
    FirstWord text word.toList next :=
  ⟨htext, hnil, List.all_eq_true.1 hparts, hnext⟩

/-- A modifier before a blank is a first word. -/
theorem firstWord_modifier {modifier : String} (h : modifier ∈ methodModifiers) (rest : List Char) :
    FirstWord (modifier.toList ++ ' ' :: rest) modifier.toList ' ' := by
  have hwords : ∀ word ∈ methodModifiers,
      word.toList ≠ [] ∧ word.toList.all isNamePart = true := by decide
  exact firstWord_keyword ⟨rest, rfl⟩ (hwords modifier h).1 (hwords modifier h).2 rfl

/-- Modifiers with a blank after each, and a method. -/
def methodText (modifiers : List String) (identifier : Identifier) (names : List Identifier) :
    List Char :=
  modifiers.flatMap (fun modifier => modifier.toList ++ [' ']) ++ callText identifier names

theorem methodText_cons (modifier : String) (modifiers : List String) (identifier : Identifier)
    (names : List Identifier) :
    methodText (modifier :: modifiers) identifier names
      = modifier.toList ++ ' ' :: methodText modifiers identifier names := by
  simp [methodText]

/-- The word a method begins with is its first modifier or, if there is none, its name. -/
theorem exists_firstWord_methodText {modifiers : List String}
    (hmodifiers : ∀ modifier ∈ modifiers, modifier ∈ methodModifiers) (identifier : Identifier)
    (names : List Identifier) :
    ∃ word next, FirstWord (methodText modifiers identifier names) word next
      ∧ (word = identifier.text.toList ∧ next = '('
        ∨ ∃ modifier ∈ methodModifiers, word = modifier.toList ∧ next = ' ') := by
  cases modifiers with
  | nil => exact ⟨_, _, firstWord_callText identifier names, .inl ⟨rfl, rfl⟩⟩
  | cons modifier modifiers =>
    have hmodifier := hmodifiers modifier List.mem_cons_self
    rw [methodText_cons]
    exact ⟨_, _, firstWord_modifier hmodifier _, .inr ⟨modifier, hmodifier, rfl, rfl⟩⟩

/-- The modifiers are read one by one, up to the name. -/
theorem rounds_modifiers {modifiers : List String}
    (hmodifiers : ∀ modifier ∈ modifiers, modifier ∈ methodModifiers) (identifier : Identifier)
    (names : List Identifier) (before : Option Char) :
    ∃ before', Rounds (seq (oneOf methodModifiers) blanks1)
      ⟨before', callText identifier names, groups⟩
      ⟨before, methodText modifiers identifier names, groups⟩ := by
  induction modifiers generalizing before with
  | nil =>
    refine ⟨before, .stop (ends_eq_nil ?_)⟩
    -- A modifier that begins the text is the whole name, but a parenthesis follows the name.
    rintro _ ⟨word, hword, _, ⟨_, ⟨b, hb, rfl⟩, tail, -, rfl⟩, rfl⟩ hbegins
    obtain ⟨modifier, hmodifier, rfl⟩ := exists_of_mem_language_oneOf hword
    obtain ⟨-, rfl⟩ := (firstWord_callText identifier names).eq_of_begins
      (firstWord_modifier hmodifier []).parts (not_isNamePart_of_isBlank hb) hbegins
    cases hb
  | cons modifier modifiers ih =>
    rw [List.forall_mem_cons] at hmodifiers
    obtain ⟨before', hrounds⟩ := ih hmodifiers.2 (some ' ')
    rw [methodText_cons]
    refine ⟨before', .again ?_ ?_ hrounds⟩
    · obtain ⟨_, _, hfirst, -⟩ := exists_firstWord_methodText hmodifiers.2 identifier names
      obtain ⟨c, cs, htext, hc⟩ := hfirst.exists_cons
      refine .seq (leads_oneOf (by decide) hmodifiers.1) (leads_blank1 ?_)
      rw [htext]
      exact stops_at (not_isBlank_of_isNamePart hc)
    · simp only [List.length_append, List.length_cons]
      omega

theorem finds_bareMethod {modifiers : List String}
    (hmodifiers : ∀ modifier ∈ modifiers, modifier ∈ methodModifiers) (identifier : Identifier)
    (names : List Identifier) :
    Finds bareMethod (methodText modifiers identifier names) identifier.text.toList
      (Identifier.list names).toList := by
  refine finds_of_leads (some '\x7b') []
    ('(' :: ((Identifier.list names).toList ++ ") \x7b".toList)) ") \x7b".toList ?_
  obtain ⟨before', hrounds⟩ := rounds_modifiers hmodifiers identifier names none
  obtain ⟨c, cs, hname, hc⟩ := identifier.exists_cons
  refine .seq (leads_textStart rfl) ?_
  refine .seq hrounds.leads ?_
  refine .seq (leads_opt_nil ?_) ?_
  · have hstar : (c == '*') = false := by
      rw [beq_eq_false_iff_ne]
      rintro rfl
      cases hc
    simp [callText, hname, char, ends_one_cons, hstar]
  refine .seq (leads_name identifier (stops_at rfl)) ?_
  refine .seq (leads_span_nil (stops_at rfl)) ?_
  refine .seq (leads_one rfl) ?_
  refine .seq (leads_parameters names _) ?_
  refine .seq (leads_one rfl) ?_
  refine .seq (leads_blank (stops_at rfl)) ?_
  exact .seq (leads_opt_nil rfl) (leads_one rfl)

end SourceOutline.Script

/-
The lines by which scripts declare functions, and what they are read as.

A `Heading` is a line in one of the forms in which functions are written, with any names in
it, be they keywords of other forms. Whichever form it has, the idiom of that form is the first
to find something on it, and it finds the name and the parameters (`function?_heading`). What
is left is that nothing on the way takes the line for something else: it is no comment, the
words that export it come off, and it opens no type.
-/
import SourceOutline.Proofs.Precedence

set_option autoImplicit false

namespace SourceOutline.Script

open Text Text.Pattern LineScan

/-! ## Headings -/

/-- A line that declares a function. -/
inductive Heading where
  /-- A member of the window: `window.name = function (…)`. -/
  | windowMember (name : Identifier) (parameters : List Identifier)
  /-- A path from the window: `window.a.b = function (…)`. Of an owner that ends in `window`, the
  last name would be read as a member of the window. -/
  | windowPath (outer : List Identifier) (owner member : Identifier) (parameters : List Identifier)
      (visible : ¬"window".toList <:+ owner.text.toList)
  /-- A property of an object: `name: function (…)`. -/
  | objectProperty (name : Identifier) (parameters : List Identifier)
  /-- A function by keyword: `function name(…)`, with `async` before it or not. -/
  | functionKeyword (isAsync : Bool) (name : Identifier) (parameters : List Identifier)
  /-- A method behind its modifiers: `name(…)`. -/
  | method (modifiers : List String) (name : Identifier) (parameters : List Identifier)
      (listed : ∀ modifier ∈ modifiers, modifier ∈ methodModifiers)
      (named : name.text ∉ "function" :: controlWords)
  /-- A variable that is given a function: `const name = function (…)`. -/
  | variableFunction (keyword : String) (name : Identifier) (parameters : List Identifier)
      (listed : keyword ∈ variableKeywords)
  /-- A variable that is given an arrow function: `const name = (…) =>`. -/
  | variableArrow (keyword : String) (name : Identifier) (parameters : List Identifier)
      (listed : keyword ∈ variableKeywords)
  /-- A variable that is given one with a bare parameter: `const name = parameter =>`. -/
  | variableArrowSingle (keyword : String) (name parameter : Identifier)
      (listed : keyword ∈ variableKeywords)

namespace Heading

/-- The line, without what stands before it. -/
def line : Heading → List Char
  | windowMember name parameters =>
    "window.".toList ++ (name.text.toList ++ (" = ".toList ++ functionText parameters))
  | windowPath outer owner member parameters _ =>
    "window.".toList ++ (dottedText (outer ++ [owner]) member.text.toList
      ++ (" = ".toList ++ functionText parameters))
  | objectProperty name parameters =>
    name.text.toList ++ (": ".toList ++ functionText parameters)
  | functionKeyword isAsync name parameters =>
    (if isAsync then "async ".toList else []) ++ ("function ".toList ++ callText name parameters)
  | method modifiers name parameters _ _ => methodText modifiers name parameters
  | variableFunction keyword name parameters _ =>
    variableText keyword name (functionText parameters)
  | variableArrow keyword name parameters _ => variableText keyword name (arrowText parameters)
  | variableArrowSingle keyword name parameter _ =>
    variableText keyword name (arrowSingleText parameter)

/-- The name of the function, which may be a path. -/
def name : Heading → String
  | windowPath outer owner member _ _ =>
    String.ofList (dottedText (outer ++ [owner]) member.text.toList)
  | windowMember name _ | objectProperty name _ | functionKeyword _ name _ | method _ name _ _ _
  | variableFunction _ name _ _ | variableArrow _ name _ _ | variableArrowSingle _ name _ _ =>
    name.text

/-- The parameters of the function, as they are written. -/
def parameters : Heading → List Identifier
  | windowMember _ parameters | windowPath _ _ _ parameters _ | objectProperty _ parameters
  | functionKeyword _ _ parameters | method _ _ parameters _ _ | variableFunction _ _ parameters _
  | variableArrow _ _ parameters _ => parameters
  | variableArrowSingle _ _ parameter _ => [parameter]

end Heading

/-- A function with a name and parameters, which is a constructor by its name alone. -/
def functionDeclaration (showSignatures : Bool) (name : String) (parameters : List Identifier) :
    Declaration where
  kind := if name = "constructor" then .constructor else .method
  name := name
  signature := some { parameters := Identifier.list parameters, shown := showSignatures }

/-- What the line declares. -/
def Heading.declaration (showSignatures : Bool) (heading : Heading) : Declaration :=
  functionDeclaration showSignatures heading.name heading.parameters

/-! ## The idiom that decides -/

/-- The first idiom that finds something decides, if it accepts what it finds. -/
theorem function?_of_finds (showSignatures : Bool) {text : List Char} (count : Nat) {idiom : Idiom}
    (hidiom : idioms[count]? = some idiom)
    (hearlier : ∀ other ∈ idioms.take count, other.pattern.search text = none) {name : String}
    {parameters : List Identifier}
    (hfinds : Finds idiom.pattern text name.toList (Identifier.list parameters).toList)
    (haccepts : idiom.accepts text name.toList = true) :
    function? showSignatures text = some (functionDeclaration showSignatures name parameters) := by
  obtain ⟨hcount, rfl⟩ := List.getElem?_eq_some_iff.1 hidiom
  have hnone : (idioms.take count).findSome? (Idiom.declaration? showSignatures text) = none := by
    rw [List.findSome?_eq_none_iff]
    intro other hother
    rw [Idiom.declaration?, hearlier other hother]
    rfl
  have hkind : (name.toList == "constructor".toList) = decide (name = "constructor") := by
    rw [Bool.eq_iff_iff, beq_iff_eq, decide_eq_true_iff, String.toList_inj]
  obtain ⟨found, hfound, hname, hparameters⟩ := hfinds
  rw [function?, ← List.take_append_drop count idioms, List.drop_eq_getElem_cons hcount,
    List.findSome?_append, hnone, Option.none_or, List.findSome?_cons, Idiom.declaration?, hfound]
  simp only [Option.bind_eq_bind, Option.bind_some, hname, hparameters, haccepts, hkind,
    Option.getD_some, String.ofList_toList, Identifier.collapse_list, decide_eq_true_eq,
    Bool.not_true, Bool.false_eq_true, if_false, Option.pure_def, functionDeclaration]

theorem FirstWord.takeWhile_eq {text word : List Char} {next : Char} (h : FirstWord text word next)
    (hnext : next = ' ' ∨ next = '(') :
    text.takeWhile (fun c => !(c == ' ' || c == '(')) = word := by
  obtain ⟨rest, rfl⟩ := h.exists_rest
  rw [List.takeWhile_append_of_pos]
  · rcases hnext with rfl | rfl <;> simp
  · intro c hc
    have hblank : c ≠ ' ' := fun hc' => h.not_mem (c := ' ') rfl (hc' ▸ hc)
    have hparenthesis : c ≠ '(' := fun hc' => h.not_mem (c := '(') rfl (hc' ▸ hc)
    simp [hblank, hparenthesis]

/-- A method is not taken for a control statement, whether it has modifiers or not. -/
theorem isMethodName_methodText {modifiers : List String}
    (hmodifiers : ∀ modifier ∈ modifiers, modifier ∈ methodModifiers) {name : Identifier}
    (hname : name.text ∉ "function" :: controlWords) (parameters : List Identifier) :
    isMethodName (methodText modifiers name parameters) name.text.toList = true := by
  rw [List.mem_cons, not_or] at hname
  have hcontrol : ∀ word ∈ methodModifiers, word ∉ controlWords := by decide
  obtain ⟨word, next, hfirst, hword⟩ := exists_firstWord_methodText hmodifiers name parameters
  have hnext : next = ' ' ∨ next = '(' := by
    rcases hword with ⟨-, rfl⟩ | ⟨-, -, -, rfl⟩
    · exact .inr rfl
    · exact .inl rfl
  have hnot : String.ofList word ∉ controlWords := by
    rcases hword with ⟨rfl, -⟩ | ⟨modifier, hmodifier, rfl, -⟩
    · rw [String.ofList_toList]
      exact hname.2
    · rw [String.ofList_toList]
      exact hcontrol modifier hmodifier
  have hfunction : name.text.toList ≠ "function".toList := by
    rw [Ne, String.toList_inj]
    exact hname.1
  simp only [isMethodName, hfirst.takeWhile_eq hnext, isControlWord, String.ofList_toList,
    List.contains_eq_mem, Bool.and_eq_true, bne_iff_ne, Bool.not_eq_true', decide_eq_false_iff_not]
  exact ⟨⟨hfunction, hname.2⟩, hnot⟩

/-- The idioms before those of variables find nothing on a variable. -/
theorem search_eq_none_of_variable {keyword : String} (hkeyword : keyword ∈ variableKeywords)
    (name : Identifier) {value : List Char} (hplain : ∀ c ∈ value, isPlain c = true)
    (hnameless : Nameless value) :
    ∀ other ∈ idioms.take 5, other.pattern.search (variableText keyword name value) = none := by
  have hsigns := isPlain_variableText name hkeyword hplain
  obtain ⟨hmember, hpath, hproperty⟩ := search_eq_none_of_plain hsigns
  have hfunction :=
    search_functionKeyword_of_nameless hsigns (nameless_variableText name hkeyword hnameless)
  simpa [idioms] using
    ⟨hmember, hpath, hproperty, hfunction, search_bareMethod_variable name hkeyword value⟩

/-- Whatever the names are, a heading is read as the function that it declares. -/
theorem function?_heading (showSignatures : Bool) (heading : Heading) :
    function? showSignatures heading.line = some (heading.declaration showSignatures) := by
  -- In every case the idiom of the form finds the function, and the ones before it find nothing.
  cases heading with
  | windowMember name parameters =>
    exact function?_of_finds showSignatures 0 rfl (by simp) (finds_windowMember name parameters) rfl
  | windowPath outer owner member parameters visible =>
    -- A member of the window would be the last name, behind an owner that ends in `window`.
    have hmember := search_windowMember_path parameters outer visible member
    rw [← dottedText_append] at hmember
    refine function?_of_finds showSignatures 1 rfl (List.forall_mem_singleton.2 hmember) ?_ rfl
    have hname : (Heading.windowPath outer owner member parameters visible).name.toList
        = dottedText (outer ++ [owner]) member.text.toList := String.toList_ofList
    rw [hname]
    exact finds_windowPath (dottedText_ne_nil (outer ++ [owner]) member)
      (isPathPart_dottedText (outer ++ [owner]) member) parameters
  | objectProperty name parameters =>
    -- There is no full stop, which both of the idioms before need.
    have hfunction : '.' ∉ functionText parameters :=
      fun hmem => by cases isPlain_functionText parameters '.' hmem
    have hstop : '.' ∉ name.text.toList ++ (": ".toList ++ functionText parameters) := by
      simp [name.not_mem, isNamePart, hfunction]
    have hmember := requires_windowMember.search_eq_none hstop
    have hpath := requires_windowPath.search_eq_none hstop
    exact function?_of_finds showSignatures 2 rfl (by simpa [idioms] using ⟨hmember, hpath⟩)
      (finds_objectProperty name parameters) rfl
  | functionKeyword isAsync name parameters =>
    have hasync : ∀ c ∈ (if isAsync then "async ".toList else []), isPlain c = true := by
      cases isAsync <;> exact List.all_eq_true.1 (by decide)
    have hkeyword : ∀ c ∈ "function ".toList, isPlain c = true := List.all_eq_true.1 (by decide)
    have hplain := List.forall_mem_append.2
      ⟨hasync, List.forall_mem_append.2 ⟨hkeyword, isPlain_callText name parameters⟩⟩
    obtain ⟨hmember, hpath, hproperty⟩ := search_eq_none_of_plain hplain
    refine function?_of_finds showSignatures 3 rfl
      (by simpa [idioms] using ⟨hmember, hpath, hproperty⟩) ?_ rfl
    cases isAsync with
    | false => exact finds_functionKeyword name parameters
    | true => exact finds_functionKeyword_async name parameters
  | method modifiers name parameters listed named =>
    have hplain := isPlain_methodText name parameters listed
    obtain ⟨hmember, hpath, hproperty⟩ := search_eq_none_of_plain hplain
    have hfunction :=
      search_functionKeyword_of_nameless hplain (nameless_methodText name parameters listed)
    exact function?_of_finds showSignatures 4 rfl
      (by simpa [idioms] using ⟨hmember, hpath, hproperty, hfunction⟩)
      (finds_bareMethod listed name parameters) (isMethodName_methodText listed named parameters)
  | variableFunction keyword name parameters listed =>
    exact function?_of_finds showSignatures 5 rfl
      (search_eq_none_of_variable listed name (isPlain_functionText parameters)
        (nameless_functionText parameters))
      (finds_variableFunction listed name parameters) rfl
  | variableArrow keyword name parameters listed =>
    have hearlier := search_eq_none_of_variable listed name (isPlain_arrowText parameters)
      (nameless_arrowText parameters)
    have hfunction := search_variableFunction_arrow name parameters listed
    exact function?_of_finds showSignatures 6 rfl
      (List.forall_mem_append.2 ⟨hearlier, List.forall_mem_singleton.2 hfunction⟩)
      (finds_variableArrow listed name parameters) rfl
  | variableArrowSingle keyword name parameter listed =>
    -- The two other idioms of variables need a parenthesis.
    have hearlier := search_eq_none_of_variable listed name (isPlain_arrowSingleText parameter)
      (nameless_arrowSingleText parameter)
    have hnot := parenthesis_not_mem_arrowSingle name listed parameter
    have hfunction := requires_variableFunction.search_eq_none hnot
    have harrow := requires_variableArrow.search_eq_none hnot
    have hfinds := finds_variableArrowSingle listed name parameter
    rw [← Identifier.toList_list_singleton] at hfinds
    exact function?_of_finds showSignatures 7 rfl
      (List.forall_mem_append.2 ⟨hearlier, List.forall_mem_cons.2
        ⟨hfunction, List.forall_mem_singleton.2 harrow⟩⟩) hfinds rfl

/-! ## Lines that open no type -/

/-- The words that may stand before a type, and those that open one. -/
def typeWords : List String := ["export", "default", "abstract", "declare", "class", "interface"]

/-- No word that may stand before a type or open one begins the text, with a blank after it. -/
def OpensNoType (text : List Char) : Prop :=
  ∀ word ∈ typeWords, ∀ b tail, isBlank b = true → ¬word.toList ++ b :: tail <+: text

theorem FirstWord.opensNoType {text word : List Char} {next : Char} (h : FirstWord text word next)
    (hword : isBlank next = true → String.ofList word ∉ typeWords) : OpensNoType text := by
  have hparts : ∀ typeWord ∈ typeWords, typeWord.toList.all isNamePart = true := by decide
  intro typeWord hmem b tail hb hbegins
  obtain ⟨rfl, rfl⟩ :=
    h.eq_of_begins (List.all_eq_true.1 (hparts typeWord hmem)) (not_isNamePart_of_isBlank hb) hbegins
  rw [String.ofList_toList] at hword
  exact hword hb hmem

theorem type?_eq_none {text : List Char} (h : OpensNoType text) : type? text = none := by
  have hsearch : typeDeclaration.search text = none := by
    refine (anchored_textStart.seq _).search_eq_none ?_
    rintro _ ⟨_, rfl, _, ⟨modifiers, hmodifiers, _, ⟨_, hkeyword, _,
      ⟨_, ⟨_, ⟨b, hb, rfl⟩, blanks, -, rfl⟩, found, -, rfl⟩, rfl⟩, rfl⟩, rfl⟩ hbegins
    rcases mem_language_modifiers hmodifiers with rfl | ⟨word, hword, b', more, rfl, hb'⟩
    · obtain ⟨word, hword, rfl⟩ := exists_of_mem_language_oneOf hkeyword
      have hopening : ∀ word ∈ ["class", "interface"], word ∈ typeWords := by decide
      simp only [List.nil_append, List.cons_append] at hbegins
      exact h word (hopening word hword) b _ hb hbegins
    · have hmodifying : ∀ word ∈ ["export", "default", "abstract", "declare"], word ∈ typeWords := by
        decide
      simp only [List.nil_append, List.append_assoc, List.cons_append] at hbegins
      exact h word (hmodifying word hword) b' _ hb' hbegins
  rw [type?, hsearch]
  rfl

/-- A heading begins with a word that opens no type, or no blank follows that word. -/
theorem exists_firstWord_heading (heading : Heading) :
    ∃ word next, FirstWord heading.line word next
      ∧ (isBlank next = true → String.ofList word ∉ typeWords) := by
  have hvariable : ∀ {keyword : String}, keyword ∈ variableKeywords → keyword ∉ typeWords := by
    decide
  -- Only keywords are followed by a blank, and none of these opens a type.
  cases heading with
  | windowMember | windowPath =>
    exact ⟨"window".toList, '.', firstWord_keyword ⟨_, rfl⟩ (by decide) (by decide) rfl, nofun⟩
  | objectProperty name parameters =>
    exact ⟨name.text.toList, ':', ⟨⟨_, rfl⟩, name.nonempty, name.parts, rfl⟩, nofun⟩
  | functionKeyword isAsync name parameters =>
    cases isAsync with
    | false =>
      exact ⟨"function".toList, ' ', firstWord_keyword ⟨_, rfl⟩ (by decide) (by decide) rfl,
        fun _ => by decide⟩
    | true =>
      exact ⟨"async".toList, ' ', firstWord_keyword ⟨_, rfl⟩ (by decide) (by decide) rfl,
        fun _ => by decide⟩
  | method modifiers name parameters listed named =>
    have hmodifier : ∀ {modifier : String}, modifier ∈ methodModifiers → modifier ∉ typeWords := by
      decide
    obtain ⟨word, next, hfirst, ⟨-, rfl⟩ | ⟨modifier, hmem, rfl, rfl⟩⟩ :=
      exists_firstWord_methodText listed name parameters
    · exact ⟨word, '(', hfirst, nofun⟩
    · refine ⟨modifier.toList, ' ', hfirst, fun _ => ?_⟩
      rw [String.ofList_toList]
      exact hmodifier hmem
  | variableFunction keyword name _ listed | variableArrow keyword name _ listed
  | variableArrowSingle keyword name _ listed =>
    refine ⟨keyword.toList, ' ', firstWord_variableText name listed _, fun _ => ?_⟩
    rw [String.ofList_toList]
    exact hvariable listed

/-! ## Classified lines -/

/-- What stands before a heading that is exported. -/
def exportText (isExported : Bool) : List Char := if isExported then "export ".toList else []

theorem dropLeading_append {word : String} {rest : List Char}
    (hrest : ∀ c ∈ rest.head?, isBlank c = false) : dropLeading word (word.toList ++ rest) = rest := by
  rw [dropLeading, dropStart?_eq_some_iff.2 rfl]
  exact trimStart_eq_self hrest

theorem dropLeading_eq_self {word : String} {text : List Char} (h : ¬word.toList <+: text) :
    dropLeading word text = text := by
  rw [dropLeading]
  cases hrest : dropStart? word.toList text with
  | none => rfl
  | some rest => exact absurd ⟨rest, (dropStart?_eq_some_iff.1 hrest).symm⟩ h

theorem isComment_eq_false {c : Char} (hc : isNamePart c = true) (cs : List Char) :
    isComment (c :: cs) = false := by
  have hslash : '/' ≠ c := by rintro rfl; cases hc
  have hstar : '*' ≠ c := by rintro rfl; cases hc
  simp [isComment, startsWith, dropStart?, hslash, hstar]

/-- The words that export a function come off, whatever it is. -/
theorem dropExport_append (isExported : Bool) {text : List Char} (h : OpensNoType text)
    (hhead : ∀ c ∈ text.head?, isBlank c = false) :
    dropExport (exportText isExported ++ text) = text := by
  have hexport : ¬"export ".toList <+: text := h "export" (by decide) ' ' [] rfl
  have hdefault : ¬"default ".toList <+: text := h "default" (by decide) ' ' [] rfl
  rw [dropExport]
  cases isExported with
  | false => rw [exportText, if_neg (by decide), List.nil_append, dropLeading_eq_self hexport,
      dropLeading_eq_self hdefault]
  | true => rw [exportText, if_pos rfl, dropLeading_append hhead, dropLeading_eq_self hdefault]

theorem getLast?_append_of_eq_some {rest : List Char} {c : Char} (h : rest.getLast? = some c)
    (front : List Char) : (front ++ rest).getLast? = some c := by
  rw [List.getLast?_append, h, Option.some_or]

/-- Every heading ends with the brace that opens the block of the function. -/
theorem getLast?_line (heading : Heading) : heading.line.getLast? = some '\x7b' := by
  have hlist : ∀ (names : List Identifier) {rest : List Char}, rest.getLast? = some '\x7b' →
      ((Identifier.list names).toList ++ rest).getLast? = some '\x7b' :=
    fun _ _ h => getLast?_append_of_eq_some h _
  have hfunction : ∀ names, (functionText names).getLast? = some '\x7b' :=
    fun names => getLast?_append_of_eq_some (hlist names rfl) _
  have hcall : ∀ name names, (callText name names).getLast? = some '\x7b' := fun name names =>
    getLast?_append_of_eq_some (getLast?_append_of_eq_some (hlist names rfl) ['(']) _
  have hvariable : ∀ keyword name {value : List Char}, value.getLast? = some '\x7b' →
      (variableText keyword name value).getLast? = some '\x7b' := fun keyword name value h =>
    getLast?_append_of_eq_some (getLast?_append_of_eq_some (getLast?_append_of_eq_some
      (getLast?_append_of_eq_some h _) _) [' ']) _
  cases heading with
  | windowMember | windowPath =>
    exact getLast?_append_of_eq_some (getLast?_append_of_eq_some
      (getLast?_append_of_eq_some (hfunction _) _) _) _
  | objectProperty =>
    exact getLast?_append_of_eq_some (getLast?_append_of_eq_some (hfunction _) _) _
  | functionKeyword =>
    exact getLast?_append_of_eq_some (getLast?_append_of_eq_some (hcall _ _) _) _
  | method => exact getLast?_append_of_eq_some (hcall _ _) _
  | variableFunction => exact hvariable _ _ (hfunction _)
  | variableArrow => exact hvariable _ _ (getLast?_append_of_eq_some (hlist _ rfl) ['('])
  | variableArrowSingle => exact hvariable _ _ (getLast?_append_of_eq_some rfl _)

/-- **The function of a heading.** A line in one of the forms of functions declares the function
that it shows, whatever the names in it are, however far it is indented, and whether it is exported
or not. -/
theorem heading_declares_function (showSignatures : Bool) (heading : Heading) (isExported : Bool)
    {indent : List Char} (hindent : ∀ c ∈ indent, isBlank c = true) :
    classify showSignatures (indent ++ (exportText isExported ++ heading.line))
      = .declaration (heading.declaration showSignatures) := by
  obtain ⟨word, next, hfirst, hword⟩ := exists_firstWord_heading heading
  obtain ⟨c, cs, hline, hc⟩ := hfirst.exists_cons
  have hhead : ∀ c ∈ heading.line.head?, isBlank c = false := by
    rw [hline]
    exact stops_at (not_isBlank_of_isNamePart hc)
  have hstart : ∃ d ds, exportText isExported ++ heading.line = d :: ds ∧ isNamePart d = true := by
    cases isExported with
    | false => exact ⟨c, cs, hline, hc⟩
    | true => exact ⟨'e', _, rfl, rfl⟩
  obtain ⟨d, ds, hstart, hd⟩ := hstart
  have htrim : trim (indent ++ (exportText isExported ++ heading.line))
      = exportText isExported ++ heading.line := by
    rw [trim_append hindent (hstart ▸ stops_at (not_isBlank_of_isNamePart hd)), trimEnd_eq_self]
    rw [getLast?_append_of_eq_some (getLast?_line heading)]
    rintro _ ⟨⟩
    rfl
  have hcomment : isComment (exportText isExported ++ heading.line) = false := by
    rw [hstart, isComment_eq_false hd]
  have hopens := hfirst.opensNoType hword
  simp only [classify, htrim, hcomment, Bool.false_eq_true, if_false,
    dropExport_append isExported hopens hhead, type?_eq_none hopens, Option.none_or,
    function?_heading]

/-- A method with the name of a modifier keeps it, behind other modifiers. -/
theorem heading_declares_function_of_getter :
    (∀ c ∈ ['\t', ' '], isBlank c = true) ∧
    classify true ("\t static async get(resolve, reject) \x7b".toList)
      = .declaration {
        kind := .method
        name := "get"
        signature := some { parameters := "resolve, reject", shown := true } } := by
  have hblank : ∀ c ∈ ['\t', ' '], isBlank c = true := List.all_eq_true.1 (by decide)
  let names : List Identifier := [{ text := "resolve" }, { text := "reject" }]
  let heading := Heading.method ["static", "async"] { text := "get" } names (by decide) (by decide)
  have hlist : (Identifier.list names).toList = "resolve, reject".toList := by
    rw [Identifier.toList_list]
    decide
  have hline : "\t static async get(resolve, reject) \x7b".toList
      = ['\t', ' '] ++ (exportText false ++ heading.line) := by
    change _ = ['\t', ' '] ++ ("static async get(".toList
      ++ ((Identifier.list names).toList ++ ") \x7b".toList))
    rw [hlist]
    decide
  have hdeclaration : heading.declaration true = {
      kind := .method
      name := "get"
      signature := some { parameters := "resolve, reject", shown := true } } := by
    change (⟨_, _, some ⟨Identifier.list names, true⟩⟩ : Declaration) = _
    rw [String.toList_inj.1 hlist]
    rfl
  rw [hline, ← hdeclaration]
  exact ⟨hblank, heading_declares_function true heading false hblank⟩

end SourceOutline.Script

/-
What a `def` line declares, whatever stands between its parentheses.

The parameter list of a line is found by counting brackets, round and square ones alike. A
text is `Balanced` if its own brackets do not disturb that count, and then the list that
begins before such a text ends right behind it (`closedPart?_append`). Neither colons nor
arrows nor brackets of any kind in the parameters or behind them make a difference, so the
line declares a method of the name and the parameters that are written
(`def_line_declares_method`).
-/
import SourceOutline.Proofs.Substrings
import SourceOutline.Python

set_option autoImplicit false

namespace SourceOutline.Python

open LineScan

/-! ## Balanced texts -/

/-- A bracket that opens, round or square. -/
def isOpening (c : Char) : Bool := c == '(' || c == '['

/-- A bracket that closes, round or square. -/
def isClosing (c : Char) : Bool := c == ')' || c == ']'

/-- Nowhere along the text have more brackets been closed than opened before, and in the end
as many. -/
structure Balanced (text : List Char) : Prop where
  closed_le : ∀ front, front <+: text → front.countP isClosing ≤ front.countP isOpening
  closed_eq : text.countP isClosing = text.countP isOpening

/-! ## The bracket that closes the first one -/

theorem closedPart?_cons (depth : Nat) (c : Char) (cs : List Char) :
    closedPart? depth (c :: cs)
      = if isOpening c then (closedPart? (depth + 1) cs).map (c :: ·)
        else if isClosing c then
          if depth - 1 = 0 then some [c] else (closedPart? (depth - 1) cs).map (c :: ·)
        else (closedPart? depth cs).map (c :: ·) := by
  rw [closedPart?]
  rfl

theorem not_closing_of_opening {c : Char} (h : isOpening c = true) : isClosing c = false := by
  rcases Bool.or_eq_true_iff.1 h with h | h <;> rw [beq_iff_eq.1 h] <;> rfl

/-- A bracket that is not closed here is looked for in the rest, one deeper behind an opening
bracket and one less deep behind a closing one. -/
theorem closedPart?_step {depth : Nat} {c : Char} (h : isClosing c = true → 1 < depth)
    (cs : List Char) :
    closedPart? depth (c :: cs)
      = (closedPart? (depth + (if isOpening c then 1 else 0) - if isClosing c then 1 else 0)
        cs).map (c :: ·) := by
  rw [closedPart?_cons]
  by_cases hopening : isOpening c = true
  · rw [if_pos hopening, if_pos hopening, not_closing_of_opening hopening]
    rfl
  · rw [if_neg hopening, if_neg hopening, Nat.add_zero]
    by_cases hclosing : isClosing c = true
    · have hdeep := h hclosing
      rw [if_pos hclosing, if_pos hclosing, if_neg (by omega)]
    · rw [if_neg hclosing, if_neg hclosing, Nat.sub_zero]

/-- While a text does not close a bracket that is open before it, the search goes on behind the
text, as deep as the brackets of the text lead. -/
theorem closedPart?_append {text : List Char} {depth : Nat}
    (h : ∀ front, front <+: text → front.countP isClosing < depth + front.countP isOpening)
    (rest : List Char) :
    closedPart? depth (text ++ rest)
      = (closedPart? (depth + text.countP isOpening - text.countP isClosing) rest).map
        (text ++ ·) := by
  induction text generalizing depth with
  | nil => simp
  | cons c cs ih =>
    have hlater : ∀ front, front <+: cs →
        (c :: front).countP isClosing < depth + (c :: front).countP isOpening :=
      fun front hfront => h (c :: front) (List.cons_prefix_cons.2 ⟨rfl, hfront⟩)
    have hhere := hlater [] List.nil_prefix
    have hdeep : isClosing c = true → 1 < depth := by
      intro hclosing
      have hopening : isOpening c = false :=
        Bool.eq_false_iff.2 fun hopening => by
          rw [not_closing_of_opening hopening] at hclosing
          cases hclosing
      simpa [hclosing, hopening] using hhere
    simp only [List.countP_cons, List.countP_nil] at hlater hhere
    rw [List.cons_append, closedPart?_step hdeep, List.countP_cons, List.countP_cons]
    -- Only the counts matter from here on, not which kind of bracket it is.
    generalize (if isOpening c = true then 1 else 0) = opened at hlater hhere ⊢
    generalize (if isClosing c = true then 1 else 0) = closed at hlater hhere ⊢
    have hstays : ∀ front, front <+: cs →
        front.countP isClosing < depth + opened - closed + front.countP isOpening := by
      intro front hfront
      have := hlater front hfront
      omega
    rw [ih hstays, Option.map_map,
      show depth + (cs.countP isOpening + opened) - (cs.countP isClosing + closed)
        = depth + opened - closed + cs.countP isOpening - cs.countP isClosing by omega]
    rfl

/-- A list of parameters ends with the parenthesis behind them, if they are balanced. -/
theorem closedPart?_parenthesized {parameters : List Char} (h : Balanced parameters)
    (tail : List Char) :
    closedPart? 0 ('(' :: (parameters ++ ')' :: tail)) = some ('(' :: (parameters ++ [')'])) := by
  have hopen : ∀ front, front <+: parameters →
      front.countP isClosing < 1 + front.countP isOpening := by
    intro front hfront
    have := h.closed_le front hfront
    omega
  have hdepth : 1 + parameters.countP isOpening - parameters.countP isClosing = 1 := by
    have := h.closed_eq
    omega
  have hclose : closedPart? 1 (')' :: tail) = some [')'] := rfl
  rw [closedPart?_cons, if_pos (show isOpening '(' = true from rfl), Nat.zero_add,
    closedPart?_append hopen, hdepth, hclose]
  rfl

theorem parameterText_append {name parameters : List Char} (hname : '(' ∉ name)
    (h : Balanced parameters) (tail : List Char) :
    parameterText (name ++ '(' :: (parameters ++ ')' :: tail)) = '(' :: (parameters ++ [')']) := by
  have hstart : (name ++ '(' :: (parameters ++ ')' :: tail)).dropWhile (· != '(')
      = '(' :: (parameters ++ ')' :: tail) := by
    rw [List.dropWhile_append_of_pos (fun c hc => bne_iff_ne.2 (ne_of_mem_of_not_mem hc hname))]
    rfl
  rw [parameterText, hstart]
  dsimp only
  rw [closedPart?_parenthesized h, Option.getD_some]

/-! ## The line -/

/-- What precedes the name of a function. -/
def defKeywords : List String := ["def ", "async def "]

theorem stripParens_parenthesized (parameters : List Char) :
    Text.stripParens ('(' :: (parameters ++ [')'])) = parameters := by
  have htrim : Text.trim ('(' :: (parameters ++ [')'])) = '(' :: (parameters ++ [')']) := by
    rw [Text.trim, Text.trimStart_eq_self (by simp [Text.isBlank]), ← List.cons_append]
    exact Text.trimEnd_append_cons _ (by decide) []
  have hstart : Text.dropStart? ['('] ('(' :: (parameters ++ [')'])) = some (parameters ++ [')']) :=
    Text.dropStart?_eq_some_iff.2 rfl
  have hend : Text.dropEnd? [')'] (parameters ++ [')']) = some parameters :=
    Text.dropEnd?_eq_some_iff.2 rfl
  rw [Text.stripParens, htrim, hstart, Option.getD_some, hend, Option.getD_some]

theorem defLine_append (showSignatures : Bool) {name parameters : List Char} (hname : name ≠ [])
    (hparen : '(' ∉ name) (htrim : Text.trim name = name) (h : Balanced parameters)
    (tail : List Char) :
    defLine showSignatures .none (name ++ '(' :: (parameters ++ ')' :: tail))
      = .declaration {
          kind := .method, name := String.ofList name
          signature := some {
            parameters := Text.collapse (String.ofList parameters), shown := showSignatures } } := by
  have htake : (name ++ '(' :: (parameters ++ ')' :: tail)).takeWhile (· != '(') = name := by
    rw [List.takeWhile_append_of_pos
      (fun c hc => bne_iff_ne.2 (ne_of_mem_of_not_mem hc hparen))]
    simp
  rw [defLine, htake, htrim, parameterText_append hparen h, stripParens_parenthesized]
  simp [hname]

theorem classify_defLine (showSignatures : Bool) (pending : Pending) {line rest : List Char}
    {keyword : String} (hkeyword : keyword ∈ defKeywords)
    (hline : Text.trim line = keyword.toList ++ rest) :
    classify showSignatures pending line = (defLine showSignatures pending rest, .none) := by
  rw [classify, hline]
  simp only [defKeywords, List.mem_cons, List.not_mem_nil, or_false] at hkeyword
  rcases hkeyword with rfl | rfl <;> rfl

/-- **The method of a `def` line.** Its name is what stands before the first parenthesis, and its
parameters are what stands between that and the parenthesis that closes it, one blank apart. -/
theorem def_line_declares_method (showSignatures : Bool) {indent name parameters : List Char}
    (hindent : ∀ c ∈ indent, Text.isBlank c = true) (hname : name ≠ []) (hparen : '(' ∉ name)
    (htrim : Text.trim name = name) (hbalanced : Balanced parameters) (tail : List Char)
    {keyword : String} (hkeyword : keyword ∈ defKeywords) :
    classify showSignatures .none
        (indent ++ (keyword.toList ++ (name ++ '(' :: (parameters ++ ')' :: tail))))
      = (.declaration {
          kind := .method, name := String.ofList name
          signature := some {
            parameters := Text.collapse (String.ofList parameters), shown := showSignatures } },
        .none) := by
  have hline : Text.trim (indent ++ (keyword.toList ++ (name ++ '(' :: (parameters ++ ')' :: tail))))
      = keyword.toList ++ (name ++ '(' :: (parameters ++ ')' :: Text.trimEnd tail)) := by
    rw [Text.trim_append hindent]
    · simpa using Text.trimEnd_append_cons (keyword.toList ++ (name ++ '(' :: parameters))
        (c := ')') (by decide) tail
    · simp only [defKeywords, List.mem_cons, List.not_mem_nil, or_false] at hkeyword
      rcases hkeyword with rfl | rfl <;> simp [Text.isBlank]
  rw [classify_defLine showSignatures .none hkeyword hline,
    defLine_append showSignatures hname hparen htrim hbalanced]

/-- Brackets of both kinds, a colon and an arrow in the parameters, and a bracket behind them that
closes nothing. -/
theorem def_line_declares_method_of_callback :
    (classify true .none
        "\tasync def on(key: tuple[int, ...],  act=(lambda x: [x])) -> Box[int]: # ])".toList).1
      = .declaration {
          kind := .method, name := "on"
          signature := some {
            parameters := "key: tuple[int, ...], act=(lambda x: [x])", shown := true } } := by
  have hbalanced : Balanced "key: tuple[int, ...],  act=(lambda x: [x])".toList := by
    refine ⟨fun front hfront => ?_, by decide +kernel⟩
    have hall : ∀ front ∈ "key: tuple[int, ...],  act=(lambda x: [x])".toList.inits,
        front.countP isClosing ≤ front.countP isOpening := by decide +kernel
    exact hall front ((List.mem_inits _ _).2 hfront)
  have hindent : ∀ c ∈ ['\t'], Text.isBlank c = true := List.forall_mem_singleton.2 rfl
  have hname : "on".toList ≠ [] := by decide
  have hkeyword : "async def " ∈ defKeywords := by decide
  have hline := def_line_declares_method true hindent hname (by decide) (by decide +kernel)
    hbalanced " -> Box[int]: # ])".toList hkeyword
  have hparameters : Text.collapse (String.ofList "key: tuple[int, ...],  act=(lambda x: [x])".toList)
      = "key: tuple[int, ...], act=(lambda x: [x])" := by decide +kernel
  rw [hparameters] at hline
  exact congrArg Prod.fst hline

end SourceOutline.Python

/-
What tells two overloads apart.

Two callables of one name and one ancestry have different keys by their parameters alone. The
text of the parameters goes into the key with its words one blank apart, so that nothing counts
but the words and their order: a list that is broken over several lines or indented anew keeps its
key, and another word makes another key (`overload_keys_agree_iff`).

The words of a text are said without taking the text apart. A text is `Spaced` from some words if
it is these words with any blanks around them and at least one between two of them. Every text is
spaced from one list of words and from no other, and a text with its words one blank apart is
spaced from the same list (`Text.Spaced.join`).
-/
import Mathlib.Logic.ExistsUnique
import SourceOutline.Member.Identity
import SourceOutline.Proofs.Identifiers

set_option autoImplicit false

namespace SourceOutline

namespace Text

/-! ## Words and blanks -/

/-- A text of the given words with blanks between them, and maybe some around them. -/
inductive Spaced : List (List Char) → List Char → Prop
  | blank {blanks : List Char} (hblanks : ∀ c ∈ blanks, isBlank c = true) : Spaced [] blanks
  | word {blanks word rest : List Char} {words : List (List Char)}
      (hblanks : ∀ c ∈ blanks, isBlank c = true) (hne : word ≠ [])
      (hword : ∀ c ∈ word, isBlank c = false) (hends : ∀ c ∈ rest.head?, isBlank c = true)
      (hrest : Spaced words rest) : Spaced (word :: words) (blanks ++ (word ++ rest))

theorem Spaced.cons_blank {c : Char} (hc : isBlank c = true) {words : List (List Char)}
    {text : List Char} (h : Spaced words text) : Spaced words (c :: text) := by
  cases h with
  | blank hblanks => exact .blank (List.forall_mem_cons.2 ⟨hc, hblanks⟩)
  | word hblanks hne hword hends hrest =>
    exact .word (List.forall_mem_cons.2 ⟨hc, hblanks⟩) hne hword hends hrest

/-- A character that is not blank makes the first word longer, or it is a word of its own before
blanks. -/
theorem Spaced.exists_cons {c : Char} (hc : isBlank c = false) {words : List (List Char)}
    {text : List Char} (h : Spaced words text) : ∃ words, Spaced words (c :: text) := by
  have halone : (∀ d ∈ text.head?, isBlank d = true) → Spaced ([c] :: words) (c :: text) :=
    fun hends => .word (List.forall_mem_nil _) (List.cons_ne_nil c [])
      (List.forall_mem_singleton.2 hc) hends h
  cases h with
  | blank hblanks => exact ⟨_, halone fun d hd => hblanks d (List.mem_of_mem_head? hd)⟩
  | @word blanks word rest words hblanks hne hword hends hrest =>
    -- What stands behind the character is the first word or a blank before that.
    cases blanks with
    | nil =>
      exact ⟨(c :: word) :: words, .word (List.forall_mem_nil _) (List.cons_ne_nil c word)
        (List.forall_mem_cons.2 ⟨hc, hword⟩) hends hrest⟩
    | cons b blanks =>
      refine ⟨_, halone fun d hd => ?_⟩
      cases hd
      exact hblanks b List.mem_cons_self

/-- Every text has its words. -/
theorem exists_spaced (text : List Char) : ∃ words, Spaced words text := by
  induction text with
  | nil => exact ⟨[], .blank (List.forall_mem_nil _)⟩
  | cons c text ih =>
    obtain ⟨words, hwords⟩ := ih
    by_cases hc : isBlank c = true
    · exact ⟨words, hwords.cons_blank hc⟩
    · exact hwords.exists_cons (Bool.eq_false_iff.2 hc)

theorem words_cons_blank {c : Char} (hc : isBlank c = true) (text : List Char) :
    words (c :: text) = words text := by
  rw [words, splitAt, if_pos hc, List.filter_cons_of_neg (by simp), words]

theorem words_blanks_append {blanks : List Char} (hblanks : ∀ c ∈ blanks, isBlank c = true)
    (text : List Char) : words (blanks ++ text) = words text := by
  induction blanks with
  | nil => rfl
  | cons c blanks ih =>
    obtain ⟨hc, hrest⟩ := List.forall_mem_cons.1 hblanks
    rw [List.cons_append, words_cons_blank hc, ih hrest]

/-- They are the words that are found in it. -/
theorem Spaced.words_eq {spaced : List (List Char)} {text : List Char} (h : Spaced spaced text) :
    words text = spaced := by
  induction h with
  | @blank blanks hblanks =>
    rw [← List.append_nil blanks, words_blanks_append hblanks]
    rfl
  | @word blanks word rest words hblanks hne hword hends hrest ih =>
    rw [words_blanks_append hblanks]
    cases rest with
    | nil =>
      rw [List.append_nil, words_of_unbroken hne hword, ← ih]
      rfl
    | cons b rest =>
      have hb := hends b rfl
      rw [words_append_blank hne hword hb, ← ih, words_cons_blank hb]

theorem spaced_words (text : List Char) : Spaced (words text) text := by
  obtain ⟨spaced, h⟩ := exists_spaced text
  rwa [h.words_eq]

theorem existsUnique_spaced (text : List Char) : ∃! spaced, Spaced spaced text :=
  ⟨words text, spaced_words text, fun _ h => h.words_eq.symm⟩

/-- Words that are put together with one blank between them are still the same. -/
theorem Spaced.join {words : List (List Char)} {text : List Char} (h : Spaced words text) :
    Spaced words (join [' '] words) := by
  induction h with
  | blank => exact .blank (List.forall_mem_nil _)
  | @word blanks word rest words hblanks hne hword hends hrest ih =>
    cases words with
    | nil =>
      have halone : Spaced [word] ([] ++ (word ++ [])) :=
        .word (List.forall_mem_nil _) hne hword (by simp) ih
      simpa [Text.join] using halone
    | cons next words =>
      -- The blank of the join ends the first word and stands before the others.
      have hbehind := ih.cons_blank (c := ' ') rfl
      have hmore : Spaced (word :: next :: words)
          ([] ++ (word ++ ' ' :: Text.join [' '] (next :: words))) :=
        .word (List.forall_mem_nil _) hne hword (by simp [isBlank]) hbehind
      simpa [Text.join] using hmore

/-- A text with its words one blank apart tells the words, and nothing else. -/
theorem collapse_eq_iff {first second : String} :
    collapse first = collapse second ↔ words first.toList = words second.toList := by
  have hkept : ∀ text : String, words (collapse text).toList = words text.toList := by
    intro text
    rw [collapse, String.toList_ofList]
    exact (spaced_words text.toList).join.words_eq
  constructor
  · intro h
    rw [← hkept first, h, hkept second]
  · intro h
    rw [collapse, collapse, h]

end Text

/-! ## Overloads -/

/-- The text of the parameters. Without a list of parameters it is empty. -/
def Entry.parameterText (entry : Entry) : String :=
  (entry.signature.map Signature.parameters).getD ""

theorem Entry.parameterKey_eq (entry : Entry) :
    entry.parameterKey = Text.collapse entry.parameterText := by
  unfold Entry.parameterKey Entry.parameterText
  cases entry.signature with
  | none => decide
  | some signature => rfl

theorem Entry.key_of_callable {entry : Entry} (h : entry.kind.isCallable = true) :
    entry.key = entry.parent.qualify entry.name ++ "(" ++ entry.parameterKey ++ ")" := by
  unfold Entry.key
  split <;> simp_all [Kind.isCallable]

/-- **What tells overloads apart.** The parameters of each are one list of words with blanks
between them, and no other list, and the keys agree exactly if the lists do. -/
theorem overload_keys_agree_iff {first second : Entry} (hfirst : first.kind.isCallable = true)
    (hsecond : second.kind.isCallable = true) (hparent : first.parent = second.parent)
    (hname : first.name = second.name) :
    (∃! words, Text.Spaced words first.parameterText.toList)
      ∧ (∃! words, Text.Spaced words second.parameterText.toList)
      ∧ ∀ words words', Text.Spaced words first.parameterText.toList →
        Text.Spaced words' second.parameterText.toList →
        (first.key = second.key ↔ words = words') := by
  refine ⟨Text.existsUnique_spaced _, Text.existsUnique_spaced _, ?_⟩
  intro words words' hwords hwords'
  rw [← hwords.words_eq, ← hwords'.words_eq, ← Text.collapse_eq_iff, ← first.parameterKey_eq,
    ← second.parameterKey_eq, Entry.key_of_callable hfirst, Entry.key_of_callable hsecond,
    hparent, hname]
  constructor
  · intro h
    have hchars := congrArg String.toList h
    simp only [String.toList_append] at hchars
    have hopened := List.append_cancel_right hchars
    exact String.toList_inj.1 (List.append_cancel_left hopened)
  · intro h
    rw [h]

/-- A list over two lines and the same list on one line, a list with one word more, and no list
beside one of an ideographic space. -/
theorem overload_keys_agree_iff_of_broken_list :
    let test (line : Nat) (parameters : Option String) : Entry :=
      { kind := .method, name := "Test", startLine := line, parent := { types := ["Program"] }
        signature := parameters.map fun text => { parameters := text, shown := true } }
    let broken := test 1 (some "int a,\n      int b")
    let straight := test 4 (some "int a, int b")
    let longer := test 7 (some "int a, int b = 0")
    broken.key = straight.key ∧ straight.key ≠ longer.key
      ∧ (test 9 none).key = (test 10 (some "\u3000")).key := by
  intro test broken straight longer
  have hagree : ∀ line line' parameters parameters',
      (test line parameters).key = (test line' parameters').key
        ↔ Text.words (parameters.getD "").toList = Text.words (parameters'.getD "").toList := by
    intro line line' parameters parameters'
    have htext : ∀ line parameters, (test line parameters).parameterText = parameters.getD "" := by
      intro line parameters
      cases parameters <;> rfl
    have hkeys := @overload_keys_agree_iff (test line parameters) (test line' parameters')
      rfl rfl rfl rfl
    rw [← htext line, ← htext line']
    exact hkeys.2.2 _ _ (Text.spaced_words _) (Text.spaced_words _)
  refine ⟨(hagree 1 4 _ _).2 ?_, mt (hagree 4 7 _ _).1 ?_, (hagree 9 10 _ _).2 ?_⟩ <;> decide

end SourceOutline

/-
Lower case of a part of a text, and filters that are typed as they stand in a name.

All characters but one are lowered on their own, so a part of a text is lowered there as it
is by itself. The exception is the capital sigma, which looks at its neighbours: it is final
where a word ends (`Text.EndsWord`). A part that agrees with the text about the ends of
words at its sigmas (`Text.SameWordEnds`), as every part without a sigma does, is lowered
alike in both (`Text.lowerFrom_part`).

So a filter that stands in a name is found in it if the two agree
(`part_of_name_passes_filter`). Otherwise it need not be found
(`beginning_of_name_hidden_by_sigma`).
-/
import SourceOutline.Outline.Emission
import SourceOutline.Proofs.Substrings

set_option autoImplicit false

namespace SourceOutline

namespace Text

/-! ## Ends of words -/

/-- Whether a word ends between two texts: a letter stands last in the first one and no
letter first in the second, if what case ignores is passed over. -/
def EndsWord (before after : List Char) : Prop :=
  meetsCased before.reverse = true ∧ meetsCased after = false

instance (before after : List Char) : Decidable (EndsWord before after) :=
  inferInstanceAs (Decidable (_ ∧ _))

/-- Each sigma of a part ends a word in the text around the part if and only if it ends one
in the part by itself. -/
def SameWordEnds (before part after : List Char) : Prop :=
  ∀ i < part.length, part[i]? = some 'Σ' →
    (EndsWord (before ++ part.take i) (part.drop (i + 1) ++ after)
      ↔ EndsWord (part.take i) (part.drop (i + 1)))

instance (before part after : List Char) : Decidable (SameWordEnds before part after) :=
  inferInstanceAs (Decidable (∀ i < part.length, _ → _))

theorem sameWordEnds_of_not_mem {part : List Char} (h : 'Σ' ∉ part) (before after : List Char) :
    SameWordEnds before part after :=
  fun _ _ hsigma => absurd (List.mem_of_getElem? hsigma) h

theorem SameWordEnds.iff_at {before part after : List Char} (h : SameWordEnds before part after)
    {first second : List Char} (hpart : part = first ++ 'Σ' :: second) :
    EndsWord (before ++ first) (second ++ after) ↔ EndsWord first second := by
  subst hpart
  have hat := h first.length (by simp) (by simp)
  rwa [List.take_left, ← List.drop_drop, List.drop_left, List.drop_one, List.tail_cons] at hat

/-! ## Lower case of a part -/

/-- Lower case of one character between two texts, the first of which is reversed. -/
def lowerBetween (before after : List Char) (c : Char) : List Char :=
  if c = 'Σ' then if meetsCased before && !meetsCased after then ['ς'] else ['σ']
  else lowerChar c

theorem lowerFrom_cons (before : List Char) (c : Char) (cs : List Char) :
    lowerFrom before (c :: cs) = lowerBetween before cs c ++ lowerFrom (c :: before) cs := rfl

theorem lowerBetween_of_ne {c : Char} (h : c ≠ 'Σ') (before after : List Char) :
    lowerBetween before after c = lowerChar c :=
  if_neg h

theorem lowerBetween_sigma (before after : List Char) :
    lowerBetween before after 'Σ' = if EndsWord before.reverse after then ['ς'] else ['σ'] := by
  simp only [lowerBetween, if_true, EndsWord, List.reverse_reverse, Bool.and_eq_true,
    Bool.not_eq_true']

/-- What stands first is lowered first. -/
theorem exists_lowerFrom_append (first second before : List Char) :
    ∃ front, lowerFrom before (first ++ second)
      = front ++ lowerFrom (first.reverse ++ before) second := by
  induction first generalizing before with
  | nil => exact ⟨[], rfl⟩
  | cons c cs ih =>
    obtain ⟨front, hfront⟩ := ih (c :: before)
    refine ⟨lowerBetween before (cs ++ second) c ++ front, ?_⟩
    rw [List.cons_append, lowerFrom_cons, hfront, List.append_assoc, List.reverse_cons,
      List.append_assoc, List.singleton_append]

/-- A part that agrees with the text about the ends of words is lowered there as it is by
itself. -/
theorem lowerFrom_part {before part after : List Char} (h : SameWordEnds before part after) :
    lowerFrom before.reverse (part ++ after)
      = lowerChars part ++ lowerFrom (part.reverse ++ before.reverse) after := by
  -- The part is gone through from the left; what lies behind is kept in front of the rest.
  suffices ∀ first rest, part = first ++ rest →
      lowerFrom (first.reverse ++ before.reverse) (rest ++ after)
        = lowerFrom first.reverse rest ++ lowerFrom (part.reverse ++ before.reverse) after by
    simpa only [List.reverse_nil, List.nil_append, lowerChars] using this [] part rfl
  intro first rest hpart
  induction rest generalizing first with
  | nil => simp [hpart, lowerFrom]
  | cons c cs ih =>
    have hhere : lowerBetween (first.reverse ++ before.reverse) (cs ++ after) c
        = lowerBetween first.reverse cs c := by
      by_cases hc : c = 'Σ'
      · subst hc
        rw [lowerBetween_sigma, lowerBetween_sigma, List.reverse_reverse, ← List.reverse_append,
          List.reverse_reverse]
        exact if_congr (h.iff_at hpart) rfl rfl
      · rw [lowerBetween_of_ne hc, lowerBetween_of_ne hc]
    have hrest := ih (first ++ [c]) (by rw [hpart, List.append_assoc, List.singleton_append])
    rw [List.reverse_append, List.reverse_singleton] at hrest
    rw [List.cons_append, lowerFrom_cons, lowerFrom_cons, hhere, List.append_assoc]
    exact congrArg _ hrest

/-- A text holds its own parts, as long as the two agree about the ends of words. -/
theorem holds_of_part {text part : String} {before after : List Char}
    (htext : text.toList = before ++ (part.toList ++ after))
    (h : SameWordEnds before part.toList after) : Holds text part := by
  obtain ⟨front, hfront⟩ := exists_lowerFrom_append before (part.toList ++ after) []
  rw [List.append_nil, lowerFrom_part h] at hfront
  exact ⟨front, _, by rw [List.append_assoc, ← hfront, ← htext, lowerChars]⟩

end Text

/-! ## Filters -/

/-- A filter is in force without the blanks around it, unless there is nothing else. -/
theorem activeFilter_of_ne_nil {filter : String} (h : Text.trim filter.toList ≠ []) :
    activeFilter (some filter) = some (String.ofList (Text.trim filter.toList)) := by
  rw [activeFilter]
  exact if_neg (by simpa using h)

/-- **A filter typed as it stands in a name.** A text passes a filter that occurs in it: any
filter without a sigma, and one with a sigma if each sigma of it ends a word in the text
where it ends one in the filter, and only there. Such a filter hides no leaf of that name
and no container of that title. -/
theorem part_of_name_passes_filter {text filter : String} {before after : List Char}
    (hfilter : Text.trim filter.toList ≠ [])
    (htext : text.toList = before ++ (Text.trim filter.toList ++ after))
    (hends : 'Σ' ∈ Text.trim filter.toList →
      Text.SameWordEnds before (Text.trim filter.toList) after) :
    (∃ part, activeFilter (some filter) = some part ∧ matchesFilter text (some part) = true)
      ∧ (∀ (options : Options) (entry : Entry), options.memberNameFilter = some filter →
        entry.name = text →
        options.showsLeaf entry = { options with memberNameFilter := none }.showsLeaf entry)
      ∧ ∀ (options : Options) (member : Member), options.classNameFilter = some filter →
        member.entry.title = text → options.showsContainer member.entry.kind = true →
        ownMembers? options options.classFilter member = some true := by
  have hactive := activeFilter_of_ne_nil hfilter
  have hpasses : matchesFilter text (some (String.ofList (Text.trim filter.toList))) = true := by
    refine matchesFilter_iff.2 fun part hpart => ?_
    obtain rfl := Option.mem_some_iff.1 hpart
    rw [← String.toList_ofList (l := Text.trim filter.toList)] at htext hends
    refine Text.holds_of_part htext ?_
    by_cases hsigma : 'Σ' ∈ (String.ofList (Text.trim filter.toList)).toList
    · exact hends hsigma
    · exact Text.sameWordEnds_of_not_mem hsigma before after
  refine ⟨⟨_, hactive, hpasses⟩, ?_, ?_⟩
  · intro options entry hoption hname
    have hwithout : matchesFilter text (activeFilter none) = true := rfl
    simp only [Options.showsLeaf, Options.memberFilter, hoption, hactive, hname, hpasses, hwithout]
  · intro options member hoption htitle hshown
    rw [Options.classFilter, hoption, hactive, ownMembers?]
    simp only [hshown, htitle, hpasses, if_true]

/-- A part of a word with two sigmas, one of which ends the word. -/
theorem part_of_name_passes_filter_at_end_of_word :
    matchesFilter "ΒΑΣΗΣ" (activeFilter (some " ΣΗΣ ")) = true := by
  have hfilter : Text.trim " ΣΗΣ ".toList ≠ [] := by decide +kernel
  have htext : "ΒΑΣΗΣ".toList = ['Β', 'Α'] ++ (Text.trim " ΣΗΣ ".toList ++ []) := by
    decide +kernel
  have hends : Text.SameWordEnds ['Β', 'Α'] (Text.trim " ΣΗΣ ".toList) [] := by decide +kernel
  obtain ⟨⟨part, hactive, hpasses⟩, -, -⟩ :=
    part_of_name_passes_filter hfilter htext fun _ => hends
  rw [hactive, hpasses]

/-- **The beginning of a name that does not pass.** The filter is the first three letters of
the name. Its sigma ends a word in the filter and none in the name, so the two sigmas differ
in lower case. -/
theorem beginning_of_name_hidden_by_sigma :
    activeFilter (some "ΒΑΣ") = some "ΒΑΣ" ∧ "ΒΑΣ".toList <+: "ΒΑΣΗ".toList
      ∧ matchesFilter "ΒΑΣΗ" (activeFilter (some "ΒΑΣ")) = false := by
  decide +kernel

end SourceOutline

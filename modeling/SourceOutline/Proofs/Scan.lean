/-
The markers of a text close each other.

Whatever a text holds, stray closing markers and regions that are never closed
included, what the scan gives is in order: the markers come by line, each closing
one is the partner of the region opened last, and nothing is open at the end. This
is `Closes`, one rule for each marker, with the line reached and the open brackets
as its state; the rules are followed both by the scan that makes the markers and by
the splicing that takes them up.
-/
import SourceOutline.Proofs.Brackets
import SourceOutline.Region.Marker

set_option autoImplicit false

namespace SourceOutline

/-! ## Markers in order -/

/-- Whether an entry is a region marker. -/
def Entry.isMark (entry : Entry) : Bool := entry.kind == .region

/-- A member that is a marker, with nothing below it. -/
def Member.IsMark (member : Member) : Prop :=
  member.entry.isMark = true ∧ member.children = []

/-- The bracket that a marker is before it has a place. -/
def Member.bracket (member : Member) : Bracket :=
  ⟨member.entry.region, member.entry.name, member.entry.parent⟩

/-- Markers that come by line, none before the line reached, and close one after the
other what is open and what they open themselves. -/
inductive Closes : Nat → List Bracket → List Member → Prop where
  | done {line : Nat} : Closes line [] []
  | mark {line : Nat} {stack left : List Bracket} {marker : Member} {rest : List Member}
      (hmark : marker.IsMark) (hline : line ≤ marker.startLine)
      (hstep : Bracket.step stack marker.bracket = some left)
      (hrest : Closes marker.startLine left rest) : Closes line stack (marker :: rest)

theorem Closes.of_le {line line' : Nat} {stack : List Bracket} {markers : List Member}
    (h : Closes line stack markers) (hle : line' ≤ line) : Closes line' stack markers := by
  cases h with
  | done => exact .done
  | mark hmark hline hstep hrest => exact .mark hmark (hle.trans hline) hstep hrest

/-! ## The scan -/

/-- The numbers of lines go up, from the first one on. -/
theorem Text.pairwise_numbered {α : Type} (start : Nat) (l : List α) :
    (Text.numbered start l).Pairwise (fun first second => first.1 < second.1)
      ∧ ∀ line ∈ Text.numbered start l, start ≤ line.1 := by
  induction l generalizing start with
  | nil => exact ⟨.nil, List.forall_mem_nil _⟩
  | cons a l ih =>
    obtain ⟨hordered, hfrom⟩ := ih (start + 1)
    have hlater : ∀ line ∈ Text.numbered (start + 1) l, start ≤ line.1 :=
      fun line hline => Nat.le_of_succ_le (hfrom line hline)
    exact ⟨List.pairwise_cons.2 ⟨hfrom, hordered⟩,
      List.forall_mem_cons.2 ⟨Nat.le_refl start, hlater⟩⟩

/-- A line is paired with its position. -/
theorem Text.mem_numbered {α : Type} {start k : Nat} {a : α} {l : List α} :
    (k, a) ∈ Text.numbered start l ↔ start ≤ k ∧ l[k - start]? = some a := by
  induction l generalizing start with
  | nil => simp [Text.numbered]
  | cons first rest ih =>
    rw [Text.numbered, List.mem_cons, ih, Prod.mk.injEq]
    by_cases hfirst : k = start
    · subst hfirst
      have hpast : ¬k + 1 ≤ k := by omega
      simp [hpast, eq_comm]
    · constructor
      · rintro (⟨rfl, -⟩ | ⟨hle, hat⟩)
        · exact absurd rfl hfirst
        · refine ⟨by omega, ?_⟩
          rwa [show k - start = k - (start + 1) + 1 by omega, List.getElem?_cons_succ]
      · rintro ⟨hle, hat⟩
        rw [show k - start = k - (start + 1) + 1 by omega, List.getElem?_cons_succ] at hat
        exact .inr ⟨by omega, hat⟩

/-- The brackets of open regions, the innermost first. The depth of a region is the
number of those around it. -/
def openBrackets : List String → List Bracket
  | [] => []
  | name :: outer => ⟨some ⟨.start, name, outer.length⟩, name, {}⟩ :: openBrackets outer

theorem Member.isMark_ofMarker (marker : Marker) (line column : Nat) :
    (Member.ofMarker marker line column).IsMark :=
  ⟨rfl, rfl⟩

namespace MarkerStyle

/-- A marker for the region opened last takes its bracket off. -/
theorem step_stop (name : String) (outer : List String) (line column : Nat) :
    Bracket.step (openBrackets (name :: outer))
        (Member.ofMarker ⟨.stop, name, outer.length⟩ line column).bracket
      = some (openBrackets outer) := by
  rw [openBrackets]
  exact Bracket.step_partner rfl _

/-- At the end of the text every open region is closed on the line reached. -/
theorem closes_closeAll (line : Nat) (opened : List String) :
    Closes line (openBrackets opened) (closeAll line opened) := by
  induction opened with
  | nil => exact .done
  | cons name outer ih =>
    rw [closeAll]
    exact .mark (Member.isMark_ofMarker _ _ _) (Nat.le_refl line) (step_stop name outer line 0) ih

/-- **The scan of numbered lines.** -/
theorem closes_scanLines (style : MarkerStyle) (opened : List String) {last start : Nat}
    (hstart : last ≤ start) (lines : List (List Char)) :
    Closes last (openBrackets opened)
      (style.scanLines opened last (Text.numbered start lines)) := by
  induction lines generalizing opened last start with
  | nil => exact closes_closeAll last opened
  | cons line lines ih =>
    rw [Text.numbered]
    have hnext : ∀ opened, Closes start (openBrackets opened)
        (style.scanLines opened start (Text.numbered (start + 1) lines)) :=
      fun opened => ih opened (Nat.le_succ start)
    unfold scanLines
    split
    · exact (hnext opened).of_le hstart
    · refine .mark (Member.isMark_ofMarker _ _ _) hstart (Bracket.step_open rfl _) ?_
      exact hnext (_ :: opened)
    · -- A closing marker without an open region is dropped.
      split
      · exact (hnext []).of_le hstart
      · rename_i name outer
        exact .mark (Member.isMark_ofMarker _ _ _) hstart (step_stop name outer start _)
          (hnext outer)

theorem exists_ofMarker_of_mem_closeAll {last : Nat} {opened : List String} {marker : Member}
    (h : marker ∈ closeAll last opened) :
    ∃ name depth, marker = .ofMarker ⟨.stop, name, depth⟩ last 0 := by
  induction opened with
  | nil => cases h
  | cons name outer ih =>
    rcases List.mem_cons.1 h with rfl | h
    · exact ⟨name, outer.length, rfl⟩
    · exact ih h

/-- What a scan finds are markers as they are made. -/
theorem exists_ofMarker_of_mem_scanLines {style : MarkerStyle} {opened : List String}
    {number : Nat} {lines : List (Nat × List Char)} :
    ∀ marker ∈ style.scanLines opened number lines,
      ∃ mark line column, marker = .ofMarker mark line column := by
  induction lines generalizing opened number with
  | nil =>
    intro marker hmarker
    obtain ⟨name, depth, rfl⟩ := exists_ofMarker_of_mem_closeAll hmarker
    exact ⟨_, number, 0, rfl⟩
  | cons line rest ih =>
    unfold scanLines
    split
    · exact ih
    · exact List.forall_mem_cons.2 ⟨⟨_, _, _, rfl⟩, ih⟩
    · split
      · exact ih
      · exact List.forall_mem_cons.2 ⟨⟨_, _, _, rfl⟩, ih⟩

theorem drop_numbered {α : Type} (start count : Nat) (l : List α) :
    (Text.numbered start l).drop count = Text.numbered (start + count) (l.drop count) := by
  induction l generalizing start count with
  | nil => simp [Text.numbered]
  | cons a l ih =>
    cases count with
    | zero => rfl
    | succ count =>
      rw [Text.numbered, List.drop_succ_cons, ih, List.drop_succ_cons]
      congr 1
      omega

/-- **The markers of a text close each other**, from whichever line it is read. -/
theorem closes_scan (style : MarkerStyle) (source : String) (fromLine : Nat) :
    Closes fromLine [] (style.scan source fromLine) := by
  rw [scan, drop_numbered]
  exact closes_scanLines style [] (Nat.le_add_left fromLine 0) _

end MarkerStyle

end SourceOutline

/-
Two forests built from declarations that agree.

A forest is put together by names: a container is found by its name, supplied if there is none,
and a member goes to the newest container of its qualifiers. What else is known of an entry is
carried along, and its first line is looked at once more by the sort at the end. So two lists of
declarations of the same names and kinds give forests of one shape, and if their entries agree up
to what `f` and `f'` leave out of them, so do the forests (`structured_mapEntries`).
-/
import SourceOutline.LineScan.Structure
import SourceOutline.Proofs.Forest

set_option autoImplicit false

namespace SourceOutline

/-- Forests that agree up to changes that keep which of two begins first agree once they are
sorted. -/
theorem Forest.sortByLine_mapEntries {f f' : Entry → Entry} (hf : KeepsOrder f)
    (hf' : KeepsOrder f') {forest forest' : Forest}
    (h : forest'.mapEntries f' = forest.mapEntries f) :
    forest'.sortByLine.mapEntries f' = forest.sortByLine.mapEntries f := by
  simp only [Forest.mapEntries_eq_map] at h ⊢
  rw [← hf'.sortByLine_map, h, hf.sortByLine_map]

namespace LineScan

/-! ## Containers -/

/-- A container under construction with every entry changed. -/
def Container.mapEntries (f : Entry → Entry) (container : Container) : Container where
  name := container.name
  entry := f container.entry
  members := Forest.mapEntries f container.members

/-- A forest under construction with every entry changed. -/
def Parts.mapEntries (f : Entry → Entry) (parts : Parts) : Parts where
  containers := parts.containers.map (Container.mapEntries f)
  loose := Forest.mapEntries f parts.loose

/-- Declarations that come to the same entry, and to the same entry of what is supplied for them,
as far as `f` and `f'` look at it. -/
structure Alike (f f' : Entry → Entry) (blocks blocks' : List Block) (found found' : Found) :
    Prop where
  name : found'.name = found.name
  kind : found'.declaration.kind = found.declaration.kind
  entry : f' (found'.entry blocks') = f (found.entry blocks)
  supplied : ∀ name outer, f' (supplied blocks' found'.line name outer).entry
    = f (supplied blocks found.line name outer).entry

section Alike

variable {f f' : Entry → Entry} {blocks blocks' : List Block}

theorem Container.member_mapEntries (f : Entry → Entry) (container : Container) :
    (container.mapEntries f).member = container.member.mapEntries f := by
  unfold Container.member Member.mapEntries
  simp only [Container.mapEntries, Forest.mapEntries_eq_map, List.map_reverse]

theorem hasContainer_congr {containers containers' : List Container}
    (h : containers'.map (Container.mapEntries f') = containers.map (Container.mapEntries f))
    (name : QualifiedName) : hasContainer containers' name = hasContainer containers name := by
  have hnames : ∀ (g : Entry → Entry) (containers : List Container),
      hasContainer (containers.map (Container.mapEntries g)) name
        = hasContainer containers name := by
    intro g containers
    rw [hasContainer, List.any_map]
    rfl
  rw [← hnames f', h, hnames f]

theorem supply_mapEntries {found found' : Found} (halike : Alike f f' blocks blocks' found found')
    {containers containers' : List Container}
    (h : containers'.map (Container.mapEntries f') = containers.map (Container.mapEntries f))
    (segments : List String) :
    (supply blocks' found'.line containers' segments).map (Container.mapEntries f')
      = (supply blocks found.line containers segments).map (Container.mapEntries f) := by
  induction segments with
  | nil => exact h
  | cons name outer ih =>
    unfold supply
    rw [hasContainer_congr h]
    split
    · exact h
    · rw [List.map_cons, ih, List.map_cons]
      congr 1
      -- Neither has members yet, so only the entries are to be compared.
      unfold Container.mapEntries
      rw [halike.supplied]
      rfl

theorem addMember_mapEntries {member member' : Member}
    (hmember : member'.mapEntries f' = member.mapEntries f) (name : QualifiedName)
    {containers containers' : List Container}
    (h : containers'.map (Container.mapEntries f') = containers.map (Container.mapEntries f)) :
    (addMember name member' containers').map (Container.mapEntries f')
      = (addMember name member containers).map (Container.mapEntries f) := by
  induction containers generalizing containers' with
  | nil =>
    rw [List.map_nil, List.map_eq_nil_iff] at h
    rw [h]
    rfl
  | cons container rest ih =>
    rw [List.map_cons, List.map_eq_cons_iff] at h
    obtain ⟨container', rest', rfl, hcontainer, hrest⟩ := h
    have hname : (container'.mapEntries f').name = (container.mapEntries f).name := by
      rw [hcontainer]
    dsimp only [Container.mapEntries] at hname
    unfold addMember
    rw [hname]
    split
    · have hmembers := congrArg Container.members hcontainer
      have hentry := congrArg Container.entry hcontainer
      dsimp only [Container.mapEntries] at hmembers hentry
      simp only [List.map_cons, hrest, Container.mapEntries, Forest.mapEntries, hmember,
        hmembers, hentry]
    · rw [List.map_cons, hcontainer, ih hrest, List.map_cons]

/-! ## Declarations one after the other -/

/-- **One declaration.** -/
theorem Parts.add_mapEntries {found found' : Found}
    (halike : Alike f f' blocks blocks' found found') {parts parts' : Parts}
    (h : parts'.mapEntries f' = parts.mapEntries f) :
    (parts'.add blocks' found').mapEntries f' = (parts.add blocks found).mapEntries f := by
  have hcontainers := congrArg Parts.containers h
  have hloose := congrArg Parts.loose h
  dsimp only [Parts.mapEntries] at hcontainers hloose
  have hsupply := supply_mapEntries halike hcontainers found.name.dropLast.reverse
  have hkind : (found'.entry blocks').kind = (found.entry blocks).kind := halike.kind
  have hleaf : (Member.leaf (found'.entry blocks')).mapEntries f'
      = (Member.leaf (found.entry blocks)).mapEntries f := by
    unfold Member.leaf Member.mapEntries
    rw [halike.entry]
    rfl
  unfold Parts.add
  simp only [halike.name, hkind]
  split
  · simp only [Parts.mapEntries, List.map_cons, hsupply, hloose, Container.mapEntries,
      halike.entry, Forest.mapEntries]
  · split
    · simp only [Parts.mapEntries, hsupply, Forest.mapEntries, hloose, hleaf]
    · simp only [Parts.mapEntries, addMember_mapEntries hleaf _ hsupply, hloose]

/-- **All declarations.** -/
theorem Parts.addAll_mapEntries {found found' : List Found}
    (halike : List.Forall₂ (Alike f f' blocks blocks') found found') {parts parts' : Parts}
    (h : parts'.mapEntries f' = parts.mapEntries f) :
    (found'.foldl (Parts.add blocks') parts').mapEntries f'
      = (found.foldl (Parts.add blocks) parts).mapEntries f := by
  induction halike generalizing parts parts' with
  | nil => exact h
  | cons hfirst _ ih => exact ih (Parts.add_mapEntries hfirst h)

/-- **The forests of declarations that agree.** -/
theorem structured_mapEntries (hf : KeepsOrder f) (hf' : KeepsOrder f')
    {found found' : List Found} (halike : List.Forall₂ (Alike f f' blocks blocks') found found') :
    (structured blocks' found').mapEntries f' = (structured blocks found).mapEntries f := by
  have hempty : Parts.mapEntries f' {} = Parts.mapEntries f {} := rfl
  have hparts := Parts.addAll_mapEntries halike hempty
  have hcontainers := congrArg Parts.containers hparts
  have hloose := congrArg Parts.loose hparts
  unfold structured
  apply Forest.sortByLine_mapEntries hf hf'
  generalize found.foldl (Parts.add blocks) {} = parts at hcontainers hloose
  generalize found'.foldl (Parts.add blocks') {} = parts' at hcontainers hloose
  dsimp only [Parts.mapEntries] at hcontainers hloose
  -- The members of the containers are those the containers come to once they are changed.
  have hmembers : ∀ (g : Entry → Entry) (containers : List Container),
      (containers.map Container.member).map (Member.mapEntries g)
        = (containers.map (Container.mapEntries g)).map Container.member := by
    intro g containers
    rw [List.map_map, List.map_map]
    apply List.map_congr_left
    intro container _
    exact (container.member_mapEntries g).symm
  simp only [Forest.mapEntries_eq_map] at hloose ⊢
  simp only [List.map_append, List.map_reverse, hmembers, hcontainers, hloose]

end Alike

end LineScan

end SourceOutline

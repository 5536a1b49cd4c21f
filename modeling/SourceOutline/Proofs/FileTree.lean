/-
A file that was saved can be read, and no other file is touched.

Writing a file changes the node at one place, and that place is no directory
before or after the write (`FileTree.put`, `node?_put_of_ne`). Every place that a path
leads through is a directory or a link. So every path means the same place afterwards
(`locate_put_iff`), and the new content is at the end of its own. Nothing is assumed
about the path: it may be relative, go up and down again, follow links, or need
directories that are made first. Nor is anything assumed about other paths: if they do
not lead to the file that was written, they lead where they led (`find_write_iff`).

Links are no obstacle to knowing a file: whatever links a path follows, the segments of
the place that it means lead there without any (`walk_zero_of_locate`).
-/
import SourceOutline.FileTree

set_option autoImplicit false

namespace SourceOutline.FileTree

/-! ## One node -/

theorem lookup_filter_of_ne {place other : List String} (h : other ≠ place)
    (nodes : List (List String × FileNode)) :
    (nodes.filter fun entry => entry.1 != place).lookup other = nodes.lookup other := by
  induction nodes with
  | nil => rfl
  | cons first rest ih =>
    obtain ⟨key, node⟩ := first
    by_cases hkey : key = place
    · have hother : (other == key) = false := beq_false_of_ne (fun heq => h (heq.trans hkey))
      rw [List.filter_cons_of_neg (by simp [hkey]), List.lookup_cons, hother, ih]
    · rw [List.filter_cons_of_pos (by simp [hkey]), List.lookup_cons, List.lookup_cons, ih]

/-- Other places hold what they held. -/
theorem node?_put_of_ne (tree : FileTree) {place other : List String} (h : other ≠ place)
    (node : FileNode) : (tree.put place node).node? other = tree.node? other := by
  have hother : (other == place) = false := beq_false_of_ne h
  rw [node?, node?, put]
  dsimp only
  rw [List.lookup_cons, hother, lookup_filter_of_ne h]

/-- A place that is no directory holds what is put there. -/
theorem node?_put_self {tree : FileTree} {place : List String}
    (h : tree.node? place ≠ some .directory) (node : FileNode) :
    (tree.put place node).node? place = some node := by
  have hhome : ¬(FilePath.under? place (FilePath.segments tree.home)).isSome = true := by
    intro hunder
    exact h (by rw [node?, if_pos hunder])
  rw [node?, put]
  dsimp only
  rw [if_neg hhome, List.lookup_cons, beq_self_eq_true]

/-- No directory is made or lost. -/
theorem node?_put_eq_directory_iff {tree : FileTree} {place : List String}
    (h : tree.node? place ≠ some .directory) {node : FileNode} (hnode : node ≠ .directory)
    (other : List String) :
    (tree.put place node).node? other = some .directory
      ↔ tree.node? other = some .directory := by
  by_cases hother : other = place
  · subst hother
    rw [node?_put_self h, Option.some.injEq]
    exact iff_of_false hnode h
  · rw [node?_put_of_ne tree hother]

/-! ## Along a path -/

section Walks

variable {tree : FileTree} {place start finish : List String} {node : FileNode}

section Steps

variable {follow follow' : List String → List String → Except FileError (List String)}

theorem walkWith_of_link {target : String} (hlink : tree.link? start = some target)
    (segments : List String) :
    tree.walkWith follow start segments
      = follow (linkBase start target) (linkSegments target ++ segments) := by
  unfold walkWith
  rw [hlink]

/-- One step of a walk that arrives: it starts in a directory. -/
theorem walkWith_cons_eq_ok_iff (hlink : tree.link? start = none) {segment : String}
    {rest : List String} :
    tree.walkWith follow start (segment :: rest) = .ok finish
      ↔ tree.node? start = some .directory ∧ ¬maxSegment < segment.utf8ByteSize
        ∧ tree.walkWith follow (along start segment) rest = .ok finish := by
  rw [walkWith, hlink]
  dsimp only
  split
  · rename_i hdirectory
    by_cases hlength : maxSegment < segment.utf8ByteSize
    · simp [hlength]
    · simp [hlength, hdirectory]
  · rename_i other hother hnode
    have hne : other ≠ .directory := hother
    simp [hnode, hne]
  · rename_i hnone
    simp [hnone]

/-- A walk goes through directories and links, so a node that is neither is not on its way,
nor was what it replaces. -/
theorem walkWith_put_iff (h : tree.node? place ≠ some .directory) (hnode : node ≠ .directory)
    (hfollow : ∀ start segments,
      follow' start segments = .ok finish ↔ follow start segments = .ok finish)
    {segments : List String} :
    (tree.put place node).walkWith follow' start segments = .ok finish
      ↔ tree.walkWith follow start segments = .ok finish := by
  induction segments generalizing start with
  | nil =>
    have hlinks : (tree.put place node).link? start = tree.link? start := rfl
    rw [walkWith, walkWith, hlinks]
    cases tree.link? start with
    | some target => exact hfollow _ _
    | none => exact Iff.rfl
  | cons segment rest ih =>
    have hlinks : (tree.put place node).link? start = tree.link? start := rfl
    cases hlink : tree.link? start with
    | some target =>
      rw [walkWith_of_link (hlinks.trans hlink), walkWith_of_link hlink]
      exact hfollow _ _
    | none =>
      rw [walkWith_cons_eq_ok_iff (hlinks.trans hlink), walkWith_cons_eq_ok_iff hlink,
        node?_put_eq_directory_iff h hnode, ih]

end Steps

/-- By induction on the number of links that may be followed. -/
theorem walk_put_iff (h : tree.node? place ≠ some .directory) (hnode : node ≠ .directory)
    {links : Nat} {segments : List String} :
    (tree.put place node).walk links start segments = .ok finish
      ↔ tree.walk links start segments = .ok finish := by
  induction links generalizing start segments with
  | zero => exact walkWith_put_iff h hnode fun _ _ => Iff.rfl
  | succ links ih => exact walkWith_put_iff h hnode fun _ _ => ih

theorem locate_eq_ok_iff {path : String} :
    tree.locate path = .ok finish
      ↔ ∃ segments, tree.route path = .ok segments
        ∧ tree.walk maxLinks [] segments = .ok finish := by
  rw [locate]
  -- The number of links is large, and nothing is to be unfolded that often.
  generalize tree.walk maxLinks [] = arrive
  cases tree.route path with
  | error error => exact ⟨nofun, nofun⟩
  | ok segments => simp [bind, Except.bind]

/-- **Every path means the place that it meant** before a file was written. -/
theorem locate_put_iff (h : tree.node? place ≠ some .directory) (hnode : node ≠ .directory)
    {path : String} :
    (tree.put place node).locate path = .ok finish ↔ tree.locate path = .ok finish := by
  have hroute : (tree.put place node).route path = tree.route path := rfl
  rw [locate_eq_ok_iff, locate_eq_ok_iff, hroute]
  exact exists_congr fun segments => and_congr_right fun _ => walk_put_iff h hnode

/-! ## Without links -/

/-- A place that its own segments lead to, each from a directory, with no link before the
last. -/
def Straight (tree : FileTree) (place : List String) : Prop :=
  ∀ before segment, before ++ [segment] <+: place →
    tree.link? before = none ∧ tree.node? before = some .directory
      ∧ ¬maxSegment < segment.utf8ByteSize ∧ along before segment = before ++ [segment]

theorem straight_nil : tree.Straight [] := by
  intro before segment hinit
  simp at hinit

theorem Straight.dropLast (h : tree.Straight place) : tree.Straight place.dropLast :=
  fun before segment hinit => h before segment (hinit.trans (List.dropLast_prefix place))

theorem Straight.linkBase (h : tree.Straight place) (target : String) :
    tree.Straight (linkBase place target) := by
  rw [FileTree.linkBase]
  split
  · exact straight_nil
  · exact h.dropLast

/-- One step keeps to such places. -/
theorem Straight.along (h : tree.Straight place) (hlink : tree.link? place = none)
    (hnode : tree.node? place = some .directory) {segment : String}
    (hlength : ¬maxSegment < segment.utf8ByteSize) : tree.Straight (along place segment) := by
  by_cases hdot : segment = "."
  · rwa [FileTree.along, if_pos (beq_iff_eq.2 hdot)]
  by_cases hup : segment = ".."
  · rw [FileTree.along, if_neg (by simp [hdot]), if_pos (beq_iff_eq.2 hup)]
    exact h.dropLast
  have halong : FileTree.along place segment = place ++ [segment] := by
    simp [FileTree.along, hdot, hup]
  rw [halong]
  intro before last hinit
  rcases List.prefix_concat_iff.1 hinit with heq | hinit
  · obtain ⟨rfl, hlast⟩ := List.append_inj' heq rfl
    cases hlast
    exact ⟨hlink, hnode, hlength, halong⟩
  · exact h before last hinit

/-- A walk along the segments of such a place follows no link. -/
theorem Straight.walkWith (h : tree.Straight place) (hlink : tree.link? place = none)
    {follow : List String → List String → Except FileError (List String)} :
    tree.walkWith follow [] place = .ok place := by
  suffices hrest : ∀ rest start, start ++ rest = place →
      tree.walkWith follow start rest = .ok place from hrest place [] rfl
  intro rest
  induction rest with
  | nil =>
    intro start hplace
    rw [List.append_nil] at hplace
    rw [FileTree.walkWith, hplace, hlink]
  | cons segment rest ih =>
    intro start hplace
    have hinit : start ++ [segment] <+: place := ⟨rest, by simp [← hplace]⟩
    obtain ⟨hstart, hnode, hlength, halong⟩ := h start segment hinit
    refine (walkWith_cons_eq_ok_iff hstart).2 ⟨hnode, hlength, ?_⟩
    rw [halong]
    exact ih (start ++ [segment]) (by simp [hplace])

/-- A walk that starts at such a place arrives at one, if what comes of a link does. -/
theorem straight_of_walkWith
    {follow : List String → List String → Except FileError (List String)}
    (hfollow : ∀ start segments, tree.Straight start → follow start segments = .ok finish →
      tree.Straight finish ∧ tree.link? finish = none)
    {segments : List String} (hstart : tree.Straight start)
    (h : tree.walkWith follow start segments = .ok finish) :
    tree.Straight finish ∧ tree.link? finish = none := by
  have hlinked {start segments : List String} {target : String} (hstart : tree.Straight start)
      (hlink : tree.link? start = some target)
      (h : tree.walkWith follow start segments = .ok finish) :
      tree.Straight finish ∧ tree.link? finish = none := by
    rw [walkWith_of_link hlink] at h
    exact hfollow _ _ (hstart.linkBase target) h
  induction segments generalizing start with
  | nil =>
    cases hlink : tree.link? start with
    | some target => exact hlinked hstart hlink h
    | none =>
      rw [FileTree.walkWith, hlink] at h
      cases h
      exact ⟨hstart, hlink⟩
  | cons segment rest ih =>
    cases hlink : tree.link? start with
    | some target => exact hlinked hstart hlink h
    | none =>
      obtain ⟨hnode, hlength, hwalk⟩ := (walkWith_cons_eq_ok_iff hlink).1 h
      exact ih (hstart.along hlink hnode hlength) hwalk

theorem straight_of_walk {links : Nat} {segments : List String} (hstart : tree.Straight start)
    (h : tree.walk links start segments = .ok finish) :
    tree.Straight finish ∧ tree.link? finish = none := by
  induction links generalizing start segments with
  | zero =>
    refine straight_of_walkWith (fun _ _ _ hfollow => ?_) hstart h
    cases hfollow
  | succ links ih => exact straight_of_walkWith (fun _ _ hstraight => ih hstraight) hstart h

/-- **What a path means is known by a path without links**: the segments of the place lead to
it, and no link has to be followed. -/
theorem walk_zero_of_locate {path : String} (h : tree.locate path = .ok finish) :
    tree.walk 0 [] finish = .ok finish := by
  obtain ⟨segments, -, hwalk⟩ := locate_eq_ok_iff.1 h
  obtain ⟨hstraight, hlink⟩ := straight_of_walk straight_nil hwalk
  exact hstraight.walkWith hlink

end Walks

/-! ## Writing and reading -/

/-- What a write does if it succeeds. -/
theorem writeNode_eq_ok {tree after : FileTree} {path : String} {node : FileNode}
    (h : tree.writeNode path node = .ok after) :
    ∃ place, tree.locate path = .ok place ∧ tree.node? place ≠ some .directory
      ∧ wantsDirectory path = false ∧ after = tree.put place node := by
  rw [writeNode] at h
  cases hlocate : tree.locate path with
  | error error =>
    rw [hlocate] at h
    cases h
  | ok place =>
    rw [hlocate] at h
    refine ⟨place, rfl, ?_⟩
    dsimp only [bind, Except.bind] at h
    split at h
    · cases h
    · rename_i other hdirectory hnode
      split at h
      · cases h
      · rename_i hwants
        cases h
        refine ⟨?_, Bool.eq_false_iff.2 hwants, rfl⟩
        rw [hnode]
        rintro ⟨⟩
        exact hdirectory rfl
    · rename_i hnode
      split at h
      · cases h
      · rename_i hwants
        split at h
        · cases h
          refine ⟨?_, Bool.eq_false_iff.2 hwants, rfl⟩
          rw [hnode]
          rintro ⟨⟩
        · cases h
        · cases h

/-- **A written file is found.** -/
theorem find_writeNode {tree after : FileTree} {path : String} {node : FileNode}
    (hnode : node ≠ .directory) (h : tree.writeNode path node = .ok after) :
    after.find path = .ok node := by
  obtain ⟨place, hlocate, hplace, hwants, rfl⟩ := writeNode_eq_ok h
  rw [find, (locate_put_iff hplace hnode).2 hlocate]
  dsimp only [bind, Except.bind]
  rw [node?_put_self hplace, hwants]
  rfl

/-- **A saved text is found**, whatever directories had to be made for it. -/
theorem find_save {tree after : FileTree} {path content : String}
    (h : tree.save path (.text content) = .ok after) :
    after.find path = .ok (.text content) := by
  rw [save] at h
  cases hroute : tree.route path with
  | error error =>
    rw [hroute] at h
    cases h
  | ok segments =>
    rw [hroute] at h
    dsimp only [bind, Except.bind] at h
    cases hpath : tree.makePath [] segments.dropLast with
    | error error =>
      rw [hpath] at h
      cases h
    | ok made =>
      rw [hpath] at h
      exact find_writeNode FileNode.noConfusion h

/-! ## Writing elsewhere -/

theorem find_eq_ok_iff {tree : FileTree} {path : String} {found : FileNode} :
    tree.find path = .ok found
      ↔ ∃ place, tree.locate path = .ok place ∧ tree.node? place = some found
        ∧ (wantsDirectory path = true → found = .directory) := by
  rw [find]
  cases tree.locate path with
  | error error => simp [bind, Except.bind]
  | ok place =>
    dsimp only [bind, Except.bind]
    cases hnode : tree.node? place with
    | none => simp [hnode]
    | some node =>
      cases hwants : wantsDirectory path with
      | false => simp [hnode]
      | true =>
        by_cases hdirectory : node = .directory
        · subst hdirectory
          simp only [bne_self_eq_false, Bool.and_false, Bool.false_eq_true, if_false,
            Except.ok.injEq, forall_const, exists_eq_left', hnode, Option.some.injEq]
          exact ⟨fun h => ⟨h, h.symm⟩, And.left⟩
        · have hne : (node != .directory) = true := bne_iff_ne.2 hdirectory
          simp only [hne, Bool.and_self, if_true, reduceCtorEq, Except.ok.injEq, forall_const,
            exists_eq_left', hnode, Option.some.injEq, false_iff]
          rintro ⟨rfl, hfound⟩
          exact hdirectory hfound

/-- **A file that is written elsewhere** makes no difference to what a path leads to. A path
that can only mean a directory never means a file. -/
theorem find_put_iff {tree : FileTree} {place : List String}
    (h : tree.node? place ≠ some .directory) {node : FileNode} (hnode : node ≠ .directory)
    {path : String} (hother : tree.locate path = .ok place → wantsDirectory path = true)
    {found : FileNode} :
    (tree.put place node).find path = .ok found ↔ tree.find path = .ok found := by
  rw [find_eq_ok_iff, find_eq_ok_iff]
  refine exists_congr fun finish => ?_
  rw [locate_put_iff h hnode]
  refine and_congr_right fun hlocate => ?_
  by_cases hplace : finish = place
  · -- Only a directory would do, and there is none at this place, before or after.
    subst hplace
    have hwants := hother hlocate
    rw [node?_put_self h]
    constructor
    · rintro ⟨hfound, hdirectory⟩
      exact absurd ((Option.some.inj hfound).trans (hdirectory hwants)) hnode
    · rintro ⟨hfound, hdirectory⟩
      rw [hdirectory hwants] at hfound
      exact absurd hfound h
  · rw [node?_put_of_ne tree hplace]

/-- What is found decides what is there and what is read. -/
theorem read_congr {tree tree' : FileTree} {path : String}
    (h : ∀ found, tree'.find path = .ok found ↔ tree.find path = .ok found) :
    tree'.exists? path = tree.exists? path
      ∧ (tree.exists? path = true → tree'.read path = tree.read path) := by
  cases hfind : tree.find path with
  | ok found =>
    have hfind' := (h found).2 hfind
    constructor
    · rw [exists?, exists?, hfind, hfind']
    · intro _
      rw [read, read, hfind, hfind']
  | error error =>
    have hnone : tree.exists? path = false := by rw [exists?, hfind]
    refine ⟨?_, fun hexists => absurd hexists (by rw [hnone]; decide)⟩
    rw [hnone, exists?]
    cases hfind' : tree'.find path with
    | ok found =>
      rw [(h found).1 hfind'] at hfind
      cases hfind
    | error error => rfl

/-- Two paths that do not lead to the same thing after one of them is written. -/
theorem find_write_iff {tree after : FileTree} {path content other : String}
    (hwrite : tree.write path content = .ok after)
    (hapart : after.canonical? path ≠ after.canonical? other) {found : FileNode} :
    after.find other = .ok found ↔ tree.find other = .ok found := by
  have hfound := find_writeNode FileNode.noConfusion hwrite
  obtain ⟨place, hlocate, hplace, -, rfl⟩ := writeNode_eq_ok hwrite
  have hput {path' : String} : tree.locate path' = .ok place →
      (tree.put place (.text content)).locate path' = .ok place :=
    (locate_put_iff hplace FileNode.noConfusion).2
  refine find_put_iff hplace FileNode.noConfusion fun hother => ?_
  -- At the same place, the other path would be the name of the same file.
  refine Classical.byContradiction fun hwants => hapart ?_
  have hthere : (tree.put place (.text content)).find other = .ok (.text content) :=
    find_eq_ok_iff.2 ⟨place, hput hother, node?_put_self hplace _, fun h => absurd h hwants⟩
  rw [canonical?, canonical?, hput hlocate, hput hother, exists?, exists?, hfound, hthere]

end SourceOutline.FileTree

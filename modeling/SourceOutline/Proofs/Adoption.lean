/-
Who takes whom in when a forest is nested.

A container is found by its child path, and several containers may have the same one: a
class that is declared in parts, or twice. So it has to be said which of them takes what.
The answer is short. All containers with one child path have one ancestry, so they are
outermost together or wait for the same owner, and either way they come to adopt in the
order of the listing. The first of them takes everything that has its child path as an
ancestry and leaves nothing for the others: `Forest.owner?`.

What is moved is said by `Forest.links`, the pairs of a member and a child of it. A pool has
links inside its members, and links that are due, one for each member. Adoption turns links
that are due into links that are there and changes no other (`Forest.account`). In the end
none is due, for the pool is empty: the containers outside every other one claim theirs, each
of the rest has an owner with a shorter ancestry, and so by induction on its length every
path is claimed (`Cleared`, `Forest.claimed_of_mem_owners`).

Main statements: `nest_moves_containers_to_owners`, and that the line spans of containers play
no part in it, `enclosed_container_joins_first_namesake`.
-/
import Mathlib.Data.List.Perm.Basic
import Mathlib.Data.Nat.Init
import SourceOutline.Proofs.Listing

set_option autoImplicit false

namespace SourceOutline

open scoped List

/-! ## Owners and the pool -/

/-- Whether a path is the ancestry of a member. -/
def Member.standsIn (path : Ancestry) (member : Member) : Bool := member.entry.parent == path

theorem Member.standsIn_iff {path : Ancestry} {member : Member} :
    member.standsIn path = true ↔ member.entry.parent = path :=
  beq_iff_eq

/-- Whether a member is a container with a given child path. -/
def Member.owns (path : Ancestry) (member : Member) : Bool :=
  member.isContainer && member.entry.childPath == path

theorem Member.owns_iff {path : Ancestry} {member : Member} :
    member.owns path = true ↔ member.isContainer = true ∧ member.entry.childPath = path := by
  rw [Member.owns, Bool.and_eq_true, beq_iff_eq]

/-- The first container with a given child path. -/
def Forest.owner? (forest : Forest) (path : Ancestry) : Option Member :=
  forest.find? (Member.owns path)

/-- Whether a member waits for an owner: it is a container, and there is one whose child path
is its ancestry. -/
def Forest.waits (forest : Forest) (member : Member) : Bool :=
  member.isContainer && forest.owners.contains member.entry.parent

theorem Forest.waits_iff {forest : Forest} {member : Member} :
    forest.waits member = true
      ↔ member.isContainer = true ∧ member.entry.parent ∈ forest.owners := by
  rw [Forest.waits, Bool.and_eq_true, List.contains_iff_mem]

/-- The containers that wait for an owner. -/
def Forest.pool (forest : Forest) : Forest := forest.filter forest.waits

/-- The members that stay where they are. -/
def Forest.outermost (forest : Forest) : Forest := forest.filter (not ∘ forest.waits)

theorem Forest.mem_pool {forest : Forest} {member : Member} :
    member ∈ forest.pool
      ↔ member ∈ forest ∧ member.isContainer = true ∧ member.entry.parent ∈ forest.owners := by
  rw [Forest.pool, List.mem_filter, Forest.waits_iff]

theorem Forest.mem_outermost {forest : Forest} {member : Member} :
    member ∈ forest.outermost
      ↔ member ∈ forest
        ∧ ¬(member.isContainer = true ∧ member.entry.parent ∈ forest.owners) := by
  rw [Forest.outermost, List.mem_filter, Function.comp_apply, Bool.not_eq_true',
    Bool.eq_false_iff, Ne, Forest.waits_iff]

/-- Nesting to a given depth: the outermost members with what they take in, and what is left
of the pool. -/
def Forest.adoptedTo (forest : Forest) (depth : Nat) : Forest × Forest :=
  adoptEach (adopt depth) forest.outermost forest.pool

theorem Forest.nest_eq (forest : Forest) :
    forest.nest
      = Forest.sortByLine ((forest.adoptedTo (forest.pool.length + 1)).1
        ++ (forest.adoptedTo (forest.pool.length + 1)).2) := by
  rw [Forest.nest]
  dsimp only
  rw [List.partition_eq_filter_filter]
  rfl

/-! ## One adoption -/

theorem adopt_of_plain {parent : Member} (h : parent.isContainer = false) (depth : Nat)
    (pool : Forest) : adopt depth parent pool = (parent, pool) := by
  cases depth with
  | zero => rfl
  | succ depth => rw [adopt, h, if_neg (by simp)]

/-- What a container does. The case of an empty pool is no different from that of a pool
without members of the container. -/
theorem adopt_of_container {parent : Member} (h : parent.isContainer = true) (depth : Nat)
    (pool : Forest) :
    adopt (depth + 1) parent pool
      = if (pool.filter (Member.standsIn parent.entry.childPath)).isEmpty then
          (parent, pool.filter (not ∘ Member.standsIn parent.entry.childPath))
        else
          let adopted := adoptEach (adopt depth)
            (pool.filter (Member.standsIn parent.entry.childPath))
            (pool.filter (not ∘ Member.standsIn parent.entry.childPath))
          (.node parent.entry (Forest.sortByLine (parent.children ++ adopted.1)), adopted.2) := by
  rw [adopt, h]
  cases pool with
  | nil => rfl
  | cons first rest =>
    rw [if_pos (by rfl)]
    dsimp only
    rw [List.partition_eq_filter_filter]
    rfl

theorem exists_mem_of_map_entry {before after : Forest}
    (h : after.map Member.entry = before.map Member.entry) {member : Member}
    (hmember : member ∈ after) : ∃ old ∈ before, old.entry = member.entry := by
  have hentry := List.mem_map_of_mem (f := Member.entry) hmember
  rw [h] at hentry
  exact List.mem_map.1 hentry

/-! ## What is left of the pool -/

/-- What is left of a pool once some paths are claimed. -/
structure Cleared (claimed : Ancestry → Prop) (pool rest : Forest) : Prop where
  left : ∀ member, member ∈ rest ↔ member ∈ pool ∧ ¬claimed member.entry.parent
  closed : ∀ member ∈ pool, claimed member.entry.parent → claimed member.entry.childPath
  shorter : rest.length ≤ pool.length

theorem Cleared.none (pool : Forest) : Cleared (fun _ => False) pool pool :=
  ⟨fun _ => by simp, fun _ _ => False.elim, Nat.le_refl _⟩

/-- One claim after the other. -/
theorem Cleared.trans {claimed claimed' : Ancestry → Prop} {pool rest rest' : Forest}
    (h : Cleared claimed pool rest) (h' : Cleared claimed' rest rest') :
    Cleared (fun path => claimed path ∨ claimed' path) pool rest' := by
  refine ⟨fun member => ?_, fun member hmember hclaimed => ?_, Nat.le_trans h'.shorter h.shorter⟩
  · rw [h'.left, h.left, not_or, and_assoc]
  · by_cases hfirst : claimed member.entry.parent
    · exact .inl (h.closed member hmember hfirst)
    · refine .inr (h'.closed member ((h.left member).2 ⟨hmember, hfirst⟩) ?_)
      exact hclaimed.resolve_left hfirst

/-- The claim of one path, followed by those of the containers that have it as an
ancestry. -/
theorem Cleared.claim {claimed : Ancestry → Prop} {pool rest : Forest} {path : Ancestry}
    (h : Cleared claimed (pool.filter (not ∘ Member.standsIn path)) rest)
    (hmine : ∀ member ∈ pool, member.entry.parent = path → claimed member.entry.childPath) :
    Cleared (fun other => other = path ∨ claimed other) pool rest := by
  have hkept : ∀ member, member ∈ pool.filter (not ∘ Member.standsIn path)
      ↔ member ∈ pool ∧ ¬member.entry.parent = path := by
    intro member
    simp [List.mem_filter, Member.standsIn]
  refine ⟨fun member => ?_, fun member hmember hclaimed => ?_,
    Nat.le_trans h.shorter (List.length_filter_le _ _)⟩
  · rw [h.left, hkept, not_or, and_assoc]
  · by_cases hpath : member.entry.parent = path
    · exact .inr (hmine member hmember hpath)
    · exact .inr (h.closed member ((hkept member).2 ⟨hmember, hpath⟩)
        (hclaimed.resolve_left hpath))

section Keeping

variable {P : Member → Prop}

/-- Containers that wait for their owner, with something that is true of each. -/
def Forest.Pending (P : Member → Prop) (pool : Forest) : Prop :=
  ∀ member ∈ pool, P member ∧ member.isContainer = true

theorem Cleared.pending {claimed : Ancestry → Prop} {pool rest : Forest}
    (h : Cleared claimed pool rest) (hpool : pool.Pending P) : rest.Pending P :=
  fun member hmember => hpool member ((h.left member).1 hmember).1

/-- What an adoption does with a pool of less than a given length: the adopter is the same
and keeps what is true of all, and its own path is claimed. -/
def AdoptsKeeping (P : Member → Prop) (bound : Nat)
    (adopt : Member → Forest → Member × Forest) : Prop :=
  ∀ parent pool, pool.length < bound → P parent → pool.Pending P →
    (adopt parent pool).1.entry = parent.entry ∧ P (adopt parent pool).1
      ∧ ∃ claimed, Cleared claimed pool (adopt parent pool).2
        ∧ (parent.isContainer = true → claimed parent.entry.childPath)

/-- If one adoption does it, so does one after the other. -/
theorem adoptEach_keeping {bound : Nat} {adopt : Member → Forest → Member × Forest}
    (hadopt : AdoptsKeeping P bound adopt) (forest pool : Forest) (hbound : pool.length < bound)
    (hforest : ∀ member ∈ forest, P member) (hpool : pool.Pending P) :
    (adoptEach adopt forest pool).1.map Member.entry = forest.map Member.entry
      ∧ (∀ member ∈ (adoptEach adopt forest pool).1, P member)
      ∧ ∃ claimed, Cleared claimed pool (adoptEach adopt forest pool).2
        ∧ ∀ member ∈ forest, member.isContainer = true → claimed member.entry.childPath := by
  induction forest generalizing pool with
  | nil => exact ⟨rfl, hforest, _, Cleared.none pool, List.forall_mem_nil _⟩
  | cons member rest ih =>
    obtain ⟨hmember, hrest⟩ := List.forall_mem_cons.1 hforest
    obtain ⟨hentry, hkept, claimed, hcleared, hown⟩ := hadopt member pool hbound hmember hpool
    obtain ⟨hentries, hothers, claimed', hcleared', howns⟩ := ih (adopt member pool).2
      (Nat.lt_of_le_of_lt hcleared.shorter hbound) hrest (hcleared.pending hpool)
    rw [adoptEach]
    dsimp only
    refine ⟨?_, List.forall_mem_cons.2 ⟨hkept, hothers⟩, _, hcleared.trans hcleared', ?_⟩
    · rw [List.map_cons, hentry, hentries, List.map_cons]
    · exact List.forall_mem_cons.2 ⟨fun hcontainer => .inl (hown hcontainer),
        fun other hother hcontainer => .inr (howns other hother hcontainer)⟩

/-- What a container keeps when it takes in containers of its own. -/
def KeepsJoining (P : Member → Prop) : Prop :=
  ∀ parent others, P parent → parent.isContainer = true →
    (∀ other ∈ others, P other ∧ other.isContainer = true
      ∧ other.entry.parent = parent.entry.childPath) →
    P (.node parent.entry (Forest.sortByLine (parent.children ++ others)))

/-- **One adoption.** Where it takes something, the pool gets shorter, and so the bound on
the depth is never reached. -/
theorem adopt_keeping (hjoin : KeepsJoining P) (depth : Nat) :
    AdoptsKeeping P depth (adopt depth) := by
  induction depth with
  | zero => exact fun parent pool hbound => absurd hbound (Nat.not_lt_zero _)
  | succ depth ih =>
    intro parent pool hbound hparent hpool
    by_cases hcontainer : parent.isContainer = true
    · have hmine : ∀ member, member ∈ pool.filter (Member.standsIn parent.entry.childPath)
          ↔ member ∈ pool ∧ member.entry.parent = parent.entry.childPath := by
        intro member
        rw [List.mem_filter, Member.standsIn_iff]
      rw [adopt_of_container hcontainer]
      split
      · -- Nothing waits for this container, so claiming its path takes nothing.
        rename_i hempty
        refine ⟨rfl, hparent, _, (Cleared.none _).claim ?_, fun _ => .inl rfl⟩
        intro member hmember hpath
        have hmem := (hmine member).2 ⟨hmember, hpath⟩
        rw [List.isEmpty_iff.1 hempty] at hmem
        cases hmem
      · -- It takes at least one member out of the pool, so the rest is within the bound of
        -- the induction hypothesis.
        rename_i hsome
        have hpositive := List.length_pos_iff.2 fun hnil => hsome (List.isEmpty_iff.2 hnil)
        have hlength : pool.length
            = (pool.filter (Member.standsIn parent.entry.childPath)).length
              + (pool.filter (not ∘ Member.standsIn parent.entry.childPath)).length :=
          List.length_eq_length_filter_add _
        obtain ⟨hentries, hothers, claimed, hcleared, howns⟩ := adoptEach_keeping ih
          (pool.filter (Member.standsIn parent.entry.childPath))
          (pool.filter (not ∘ Member.standsIn parent.entry.childPath))
          (by omega) (fun member hmember => (hpool member ((hmine member).1 hmember).1).1)
          (fun member hmember => hpool member (List.mem_filter.1 hmember).1)
        refine ⟨rfl, hjoin parent _ hparent hcontainer ?_, _, hcleared.claim ?_, fun _ => .inl rfl⟩
        · intro other hother
          obtain ⟨member, hmember, heq⟩ := exists_mem_of_map_entry hentries hother
          obtain ⟨hwaiting, hpath⟩ := (hmine member).1 hmember
          rw [Member.isContainer, ← heq]
          exact ⟨hothers other hother, (hpool member hwaiting).2, hpath⟩
        · intro member hmember hpath
          exact howns member ((hmine member).2 ⟨hmember, hpath⟩) (hpool member hmember).2
    · rw [adopt_of_plain (Bool.eq_false_iff.2 hcontainer)]
      exact ⟨rfl, hparent, _, Cleared.none pool, fun h => absurd h hcontainer⟩

/-- Paths that are claimed from the outermost containers on down are all claimed: the owner
of a container has a shorter ancestry. -/
theorem Forest.claimed_of_mem_owners {forest : Forest} {claimed : Ancestry → Prop}
    (houtermost : ∀ member ∈ forest, member.isContainer = true →
      member.entry.parent ∉ forest.owners → claimed member.entry.childPath)
    (hclosed : ∀ member ∈ forest, member.isContainer = true →
      member.entry.parent ∈ forest.owners → claimed member.entry.parent →
      claimed member.entry.childPath)
    {path : Ancestry} (h : path ∈ forest.owners) : claimed path := by
  induction hlength : path.types.length using Nat.strongRecOn generalizing path with
  | ind length ih =>
    obtain ⟨member, hmember, hcontainer, rfl⟩ := Forest.mem_owners.1 h
    by_cases howned : member.entry.parent ∈ forest.owners
    · refine hclosed member hmember hcontainer howned (ih _ ?_ howned rfl)
      rw [← hlength]
      simp [Entry.childPath, Ancestry.child]
    · exact houtermost member hmember hcontainer howned

/-- **Nothing is left behind.** To any sufficient depth, the outermost members stay what they
are and keep what containers keep when they take others in, and the pool is empty. -/
theorem Forest.adoptedTo_keeping (hjoin : KeepsJoining P) (forest : Forest)
    (h : ∀ member ∈ forest, P member) {depth : Nat} (hdepth : forest.pool.length < depth) :
    (forest.adoptedTo depth).2 = []
      ∧ (forest.adoptedTo depth).1.map Member.entry = forest.outermost.map Member.entry
      ∧ ∀ member ∈ (forest.adoptedTo depth).1, P member := by
  obtain ⟨hentries, hkept, claimed, hcleared, howns⟩ := adoptEach_keeping
    (adopt_keeping hjoin depth) forest.outermost forest.pool hdepth
    (fun member hmember => h member (Forest.mem_outermost.1 hmember).1)
    (fun member hmember => ⟨h member (Forest.mem_pool.1 hmember).1,
      (Forest.mem_pool.1 hmember).2.1⟩)
  refine ⟨List.eq_nil_iff_forall_not_mem.2 fun member hmember => ?_, hentries, hkept⟩
  -- A container that is left would have an owner, and the paths of all owners are claimed.
  obtain ⟨hwaiting, hnot⟩ := (hcleared.left member).1 hmember
  refine hnot (Forest.claimed_of_mem_owners ?_ ?_ (Forest.mem_pool.1 hwaiting).2.2)
  · intro owner howner hcontainer houter
    exact howns owner (Forest.mem_outermost.2 ⟨howner, fun hin => houter hin.2⟩) hcontainer
  · intro owner howner hcontainer hinner
    exact hcleared.closed owner (Forest.mem_pool.2 ⟨howner, hcontainer, hinner⟩)

/-- So nesting keeps of all members what containers keep when they take others in. -/
theorem Forest.nest_keeping (hjoin : KeepsJoining P) {forest : Forest}
    (h : ∀ member ∈ forest, P member) :
    ∃ roots : Forest, forest.nest = roots.sortByLine
      ∧ roots.map Member.entry = forest.outermost.map Member.entry
      ∧ ∀ member ∈ roots, P member := by
  obtain ⟨hempty, hentries, hkept⟩ :=
    Forest.adoptedTo_keeping hjoin forest h (Nat.lt_succ_self forest.pool.length)
  refine ⟨_, ?_, hentries, hkept⟩
  rw [Forest.nest_eq, hempty, List.append_nil]

end Keeping

/-! ## The depth

The recursion needs no bound: a pool that is taken from gets shorter, so one that goes deeper
than the pool is long finds nothing more to do. -/

/-- Anything at all is kept. -/
theorem keepsJoining_true : KeepsJoining fun _ => True := fun _ _ _ _ _ => trivial

/-- If two adoptions agree on short pools, so do they one after the other. -/
theorem adoptEach_congr {bound : Nat} {adopt adopt' : Member → Forest → Member × Forest}
    (hadopt : AdoptsKeeping (fun _ => True) bound adopt)
    (heq : ∀ parent pool, pool.length < bound → pool.Pending (fun _ => True) →
      adopt' parent pool = adopt parent pool)
    (forest pool : Forest) (hbound : pool.length < bound) (hpool : pool.Pending fun _ => True) :
    adoptEach adopt' forest pool = adoptEach adopt forest pool := by
  induction forest generalizing pool with
  | nil => rfl
  | cons member rest ih =>
    obtain ⟨-, -, claimed, hcleared, -⟩ := hadopt member pool hbound trivial hpool
    rw [adoptEach, adoptEach, heq member pool hbound hpool]
    dsimp only
    rw [ih _ (Nat.lt_of_le_of_lt hcleared.shorter hbound) (hcleared.pending hpool)]

theorem adopt_succ (depth : Nat) (parent : Member) (pool : Forest) (hbound : pool.length < depth)
    (hpool : pool.Pending fun _ => True) :
    adopt (depth + 1) parent pool = adopt depth parent pool := by
  induction depth generalizing parent pool with
  | zero => exact absurd hbound (Nat.not_lt_zero _)
  | succ depth ih =>
    by_cases hcontainer : parent.isContainer = true
    · rw [adopt_of_container hcontainer, adopt_of_container hcontainer]
      split
      · rfl
      · rename_i hsome
        have hpositive := List.length_pos_iff.2 fun hnil => hsome (List.isEmpty_iff.2 hnil)
        have hlength : pool.length
            = (pool.filter (Member.standsIn parent.entry.childPath)).length
              + (pool.filter (not ∘ Member.standsIn parent.entry.childPath)).length :=
          List.length_eq_length_filter_add _
        rw [adoptEach_congr (adopt_keeping keepsJoining_true depth) ih _ _ (by omega)
          fun member hmember => hpool member (List.mem_filter.1 hmember).1]
    · rw [adopt_of_plain (Bool.eq_false_iff.2 hcontainer),
        adopt_of_plain (Bool.eq_false_iff.2 hcontainer)]

/-- **Every sufficient depth gives the same.** -/
theorem Forest.adoptedTo_eq (forest : Forest) {depth : Nat} (hdepth : forest.pool.length < depth) :
    forest.adoptedTo depth = forest.adoptedTo (forest.pool.length + 1) := by
  have hpool : forest.pool.Pending fun _ => True :=
    fun member hmember => ⟨trivial, (Forest.mem_pool.1 hmember).2.1⟩
  induction depth, hdepth using Nat.le_induction with
  | base => rfl
  | succ depth hdepth ih =>
    rw [← ih]
    exact adoptEach_congr (adopt_keeping keepsJoining_true depth)
      (fun parent pool => adopt_succ depth parent pool) _ _ hdepth hpool

/-! ## Links -/

mutual

/-- The pairs of a member and a child of it, from a member on down. -/
def Member.links : Member → List (Entry × Entry)
  | .node entry children =>
    children.map (fun child => (entry, child.entry)) ++ Forest.links children

/-- The pairs of a member and a child of it in a forest. -/
def Forest.links : Forest → List (Entry × Entry)
  | [] => []
  | member :: rest => member.links ++ Forest.links rest

end

theorem Forest.links_eq_flatMap (forest : Forest) : forest.links = forest.flatMap Member.links := by
  induction forest with
  | nil => rfl
  | cons member rest ih => rw [Forest.links, ih, List.flatMap_cons]

theorem Forest.links_append (first second : Forest) :
    Forest.links (first ++ second) = first.links ++ second.links := by
  simp only [Forest.links_eq_flatMap, List.flatMap_append]

theorem Forest.links_perm {first second : Forest} (h : first ~ second) :
    first.links ~ second.links := by
  simp only [Forest.links_eq_flatMap]
  exact h.flatMap_right _

theorem Forest.links_filter (p : Member → Bool) (forest : Forest) :
    Forest.links (forest.filter p) ++ Forest.links (forest.filter (not ∘ p)) ~ forest.links := by
  rw [← Forest.links_append]
  exact Forest.links_perm (List.filter_append_perm p forest)

/-- What a container has more when it takes others in. -/
theorem Member.links_join (parent : Member) (others : Forest) :
    (Member.node parent.entry (Forest.sortByLine (parent.children ++ others))).links
      ~ parent.links
        ++ (others.map (fun other => (parent.entry, other.entry)) ++ others.links) := by
  have hsort := Forest.sortByLine_perm (parent.children ++ others)
  cases parent with
  | node entry children =>
    rw [Member.links, Member.links]
    refine ((hsort.map _).append (Forest.links_perm hsort)).trans ?_
    dsimp only [Member.entry, Member.children]
    rw [List.map_append, Forest.links_append]
    simp only [List.perm_iff_count, List.count_append]
    intro link
    omega

/-- The links that are still to be made for the members of a pool. -/
def Forest.due (forest pool : Forest) : List (Entry × Entry) :=
  pool.filterMap fun member =>
    (forest.owner? member.entry.parent).map fun owner => (owner.entry, member.entry)

/-- The links of a pool: those inside its members, and those that are due. -/
def Forest.account (forest pool : Forest) : List (Entry × Entry) :=
  pool.links ++ forest.due pool

/-! ## Who comes first -/

/-- A pool that has, for each path, all containers of a forest with that ancestry or none. -/
def Forest.Entire (forest pool : Forest) : Prop :=
  ∀ path, pool.filter (Member.standsIn path) = []
    ∨ pool.filter (Member.standsIn path)
      = forest.filter fun member => member.isContainer && member.standsIn path

/-- Members of which the first with a child path that is waited for is the owner of that
path. -/
def Forest.Leads (forest pool members : Forest) : Prop :=
  ∀ waiting ∈ pool, ∀ first, members.find? (Member.owns waiting.entry.parent) = some first →
    forest.owner? waiting.entry.parent = some first

/-- Containers with one child path have one ancestry. -/
theorem Member.parent_eq_of_owns {path : Ancestry} {first second : Member}
    (hfirst : first.owns path = true) (hsecond : second.owns path = true) :
    first.entry.parent = second.entry.parent :=
  (Ancestry.child_inj.1
    ((Member.owns_iff.1 hfirst).2.trans (Member.owns_iff.1 hsecond).2.symm)).1

/-- If a part of a forest has all containers with a child path, the first of them is in it. -/
theorem Forest.owner?_of_filter {forest : Forest} {p : Member → Bool} {path : Ancestry}
    (hp : ∀ member ∈ forest, member.owns path = true → p member = true) :
    (forest.filter p).find? (Member.owns path) = forest.owner? path := by
  rw [List.find?_filter, Forest.owner?]
  induction forest with
  | nil => rfl
  | cons member rest ih =>
    obtain ⟨hmember, hrest⟩ := List.forall_mem_cons.1 hp
    rw [List.find?_cons, List.find?_cons, ih hrest]
    by_cases howns : member.owns path = true
    · simp [howns, hmember howns]
    · simp [howns]

theorem Forest.Entire.filter_not {forest pool : Forest} (h : forest.Entire pool)
    (path : Ancestry) : forest.Entire (pool.filter (not ∘ Member.standsIn path)) := by
  intro other
  rw [List.filter_filter]
  by_cases hpath : other = path
  · left
    rw [List.filter_eq_nil_iff]
    intro member _
    simp [hpath]
  · have hsame : pool.filter (fun member =>
        member.standsIn other && (not ∘ Member.standsIn path) member)
        = pool.filter (Member.standsIn other) := by
      refine List.filter_congr fun member _ => ?_
      by_cases hstands : member.standsIn other = true
      · have hnot : ¬member.standsIn path = true := fun hin =>
          hpath ((Member.standsIn_iff.1 hstands).symm.trans (Member.standsIn_iff.1 hin))
        simp [hstands, hnot]
      · simp [hstands]
    rw [hsame]
    exact h other

/-- The members of a pool with one ancestry are led by the owners of what waits for them. -/
theorem Forest.Entire.leads {forest pool : Forest} (h : forest.Entire pool) (path : Ancestry)
    (rest : Forest) : forest.Leads rest (pool.filter (Member.standsIn path)) := by
  intro waiting hwaiting first hfirst
  have hmem := List.mem_of_find?_eq_some hfirst
  rcases h path with hnone | hall
  · rw [hnone] at hmem
    cases hmem
  · have howns := List.find?_some hfirst
    rw [hall] at hfirst
    rw [← hfirst, Forest.owner?_of_filter]
    -- Whoever else has the child path of the first has its ancestry as well.
    intro member hmember howns'
    rw [Bool.and_eq_true, Member.standsIn_iff, Member.parent_eq_of_owns howns' howns]
    exact ⟨(Member.owns_iff.1 howns').1, Member.standsIn_iff.1 (List.mem_filter.1 hmem).2⟩

theorem Forest.leads_outermost (forest pool : Forest) : forest.Leads pool forest.outermost := by
  intro waiting hwaiting first hfirst
  have houter := (Forest.mem_outermost.1 (List.mem_of_find?_eq_some hfirst)).2
  have howns := List.find?_some hfirst
  rw [← hfirst, Forest.outermost, Forest.owner?_of_filter]
  intro member hmember howns'
  rw [Function.comp_apply, Bool.not_eq_true', Bool.eq_false_iff, Ne, Forest.waits_iff,
    Member.parent_eq_of_owns howns' howns]
  exact fun hwaits => houter ⟨(Member.owns_iff.1 howns).1, hwaits.2⟩

theorem Forest.entire_pool (forest : Forest) : forest.Entire forest.pool := by
  intro path
  rw [Forest.pool, List.filter_filter]
  by_cases hpath : path ∈ forest.owners
  · right
    refine List.filter_congr fun member _ => ?_
    by_cases hstands : member.standsIn path = true
    · rw [Forest.waits, Member.standsIn_iff.1 hstands, List.contains_iff_mem.2 hpath, hstands,
        Bool.true_and]
    · rw [Bool.eq_false_iff.2 hstands, Bool.false_and, Bool.and_false]
  · left
    rw [List.filter_eq_nil_iff]
    intro member _ hboth
    rw [Bool.and_eq_true, Member.standsIn_iff, Forest.waits_iff] at hboth
    exact hpath (hboth.1 ▸ hboth.2.2)

/-! ## What adoption does to links -/

/-- An adoption that makes the links that are due, for pools of less than a given length. -/
def AdoptsDue (forest : Forest) (bound : Nat) (adopt : Member → Forest → Member × Forest) : Prop :=
  ∀ parent pool, pool.length < bound → pool.Pending (fun _ => True) → forest.Entire pool →
    forest.Leads pool [parent] →
    forest.Entire (adopt parent pool).2
      ∧ (adopt parent pool).1.links ++ forest.account (adopt parent pool).2
        ~ parent.links ++ forest.account pool

/-- If one adoption does, so does one after the other: the first of the members takes what
waits for it, and then the first with another child path is still the first. -/
theorem adoptEach_due {forest : Forest} {bound : Nat}
    {adopt : Member → Forest → Member × Forest}
    (hkeeps : AdoptsKeeping (fun _ => True) bound adopt) (hadopt : AdoptsDue forest bound adopt)
    (members pool : Forest) (hbound : pool.length < bound) (hpool : pool.Pending fun _ => True)
    (hentire : forest.Entire pool) (hleads : forest.Leads pool members) :
    forest.Entire (adoptEach adopt members pool).2
      ∧ (adoptEach adopt members pool).1.links ++ forest.account (adoptEach adopt members pool).2
        ~ members.links ++ forest.account pool := by
  induction members generalizing pool with
  | nil => exact ⟨hentire, .refl _⟩
  | cons member rest ih =>
    obtain ⟨-, -, claimed, hcleared, hown⟩ := hkeeps member pool hbound trivial hpool
    have hmember : forest.Leads pool [member] := by
      intro waiting hwaiting first hfirst
      refine hleads waiting hwaiting first ?_
      rw [List.find?_cons] at hfirst ⊢
      split at hfirst
      · exact hfirst
      · cases hfirst
    obtain ⟨hentire', hlinks⟩ := hadopt member pool hbound hpool hentire hmember
    have hrest : forest.Leads (adopt member pool).2 rest := by
      intro waiting hwaiting first hfirst
      obtain ⟨hwaiting', hnot⟩ := (hcleared.left waiting).1 hwaiting
      refine hleads waiting hwaiting' first ?_
      -- What still waits does not wait for the member that has adopted.
      have hother : member.owns waiting.entry.parent = false := by
        refine Bool.eq_false_iff.2 fun howns => hnot ?_
        obtain ⟨hcontainer, hpath⟩ := Member.owns_iff.1 howns
        exact hpath ▸ hown hcontainer
      rw [List.find?_cons, hother]
      exact hfirst
    obtain ⟨hentire'', hlinks'⟩ := ih (adopt member pool).2
      (Nat.lt_of_le_of_lt hcleared.shorter hbound) (hcleared.pending hpool) hentire' hrest
    rw [adoptEach]
    dsimp only
    refine ⟨hentire'', ?_⟩
    rw [Forest.links, Forest.links]
    simp only [List.perm_iff_count, List.count_append] at hlinks hlinks' ⊢
    intro link
    have hone := hlinks link
    have hothers := hlinks' link
    omega

/-- The account of a pool is that of its two parts. -/
theorem Forest.account_filter (forest pool : Forest) (p : Member → Bool) :
    forest.account (pool.filter p) ++ forest.account (pool.filter (not ∘ p))
      ~ forest.account pool := by
  have hlinks := Forest.links_filter p pool
  have hdue : forest.due (pool.filter p) ++ forest.due (pool.filter (not ∘ p))
      ~ forest.due pool := by
    rw [Forest.due, Forest.due, ← List.filterMap_append]
    exact (List.filter_append_perm p pool).filterMap _
  simp only [Forest.account, List.perm_iff_count, List.count_append] at hlinks hdue ⊢
  intro link
  have hin := hlinks link
  have hto := hdue link
  omega

/-- What is due for the members of a container that leads them are links to it. -/
theorem Forest.Leads.due_eq {forest pool : Forest} {parent : Member}
    (h : forest.Leads pool [parent]) (hcontainer : parent.isContainer = true) :
    forest.due (pool.filter (Member.standsIn parent.entry.childPath))
      = (pool.filter (Member.standsIn parent.entry.childPath)).map
          fun member => (parent.entry, member.entry) := by
  rw [Forest.due, ← List.filterMap_eq_map]
  refine List.filterMap_congr fun member hmember => ?_
  obtain ⟨hmem, hstands⟩ := List.mem_filter.1 hmember
  have howns : parent.owns member.entry.parent = true :=
    Member.owns_iff.2 ⟨hcontainer, (Member.standsIn_iff.1 hstands).symm⟩
  rw [h member hmem parent (by rw [List.find?_cons, howns])]
  rfl

/-- **One adoption** makes the links that are due for what it takes. -/
theorem adopt_due (forest : Forest) (depth : Nat) : AdoptsDue forest depth (adopt depth) := by
  induction depth with
  | zero => exact fun parent pool hbound => absurd hbound (Nat.not_lt_zero _)
  | succ depth ih =>
    intro parent pool hbound hpool hentire hleads
    by_cases hcontainer : parent.isContainer = true
    · have hsplit := forest.account_filter pool (Member.standsIn parent.entry.childPath)
      rw [adopt_of_container hcontainer]
      split
      · rename_i hempty
        rw [List.isEmpty_iff.1 hempty] at hsplit
        exact ⟨hentire.filter_not _, hsplit.append_left _⟩
      · rename_i hsome
        have hpositive := List.length_pos_iff.2 fun hnil => hsome (List.isEmpty_iff.2 hnil)
        have hlength : pool.length
            = (pool.filter (Member.standsIn parent.entry.childPath)).length
              + (pool.filter (not ∘ Member.standsIn parent.entry.childPath)).length :=
          List.length_eq_length_filter_add _
        have hkeeps := adopt_keeping keepsJoining_true depth
        have hrest : Forest.Pending (fun _ => True)
            (pool.filter (not ∘ Member.standsIn parent.entry.childPath)) :=
          fun member hmember => hpool member (List.mem_filter.1 hmember).1
        obtain ⟨hentries, -, -⟩ := adoptEach_keeping hkeeps
          (pool.filter (Member.standsIn parent.entry.childPath)) _ (by omega)
          (fun _ _ => trivial) hrest
        obtain ⟨hentire', hlinks⟩ := adoptEach_due hkeeps ih
          (pool.filter (Member.standsIn parent.entry.childPath)) _ (by omega) hrest
          (hentire.filter_not _) (hentire.leads _ _)
        refine ⟨hentire', ?_⟩
        -- The new links of the container are those to the members as they were in the pool,
        -- and these are the ones that were due.
        have hjoin := Member.links_join parent (adoptEach (adopt depth)
          (pool.filter (Member.standsIn parent.entry.childPath))
          (pool.filter (not ∘ Member.standsIn parent.entry.childPath))).1
        have hnew : ∀ members : Forest, members.map (fun member => (parent.entry, member.entry))
            = (members.map Member.entry).map (Prod.mk parent.entry) := by
          intro members
          rw [List.map_map]
          rfl
        rw [hnew, hentries, ← hnew, ← hleads.due_eq hcontainer] at hjoin
        simp only [Forest.account, List.perm_iff_count, List.count_append]
          at hsplit hlinks hjoin ⊢
        intro link
        have hparts := hsplit link
        have hbelow := hlinks link
        have hwhole := hjoin link
        omega
    · rw [adopt_of_plain (Bool.eq_false_iff.2 hcontainer)]
      exact ⟨hentire, .refl _⟩

/-- **The links of a nested forest** are those there were, and one from the first container
with the right child path to each container that waited. -/
theorem Forest.links_nest (forest : Forest) :
    forest.nest.links ~ forest.links ++ forest.due forest.pool := by
  have hpool : forest.pool.Pending fun _ => True :=
    fun member hmember => ⟨trivial, (Forest.mem_pool.1 hmember).2.1⟩
  obtain ⟨hempty, -, -⟩ := Forest.adoptedTo_keeping keepsJoining_true forest
    (fun _ _ => trivial) (Nat.lt_succ_self forest.pool.length)
  obtain ⟨-, hlinks⟩ := adoptEach_due (adopt_keeping keepsJoining_true (forest.pool.length + 1))
    (adopt_due forest _) forest.outermost forest.pool (Nat.lt_succ_self _) hpool
    forest.entire_pool (forest.leads_outermost _)
  have hparts : forest.pool.links ++ forest.outermost.links ~ forest.links :=
    Forest.links_filter forest.waits forest
  rw [Forest.nest_eq]
  refine (Forest.links_perm (Forest.sortByLine_perm _)).trans ?_
  rw [hempty, List.append_nil]
  rw [Forest.adoptedTo] at hempty ⊢
  rw [hempty] at hlinks
  simp only [Forest.account, Forest.due, Forest.links, List.filterMap_nil, List.append_nil,
    List.perm_iff_count, List.count_append] at hlinks hparts ⊢
  intro link
  have hmade := hlinks link
  have hwhole := hparts link
  omega

/-! ## Owners of what was moved -/

theorem Forest.owner?_eq_some {forest : Forest} {path : Ancestry} {owner : Member}
    (h : forest.owner? path = some owner) :
    owner ∈ forest ∧ owner.isContainer = true ∧ owner.entry.childPath = path :=
  ⟨List.mem_of_find?_eq_some h, Member.owns_iff.1 (List.find?_some h)⟩

theorem Forest.exists_owner? {forest : Forest} {path : Ancestry} (h : path ∈ forest.owners) :
    ∃ owner, forest.owner? path = some owner := by
  obtain ⟨member, hmember, howns⟩ := Forest.mem_owners.1 h
  exact Option.isSome_iff_exists.1
    (List.find?_isSome.2 ⟨member, hmember, Member.owns_iff.2 howns⟩)

/-- The owner a member waits for, if it waits for one. -/
def Forest.ownerOf (forest : Forest) (member : Member) : Member :=
  (forest.owner? member.entry.parent).getD member

theorem Forest.owner?_of_mem_pool {forest : Forest} {member : Member} (h : member ∈ forest.pool) :
    forest.owner? member.entry.parent = some (forest.ownerOf member) := by
  obtain ⟨owner, howner⟩ := Forest.exists_owner? (Forest.mem_pool.1 h).2.2
  rw [Forest.ownerOf, howner]
  rfl

theorem Forest.due_pool (forest : Forest) :
    forest.due forest.pool
      = forest.pool.map fun member => ((forest.ownerOf member).entry, member.entry) := by
  rw [Forest.due, ← List.filterMap_eq_map]
  refine List.filterMap_congr fun member hmember => ?_
  rw [Forest.owner?_of_mem_pool hmember]
  rfl

/-- **Containers are moved to their owners**, and nothing else happens. However deep the
recursion may go, as long as it may go deep enough, it comes to the same end, with nothing
left of the pool. No entry is lost, doubled or changed. The roots are the members that wait
for no owner. Every link there was is there, and what comes in addition is one link to each
container that waits, from a container with its ancestry as the child path. -/
theorem nest_moves_containers_to_owners (forest : Forest) :
    (∃ roots : Forest, (∀ depth, forest.pool.length < depth → forest.adoptedTo depth = (roots, []))
        ∧ roots.map Member.entry = forest.outermost.map Member.entry
        ∧ forest.nest = roots.sortByLine)
      ∧ forest.nest.entries ~ forest.entries
      ∧ ∃ owner : Member → Member,
          (∀ member ∈ forest.pool, owner member ∈ forest ∧ (owner member).isContainer = true
            ∧ (owner member).entry.childPath = member.entry.parent)
          ∧ forest.nest.links ~ forest.links
              ++ forest.pool.map fun member => ((owner member).entry, member.entry) := by
  obtain ⟨hempty, hentries, -⟩ := Forest.adoptedTo_keeping keepsJoining_true forest
    (fun _ _ => trivial) (Nat.lt_succ_self forest.pool.length)
  refine ⟨⟨_, fun depth hdepth => ?_, hentries, ?_⟩, forest.nest_entries_perm, forest.ownerOf,
    fun member hmember => Forest.owner?_eq_some (Forest.owner?_of_mem_pool hmember), ?_⟩
  · rw [Forest.adoptedTo_eq forest hdepth, ← hempty]
  · rw [Forest.nest_eq, hempty, List.append_nil]
  · rw [← Forest.due_pool]
    exact forest.links_nest

/-! ## Line spans

The lines of containers are read when a region marker is placed. They are not when a container
is: of two containers with one child path, the first has what is inside of the second. -/

/-- Whether nesting makes something a child of something. It is asked how often the one is a
child of the other, since an entry may be there more than once. -/
def Forest.Moves (forest : Forest) (owner child : Entry) : Prop :=
  forest.links.count (owner, child) < forest.nest.links.count (owner, child)

instance (forest : Forest) (owner child : Entry) : Decidable (forest.Moves owner child) :=
  inferInstanceAs (Decidable (_ < _))

/-- Only the first container with the right child path gets anything. -/
theorem Forest.moves_iff {forest : Forest} {owner : Entry} {child : Member}
    (hchild : child ∈ forest) (hcontainer : child.isContainer = true) :
    forest.Moves owner child.entry
      ↔ (forest.owner? child.entry.parent).map Member.entry = some owner := by
  have hcount : forest.Moves owner child.entry
      ↔ (owner, child.entry) ∈ forest.due forest.pool := by
    have hlinks := List.perm_iff_count.1 forest.links_nest (owner, child.entry)
    rw [List.count_append] at hlinks
    rw [Forest.Moves, hlinks, ← List.count_pos_iff]
    omega
  rw [hcount, Forest.due, List.mem_filterMap]
  constructor
  · rintro ⟨member, -, hlink⟩
    obtain ⟨first, hfirst, heq⟩ := Option.map_eq_some_iff.1 hlink
    obtain ⟨rfl, hentry⟩ := Prod.mk.inj heq
    rw [← hentry, hfirst]
    rfl
  · intro howner
    obtain ⟨first, hfirst, rfl⟩ := Option.map_eq_some_iff.1 howner
    obtain ⟨hmem, howns⟩ := Forest.owner?_eq_some hfirst
    have hwaits := Forest.mem_owners.2 ⟨first, hmem, howns⟩
    refine ⟨child, Forest.mem_pool.2 ⟨hchild, hcontainer, hwaits⟩, ?_⟩
    rw [hfirst]
    rfl

/-- Whether a container has another one inside, by its child path and by its lines. -/
def Member.encloses (outer inner : Member) : Bool :=
  outer.owns inner.entry.parent
    && match outer.entry.endLine, inner.entry.endLine with
      | some outerEnd, some innerEnd => outer.startLine ≤ inner.startLine && innerEnd ≤ outerEnd
      | _, _ => false

/-- **The first namesake takes it.** Where one container alone has another inside, nesting
puts that one under the first container of the listing that has its ancestry as the child
path, and under no other. So it goes where it is if and only if there is no namesake before. -/
theorem enclosed_container_joins_first_namesake {forest : Forest} {outer inner : Member}
    (hinner : inner ∈ forest) (hcontainer : inner.isContainer = true)
    (hsole : forest.filter (fun member => member.encloses inner) = [outer]) :
    (∃ first, forest.owner? inner.entry.parent = some first
        ∧ ∀ owner, forest.Moves owner inner.entry ↔ owner = first.entry)
      ∧ (forest.Moves outer.entry inner.entry
          ↔ forest.owner? inner.entry.parent = some outer) := by
  have hof : ∀ member, member ∈ forest ∧ member.encloses inner = true ↔ member = outer := by
    intro member
    have hmem : member ∈ forest.filter (fun member => member.encloses inner) ↔ member = outer := by
      rw [hsole, List.mem_singleton]
    rwa [List.mem_filter] at hmem
  obtain ⟨houter, hencloses⟩ := (hof outer).2 rfl
  have howns : outer.owns inner.entry.parent = true := by
    rw [Member.encloses, Bool.and_eq_true] at hencloses
    exact hencloses.1
  obtain ⟨first, hfirst⟩ :=
    Forest.exists_owner? (Forest.mem_owners.2 ⟨outer, houter, Member.owns_iff.1 howns⟩)
  have hmoves : ∀ owner, forest.Moves owner inner.entry ↔ owner = first.entry := by
    intro owner
    rw [Forest.moves_iff hinner hcontainer, hfirst, Option.map_some, Option.some_inj, eq_comm]
  refine ⟨⟨first, hfirst, hmoves⟩, ?_⟩
  rw [hmoves, hfirst, Option.some_inj]
  constructor
  · -- What encloses is told by the entry, so a first one with the entry of the sole one is it.
    intro hentry
    refine (hof first).1 ⟨(Forest.owner?_eq_some hfirst).1, ?_⟩
    rw [Member.encloses, Member.owns, Member.isContainer, Member.startLine] at hencloses ⊢
    rwa [← hentry]
  · rintro rfl
    rfl

/-- A part of a class that is declared in parts, four lines long. -/
def partOfA (line : Nat) : Member :=
  .leaf { kind := .classType, name := "A", startLine := line, endLine := some (line + 3) }

/-- A class inside of it. -/
def classInA (line : Nat) : Member :=
  .leaf { kind := .classType, name := "B", startLine := line, endLine := some (line + 1),
          parent := { types := ["A"] } }

theorem enclosed_container_joins_first_part :
    classInA 1 ∈ [partOfA 0, partOfA 4, classInA 1] ∧ (classInA 1).isContainer = true
      ∧ [partOfA 0, partOfA 4, classInA 1].filter (fun member => member.encloses (classInA 1))
          = [partOfA 0]
      ∧ Forest.Moves [partOfA 0, partOfA 4, classInA 1] (partOfA 0).entry (classInA 1).entry := by
  have hinner : classInA 1 ∈ [partOfA 0, partOfA 4, classInA 1] := by simp
  have hsole : [partOfA 0, partOfA 4, classInA 1].filter
      (fun member => member.encloses (classInA 1)) = [partOfA 0] := rfl
  exact ⟨hinner, rfl, hsole,
    (enclosed_container_joins_first_namesake hinner rfl hsole).2.2 rfl⟩

/-- The class is inside of the second part, and nesting does not put it there. -/
theorem enclosed_container_lost_to_first_part :
    ¬∀ (forest : Forest) (outer inner : Member),
      (∀ member ∈ forest, member.isContainer = true ∧ member.entry.endLine.isSome = true) →
      inner ∈ forest → forest.filter (fun member => member.encloses inner) = [outer] →
      forest.Moves outer.entry inner.entry := by
  intro h
  have hmoves := h [partOfA 0, partOfA 4, classInA 5] (partOfA 4) (classInA 5)
    (by simp [partOfA, classInA, Member.isContainer, Member.leaf, Member.entry, Kind.isContainer])
    (by simp) rfl
  rw [Forest.moves_iff (by simp) rfl] at hmoves
  have hfirst : Forest.owner? [partOfA 0, partOfA 4, classInA 5] (classInA 5).entry.parent
      = some (partOfA 0) := rfl
  rw [hfirst, Option.map_some, Option.some_inj] at hmoves
  exact absurd hmoves (by decide)

end SourceOutline

/-
Bookmarks when purges are run in the background.

A request that is answered orders a purge of its file, with the identities of the members it
has found. Run at once this is the purge that a request ends with
(`Completion.worldAfter_eq_ordered`). Run later, it finds a store that has gone on: the file
may have been edited and requested again, and bookmarks may have been set for members that
the order does not know. The order has no trace of when it was given, so it drops them.

What becomes of a bookmark is told by the orders alone, `bookmark_kept_iff_orders_keep`: it
is there in the end if and only if each order for its file that was waiting when it was set,
or was given later, knows its member. In which sequence the orders are run makes no
difference. That the last order knows the member is not enough,
`bookmark_lost_to_earlier_order`.
-/
import SourceOutline.Proofs.Bookmarks
import SourceOutline.Proofs.Durability
import SourceOutline.Proofs.Mappings

set_option autoImplicit false

namespace SourceOutline

open scoped List

/-! ## Orders -/

/-- A purge that has been ordered: the file, and the identities of its members at that
time. -/
structure PurgeOrder where
  file : String
  valid : List String

/-- Whether an order leaves a bookmark alone. -/
def PurgeOrder.Keeps (order : PurgeOrder) (file id : String) : Prop :=
  order.file = file → id ∈ order.valid

instance (order : PurgeOrder) (file id : String) : Decidable (order.Keeps file id) :=
  inferInstanceAs (Decidable (_ → _))

variable {σ : Type}

/-- Runs the purge. A failure to save is passed over. -/
def PurgeOrder.perform (order : PurgeOrder) (world : World σ) : World σ :=
  let (_, store, disk) := world.store.purge world.disk order.file order.valid
  { world with store := store, disk := disk }

/-- What a request orders when it is answered. Without a key there are no bookmarks. -/
def Completion.ordered {generator : Generator σ} {source : Source} {options : Options}
    {world : World σ} (run : Completion generator source options world) : List PurgeOrder :=
  match source.fileKey? with
  | some key => [⟨key, run.forest.ids⟩]
  | none => []

/-- A request that purges at once is one that runs its order at once. -/
theorem Completion.worldAfter_eq_ordered {generator : Generator σ} {source : Source}
    {options : Options} {world : World σ} (run : Completion generator source options world) :
    run.worldAfter
      = run.ordered.foldl (fun world order => order.perform world)
        { world with memory := run.memoryAfter } := by
  rw [Completion.worldAfter, Completion.ordered, Generator.purge]
  cases source.fileKey? with
  | none => rfl
  | some key => rfl

/-! ## One change of the store -/

theorem Store.apply_bookmarks (store : Store) (disk : FileTree) (change : Change) :
    (store.apply disk change).2.1.bookmarks = change.bookmarks := by
  rcases store.apply_cases disk change with ⟨-, after, -, h⟩ | ⟨error, h⟩ | ⟨-, h⟩
  · rw [h]
  · rw [h]
  · rw [h]

/-- **One purge** leaves a bookmark as it is or drops it. -/
theorem PurgeOrder.color?_perform (order : PurgeOrder) (world : World σ) (file id : String) :
    (order.perform world).store.bookmarks.color? file id
      = if order.Keeps file id then world.store.bookmarks.color? file id else none := by
  have hbookmarks : (order.perform world).store.bookmarks
      = (world.store.bookmarks.purge order.file order.valid).bookmarks :=
    Store.purge_bookmarks _ _ _ _
  rw [hbookmarks, Bookmarks.color?, Bookmarks.color?]
  by_cases hfile : order.file = file
  · have hkeeps : order.Keeps file id ↔ id ∈ order.valid :=
      ⟨fun h => h hfile, fun h _ => h⟩
    rw [← hfile, Bookmarks.ofFile_purge_self, Dictionary.find?_filterKeys, hfile]
    simp only [hkeeps, List.contains_iff_mem]
  · have hkeeps : order.Keeps file id := fun h => absurd h hfile
    rw [if_pos hkeeps, Bookmarks.ofFile, Bookmarks.ofFile,
      Bookmarks.find?_purge_of_ne _ _ (Ne.symm hfile)]

theorem Bookmarks.color?_set (bookmarks : Bookmarks) (file id color file' id' : String) :
    (bookmarks.set file id color).bookmarks.color? file' id'
      = if file' = file ∧ id' = id then some color else bookmarks.color? file' id' := by
  rw [Bookmarks.set, Bookmarks.color?, Bookmarks.ofFile]
  dsimp only
  rw [Dictionary.find?_insert]
  by_cases hfile : file' = file
  · rw [if_pos hfile, Option.getD_some, Dictionary.find?_insert, Bookmarks.color?, hfile]
    simp only [true_and]
  · rw [if_neg hfile, if_neg fun h => hfile h.1, Bookmarks.color?, Bookmarks.ofFile]

/-! ## Interleavings -/

/-- A world and the orders that wait to be run. -/
structure Background (σ : Type) where
  world : World σ
  waiting : List PurgeOrder

/-- Sets the color of a member. A failure to save is left to the caller. -/
def Background.set (state : Background σ) (file id color : String) : Background σ :=
  let (_, store, disk) := state.world.store.set state.world.disk file id color
  { state with world := { state.world with store := store, disk := disk } }

theorem Background.color?_set (state : Background σ) (file id color file' id' : String) :
    (state.set file id color).world.store.bookmarks.color? file' id'
      = if file' = file ∧ id' = id then some color
        else state.world.store.bookmarks.color? file' id' := by
  have hbookmarks : (state.set file id color).world.store.bookmarks
      = (state.world.store.bookmarks.set file id color).bookmarks := Store.apply_bookmarks _ _ _
  rw [hbookmarks, Bookmarks.color?_set]

/-- What can happen from a state on while the bookmark of one member is not set anew, with
the orders that are given meanwhile. Any order that waits can be the next to be run. -/
inductive Interleaving (generator : Generator σ) (file id : String) (start : Background σ) :
    List PurgeOrder → Background σ → Prop where
  | start : Interleaving generator file id start [] start
  | answered {given : List PurgeOrder} {state : Background σ}
      (earlier : Interleaving generator file id start given state) {source : Source}
      {options : Options} (run : Completion generator source options state.world)
      (ready : generator.generate source options state.world = (.ready run.outline, run.worldAfter)) :
      Interleaving generator file id start (given ++ run.ordered)
        { world := { state.world with memory := run.memoryAfter }
          waiting := state.waiting ++ run.ordered }
  | unanswered {given : List PurgeOrder} {state : Background σ}
      (earlier : Interleaving generator file id start given state) {source : Source}
      {options : Options} {outcome : Outcome} {after : World σ}
      (request : generator.generate source options state.world = (outcome, after))
      (notReady : ∀ outline, outcome ≠ .ready outline) :
      Interleaving generator file id start given { state with world := after }
  | edited {given : List PurgeOrder} {state : Background σ}
      (earlier : Interleaving generator file id start given state) (disk : FileTree) :
      Interleaving generator file id start given
        { state with world := { state.world with disk := disk } }
  | set {given : List PurgeOrder} {state : Background σ}
      (earlier : Interleaving generator file id start given state) {file' id' : String}
      (other : ¬(file' = file ∧ id' = id)) (color : String) :
      Interleaving generator file id start given (state.set file' id' color)
  | purged {given : List PurgeOrder} {state : Background σ}
      (earlier : Interleaving generator file id start given state) {order : PurgeOrder}
      {before after : List PurgeOrder} (next : state.waiting = before ++ order :: after) :
      Interleaving generator file id start given
        { world := order.perform state.world, waiting := before ++ after }

/-- What holds of a bookmark along the way: of the orders that concern it some are done and
the others wait, and it is there as long as all that are done have kept it. -/
structure KeptSoFar (file id color : String) (orders done : List PurgeOrder)
    (state : Background σ) : Prop where
  accounted : orders ~ done ++ state.waiting
  color_eq : state.world.store.bookmarks.color? file id
    = if ∀ order ∈ done, order.Keeps file id then some color else none

/-- **One purge**, whichever it is. -/
theorem KeptSoFar.perform {file id color : String} {orders done : List PurgeOrder}
    {state : Background σ} (h : KeptSoFar file id color orders done state) {order : PurgeOrder}
    {before after : List PurgeOrder} (next : state.waiting = before ++ order :: after) :
    KeptSoFar file id color orders (order :: done)
      { world := order.perform state.world, waiting := before ++ after } := by
  constructor
  · have hnext : state.waiting ~ order :: (before ++ after) := by
      rw [next]
      exact List.perm_middle
    calc orders ~ done ++ state.waiting := h.accounted
      _ ~ done ++ order :: (before ++ after) := hnext.append_left done
      _ ~ order :: done ++ (before ++ after) := List.perm_middle
  · dsimp only
    rw [order.color?_perform, h.color_eq]
    simp only [List.forall_mem_cons]
    by_cases hkeeps : order.Keeps file id
    · simp only [hkeeps, true_and, if_true]
    · simp only [hkeeps, false_and, if_false]

/-- **Any interleaving** keeps account of the bookmark. -/
theorem Interleaving.keptSoFar {generator : Generator σ} {file id color : String}
    {before : Background σ} {given : List PurgeOrder} {state : Background σ}
    (h : Interleaving generator file id (before.set file id color) given state) :
    ∃ done, KeptSoFar file id color (before.waiting ++ given) done state := by
  induction h with
  | start =>
    refine ⟨[], ?_, ?_⟩
    · rw [List.append_nil]
      exact .refl _
    · rw [Background.color?_set]
      simp
  | answered earlier run ready ih =>
    obtain ⟨done, haccounted, hcolor⟩ := ih
    refine ⟨done, ?_, hcolor⟩
    rw [← List.append_assoc, ← List.append_assoc]
    exact haccounted.append_right run.ordered
  | unanswered earlier request notReady ih =>
    obtain ⟨done, haccounted, hcolor⟩ := ih
    refine ⟨done, haccounted, ?_⟩
    rw [(Generator.generate_frame request notReady).1]
    exact hcolor
  | edited earlier disk ih =>
    obtain ⟨done, haccounted, hcolor⟩ := ih
    exact ⟨done, haccounted, hcolor⟩
  | set earlier other color' ih =>
    obtain ⟨done, haccounted, hcolor⟩ := ih
    refine ⟨done, haccounted, ?_⟩
    rw [Background.color?_set, if_neg fun hsame => other ⟨hsame.1.symm, hsame.2.symm⟩]
    exact hcolor
  | purged earlier next ih =>
    obtain ⟨done, hdone⟩ := ih
    exact ⟨_, hdone.perform next⟩

/-- A generator for style sheets. -/
def Generator.forSheets : Generator Unit where
  registry := Registry.empty.register "css" .css
  factory := standardFactory
  maxAttempts := 1
  tokens := fun _ => "token"
  stamp := { timestamp := "" }

/-- A request for a style sheet orders a purge by the identities of its rules. -/
theorem Interleaving.answered_sheet {file id : String} {start state : Background Unit}
    {given : List PurgeOrder}
    (earlier : Interleaving .forSheets file id start given state) {text : String}
    (hread : (Source.file "a.css").read state.world.disk = .ok text) {ids : List String}
    (hids : ((Mapping.wholeFile (Stylesheet.members text)).identified .blockComment text
      Generator.forSheets.tokens).ids = ids) :
    Interleaving .forSheets file id start (given ++ [⟨"a.css", ids⟩])
      { state with waiting := state.waiting ++ [⟨"a.css", ids⟩] } := by
  have hfactory : Generator.forSheets.factory = factoryWith CSharp.parse := standardFactory_eq
  have hlanguage : Generator.forSheets.registry.resolve (Source.file "a.css").extension
      = some .css := by decide +kernel
  let run := Completion.first hfactory hlanguage hread {}
  have hordered : run.ordered = [⟨"a.css", ids⟩] := by
    rw [← hids]
    rfl
  have hstep := earlier.answered run (Generator.generate_first hfactory hlanguage hread {})
  rw [hordered] at hstep
  exact hstep

/-- **What becomes of a bookmark.** When no order waits any more, it is there if and only if
all orders keep it that were waiting when it was set or were given later. -/
theorem bookmark_kept_iff_orders_keep (generator : Generator σ) (file id color : String)
    (before : Background σ) (given : List PurgeOrder) (state : Background σ)
    (hrun : Interleaving generator file id (before.set file id color) given state)
    (hquiet : state.waiting = []) :
    state.world.store.bookmarks.color? file id
      = if ∀ order ∈ before.waiting ++ given, order.Keeps file id then some color else none := by
  obtain ⟨done, haccounted, hcolor⟩ := hrun.keptSoFar
  rw [hquiet, List.append_nil] at haccounted
  have hall : (∀ order ∈ before.waiting ++ given, order.Keeps file id)
      ↔ ∀ order ∈ done, order.Keeps file id := by
    simp only [haccounted.mem_iff]
  rw [hcolor]
  simp only [hall]

/-- A style sheet with the rules `a` and `b` is requested before and after `b` gets a
bookmark, and the second order is run first. -/
theorem bookmark_kept_iff_orders_keep_in_unchanged_sheet :
    let sheet := "a \x7b\n\x7d\nb \x7b\n\x7d"
    let order : PurgeOrder := ⟨"a.css", ["a", "b"]⟩
    let start : Background Unit :=
      ⟨⟨{ home := "/", nodes := [(["a.css"], .text sheet)] }, .inMemory, ()⟩, [order]⟩
    ∃ state, Interleaving .forSheets "a.css" "b" (start.set "a.css" "b" "red") [order] state
      ∧ state.waiting = []
      ∧ state.world.store.bookmarks.color? "a.css" "b"
        = (if ∀ order' ∈ start.waiting ++ [order], order'.Keeps "a.css" "b" then some "red"
          else none)
      ∧ ∀ order' ∈ start.waiting ++ [order], order'.Keeps "a.css" "b" := by
  intro sheet order start
  have hread : (Source.file "a.css").read (start.set "a.css" "b" "red").world.disk = .ok sheet := by
    decide +kernel
  have hasked : Interleaving .forSheets "a.css" "b" (start.set "a.css" "b" "red") [order]
      { start.set "a.css" "b" "red" with waiting := [order, order] } := by
    refine Interleaving.start.answered_sheet hread ?_
    dsimp only [sheet]
    cbv
  have hlater := hasked.purged (show [order, order] = [order] ++ order :: [] from rfl)
  have hearlier := hlater.purged (show [order] = [] ++ order :: [] from rfl)
  exact ⟨_, hearlier, rfl, bookmark_kept_iff_orders_keep _ _ _ _ start _ _ hearlier rfl,
    by decide⟩

/-- **A bookmark can be lost although its member is there.** A style sheet has the rule `a`
and is requested. Then `b` is added, the sheet is requested again, and the new rule gets a
bookmark. The second order knows the rule, but the first one does not, and it is run when
the bookmark is there. -/
theorem bookmark_lost_to_earlier_order :
    let disk (sheet : String) : FileTree :=
      { home := "/", nodes := [(["a.css"], .text sheet)] }
    let first : PurgeOrder := ⟨"a.css", ["a"]⟩
    let last : PurgeOrder := ⟨"a.css", ["a", "b"]⟩
    ∃ before state : Background Unit,
      Interleaving .forSheets "a.css" "b" ⟨⟨disk "a \x7b\n\x7d", .inMemory, ()⟩, []⟩
        [first, last] before
      ∧ before.world.disk = disk "a \x7b\n\x7d\nb \x7b\n\x7d"
      ∧ before.waiting = [first, last]
      ∧ Interleaving .forSheets "a.css" "b" (before.set "a.css" "b" "red") [] state
      ∧ state.waiting = []
      ∧ "b" ∈ last.valid
      ∧ state.world.store.bookmarks.color? "a.css" "b" = none := by
  intro disk first last
  let start : Background Unit := ⟨⟨disk "a \x7b\n\x7d", .inMemory, ()⟩, []⟩
  let before : Background Unit :=
    ⟨⟨disk "a \x7b\n\x7d\nb \x7b\n\x7d", .inMemory, ()⟩, [first, last]⟩
  have hread : (Source.file "a.css").read start.world.disk = .ok "a \x7b\n\x7d" := by
    decide +kernel
  have hread' : (Source.file "a.css").read before.world.disk
      = .ok "a \x7b\n\x7d\nb \x7b\n\x7d" := by
    decide +kernel
  have hfirst : Interleaving .forSheets "a.css" "b" start [first] { start with waiting := [first] } := by
    refine Interleaving.start.answered_sheet hread ?_
    cbv
  have hlast : Interleaving .forSheets "a.css" "b" start [first, last] before := by
    refine (hfirst.edited before.world.disk).answered_sheet hread' ?_
    cbv
  have hset : Interleaving .forSheets "a.css" "b" (before.set "a.css" "b" "red") []
      (before.set "a.css" "b" "red") := .start
  have hlater := hset.purged (show [first, last] = [first] ++ last :: [] from rfl)
  have hearlier := hlater.purged (show [first] = [] ++ first :: [] from rfl)
  refine ⟨before, _, hlast, rfl, rfl, hearlier, rfl, by decide, ?_⟩
  rw [first.color?_perform, if_neg (by decide)]

end SourceOutline

/-
What a state does with a token. The items of a state may ask for several things at
once: to read the token, or to put what has been read together in one way or another.
Precedence decides between them as far as it can. What it leaves open stays open, and
the parser follows all of it.
-/
import SourceOutline.Automaton.Canonical

set_option autoImplicit false

namespace SourceOutline.Automaton

open Grammar (Alias Associativity)

/-! ## Reductions -/

/-- What a production says about its children. -/
structure ChildInfo where
  /-- The aliases of the children, up to the last one that has any. -/
  aliases : List (Option Alias)
  /-- Fields: the name, the child, and whether the field lies further inside. -/
  fields : List (String × Nat × Bool)
deriving DecidableEq

/-- A list without the blanks at its end. -/
def trimNones {α : Type} (list : List (Option α)) : List (Option α) :=
  (list.reverse.dropWhile Option.isNone).reverse

/-- What a production says about its children. -/
def childInfo (inherited : Array (List String)) (production : Grammar.Production) : ChildInfo :=
  { aliases := trimNones (production.steps.map (·.shownAs))
    fields := production.steps.zipIdx.flatMap fun (step, index) =>
      (step.field.toList.map fun name => (name, index, false))
        ++ (inherited.getD step.symbol []).map fun name => (name, index, true) }

/-- Putting the last symbols together to one. -/
structure Reduction where
  symbol : Nat
  /-- The number of symbols put together. -/
  count : Nat
  weight : Int
  /-- The number of what is said about the children. -/
  info : Nat
deriving DecidableEq

/-- The reductions of a grammar: of each item that is read to its end. -/
structure Reductions where
  infos : Array ChildInfo
  ofItem : Array Reduction

/-- The reductions of a grammar. The first entry of the table of children says
nothing. -/
def Reductions.ofItems (items : Items) : Reductions :=
  let add (infos : Array ChildInfo) (info : ChildInfo) : Array ChildInfo :=
    if infos.contains info then infos else infos.push info
  let infoOf (item : Item) : ChildInfo := childInfo items.inherited item.production
  let complete := items.items.filter fun item => item.next?.isNone
  let infos := complete.foldl (fun infos item => add infos (infoOf item)) #[⟨[], []⟩]
  { infos
    ofItem := items.items.map fun item =>
      { symbol := item.head, count := item.step, weight := item.production.weight
        info := if item.next?.isNone then (infos.idxOf? (infoOf item)).getD 0 else 0 } }

/-! ## Entries -/

/-- What to do on a token. -/
inductive Action where
  /-- Read it and go to another state. -/
  | shift (repetition : Bool)
  /-- Read it as the beginning of a construct between tokens. -/
  | enter
  /-- Read it and stay. -/
  | skip
  | reduce (symbol count : Nat) (weight : Int) (info : Nat)
  | accept
  /-- Look for a way out of a fault. -/
  | recover
deriving DecidableEq, Hashable

/-- Whether the action leads to a state by the moves of the automaton. -/
def Action.isShift : Action → Bool
  | shift _ => true
  | _ => false

/-- The precedence of what is to be put together, the symbols it may become, and how it
leans. -/
structure Standing where
  precedence : Int
  heads : List Nat
  left : Bool := false
  right : Bool := false
  neither : Bool := false

namespace Standing

/-- Counts one more side. -/
def withSide (standing : Standing) : Associativity → Standing
  | .left => { standing with left := true }
  | .right => { standing with right := true }
  | .neither => { standing with neither := true }

/-- The standing of a single item. -/
def ofItem (item : Item) : Standing :=
  ({ precedence := item.precedence?.getD 0, heads := [item.head] } : Standing).withSide item.side

/-- Counts one more item of the same precedence. -/
def add (standing : Standing) (item : Item) : Standing :=
  { standing with heads := item.head :: standing.heads }.withSide item.side

/-- How an item compares with what stands already. The precedence decides, and where there
is none, which of two symbols the grammar prefers. -/
def rank (g : Grammar) (standing : Standing) (item : Item) : Ordering :=
  let precedence := item.precedence?.getD 0
  if precedence = 0 && standing.precedence = 0 then
    (g.preferred.findSome? fun (first, second) =>
      if item.head = first && standing.heads.contains second then some .gt
      else if item.head = second && standing.heads.contains first then some .lt
      else none).getD .eq
  else compare precedence standing.precedence

end Standing

/-- The items of highest rank among some that ask for a reduction, and their standing. -/
def strongest (g : Grammar) (items : Items) :
    List Nat → List Nat → Option Standing → List Nat × Option Standing
  | [], kept, standing => (kept, standing)
  | number :: rest, kept, standing =>
    match items.items[number]?, standing with
    | none, _ => strongest g items rest kept standing
    | some item, none => strongest g items rest [number] (some (.ofItem item))
    | some item, some old =>
      match old.rank g item with
      | .gt => strongest g items rest [number] (some (.ofItem item))
      | .lt => strongest g items rest kept standing
      | .eq => strongest g items rest (kept ++ [number]) (some (old.add item))

/-- What becomes of reading a token when something may be put together instead. -/
inductive Verdict where
  | both
  | onlyShift
  | onlyReduce
  /-- Both, because a repetition may go on or stop here. -/
  | repetition

/-- Weighs reading a token against putting together. `shifting` are the items that have
been begun and want the token, `reducing` all that ask for a reduction. -/
def weigh (g : Grammar) (items : Items) (shifting reducing : List Nat)
    (standing : Standing) : Verdict :=
  let itemsOf (numbers : List Nat) : List Item :=
    numbers.filterMap fun number => items.items[number]?
  let heads := (itemsOf (shifting ++ reducing)).map (·.head)
  match heads with
  | [] => .both
  | head :: rest =>
    if g.visibility head = .auxiliary && rest.all (· == head) then .repetition
    else
      let ranks := (itemsOf shifting).map (standing.rank g)
      let more := ranks.contains .gt
      let less := ranks.contains .lt
      match more, less with
      | true, false => .onlyShift
      | false, true => .onlyReduce
      | true, true => .both
      | false, false =>
        match standing.left, standing.right, standing.neither with
        | true, false, false => .onlyReduce
        | false, true, false => .onlyShift
        | _, _, _ => .both

/-- The action of an item that is read to its end. -/
def reductionAction (reductions : Reductions) (number : Nat) : Action :=
  match reductions.ofItem[number]? with
  | some r => if r.symbol = 0 then .accept else .reduce r.symbol r.count r.weight r.info
  | none => .recover

/-- The actions on a token: of the items that ask for a reduction, and of reading it if
the core has a move for it. -/
def resolve (g : Grammar) (items : Items) (first : Array Nat) (reductions : Reductions)
    (core : Core) (token : Nat) (canShift : Bool) (reducing : List Nat) : List Action :=
  let (kept, standing) := strongest g items reducing [] none
  let reduce := kept.map (reductionAction reductions)
  match canShift, standing with
  | false, _ => reduce
  | true, none => [.shift false]
  | true, some standing =>
    let shifting := core.kernel.toList.filter fun number =>
      (items.items[number]?.any fun item => item.step > 0)
        && ((items.next[number]?).join.any fun symbol => (first.getD symbol 0).testBit token)
    match weigh g items shifting reducing standing with
    | .both => reduce ++ [.shift false]
    | .onlyShift => [.shift false]
    | .onlyReduce => reduce
    | .repetition => reduce ++ [.shift true]

end SourceOutline.Automaton

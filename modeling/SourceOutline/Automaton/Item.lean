/-
Items: productions with a mark on how far they have been read.

Two items that have read different symbols are the same if nothing later depends on
the difference. What is read matters only through aliases and fields, and, once a
hidden variable with fields has been read, through its symbols. Items are numbered in
a fixed order, and the order decides in which sequence the actions of a state are
listed.
-/
import SourceOutline.Grammar.Ends

set_option autoImplicit false

namespace SourceOutline.Automaton

open Grammar (Alias Associativity Production Step)

/-- A production with a mark. -/
structure Item where
  /-- The variable; zero stands for the whole text. -/
  head : Nat
  production : Production
  /-- How many steps have been read. -/
  step : Nat
  /-- Whether a hidden variable with fields has been read. -/
  inherits : Bool

namespace Item

/-- The step read last. -/
def lastStep? (item : Item) : Option Step :=
  if item.step = 0 then none else item.production.steps[item.step - 1]?

/-- The precedence of what has been read. -/
def precedence? (item : Item) : Option Int := item.lastStep? >>= (·.precedence)

/-- The side to which what has been read leans. -/
def side (item : Item) : Associativity := item.lastStep?.elim .neither (·.side)

/-- The symbol that comes next. -/
def next? (item : Item) : Option Nat := item.production.steps[item.step]?.map (·.symbol)

end Item

/-! ## The order of items -/

/-- What is missing comes first. -/
def compareOption {α : Type} (compareSome : α → α → Ordering) : Option α → Option α → Ordering
  | none, none => .eq
  | none, some _ => .lt
  | some _, none => .gt
  | some a, some b => compareSome a b

/-- By name, and then tokens before nodes. -/
def compareAlias (a b : Alias) : Ordering :=
  (compare a.name b.name).then (compare a.named b.named)

/-- By all that a step says, its symbol first. -/
def compareStep (a b : Step) : Ordering :=
  (compare a.symbol b.symbol).then <|
  (compareOption compare a.precedence b.precedence).then <|
  (compare a.side.rank b.side.rank).then <|
  (compareOption compareAlias a.shownAs b.shownAs).then <|
  compareOption compare a.field b.field

/-- By the alias and the field of a step. -/
def compareRemarks (a b : Step) : Ordering :=
  (compareOption compareAlias a.shownAs b.shownAs).then (compareOption compare a.field b.field)

/-- Lists of equal length, by their first difference. -/
def compareLists {α : Type} (compareOne : α → α → Ordering) : List α → List α → Ordering
  | a :: as, b :: bs => (compareOne a b).then (compareLists compareOne as bs)
  | [], [] => .eq
  | [], _ :: _ => .lt
  | _ :: _, [] => .gt

/-- The order of items. -/
def Item.compare (a b : Item) : Ordering :=
  (Ord.compare a.step b.step).then <|
  (Ord.compare a.head b.head).then <|
  (Ord.compare a.production.weight b.production.weight).then <|
  (Ord.compare a.production.steps.length b.production.steps.length).then <|
  (compareOption Ord.compare a.precedence? b.precedence?).then <|
  (Ord.compare a.side.rank b.side.rank).then <|
  (Ord.compare a.inherits b.inherits).then <|
  (compareLists compareRemarks (a.production.steps.take a.step)
    (b.production.steps.take b.step)).then <|
  (compareLists compareStep (a.production.steps.drop a.step)
    (b.production.steps.drop b.step)).then <|
  if a.inherits then
    compareLists (fun x y => Ord.compare x.symbol y.symbol) (a.production.steps.take a.step)
      (b.production.steps.take b.step)
  else .eq

/-! ## All items of a grammar -/

/-- The fields that come into view through each symbol: for a hidden variable all that its
productions hold, and for any other symbol none. -/
def inheritedFields (g : Grammar) : Array (List String) :=
  let own (fields : Array (List String)) (production : Production) : List String :=
    production.steps.flatMap fun step =>
      step.field.toList ++
        if g.isHiddenVariable step.symbol then fields.getD step.symbol [] else []
  let round (fields : Array (List String)) : Array (List String) :=
    (List.range g.nonterminals.size).foldl (fun fields index =>
      let symbol := g.firstVariable + index
      let found := (g.productionsOf symbol).flatMap (own fields)
      fields.modify symbol fun old => (old ++ found).eraseDups) fields
  let rec rounds : Nat → Array (List String) → Array (List String)
    | 0, fields => fields
    | fuel + 1, fields =>
      let next := round fields
      if next.map List.length = fields.map List.length then fields else rounds fuel next
  let all := rounds g.nonterminals.size (Array.replicate g.symbolCount [])
  all.mapIdx fun symbol fields => if g.isHiddenVariable symbol then fields else []

/-- The items of one production, from its beginning to its end. -/
def productionItems (inherited : Array (List String)) (symbol : Nat) (production : Production) :
    List Item :=
  (List.range (production.steps.length + 1)).map fun step =>
    { head := symbol, production, step
      inherits := (production.steps.take step).any fun one =>
        !(inherited.getD one.symbol []).isEmpty }

/-- The numbered items of a grammar. -/
structure Items where
  /-- One item for each number. -/
  items : Array Item
  /-- The next symbol of each item, if there is one. -/
  next : Array (Option Nat)
  /-- The number of each item with one more step read. -/
  advanced : Array Nat
  /-- For each variable the numbers of its productions with nothing read. -/
  starts : Array (List Nat)
  /-- For each variable the numbers of its productions with one step read. -/
  entered : Array (List Nat)
  /-- The item of the whole text with nothing read. -/
  whole : Nat
  /-- The fields that come into view through each symbol. -/
  inherited : Array (List String)

/-- Numbers neighbours in a sorted list, equal ones alike: for each place the number, and
one item for each number. -/
def numberSorted : List (Item × Nat) → Array Nat → Array Item → Array Nat × Array Item
  | [], numbers, items => (numbers, items)
  | (item, place) :: rest, numbers, items =>
    match items.back? with
    | some last =>
      if Item.compare last item = .eq then
        numberSorted rest (numbers.setIfInBounds place (items.size - 1)) items
      else numberSorted rest (numbers.setIfInBounds place items.size) (items.push item)
    | none => numberSorted rest (numbers.setIfInBounds place items.size) (items.push item)

/-- The numbered items of a grammar. -/
def Items.ofGrammar (g : Grammar) : Items :=
  let inherited := inheritedFields g
  let whole : Production := ⟨[{ symbol := g.firstVariable }], 0⟩
  let productions := (0, whole) ::
    (List.range g.nonterminals.size).flatMap fun index =>
      (g.productionsOf (g.firstVariable + index)).map fun production =>
        (g.firstVariable + index, production)
  let all := (productions.flatMap fun (symbol, production) =>
    productionItems inherited symbol production).toArray
  let sorted := all.toList.zipIdx.mergeSort fun a b => (Item.compare a.1 b.1).isLE
  let (numbers, items) := numberSorted sorted (Array.replicate all.size 0) #[]
  let places := all.zipIdx
  let startsAt (step : Nat) : Array (List Nat) :=
    places.foldl (fun table (item, place) =>
      if item.step = step then
        table.modify item.head fun list => list ++ [numbers.getD place 0]
      else table) (Array.replicate g.symbolCount [])
  { items
    next := items.map Item.next?
    advanced := places.foldl (fun table (item, place) =>
      if item.step < item.production.steps.length then
        table.setIfInBounds (numbers.getD place 0) (numbers.getD (place + 1) 0)
      else table) (Array.replicate items.size 0)
    starts := startsAt 0
    entered := startsAt 1
    whole := numbers.getD 0 0
    inherited }

end SourceOutline.Automaton

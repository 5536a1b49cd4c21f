/-
From a grammar as it is written to one in plain form.

Tokens are taken out of the rules, in the order in which they are met, and a rule that
is nothing but one token becomes that token. Repetition becomes a variable of its own.
The alternatives of a rule are spelled out as productions, and the remarks of a rule
become remarks on the steps. An alias that a symbol has everywhere becomes a property
of the symbol. Last, the inlined variables are put in place of their symbols.
-/
import Std.Data.HashMap
import SourceOutline.Grammar.Basic

set_option autoImplicit false

namespace SourceOutline.Grammar

/-! ## Taking out the tokens -/

/-- What a name or a token of a rule stands for, before there are numbers. -/
inductive Referent where
  | scanned (index : Nat)
  | token (index : Nat)
  | definition (index : Nat)
deriving DecidableEq

/-- A token on the way to its place in the grammar, and how often the rules hold it. -/
structure Extracted where
  entry : TokenEntry
  uses : Nat

/-- The referent of a leaf. A token that was not met before is added to those that
were. -/
def refer (names : Std.HashMap String Referent) : Leaf → StateM (Array Extracted) Referent
  | .name name => pure (names.getD name (.definition 0))
  | .token token text => do
    match (← get).findIdx? fun met => met.entry.token = token with
    | some index =>
      modify fun met => met.modify index fun one => { one with uses := one.uses + 1 }
      pure (.token index)
    | none =>
      let entry : TokenEntry :=
        match text with
        | some name => { token, name, visibility := .anonymous }
        | none => { token, name := "", visibility := .auxiliary }
      modifyGet fun met => (.token met.size, met.push { entry, uses := 1 })

/-- How the nodes of a definition appear. -/
def Definition.visibility (definition : Definition) : Visibility :=
  if definition.hidden then .hidden else .named

/-- The token that a definition is a name for: one that no other rule holds. A hidden
definition does not take the name from a fixed text. -/
def tokenNamed? (met : Array Extracted) (definition : Definition) :
    Rule Referent → Option Nat
  | .symbol (.token index) =>
    match met[index]? with
    | some one =>
      if one.uses = 1 && (one.entry.visibility = .auxiliary || !definition.hidden) then some index
      else none
    | none => none
  | _ => none

/-- A definition whose rule no longer holds tokens, and the token it is a name for. -/
structure Resolved where
  definition : Definition
  rule : Rule Referent
  token : Option Nat

/-! ## Repetition -/

/-- The repetitions met so far, each with its variable. -/
structure Repetitions where
  next : Nat
  known : Array (Rule Nat × Nat) := #[]

/-- Replaces each repetition by a variable. Equal parts share one. -/
def withoutRepetition : Rule Nat → StateM Repetitions (Rule Nat)
  | .blank => pure .blank
  | .symbol n => pure (.symbol n)
  | .seq first second => return .seq (← withoutRepetition first) (← withoutRepetition second)
  | .choice first second =>
    return .choice (← withoutRepetition first) (← withoutRepetition second)
  | .many1 part => do
    let part ← withoutRepetition part
    match (← get).known.find? fun one => one.1 = part with
    | some (_, n) => pure (.symbol n)
    | none => modifyGet fun met =>
        (.symbol met.next, { next := met.next + 1, known := met.known.push (part, met.next) })
  | .prec level side part => .prec level side <$> withoutRepetition part
  | .weight level part => .weight level <$> withoutRepetition part
  | .shownAs name part => .shownAs name <$> withoutRepetition part
  | .field name part => .field name <$> withoutRepetition part

/-- The rule of a variable that stands for a repetition: two of its kind, or one
part. -/
def repetitionRule (part : Rule Nat) (n : Nat) : Rule Nat :=
  .choice (.seq (.symbol n) (.symbol n)) part

/-! ## Alternatives -/

/-- The remarks that hold at a place of a rule. -/
structure Remarks where
  precedence : Option Int := none
  side : Associativity := .neither
  shownAs : Option Alias := none
  field : Option String := none

/-- Of two weights the one that is further from zero, the first if they are equally
far. -/
def heavier (a b : Int) : Int := if a.natAbs < b.natAbs then b else a

/-- The last step of a part with a precedence. If more follows, it falls back to the
precedence around the part, so that the part's own precedence holds inside it only. -/
def fallBack (around : Remarks) (side : Associativity) : List Step → List Step
  | [] => []
  | [last] =>
    [{ last with
      precedence := around.precedence
      side := if side = .neither then last.side else around.side }]
  | step :: rest => step :: fallBack around side rest

/-- The productions that a rule allows at a place with some remarks; `atEnd` says
whether nothing follows. -/
def alternatives (remarks : Remarks) (atEnd : Bool) : Rule Nat → List Production
  | .blank => [⟨[], 0⟩]
  | .symbol symbol =>
    [⟨[{ symbol, precedence := remarks.precedence, side := remarks.side,
         shownAs := remarks.shownAs, field := remarks.field }], 0⟩]
  | .seq first second =>
    (alternatives remarks false first).flatMap fun a =>
      (alternatives remarks atEnd second).map fun b =>
        ⟨a.steps ++ b.steps, heavier a.weight b.weight⟩
  | .choice first second =>
    alternatives remarks atEnd first ++ alternatives remarks atEnd second
  | .many1 part => alternatives remarks atEnd part
  | .prec level side part =>
    let inner :=
      { remarks with
        precedence := some level
        side := if side = .neither then remarks.side else side }
    let found := alternatives inner atEnd part
    if atEnd then found
    else found.map fun a => { a with steps := fallBack remarks side a.steps }
  | .weight level part =>
    (alternatives remarks atEnd part).map fun a => { a with weight := heavier level a.weight }
  | .shownAs name part => alternatives { remarks with shownAs := some name } atEnd part
  | .field name part => alternatives { remarks with field := some name } atEnd part

/-- The productions of a rule, each once. -/
def productions (rule : Rule Nat) : List Production := (alternatives {} true rule).eraseDups

/-! ## Usual aliases -/

/-- The aliases a symbol is used under, with how often, and whether it is used under
none as well. -/
structure AliasUse where
  plain : Bool := false
  counts : List (Alias × Nat) := []

/-- One more use. -/
def AliasUse.add (use : AliasUse) : Option Alias → AliasUse
  | none => { use with plain := true }
  | some shownAs =>
    if use.counts.any fun one => one.1 = shownAs then
      { use with counts := use.counts.map fun one =>
          if one.1 = shownAs then (one.1, one.2 + 1) else one }
    else { use with counts := use.counts ++ [(shownAs, 1)] }

/-- The most frequent alias of a symbol that is never used without, the first one of
several. -/
def AliasUse.usual? (use : AliasUse) : Option Alias :=
  if use.plain then none
  else
    let best := use.counts.foldl (fun best one =>
      match best with
      | some (_, count) => if count < one.2 then some one else best
      | none => some one) (none : Option (Alias × Nat))
    best.map Prod.fst

/-- The usual alias of each symbol. -/
def usualAliases (symbolCount : Nat) (extras : List Nat) (inlined : List Nat)
    (nonterminals : Array Variable) : Array (Option Alias) :=
  let blank : Array AliasUse := Array.replicate symbolCount {}
  let steps := nonterminals.toList.flatMap fun v => v.productions.flatMap (·.steps)
  let uses := steps.foldl (fun uses step =>
    if inlined.contains step.symbol then uses
    else uses.modify step.symbol fun use => use.add step.shownAs) blank
  let uses := extras.foldl (fun uses symbol => uses.modify symbol fun use => use.add none) uses
  uses.map AliasUse.usual?

/-- A step without its alias, if that is the usual one. The alias is kept where another
production has it at the same place for another symbol. -/
def Variable.withoutUsual (usual : Array (Option Alias)) (v : Variable) : Variable :=
  let keeps (place : Nat) (step : Step) : Bool :=
    v.productions.any fun p =>
      match p.steps[place]? with
      | some other =>
        other.shownAs.map (·.name) = step.shownAs.map (·.name) && other.symbol != step.symbol
      | none => false
  let plain (place : Nat) (step : Step) : Step :=
    if step.shownAs.isSome && step.shownAs = (usual[step.symbol]?).join && !keeps place step then
      { step with shownAs := none }
    else step
  { v with productions := v.productions.map fun p =>
      { p with steps := p.steps.mapIdx plain } }

/-! ## Inlining -/

/-- The steps that replace a step. They take over its alias and its field, and the last
of them its precedence if it has none of its own. -/
def adorn (step : Step) : List Step → List Step
  | [] => []
  | [last] =>
    [{ last with
      shownAs := step.shownAs.or last.shownAs
      field := step.field.or last.field
      precedence := last.precedence.or step.precedence
      side := if last.side = .neither then step.side else last.side }]
  | first :: rest =>
    { first with shownAs := step.shownAs.or first.shownAs, field := step.field.or first.field }
      :: adorn step rest

/-- A production with its inlined steps replaced, in all the ways there are. The fuel
bounds the number of replacements. -/
def inline (nonterminals : Array Variable) (firstVariable : Nat) (inlined : List Nat) :
    Nat → Production → List Production
  | 0, p => [p]
  | fuel + 1, p =>
    let before := p.steps.takeWhile fun step => !inlined.contains step.symbol
    match p.steps.drop before.length with
    | [] => [p]
    | step :: after =>
      let choices := (nonterminals[step.symbol - firstVariable]?).elim [] (·.productions)
      choices.flatMap fun q =>
        inline nonterminals firstVariable inlined fuel
          ⟨before ++ adorn step q.steps ++ after, heavier p.weight q.weight⟩

/-! ## The whole way -/

/-- The names of a description. A definition hides a scanned token of the same name. -/
def Description.names (d : Description) : Std.HashMap String Referent :=
  let scanned := d.scanned.zipIdx.foldl (fun names one => names.insert one.1.1 (.scanned one.2))
    (∅ : Std.HashMap String Referent)
  d.definitions.zipIdx.foldl (fun names one => names.insert one.1.name (.definition one.2)) scanned

/-- Gives a token the name of the definition that stands for it. -/
def Resolved.nameToken (met : Array Extracted) (one : Resolved) : Array Extracted :=
  match one.token with
  | some index => met.modify index fun extracted =>
      { extracted with entry :=
        { extracted.entry with
          name := one.definition.name, visibility := one.definition.visibility } }
  | none => met

/-- The definitions with their tokens taken out, and the tokens. -/
def Description.resolve (d : Description) : List Resolved × Array Extracted :=
  let names := d.names
  let taking : StateM (Array Extracted) (List (Rule Referent)) :=
    d.definitions.mapM fun one => one.rule.traverse (refer names)
  let (rules, met) := taking.run #[]
  let resolved := (d.definitions.zip rules).mapIdx fun index (definition, rule) =>
    { definition, rule
      token := if index = 0 then none else tokenNamed? met definition rule : Resolved }
  (resolved, resolved.foldl Resolved.nameToken met)

/-- The numbers of the definitions: of the token a definition is a name for, or of a
variable. -/
def definitionNumbers (firstToken : Nat) : Nat → List Resolved → List Nat
  | _, [] => []
  | next, one :: rest =>
    match one.token with
    | some index => (firstToken + index) :: definitionNumbers firstToken next rest
    | none => next :: definitionNumbers firstToken (next + 1) rest

/-- The plain form of a description. -/
def Description.toGrammar (d : Description) : Grammar :=
  let (resolved, met) := d.resolve
  let firstToken := d.scanned.length + 2
  let firstVariable := firstToken + met.size
  let numbers := (definitionNumbers firstToken firstVariable resolved).toArray
  let numberOf : Referent → Nat
    | .scanned index => index
    | .token index => firstToken + index
    | .definition index => numbers.getD index 0
  let names := d.names
  let numberNamed (name : String) : Nat := numberOf (names.getD name (.definition 0))
  let own := resolved.filter fun one => one.token.isNone
  let start : Repetitions := { next := firstVariable + own.length }
  let expanding : StateM Repetitions (List (Rule Nat)) :=
    own.mapM fun one => withoutRepetition (one.rule.map numberOf)
  let (rules, repetitions) := expanding.run start
  let written := (own.zip rules).map fun (one, rule) =>
    { name := one.definition.name, visibility := one.definition.visibility
      productions := productions rule : Variable }
  let repeated := repetitions.known.toList.map fun (part, n) =>
    { name := "", visibility := .auxiliary
      productions := productions (repetitionRule part n) : Variable }
  let nonterminals := (written ++ repeated).toArray
  let extras := d.extras.map numberNamed
  let inlined := d.inlined.map numberNamed
  let usual := usualAliases (firstVariable + nonterminals.size) extras inlined nonterminals
  let nonterminals := nonterminals.map (Variable.withoutUsual usual)
  let depth := 16
  { scanned := d.scanned.toArray.map fun (name, visible) =>
      { name, visibility := if visible then .named else .hidden }
    tokens := met.map (·.entry)
    nonterminals := nonterminals.map fun v =>
      { v with productions :=
          (v.productions.flatMap (inline nonterminals firstVariable inlined depth)).eraseDups }
    separators := d.separators
    extras := extras
    preferred := d.preferred.map fun (first, second) => (numberNamed first, numberNamed second)
    word := numberNamed d.word
    usualAlias := usual }

end SourceOutline.Grammar

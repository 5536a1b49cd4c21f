/-
Rules of a grammar. A rule is an expression over symbols, with alternatives and
repetition, and with remarks that say how an ambiguity is settled (precedence,
associativity), what a part is called (a field) and under which name a node appears
(an alias).

The type of symbols is a parameter. A grammar is written over names and tokens, and
becomes a grammar over numbers once the names are resolved.
-/
import SourceOutline.Grammar.Lexeme

set_option autoImplicit false

namespace SourceOutline.Grammar

/-- The side to which a chain of equal precedence leans. -/
inductive Associativity where
  | neither
  | left
  | right
deriving DecidableEq, Repr

/-- Left is less than right, and neither is less than both. -/
def Associativity.rank : Associativity → Nat
  | neither => 0
  | left => 1
  | right => 2

/-- The name under which a node appears in place of its own. -/
structure Alias where
  name : String
  /-- Whether the name is that of a node, and not the text of a token. -/
  named : Bool
deriving DecidableEq, Repr

/-- A rule over symbols. -/
inductive Rule (α : Type) where
  /-- Nothing. -/
  | blank
  | symbol (value : α)
  | seq (first second : Rule α)
  | choice (first second : Rule α)
  /-- One or more times. -/
  | many1 (part : Rule α)
  /-- A part with a precedence. -/
  | prec (level : Int) (side : Associativity) (part : Rule α)
  /-- A part that counts when two readings of a whole text are weighed. -/
  | weight (level : Int) (part : Rule α)
  | shownAs (name : Alias) (part : Rule α)
  | field (name : String) (part : Rule α)
deriving DecidableEq

/-- A token: its pattern, and what it has to say when several tokens match. -/
structure Token where
  pattern : Lexeme
  /-- Whether the pattern is one fixed text. -/
  literal : Bool := false
  /-- Whether the token has to follow without a gap. -/
  immediate : Bool := false
  precedence : Int := 0
deriving DecidableEq

/-- Of tokens with equal precedence a fixed text is preferred, and then one that
follows without a gap. -/
def Token.implicitPrecedence (token : Token) : Nat :=
  (if token.literal then 2 else 0) + (if token.immediate then 1 else 0)

/-- What a rule is written over: names of other rules, and tokens. A token that is a
fixed text goes by that text. -/
inductive Leaf where
  | name (name : String)
  | token (token : Token) (text : Option String)
deriving DecidableEq

/-- A rule as it is written. -/
abbrev Expression := Rule Leaf

namespace Rule

/-- Replaces the symbols of a rule, from left to right. -/
def traverse {α β : Type} {m : Type → Type} [Monad m] (f : α → m β) : Rule α → m (Rule β)
  | blank => pure blank
  | symbol value => symbol <$> f value
  | seq first second => return seq (← first.traverse f) (← second.traverse f)
  | choice first second => return choice (← first.traverse f) (← second.traverse f)
  | many1 part => many1 <$> part.traverse f
  | prec level side part => prec level side <$> part.traverse f
  | weight level part => weight level <$> part.traverse f
  | shownAs name part => shownAs name <$> part.traverse f
  | field name part => field name <$> part.traverse f

/-- Replaces the symbols of a rule. -/
def map {α β : Type} (f : α → β) (rule : Rule α) : Rule β :=
  Id.run (rule.traverse fun value => pure (f value))

end Rule

/-! ## Writing rules -/

/-- A name stands for the rule of that name. -/
instance : Coe String Expression := ⟨fun name => .symbol (.name name)⟩

/-- The rules of some names. -/
def names (list : List String) : List Expression := list.map fun name => .symbol (.name name)

/-- A fixed text. -/
def literal (text : String) : Expression :=
  .symbol (.token { pattern := .text text, literal := true } (some text))

/-- A token given by its pattern. -/
def token (pattern : Lexeme) : Expression := .symbol (.token { pattern } none)

/-- A token with a precedence among the tokens that match. -/
def rankedToken (precedence : Int) (pattern : Lexeme) : Expression :=
  .symbol (.token { pattern, precedence } none)

/-- A token that follows without a gap. -/
def immediateToken (precedence : Int) (pattern : Lexeme) : Expression :=
  .symbol (.token { pattern, precedence, immediate := true } none)

/-- One after the other. -/
def sequence : List Expression → Expression
  | [] => .blank
  | [part] => part
  | part :: rest => .seq part (sequence rest)

/-- One of several. -/
def oneOf : List Expression → Expression
  | [] => .blank
  | [part] => part
  | part :: rest => .choice part (oneOf rest)

/-- One of several fixed texts. -/
def literals (texts : List String) : Expression := oneOf (texts.map literal)

/-- Once or not at all. -/
def opt (part : Expression) : Expression := .choice part .blank

/-- Any number of times. -/
def many (part : Expression) : Expression := .choice (.many1 part) .blank

/-- One or more, with commas between. -/
def commaSeparated1 (part : Expression) : Expression :=
  .seq part (many (.seq (literal ",") part))

/-- Any number, with commas between. -/
def commaSeparated (part : Expression) : Expression := opt (commaSeparated1 part)

/-- A part under the name of a field. -/
def field (name : String) (part : Expression) : Expression := .field name part

/-- A part that appears as a node of another name. -/
def named (name : String) (part : Expression) : Expression := .shownAs ⟨name, true⟩ part

/-- A part that appears as a token of another text. -/
def spelled (text : String) (part : Expression) : Expression := .shownAs ⟨text, false⟩ part

/-- A part with a precedence. -/
def prec (level : Int) (part : Expression) : Expression := .prec level .neither part

/-- A part with a precedence, leaning to the left. -/
def precLeft (level : Int) (part : Expression) : Expression := .prec level .left part

/-- A part with a precedence, leaning to the right. -/
def precRight (level : Int) (part : Expression) : Expression := .prec level .right part

/-- A part that counts when two readings are weighed. -/
def weighted (level : Int) (part : Expression) : Expression := .weight level part

/-- A named rule. The nodes of a hidden rule do not appear; their children stand in
their place. -/
structure Definition where
  name : String
  hidden : Bool
  rule : Expression

/-- A grammar as it is written. The first definition is the start. -/
structure Description where
  definitions : List Definition
  /-- What may stand in front of any token and belongs to none. -/
  separators : List Lexeme
  /-- Rules that may stand between any two tokens. -/
  extras : List String
  /-- Tokens that a scanner finds, in the order of its answers, and whether they
  appear as nodes. -/
  scanned : List (String × Bool)
  /-- Rules that are put in place of their names. -/
  inlined : List String
  /-- Pairs of rules of which the first is preferred where no precedence tells them
  apart. -/
  preferred : List (String × String) := []
  /-- The rule of the token that all words share. -/
  word : String

end SourceOutline.Grammar

/-
Context-free grammars in plain form: numbered symbols, and for each variable the list
of its productions.

The symbols are numbered in one row. First come the tokens that a scanner finds, then
the end of the text and the end of a construct between tokens, then the tokens with a
pattern, then the variables.
-/
import SourceOutline.Grammar.Rule

set_option autoImplicit false

namespace SourceOutline.Grammar

/-- How the nodes of a symbol appear. -/
inductive Visibility where
  /-- Not at all; its children stand in its place. -/
  | hidden
  /-- Not at all, and only made up to express repetition or a pattern without name. -/
  | auxiliary
  /-- As the text of a token. -/
  | anonymous
  /-- As a node with a name. -/
  | named
deriving DecidableEq, Repr

/-- Whether nodes of that kind appear. -/
def Visibility.isVisible : Visibility → Bool
  | anonymous | named => true
  | hidden | auxiliary => false

/-- One step of a production. -/
structure Step where
  symbol : Nat
  precedence : Option Int := none
  side : Associativity := .neither
  shownAs : Option Alias := none
  field : Option String := none
deriving DecidableEq

/-- One way to make up a variable. -/
structure Production where
  steps : List Step
  weight : Int := 0
deriving DecidableEq

/-- A variable with all the ways to make it up. -/
structure Variable where
  name : String
  visibility : Visibility
  productions : List Production

/-- A token of a grammar, with its name. -/
structure TokenEntry where
  token : Token
  name : String
  visibility : Visibility

/-- A token that a scanner finds. -/
structure ScannedEntry where
  name : String
  visibility : Visibility

end SourceOutline.Grammar

namespace SourceOutline

open Grammar (Alias Lexeme Production ScannedEntry TokenEntry Variable Visibility)

/-- A context-free grammar in plain form. -/
structure Grammar where
  scanned : Array ScannedEntry
  tokens : Array TokenEntry
  nonterminals : Array Variable
  /-- What may stand in front of any token. -/
  separators : List Lexeme
  /-- Symbols that may stand between any two tokens. -/
  extras : List Nat
  /-- Pairs of symbols of which the first is preferred where no precedence tells them
  apart. -/
  preferred : List (Nat × Nat)
  /-- The token that all words share. -/
  word : Nat
  /-- The name of a symbol that appears under another name wherever it is used. -/
  usualAlias : Array (Option Alias)

namespace Grammar

/-- The end of the text. -/
def textEnd (g : Grammar) : Nat := g.scanned.size

/-- The end of a construct that stands between tokens. -/
def extraEnd (g : Grammar) : Nat := g.scanned.size + 1

/-- The first token with a pattern. -/
def firstToken (g : Grammar) : Nat := g.scanned.size + 2

/-- The first variable, which is the number of all tokens too. -/
def firstVariable (g : Grammar) : Nat := g.firstToken + g.tokens.size

/-- The number of symbols. -/
def symbolCount (g : Grammar) : Nat := g.firstVariable + g.nonterminals.size

/-- Whether a symbol is a variable. -/
def isVariable (g : Grammar) (symbol : Nat) : Bool := g.firstVariable ≤ symbol

/-- Whether a symbol is a token with a pattern. -/
def isToken (g : Grammar) (symbol : Nat) : Bool :=
  g.firstToken ≤ symbol && symbol < g.firstVariable

/-- The variable of a symbol. -/
def variableOf? (g : Grammar) (symbol : Nat) : Option Variable :=
  if g.firstVariable ≤ symbol then g.nonterminals[symbol - g.firstVariable]? else none

/-- The token of a symbol. -/
def token? (g : Grammar) (symbol : Nat) : Option TokenEntry :=
  if g.firstToken ≤ symbol then g.tokens[symbol - g.firstToken]? else none

/-- The productions of a symbol. -/
def productionsOf (g : Grammar) (symbol : Nat) : List Production :=
  match g.variableOf? symbol with
  | some entry => entry.productions
  | none => []

/-- How the nodes of a symbol appear, aliases aside. -/
def visibility (g : Grammar) (symbol : Nat) : Visibility :=
  match g.variableOf? symbol, g.token? symbol, g.scanned[symbol]? with
  | some entry, _, _ => entry.visibility
  | none, some entry, _ => entry.visibility
  | none, none, some entry => entry.visibility
  | none, none, none => .hidden

/-- The name of a symbol, aliases aside. -/
def ownName (g : Grammar) (symbol : Nat) : String :=
  match g.variableOf? symbol, g.token? symbol, g.scanned[symbol]? with
  | some entry, _, _ => entry.name
  | none, some entry, _ => entry.name
  | none, none, some entry => entry.name
  | none, none, none => "end"

/-- The alias of a symbol that always has the same one. -/
def usualAlias? (g : Grammar) (symbol : Nat) : Option Alias := (g.usualAlias[symbol]?).join

/-- The name under which the nodes of a symbol appear. -/
def nameOf (g : Grammar) (symbol : Nat) : String :=
  match g.usualAlias? symbol with
  | some shownAs => shownAs.name
  | none => g.ownName symbol

/-- Whether the nodes of a symbol appear. -/
def isVisible (g : Grammar) (symbol : Nat) : Bool :=
  (g.usualAlias? symbol).isSome || (g.visibility symbol).isVisible

/-- Whether a symbol is a variable whose nodes do not appear. -/
def isHiddenVariable (g : Grammar) (symbol : Nat) : Bool :=
  g.isVariable symbol && !(g.visibility symbol).isVisible

end Grammar

end SourceOutline

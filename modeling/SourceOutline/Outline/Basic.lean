/-
An outline: the flat list of items a viewer shows for one source, with what went
wrong while reading it and how it was made.
-/
import SourceOutline.Language
import SourceOutline.Member.Basic

set_option autoImplicit false

namespace SourceOutline

/-! ## Diagnostics and namespace spans -/

/-- Whether something is missing from a source or cannot be read. -/
inductive Fault where
  /-- A token the source leaves out. -/
  | missing (token : String)
  /-- A stretch of text that fits nowhere. -/
  | unreadable
deriving DecidableEq, Repr

/-- A remark on one place of a source. -/
structure Diagnostic where
  line : Nat
  column : Nat
  message : String
  /-- The class of the remark, in one word. -/
  category : String
deriving DecidableEq, Repr

/-- The remark a fault gives rise to. -/
def Fault.at (fault : Fault) (line column : Nat) : Diagnostic :=
  match fault with
  | .missing token => ⟨line, column, "Missing: " ++ token, "missing"⟩
  | .unreadable => ⟨line, column, "Syntax error at: ERROR", "error"⟩

/-- The lines over which a namespace reaches. -/
structure NamespaceSpan where
  namespaces : List String
  startLine : Nat
  endLine : Nat
deriving DecidableEq, Repr

/-- A span covers the lines after the one that opens it. -/
def NamespaceSpan.covers (span : NamespaceSpan) (line : Nat) : Bool :=
  span.startLine < line && line ≤ span.endLine

/-! ## Items -/

/-- One row of an outline. -/
structure Item where
  id : String
  kind : Kind
  title : String
  name : String
  /-- The ancestry, rendered. -/
  parentPath : String
  isPublic : Bool
  startLine : Nat
  endLine : Option Nat
  column : Nat
  /-- The number of enclosing types. -/
  depth : Nat
  colorTag : Option String
  region : Option Marker
deriving DecidableEq, Repr

/-- The row for an entry. -/
def Entry.item (entry : Entry) : Item where
  id := entry.id
  kind := entry.kind
  title := entry.title
  name := entry.name
  parentPath := entry.parent.render
  isPublic := entry.isPublic
  startLine := entry.startLine
  endLine := entry.endLine
  column := entry.column
  depth := entry.parent.depth
  colorTag := entry.colorTag
  region := entry.region

/-! ## Outlines -/

/-- The version of the tool, written into every outline. -/
def toolVersion : String := "0.1.0"

/-- How an outline was made. -/
structure Metadata where
  durationMs : Nat := 0
  timestamp : String
  toolVersion : String := SourceOutline.toolVersion
deriving DecidableEq, Repr

/-- The outline of one source. -/
structure Outline where
  /-- Where the source came from, unless it was given as text. -/
  path : Option String
  language : Language
  totalLines : Nat
  items : List Item
  errors : List Diagnostic
  /-- How many attempts it took. -/
  attempts : Nat
  metadata : Metadata
deriving DecidableEq, Repr

/-- What the source is called in a listing. -/
def Outline.sourceName (outline : Outline) : String :=
  outline.path.getD "<text>"

/-- Whether the source had faults. -/
def Outline.hasErrors (outline : Outline) : Bool :=
  !outline.errors.isEmpty

/-- The answer to a request for an outline. -/
inductive Outcome where
  | ready (outline : Outline)
  /-- No language goes with the extension. -/
  | unsupported (extension : String)
  /-- Every attempt failed; the message is that of the last. -/
  | failed (message : String) (attempts : Nat)

end SourceOutline

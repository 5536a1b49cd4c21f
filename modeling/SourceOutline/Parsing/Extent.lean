/-
How far a stretch of text reaches: in bytes, in lines, and on its last line. Extents
are added as the stretches follow each other, so the place of anything in a text is the
sum of what stands before it.
-/

set_option autoImplicit false

namespace SourceOutline.Parsing

/-- The reach of a stretch of text. -/
structure Extent where
  bytes : Nat := 0
  /-- Line breaks. -/
  rows : Nat := 0
  /-- Bytes after the last line break. -/
  columns : Nat := 0
deriving DecidableEq, Repr

namespace Extent

/-- One stretch and another after it. -/
def append (a b : Extent) : Extent where
  bytes := a.bytes + b.bytes
  rows := a.rows + b.rows
  columns := if b.rows = 0 then a.columns + b.columns else b.columns

instance : Add Extent := ⟨append⟩

/-- What lies between two places, the first of which is not behind the second. -/
def between (first second : Extent) : Extent where
  bytes := second.bytes - first.bytes
  rows := second.rows - first.rows
  columns := if first.rows < second.rows then second.columns
    else second.columns - first.columns

/-- The place behind one more character. -/
def after (place : Extent) (c : Char) : Extent :=
  if c = '\n' then ⟨place.bytes + 1, place.rows + 1, 0⟩
  else ⟨place.bytes + c.utf8Size, place.rows, place.columns + c.utf8Size⟩

end Extent

end SourceOutline.Parsing

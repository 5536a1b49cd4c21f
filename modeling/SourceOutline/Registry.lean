/-
Which language goes with which file extension. Extensions are compared without
the blanks around them, without the full stops before them and without regard to
case; `normalizeExtension` is that comparison made into a function.
-/
import SourceOutline.Dictionary
import SourceOutline.Language
import SourceOutline.Text.LowerCase

set_option autoImplicit false

namespace SourceOutline

/-- An extension without the blanks around it and the full stops before it. -/
def bareExtension (extension : String) : String :=
  String.ofList ((Text.trim extension.toList).dropWhile (· == '.'))

/-- The form under which extensions are compared. -/
def normalizeExtension (extension : String) : String :=
  Text.lower (bareExtension extension)

/-- The languages by normalized extension. -/
structure Registry where
  languages : Dictionary Language := .empty

namespace Registry

/-- The registry without entries. -/
def empty : Registry := {}

/-- Binds an extension to a language, instead of the one it is bound to. -/
def register (registry : Registry) (extension : String) (language : Language) : Registry where
  languages := registry.languages.insert (normalizeExtension extension) language

/-- The language of an extension. -/
def resolve (registry : Registry) (extension : String) : Option Language :=
  registry.languages.find? (normalizeExtension extension)

/-- Binds extensions to languages, one after the other. -/
def registerAll (registry : Registry) (bindings : List (String × Language)) : Registry :=
  bindings.foldl (fun registry binding => registry.register binding.1 binding.2) registry

/-- The extensions every installation knows. -/
def standard : Registry :=
  empty.registerAll
    [("cs", .csharp), ("razor", .razor), ("py", .python), ("pyw", .python), ("pyi", .python),
     ("js", .javascript), ("mjs", .javascript), ("cjs", .javascript), ("jsx", .javascript),
     ("ts", .typescript), ("mts", .typescript), ("cts", .typescript), ("tsx", .typescript),
     ("css", .css)]

end Registry

end SourceOutline

/-
The source languages an outline can be made for, with the two names each of them
has: one for people, one for files.
-/

set_option autoImplicit false

namespace SourceOutline

/-- A supported source language. -/
inductive Language where
  | csharp
  | razor
  | python
  | javascript
  | typescript
  | css
deriving DecidableEq, Repr

namespace Language

/-- Every language, once. -/
def all : List Language :=
  [csharp, razor, python, javascript, typescript, css]

/-- The name shown to people. -/
def displayName : Language → String
  | csharp => "C#"
  | razor => "Razor"
  | python => "Python"
  | javascript => "JavaScript"
  | typescript => "TypeScript"
  | css => "CSS"

/-- The name written to files. -/
def key : Language → String
  | csharp => "csharp"
  | razor => "razor"
  | python => "python"
  | javascript => "javascript"
  | typescript => "typescript"
  | css => "css"

/-- The language with a given name on file. -/
def ofKey? (key : String) : Option Language :=
  all.find? (fun language => language.key == key)

end Language

end SourceOutline

/-
Nesting. A mapper lists nested containers side by side with those around them;
here each is moved under the container whose child path is its ancestry. Nothing
is lost and nothing is copied: entries only change place.

The pool holds the containers that still wait for their owner. A container takes
its own out of the pool before these take theirs, so the pool shrinks at every
level, and its length bounds the depth.
-/
import SourceOutline.Member.Basic

set_option autoImplicit false

namespace SourceOutline

/-- Lets members take their own out of the pool, one after the other. -/
def adoptEach (adopt : Member → Forest → Member × Forest) : Forest → Forest → Forest × Forest
  | [], pool => ([], pool)
  | member :: rest, pool =>
    let (member, pool) := adopt member pool
    let (rest, pool) := adoptEach adopt rest pool
    (member :: rest, pool)

/-- Lets a container take its own out of the pool, down to a given depth. Gives back
the container and what is left of the pool. -/
def adopt : Nat → Member → Forest → Member × Forest
  | 0, parent, pool => (parent, pool)
  | depth + 1, parent, pool =>
    if parent.isContainer && !pool.isEmpty then
      let path := parent.entry.childPath
      let (mine, rest) := pool.partition fun member => member.entry.parent == path
      if mine.isEmpty then (parent, rest)
      else
        let (mine, rest) := adoptEach (adopt depth) mine rest
        (.node parent.entry (Forest.sortByLine (parent.children ++ mine)), rest)
    else (parent, pool)

/-- The child paths of the containers of a forest. -/
def Forest.owners (forest : Forest) : List Ancestry :=
  (forest.filter Member.isContainer).map fun member => member.entry.childPath

/-- The forest with every container under its owner, in the order of lines. -/
def Forest.nest (forest : Forest) : Forest :=
  let owners := forest.owners
  let (pool, roots) := forest.partition fun member =>
    member.isContainer && owners.contains member.entry.parent
  let (roots, pool) := adoptEach (adopt (pool.length + 1)) roots pool
  Forest.sortByLine (roots ++ pool)

end SourceOutline

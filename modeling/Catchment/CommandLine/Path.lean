/-!
# `Catchment.CommandLine.Path`: the plain form of a path

Different paths may lead the same way: a slash may be doubled, and a point stands
for where one is already. The plain form of a path has neither. What leads upward
stays, for it depends on the files which way it leads.

* `Path.plain`: the plain form of a path.
-/

set_option autoImplicit false

namespace Catchment

namespace Path

/-- The names along a path. -/
def names (cs : List Char) : List (List Char) :=
  (cs.splitOn '/').filter fun part => part ≠ [] ∧ part ≠ ['.']

/-- The slashes in front of a plain path. Two are kept, since they may lead elsewhere than one
does; more are as good as one. -/
def root (cs : List Char) : String :=
  match (cs.takeWhile (· == '/')).length with
  | 0 => ""
  | 2 => "//"
  | _ => "/"

/-- The plain form of a path. A path that leads nowhere is a point. -/
def plain (path : String) : String :=
  let cs := path.toList
  let text := root cs ++ "/".intercalate ((names cs).map String.ofList)
  if text = "" then "." else text

end Path

end Catchment

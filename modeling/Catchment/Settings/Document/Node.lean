import Catchment.Settings.Document.Mark

/-!
# `Catchment.Settings.Document.Node`: values as they are written

The marks of a text are put together to the one value that is written there. A
collection by indentation and one within brackets differ in their marks and not in
their values. A name, an item or a content that is left out is a word of no
characters.

* `Node.read`: the value at the front of a row of marks.
* `Node.ofMarks`: the value of a whole text.
-/

set_option autoImplicit false

namespace Catchment

namespace Document

/-- A value as it is written. -/
inductive Node where
  /-- A word without quotes. -/
  | word (text : String)
  | quoted (text : CodeText)
  | list (items : List Node)
  | mapping (entries : List (Node × Node))
deriving Inhabited

/-- Reading marks off the front of a row of them. -/
abbrev Marking (α : Type) := StateT (List Mark) (Except DocumentError) α

namespace Marking

/-- The next mark, which stays. Behind the settled marks of a text there is nothing but what is
wrong with it. -/
def peek (error : DocumentError) : Marking Mark := fun marks =>
  match marks with
  | [] => .error error
  | m :: _ => .ok (m, marks)

/-- Takes the next mark away. -/
def drop : Marking Unit := fun marks => .ok ((), marks.drop 1)

/-- What is wrong with the marks themselves. -/
def refuse {α : Type} : Marking α := fun _ => .error .malformed

/-- Takes a mark away, if it is the next. -/
def accept (mark : Mark) (error : DocumentError) : Marking Bool := do
  let next ← peek error
  if next = mark then
    drop
    return true
  else return false

/-- Takes a mark away that must be the next. -/
def demand (mark : Mark) (error : DocumentError) : Marking Unit := do
  if ← accept mark error then return () else refuse

end Marking

namespace Node

open Marking

/-- What nothing written stands for. -/
def nothing : Node := .word ""

/-- The marks in front of which an item of an indented list is left out. The end of a list right
below a name is not marked. -/
def itemEnds (marked : Bool) : List Mark :=
  if marked then [.dash, .outdent] else [.dash, .name, .colon, .outdent]

/-- The marks in front of which a name or content in an indented mapping is left out. -/
def entryEnds : List Mark := [.name, .colon, .outdent]

/-- The value of an item within brackets, by what stands in front of its colon and behind it, if
there is one. -/
def ofItem : Node × Option Node → Node
  | (first, none) => first
  | (first, some content) => .mapping [(first, content)]

/-- The collection of what stands within brackets. -/
def ofItems : Form → List (Node × Option Node) → Node
  | .list, items => .list (items.map ofItem)
  | .mapping, items => .mapping (items.map fun (first, content) => (first, content.getD nothing))

mutual

/-- The value at the front of a row of marks. Collections by indentation stand only where they may
be `indented`, and a list whose end is not marked only right `below` a name. -/
def read (error : DocumentError) (indented below : Bool) (fuel : Nat) : Marking Node :=
  match fuel with
  | 0 => refuse
  | fuel + 1 => do
    match ← peek error with
    | .word text =>
      drop
      return .word text
    | .quoted text =>
      drop
      return .quoted text
    | .opening form =>
      drop
      return ofItems form (← readWithin error form true fuel)
    | .indent form =>
      drop
      if !indented then refuse
      else
        match form with
        | .list => return .list (← readItems error true fuel)
        | .mapping => return .mapping (← readEntries error fuel)
    | .dash => if below then return .list (← readItems error false fuel) else refuse
    | _ => refuse
termination_by structural fuel

/-- A value that is left out if one of some marks comes next. -/
def readUnless (error : DocumentError) (ends : List Mark) (indented below : Bool) (fuel : Nat) :
    Marking Node :=
  match fuel with
  | 0 => refuse
  | fuel + 1 => do
    if ends.contains (← peek error) then return nothing else read error indented below fuel
termination_by structural fuel

/-- The items of an indented list. -/
def readItems (error : DocumentError) (marked : Bool) (fuel : Nat) : Marking (List Node) :=
  match fuel with
  | 0 => refuse
  | fuel + 1 => do
    if ← accept .dash error then
      let item ← readUnless error (itemEnds marked) true false fuel
      return item :: (← readItems error marked fuel)
    else
      if marked then demand .outdent error
      return []
termination_by structural fuel

/-- The entries of an indented mapping. -/
def readEntries (error : DocumentError) (fuel : Nat) : Marking (List (Node × Node)) :=
  match fuel with
  | 0 => refuse
  | fuel + 1 => do
    if ← accept .name error then
      let key ← readUnless error entryEnds true true fuel
      let content ← readContent error entryEnds true fuel
      return (key, content) :: (← readEntries error fuel)
    else
      demand .outdent error
      return []
termination_by structural fuel

/-- What stands behind a name: a colon and a value, or nothing. -/
def readContent (error : DocumentError) (ends : List Mark) (indented : Bool) (fuel : Nat) :
    Marking Node :=
  match fuel with
  | 0 => refuse
  | fuel + 1 => do
    if ← accept .colon error then readUnless error ends indented indented fuel else return nothing
termination_by structural fuel

/-- The items within brackets. A comma stands in front of each but the first, and may stand behind
the last. -/
def readWithin (error : DocumentError) (form : Form) (first : Bool) (fuel : Nat) :
    Marking (List (Node × Option Node)) :=
  match fuel with
  | 0 => refuse
  | fuel + 1 => do
    if ← accept (.closing form) error then return []
    if !first then demand .comma error
    if ← accept .name error then
      let key ← readUnless error [.colon, .comma, .closing form] false false fuel
      let content ← readContent error [.comma, .closing form] false fuel
      return (key, some content) :: (← readWithin error form false fuel)
    else if ← accept (.closing form) error then return []
    else
      let item ← read error false false fuel
      return (item, none) :: (← readWithin error form false fuel)
termination_by structural fuel

end

/-- The directives at the front of a row of marks. -/
def directives : List Mark → List Directive
  | .directive d :: rest => d :: directives rest
  | _ => []

/-- The start of a document that is marked: directives and a marker. -/
def readStart (error : DocumentError) : Marking Unit := do
  let ds := directives (← get)
  if Directive.allowed ds then
    modify (·.drop ds.length)
    demand .documentStart error
  else refuse

/-- Whether a mark starts or ends a document. -/
def isOutermost : Mark → Bool
  | .directive _ | .documentStart | .documentEnd | .textEnd => true
  | _ => false

/-- The end of a text. There may be several markers that end a document, and no further
document. -/
def readEnd (error : DocumentError) (fuel : Nat) : Marking Unit :=
  match fuel with
  | 0 => refuse
  | fuel + 1 => do
    match ← peek error with
    | .textEnd => return ()
    | .documentEnd =>
      drop
      readEnd error fuel
    | _ =>
      readStart error
      refuse

/-- The value of a whole text. It holds one document, or nothing. -/
def readAll (error : DocumentError) (fuel : Nat) : Marking Node := do
  let node ←
    match ← peek error with
    | .textEnd => return nothing
    | .directive _ | .documentStart =>
      readStart error
      if isOutermost (← peek error) then pure nothing else read error true false fuel
    | _ => read error true false fuel
  readEnd error fuel
  return node

/-- The value of a whole text. -/
def ofMarks (text : Marks) : Except DocumentError Node :=
  (readAll text.error (3 * text.marks.length + 3)).run' text.marks

end Node

end Document

end Catchment

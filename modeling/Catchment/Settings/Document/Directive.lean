import Catchment.Settings.Document.Word
import Catchment.Settings.Scalar

/-!
# `Catchment.Settings.Document.Directive`: lines that say how to read a document

In front of a document lines may stand that start with a percent sign. One kind
gives the version of the notation, in two numbers that must not be too long. The
first must be one, and the line may stand once. Another kind gives a short form for
the names of types, each short form once. Any other kind has no effect.

* `Place.directive`: the directive in a line.
* `Directive.allowed`: whether directives may stand together.
-/

set_option autoImplicit false

namespace Catchment

namespace Document

/-- A line that says how to read a document. -/
inductive Directive where
  /-- The version of the notation, by its first number. -/
  | version (series : Nat)
  /-- A short form for the names of types. -/
  | shortForm (handle : List Char)
  | other
deriving DecidableEq, Repr

/-- Whether directives may stand together. -/
def Directive.allowed : List Directive → Bool
  | [] => true
  | .version series :: rest =>
    series == 1 && rest.all (fun d => match d with | .version _ => false | _ => true) &&
      allowed rest
  | .shortForm handle :: rest => !rest.contains (.shortForm handle) && allowed rest
  | .other :: rest => allowed rest

/-- Whether a character may be part of the name of a directive. -/
def isNameChar (c : Char) : Bool := c.isAlphanum || c == '-' || c == '_'

/-- Whether a character may be part of the name of a resource. -/
def isResourceChar (c : Char) : Bool := c.isAlphanum || "-;/?:@&=+$,_.!~*'()[]%".toList.contains c

namespace Place

/-- Characters of a kind at a place, at least one, and where they end. -/
def someOf (kind : Char → Bool) (p : Place) : Except DocumentError (List Char × Place) := do
  let cs := p.rest.takeWhile kind
  let q ← (p.skip cs.length).seen
  if cs.isEmpty then .error .malformed else return (cs, q)

/-- The place behind a character that must be next. -/
def behind (c : Char) (p : Place) : Except DocumentError Place := do
  let p ← p.seen
  if p.rest.head? == some c then p.next.seen else .error .malformed

/-- The place behind spaces. -/
def pastSpaces (p : Place) : Place := p.skipWhile (· == ' ')

/-- The place where a line must end or go on with a space. -/
def atSpace (p : Place) : Except DocumentError Place := do
  let p ← p.seen
  if p.rest.head? == some ' ' || p.rest.isEmpty || p.break?.isSome then return p
  else .error .malformed

/-- The number in decimal digits at a place, and where it ends. -/
def number (p : Place) : Except DocumentError (Nat × Place) := do
  let (digits, q) ← p.someOf Char.isDigit
  return (← Scalar.decimal digits, q)

/-- The version at a place: two numbers with a point between them. -/
def version (p : Place) : Except DocumentError (Directive × Place) := do
  let (series, q) ← p.pastSpaces.number
  let (_, r) ← (← q.behind '.').number
  return (.version series, ← r.atSpace)

/-- The short form at a place: one or two exclamation marks with a name between them. -/
def handle (p : Place) : Except DocumentError (List Char × Place) := do
  let q ← p.behind '!'
  if q.rest.head? == some ' ' then return (['!'], q)
  else
    let name := q.rest.takeWhile isNameChar
    return ('!' :: name ++ ['!'], ← (q.skip name.length).behind '!')

/-- The place behind the name of a resource. In it a percent sign announces a byte in two
hexadecimal digits, and bytes that follow one another must encode characters. The bytes of the row
that has not ended come first, the latest in front. -/
def pastResource (bytes : List UInt8) (p : Place) : Nat → Except DocumentError Place
  | 0 => .error .malformed
  | fuel + 1 => do
    let p ← p.seen
    if p.rest.head? == some '%' then
      let (byte, q) ← p.next.hexNumber 2
      q.pastResource (byte.toUInt8 :: bytes) fuel
    else if (String.fromUTF8? ⟨bytes.reverse.toArray⟩).isNone then .error .malformed
    else if p.rest.head?.any isResourceChar then p.next.pastResource [] fuel
    else return p

/-- The short form at a place and the name of the resource that it stands for. -/
def shortForm (p : Place) : Except DocumentError (Directive × Place) := do
  let (handle, q) ← p.pastSpaces.handle
  let r := (← q.behind ' ').pastSpaces
  let s ← r.pastResource [] (r.rest.length + 1)
  if s.index = r.index then .error .malformed else return (.shortForm handle, ← s.atSpace)

/-- The directive behind a percent sign, and the line behind it. -/
def directive (p : Place) : Except DocumentError (Directive × Place) := do
  let (name, q) ← p.next.someOf isNameChar
  let q ← q.atSpace
  let (d, r) ← match String.ofList name with
    | "YAML" => q.version
    | "TAG" => q.shortForm
    | _ => .ok (.other, q.skipWhile (fun c => !isBreak c))
  let s ← r.pastComment.seen
  if s.rest.isEmpty || s.break?.isSome then return (d, ← s.next.seen) else .error .malformed

end Place

end Document

end Catchment

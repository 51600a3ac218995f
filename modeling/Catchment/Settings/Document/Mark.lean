import Catchment.Settings.Document.Directive

/-!
# `Catchment.Settings.Document.Mark`: what the text of a document is made of

The text of a document falls into marks: scalars, the signs around and between
them, and the places where a list or a mapping by indentation starts and ends.

That something is a name is known only when the colon behind it is read, so the
reader remembers what may yet turn out to be one: a `Candidate`. The colon must
stand in the same line and not too far behind. What starts at the column of a
mapping must be a name.

Where a text breaks the rules or cannot be read the reader stops. The marks up to the first thing
that may yet turn out to be a name are settled by then, the others are not.

* `Reader.step`: reads the next mark.
* `Marks.ofText`: the settled marks of a text, and what ended the reading.
-/

set_option autoImplicit false

namespace Catchment

namespace Document

/-- The two forms of collections. -/
inductive Form where
  | list | mapping
deriving DecidableEq, Repr

/-- What the text of a document is made of. -/
inductive Mark where
  | directive (d : Directive)
  | documentStart
  | documentEnd
  /-- A collection by indentation starts. -/
  | indent (form : Form)
  /-- A collection by indentation ends. -/
  | outdent
  /-- A bracket that opens a collection. -/
  | opening (form : Form)
  /-- A bracket that closes a collection. -/
  | closing (form : Form)
  | comma
  /-- A dash in front of an item of a list. -/
  | dash
  /-- What follows is a name. -/
  | name
  /-- A colon behind a name. -/
  | colon
  /-- A word without quotes. -/
  | word (text : String)
  /-- A text in quotes. -/
  | quoted (text : CodeText)
  | textEnd
deriving DecidableEq, Repr

/-- Something that may turn out to be a name. -/
structure Candidate where
  /-- How many marks are in front of it. -/
  number : Nat
  /-- Where it starts. -/
  index : Nat
  line : Nat
  column : Nat
  /-- Whether it must be a name. -/
  required : Bool

/-- The largest distance between the start of a name and its colon. -/
def longestName : Nat := 1024

/-- How far a text has been read. -/
structure Reader where
  place : Place
  /-- The marks that have been read, the latest first. -/
  marks : List Mark
  /-- The columns of the collections by indentation that have not ended, the innermost first. -/
  columns : List Nat
  /-- What may be a name outside of all brackets and within each open one, the innermost first. -/
  candidates : List (Option Candidate)
  /-- Whether a name may start here. -/
  fresh : Bool

namespace Reader

/-- A reader at the start of a text. -/
def start (text : Readable) : Reader := ⟨.start text, [], [], [none], true⟩

/-- Whether the reader is within brackets. -/
def inner (r : Reader) : Bool := 1 < r.candidates.length

/-- Whether the colon behind a candidate cannot come any more. -/
def isLost (r : Reader) (c : Candidate) : Bool :=
  c.line != r.place.line || longestName < r.place.index - c.index

/-- The reader without candidates for which it is too late. -/
def forgetLost (r : Reader) : Except DocumentError Reader :=
  let lost (c : Candidate) : Bool := r.isLost c
  if r.candidates.any (fun c => c.any fun c => lost c && c.required) then .error .malformed
  else .ok { r with candidates := r.candidates.map (·.filter fun c => !lost c) }

/-- The candidate outside of all brackets, or within the innermost. -/
def candidate? (r : Reader) : Option Candidate := r.candidates.head?.join

/-- The reader with another candidate at its level. -/
def setCandidate (r : Reader) (c : Option Candidate) : Reader :=
  { r with candidates := c :: r.candidates.tail }

/-- The reader without the candidate of its level, which must not be required. -/
def forget (r : Reader) : Except DocumentError Reader :=
  if r.candidate?.any (·.required) then .error .malformed else .ok (r.setCandidate none)

/-- The reader with a candidate at its place, if a name may start there. -/
def expect (r : Reader) : Except DocumentError Reader :=
  if r.fresh then do
    let forgotten ← r.forget
    let p := r.place
    let required := !r.inner && r.columns.head? == some p.column
    return forgotten.setCandidate (some ⟨r.marks.length, p.index, p.line, p.column, required⟩)
  else .ok r

/-- The reader with further marks. -/
def push (r : Reader) (marks : List Mark) : Reader := { r with marks := marks.reverse ++ r.marks }

/-- The reader with marks put in behind so many. -/
def pushBehind (r : Reader) (number : Nat) (marks : List Mark) : Reader :=
  let late := r.marks.take (r.marks.length - number)
  { r with marks := late ++ marks.reverse ++ r.marks.drop late.length }

/-- The reader with all collections ended that are further in than a column. Within brackets
indentation has no meaning. -/
def outdent (r : Reader) (further : Nat → Bool) : Reader :=
  if r.inner then r
  else
    let ended := r.columns.takeWhile further
    { (r.push (ended.map fun _ => .outdent)) with columns := r.columns.drop ended.length }

/-- The mark of a collection that starts at a column, if one does. -/
def starting (r : Reader) (column : Nat) (form : Form) : List Mark :=
  if r.inner || r.columns.head?.any (column ≤ ·) then [] else [.indent form]

/-- The reader with a collection at a column, if one starts there. -/
def deepen (r : Reader) (column : Nat) : Reader :=
  if r.inner || r.columns.head?.any (column ≤ ·) then r
  else { r with columns := column :: r.columns }

/-- The reader behind the sign at its place, with the marks of that sign. -/
def sign (r : Reader) (marks : List Mark) (fresh : Bool) : Except DocumentError Reader := do
  let p ← r.place.next.seen
  return { (r.push marks) with place := p, fresh := fresh }

/-- Reads a sign that stands at the start of a line, outside of all collections. -/
def outermost (r : Reader) (mark : Mark) (p : Place) : Except DocumentError Reader := do
  let closed ← (r.outdent fun _ => true).forget
  return { (closed.push [mark]) with place := p, fresh := false }

/-- Reads a bracket that opens a collection. -/
def openBracket (r : Reader) (form : Form) : Except DocumentError Reader := do
  let expected ← r.expect
  let opened := { expected with candidates := none :: expected.candidates }
  opened.sign [.opening form] true

/-- Reads a bracket that closes a collection. -/
def closeBracket (r : Reader) (form : Form) : Except DocumentError Reader := do
  let forgotten ← r.forget
  let closed ← forgotten.sign [.closing form] false
  if r.inner then return { closed with candidates := closed.candidates.tail }
  else .error .malformed

/-- Reads a sign in front of an item or a name. Outside of brackets it may start a collection, and
stands only where a name may stand. -/
def leading (r : Reader) (mark : Mark) (form : Form) (fresh : Bool) :
    Except DocumentError Reader := do
  if !r.inner && !r.fresh then .error .malformed
  else
    let forgotten ← r.forget
    let column := r.place.column
    (forgotten.deepen column).sign (r.starting column form ++ [mark]) fresh

/-- Reads a colon. What may be a name in front of it is one now. -/
def colon (r : Reader) : Except DocumentError Reader :=
  match r.candidate? with
  | some c =>
    let named :=
      (r.setCandidate none).pushBehind c.number (r.starting c.column .mapping ++ [.name])
    (named.deepen c.column).sign [.colon] false
  | none => r.leading .colon .mapping (!r.inner)

/-- Reads a text in quotes. -/
def quoted (r : Reader) (quote : Char) : Except DocumentError Reader := do
  let expected ← r.expect
  let (text, p) ← r.place.quoted quote
  return { (expected.push [.quoted text]) with place := p, fresh := false }

/-- Reads a word without quotes. -/
def word (r : Reader) : Except DocumentError Reader := do
  let expected ← r.expect
  let indent := (r.columns.head?.map (· + 1)).getD 0
  let (text, p, ended) ← r.place.word r.inner indent
  return { (expected.push [.word text]) with place := p, fresh := ended }

/-- The reader at the next thing in the text. -/
def advance (r : Reader) : Except DocumentError Reader := do
  let p ← r.place.pastBlanks.seen
  let there := { r with place := p, fresh := r.fresh || (!r.inner && r.place.line != p.line) }
  let kept ← there.forgetLost
  return kept.outdent (p.column < ·)

/-- The document marker at the reader's place. One stands only at the start of a line. -/
def marker? (r : Reader) : Except DocumentError (Option Mark) := do
  let p := r.place
  if p.column != 0 then return none
  else match p.rest.head? with
    | some '-' => return if ← p.atStart then some .documentStart else none
    | some '.' => return if ← p.atEnd then some .documentEnd else none
    | _ => return none

/-- Reads what is announced by a character, or by it and the characters behind it. -/
def announced (r : Reader) (c : Char) (cs : List Char) : Except DocumentError Reader :=
  if c == '[' then r.openBracket .list
  else if c == '\x7b' then r.openBracket .mapping
  else if c == ']' then r.closeBracket .list
  else if c == '\x7d' then r.closeBracket .mapping
  else if c == ',' then do (← r.forget).sign [.comma] true
  else if c == '\'' || c == '"' then r.quoted c
  else if startsWord c then r.word
  else do
    let _ ← r.place.look 1
    if c == '-' && blankFirst cs then r.leading .dash .list true
    else if c == '?' && (r.inner || blankFirst cs) then r.leading .name .mapping (!r.inner)
    else if c == ':' && (r.inner || blankFirst cs) then r.colon
    else if c == '-' || c == '?' || c == ':' then r.word
    else .error .malformed

/-- Reads the next mark. -/
def step (r : Reader) : Except DocumentError Reader := do
  let r ← r.advance
  match r.place.rest with
  | [] =>
    let closed ← (r.outdent fun _ => true).forget
    return closed.push [.textEnd]
  | c :: cs =>
    if c == '%' && r.place.column == 0 then
      let (d, p) ← r.place.directive
      r.outermost (.directive d) p
    else match ← r.marker? with
      | some mark => r.outermost mark (r.place.skip 3)
      | none => r.announced c cs

end Reader

/-- The settled marks of a text, and what is wrong with the text behind them. -/
structure Marks where
  marks : List Mark
  error : DocumentError

namespace Reader

/-- What an error leaves: the marks in front of everything that may yet turn out to be a name. -/
def stopped (r : Reader) (error : DocumentError) : Marks :=
  let unsettled := r.candidates.filterMap (·.map (·.number))
  ⟨r.marks.reverse.take (unsettled.foldl min r.marks.length), error⟩

/-- Reads a number of marks at most. -/
def readAll (r : Reader) : Nat → Marks
  | 0 => r.stopped .malformed
  | fuel + 1 =>
    match r.forgetLost with
    | .error e => r.stopped e
    | .ok r =>
      match r.step with
      | .error e => r.stopped e
      | .ok s =>
        if s.marks.head? == some .textEnd then ⟨s.marks.reverse, .malformed⟩
        else s.readAll fuel

end Reader

/-- The marks of a text. -/
def Marks.ofText (text : Readable) : Marks := (Reader.start text).readAll (text.chars.length + 1)

end Document

end Catchment

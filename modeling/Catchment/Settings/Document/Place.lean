import Catchment.Settings.Document.Readable

/-!
# `Catchment.Settings.Document.Place`: places in the text of a document

A document is read from its first character to its last. A `Place` is where a
reader is: the rest of the text, how many characters are in front of it, and the
line and column at which it starts. Four characters end a line. Two of them count
as an ordinary line end, and the other two stand for themselves.

Behind the rest there is either nothing or something wrong, and a reader meets it when
it looks there.

* `Place.next`, `Place.skip`: the places further on.
* `Place.look`, `Place.seen`: a place once characters there have been looked at.
* `Place.atMarker`: whether a document starts or ends here.
* `Place.pastBlanks`: the place of the next thing in the text.
-/

set_option autoImplicit false

namespace Catchment

namespace Document

/-- Whether a character ends a line. -/
def isBreak (c : Char) : Bool := c == '\n' || c == '\u0085' || c == '\u2028' || c == '\u2029'

/-- The character that the end of a line stands for. -/
def breakText (c : Char) : Char := if c == '\u0085' then '\n' else c

/-- Whether a character is a space or a tab. -/
def isGap (c : Char) : Bool := c == ' ' || c == '\t'

/-- Whether a list of characters is at its end or goes on with a blank or a line end. -/
def blankFirst : List Char → Bool
  | [] => true
  | c :: _ => isGap c || isBreak c

/-- The mark of byte order, which takes no room in a line. -/
def byteOrderMark : Char := '\uFEFF'

/-- Where a reader is in a text. -/
structure Place where
  rest : List Char
  /-- How many characters are in front of the rest. -/
  index : Nat
  line : Nat
  column : Nat
  /-- What is wrong with the text behind the rest. -/
  fault : Option DocumentError

namespace Place

/-- The place at the start of a text. -/
def start (text : Readable) : Place := ⟨text.chars, 0, 0, 0, text.fault⟩

/-- The place behind the next character. -/
def next (p : Place) : Place :=
  match p.rest with
  | [] => p
  | c :: cs =>
    let q := { p with rest := cs, index := p.index + 1 }
    if isBreak c then { q with line := p.line + 1, column := 0 }
    else if c == byteOrderMark then q
    else { q with column := p.column + 1 }

/-- The place a number of characters further on. -/
def skip (p : Place) : Nat → Place
  | 0 => p
  | n + 1 => p.next.skip n

/-- The place behind all characters of a kind. -/
def skipWhile (p : Place) (kind : Char → Bool) : Place := p.skip (p.rest.takeWhile kind).length

/-- The character at a place, if it ends a line. -/
def break? (p : Place) : Option Char := p.rest.head?.filter isBreak

/-- The place, once the character so many further on has been looked at, or the end of the
text. -/
def look (p : Place) (further : Nat) : Except DocumentError Place :=
  match p.fault with
  | some error => if (p.rest.drop further).isEmpty then .error error else .ok p
  | none => .ok p

/-- The place, once its character has been looked at, or the end of the text. -/
def seen (p : Place) : Except DocumentError Place := p.look 0

/-- Whether a document marker of three equal signs starts here. -/
def atMarker (p : Place) (sign : Char) : Except DocumentError Bool := do
  let p ← p.look 2
  if (List.replicate 3 sign).isPrefixOf p.rest then
    let p ← p.look 3
    return blankFirst (p.rest.drop 3)
  else return false

/-- Whether a document starts here. -/
def atStart (p : Place) : Except DocumentError Bool := p.atMarker '-'

/-- Whether a document ends here. -/
def atEnd (p : Place) : Except DocumentError Bool := p.atMarker '.'

/-- Whether a document starts or ends here. -/
def atEither (p : Place) : Except DocumentError Bool := do return (← p.atStart) || (← p.atEnd)

/-- The place behind spaces and, if there is one, a comment. -/
def pastComment (p : Place) : Place :=
  let q := p.skipWhile (· == ' ')
  if q.rest.head? == some '#' then q.skipWhile (fun c => !isBreak c) else q

/-- The place of the next thing in the text: behind spaces, comments and line ends. -/
def pastBlanks (p : Place) : Place :=
  let first := if p.index = 0 && p.rest.head? == some byteOrderMark then p.next else p
  go first first.rest.length
where
  /-- Goes on for at most so many lines. -/
  go (p : Place) : Nat → Place
    | 0 => p.pastComment
    | fuel + 1 =>
      let q := p.pastComment
      if q.break?.isSome then go q.next fuel else q

end Place

end Document

end Catchment

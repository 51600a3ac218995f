import Catchment.Numeral.Written
import Catchment.Settings.Document.Error
import Catchment.Settings.Document.Place
import Catchment.Text.CodePoint

/-!
# `Catchment.Settings.Document.Word`: words and texts in quotes

A scalar is written as it is, or in quotes of one of two kinds. It may go on over
several lines, and then the line ends in it are folded: a single one becomes a
space, and of several the first is dropped, unless it stands for itself. Within
double quotes a backslash announces a character that cannot be written as it is.

* `Place.word`: the word without quotes at a place.
* `Place.quoted`: the text in quotes at a place.
-/

set_option autoImplicit false

namespace Catchment

namespace Document

/-- What stands for the line ends inside a scalar. -/
def folded : List Char → List Char
  | [] => []
  | first :: more =>
    if first != '\n' then first :: more
    else if more.isEmpty then [' ']
    else more

/-! ## Words without quotes -/

/-- The characters that start no word, or do so only in front of certain others. -/
def indicators : List Char := "-?:,[]\x7b\x7d#&*!|>'\"%@`".toList

/-- The characters that end a word in front of a colon within brackets. -/
def brackets : List Char := ",[]\x7b\x7d".toList

/-- Whether a character starts a word, whatever is behind it. -/
def startsWord (c : Char) : Bool := !(isGap c || isBreak c || indicators.contains c)

/-- Whether a word without quotes ends in front of these characters. Within brackets more
characters end it. -/
def endsWord (inner : Bool) : List Char → Bool
  | [] => true
  | c :: cs =>
    blankFirst (c :: cs) ||
      (c == ':' && (blankFirst cs || (inner && (cs.head?.map brackets.contains).getD false))) ||
      (inner && (c == '?' || brackets.contains c))

/-- The characters up to the end of a word. -/
def wordChars (inner : Bool) : List Char → List Char
  | [] => []
  | c :: cs => if endsWord inner (c :: cs) then [] else c :: wordChars inner cs

namespace Place

/-- The line ends from here on, with the spaces behind each of them, and where they end. A
document marker behind one of them leaves nothing. -/
def breaks (p : Place) : Nat → Except DocumentError (Option (List Char) × Place)
  | 0 => .error .malformed
  | fuel + 1 => do
    let p ← p.seen
    match p.break? with
    | none => return (some [], p)
    | some c =>
      if ← p.next.atEither then return (none, p.next)
      else
        let (more, q) ← (p.next.skipWhile (· == ' ')).breaks fuel
        return (more.map (breakText c :: ·), q)

/-- What is between two parts of a word, where it ends, and whether a line ends in it. Nothing is
between them if a document marker is in the way. -/
def wordGap (p : Place) : Except DocumentError (List Char × Place × Bool) := do
  let spaces := p.rest.takeWhile (· == ' ')
  let q ← (p.skip spaces.length).seen
  match q.break? with
  | none => return (spaces, q, false)
  | some _ =>
    let (lines, r) ← q.breaks (q.rest.length + 1)
    return ((lines.map folded).getD [], r, true)

/-- The characters of a word from here on in one line, and where they end. -/
def wordPart (inner : Bool) (p : Place) : Except DocumentError (List Char × Place) := do
  let p ← p.seen
  let part := if p.rest.head? == some '#' then [] else wordChars inner p.rest
  let q := p.skip part.length
  -- Whether a colon ends a word is told by the character behind it.
  return (part, ← q.look (if q.rest.head? == some ':' then 1 else 0))

/-- The rest of a word without quotes, which may go on over several lines as long as they are
indented far enough: its characters, where they end, and whether a line ends last. -/
def wordRest (inner : Bool) (indent : Nat) (gap : List Char) (ended : Bool) (p : Place) :
    Nat → Except DocumentError (List Char × Place × Bool)
  | 0 => .error .malformed
  | fuel + 1 => do
    let (part, q) ← p.wordPart inner
    if part.isEmpty then return ([], p, ended)
    else
      let (gap', r, ended') ← q.wordGap
      if gap'.isEmpty || r.rest.head? == some '#' || (!inner && r.column < indent) then
        return (gap ++ part, r, ended')
      else
        let (more, s, ended'') ← wordRest inner indent gap' ended' r fuel
        return (gap ++ part ++ more, s, ended'')

/-- The word without quotes at a place, where it ends, and whether a line ends last. -/
def word (inner : Bool) (indent : Nat) (p : Place) :
    Except DocumentError (String × Place × Bool) := do
  let (cs, q, ended) ← p.wordRest inner indent [] false (p.rest.length + 1)
  return (String.ofList cs, q, ended)

/-! ## Texts in quotes -/

/-- The line ends from here on, with the blanks behind each of them, and where they end. No
document marker may be behind one of them. -/
def quotedBreaks (p : Place) : Nat → Except DocumentError (List Char × Place)
  | 0 => .error .malformed
  | fuel + 1 => do
    let p ← p.seen
    match p.break? with
    | none => return ([], p)
    | some c =>
      if ← p.next.atEither then .error .malformed
      else
        let (more, q) ← (p.next.skipWhile isGap).quotedBreaks fuel
        return (breakText c :: more, q)

/-- What blanks and line ends within quotes stand for, and where they end. -/
def quotedGap (p : Place) : Except DocumentError (List Char × Place) := do
  let blanks := p.rest.takeWhile isGap
  let q ← (p.skip blanks.length).seen
  match q.break? with
  | none => return (blanks, q)
  | some _ =>
    let (lines, r) ← q.quotedBreaks (q.rest.length + 1)
    return (folded lines, r)

/-- The characters that may follow a backslash, and the numbers of those they stand for. -/
def escapes : List (Char × Nat) :=
  [('0', 0), ('a', 7), ('b', 8), ('t', 9), ('\t', 9), ('n', 10), ('v', 11), ('f', 12), ('r', 13),
    ('e', 27), (' ', 32), ('"', 34), ('\\', 92), ('/', 47), ('N', 0x85), ('_', 0xA0),
    ('L', 0x2028), ('P', 0x2029)]

/-- The letters behind a backslash that announce a number, and of how many digits. -/
def codeWidths : List (Char × Nat) := [('x', 2), ('u', 4), ('U', 8)]

/-- The character, or half of one, with a number. -/
def pointOf (number : Nat) : Except DocumentError CodePoint :=
  match CodePoint.ofNat? number with
  | some point => .ok point
  | none => if number < 0x80000000 then .error .noCharacter else .error .hugeCharacter

/-- The number in so many hexadecimal digits at a place, and where it ends. -/
def hexNumber (width : Nat) (p : Place) : Except DocumentError (Nat × Place) :=
  let digits := (p.rest.take width).takeWhile Written.isHex
  if digits.length = width then .ok (Written.ofBase 16 digits, p.skip width)
  else do
    let _ ← p.look digits.length
    .error .malformed

/-- The character, or half of one, behind a backslash and where it ends. -/
def escape (p : Place) : Except DocumentError (CodePoint × Place) := do
  let p ← p.seen
  match p.rest with
  | [] => .error .malformed
  | c :: _ =>
    match escapes.lookup c, codeWidths.lookup c with
    | some number, _ => return (.char (Char.ofNat number), p.next)
    | none, some width =>
      let (number, q) ← p.next.hexNumber width
      return (← pointOf number, q)
    | none, none => .error .malformed

/-- The rest of a text in quotes, behind the opening one, and where it ends. -/
def quotedRest (quote : Char) (p : Place) : Nat → Except DocumentError (List CodePoint × Place)
  | 0 => .error .malformed
  | fuel + 1 => do
    let p ← p.seen
    match p.rest with
    | [] => .error .malformed
    | c :: cs =>
      if c == quote then
        let q ← p.next.seen
        if quote == '\'' && q.rest.head? == some '\'' then
          let (more, r) ← q.next.quotedRest quote fuel
          return (.char '\'' :: more, r)
        else return ([], q)
      else if c == '\\' && quote == '"' then
        if p.next.break?.isSome then
          -- A line end behind a backslash stands for nothing, and further ones for themselves.
          let (lines, q) ← p.next.quotedBreaks (cs.length + 1)
          let (more, r) ← q.quotedRest quote fuel
          return ((lines.drop 1).map .char ++ more, r)
        else
          let (point, q) ← p.next.escape
          let (more, r) ← q.quotedRest quote fuel
          return (point :: more, r)
      else if blankFirst (c :: cs) then
        let (gap, q) ← p.quotedGap
        let (more, r) ← q.quotedRest quote fuel
        return (gap.map .char ++ more, r)
      else
        let (more, q) ← p.next.quotedRest quote fuel
        return (.char c :: more, q)

/-- The text in quotes at a place, and where it ends. -/
def quoted (quote : Char) (p : Place) : Except DocumentError (CodeText × Place) := do
  let (points, q) ← p.next.quotedRest quote (p.rest.length + 1)
  return (⟨points⟩, q)

end Place

end Document

end Catchment

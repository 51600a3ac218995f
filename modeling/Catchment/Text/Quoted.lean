import Catchment.Text.Hidden

/-!
# `Catchment.Text.Quoted`: names in quotes

Where a name is shown in quotes, it must be clear where it ends and what is in it.
Single quotes stand around it, or double quotes if only single ones are inside.
A quote like the outer ones, a backslash, and a character that shows nothing of
itself are written with a backslash.

* `quoted`: a text in quotes.
* `quotedList`: several of them in square brackets.
-/

set_option autoImplicit false

namespace Catchment

/-- A number in hexadecimal digits, with noughts in front up to a width. -/
def hexText (width n : Nat) : List Char :=
  let digits := Nat.toDigits 16 n
  List.replicate (width - digits.length) '0' ++ digits

/-- A character as it is written between quotes. -/
def quotedChar (quote c : Char) : List Char :=
  if c = quote ∨ c = '\\' then ['\\', c]
  else if c = '\n' then ['\\', 'n']
  else if c = '\r' then ['\\', 'r']
  else if c = '\t' then ['\\', 't']
  else if isHidden c then
    if c.toNat < 0x100 then '\\' :: 'x' :: hexText 2 c.toNat
    else if c.toNat < 0x10000 then '\\' :: 'u' :: hexText 4 c.toNat
    else '\\' :: 'U' :: hexText 8 c.toNat
  else [c]

/-- A text in quotes. -/
def quoted (s : String) : String :=
  let cs := s.toList
  let quote := if cs.contains '\'' && !cs.contains '"' then '"' else '\''
  String.ofList (quote :: cs.flatMap (quotedChar quote) ++ [quote])

/-- Texts in quotes, in square brackets. -/
def quotedList (texts : List String) : String := "[" ++ ", ".intercalate (texts.map quoted) ++ "]"

end Catchment

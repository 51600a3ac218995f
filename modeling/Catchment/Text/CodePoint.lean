/-!
# `Catchment.Text.CodePoint`: texts with halves of characters in them

Every character has a number. Some numbers are those of no character: they stand for
halves, two of which make up one character in an encoding with short units. Where
characters are named by their numbers, a half may be named as well, and a text may
have it in it. Such a text cannot be encoded.

* `CodePoint.ofNat?`: the character, or the half, with a number.
* `CodeText.toString?`: the string that a text is, if there are only characters in it.
-/

set_option autoImplicit false

namespace Catchment

/-- A character, or a half of one. -/
inductive CodePoint where
  | char (c : Char)
  | half (number : Nat)
deriving DecidableEq, Repr

namespace CodePoint

/-- The character, or the half, with a number, unless the number is beyond the last one. -/
def ofNat? (number : Nat) : Option CodePoint :=
  if 0x110000 ≤ number then none
  else if 0xD800 ≤ number ∧ number < 0xE000 then some (half number)
  else some (char (Char.ofNat number))

/-- The character that this is, if it is one. -/
def char? : CodePoint → Option Char
  | char c => some c
  | half _ => none

end CodePoint

/-- A text that may have halves of characters in it. -/
structure CodeText where
  points : List CodePoint
deriving DecidableEq, Repr

namespace CodeText

/-- A string as such a text. -/
def ofString (s : String) : CodeText := ⟨s.toList.map .char⟩

/-- The string that a text is, if there are only characters in it. -/
def toString? (t : CodeText) : Option String := (t.points.mapM CodePoint.char?).map String.ofList

end CodeText

end Catchment

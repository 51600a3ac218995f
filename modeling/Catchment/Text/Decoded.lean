/-!
# `Catchment.Text.Decoded`: the text of a file

A file holds bytes. They are the text whose characters they encode in UTF-8, with
every line end written in one way: a carriage return ends a line, alone or with a
line feed behind it, and stands for a line feed.

* `evenLineEnds`: a text with its line ends written in one way.
* `decoded?`: the text of the bytes of a file, if they encode one.
-/

set_option autoImplicit false

namespace Catchment

/-- Characters with every line end written as a line feed. -/
def evenLineEnds : List Char → List Char
  | '\r' :: '\n' :: cs => '\n' :: evenLineEnds cs
  | c :: cs => (if c = '\r' then '\n' else c) :: evenLineEnds cs
  | [] => []

/-- The text of the bytes of a file. Bytes that encode no characters have none. -/
def decoded? (bytes : ByteArray) : Option String :=
  (String.fromUTF8? bytes).map fun s => String.ofList (evenLineEnds s.toList)

end Catchment

import Catchment.Settings.Document.Node.Value

/-!
# `Catchment.Settings.Document`: settings documents as texts

A settings document is a mapping from names to values, one entry a line, or
written within braces. It may hold lists and further mappings, by indentation or
within brackets, words in quotes, comments, and the markers that open and close a
document. A text that breaks these rules is no document, and neither is one with a
character in it that cannot be printed.

* `Document.read`: the value of a whole text.
-/

set_option autoImplicit false

namespace Catchment

namespace Document

/-- The value of a whole text, as far as it can be read. -/
def read (text : Readable) : Except DocumentError Datum := do
  let node ← Node.ofMarks (Marks.ofText text)
  node.value

end Document

end Catchment

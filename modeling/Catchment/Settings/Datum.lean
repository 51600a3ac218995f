import Catchment.Text.CodePoint

/-!
# `Catchment.Settings.Datum`: what a settings document can hold

A settings document is made of scalars, lists, sets and mappings. `Datum` is such a
value, and `typeName` is the word for its kind. Bytes and sets are written with the
names of their types.
-/

set_option autoImplicit false

namespace Catchment

/-- A value of a settings document. -/
inductive Datum where
  | null
  | bool (b : Bool)
  | integer (i : Int)
  | number (x : Float)
  | text (t : CodeText)
  | binary (bytes : ByteArray)
  /-- A day of the calendar. -/
  | date
  /-- A day of the calendar with a time. -/
  | dateTime
  | list (items : List Datum)
  | set (items : List Datum)
  | mapping (entries : List (Datum × Datum))
deriving Inhabited

/-- The word for the kind of a value. -/
def Datum.typeName : Datum → String
  | null => "NoneType"
  | bool _ => "bool"
  | integer _ => "int"
  | number _ => "float"
  | text _ => "str"
  | binary _ => "bytes"
  | date => "date"
  | dateTime => "datetime"
  | list _ => "list"
  | set _ => "set"
  | mapping _ => "dict"

end Catchment

import Catchment.Numeral.Written
import Catchment.Settings
import Catchment.Settings.Datum
import Catchment.Table

/-!
# `Catchment.Settings.Check`: from values to settings

Each of the six settings takes some values and turns others down. Amounts may be
given as numbers, as truth values, or as texts that write a number out; the number
of places must be whole; the log level must be a text. The bytes of a text will do
for the text. A value that is taken but
out of bounds is turned down as well, and so is a setting that there is not. What
is not mentioned has its default.

* `Complaint`: why a value is turned down.
* `Settings.ofValues`: the settings that named values give, or all complaints.
-/

set_option autoImplicit false

namespace Catchment

/-- Why a value is turned down. -/
inductive Complaint where
  /-- There is no such setting. -/
  | extra
  | belowBound
  | aboveBound
  /-- The value is no number and no text. -/
  | noAmount
  /-- The text writes out no number. -/
  | unreadableAmount
  | noInteger
  | unreadableInteger
  /-- The number has more digits than are read. -/
  | hugeInteger
  /-- The number has a fraction. -/
  | fraction
  /-- The number is infinite or none. -/
  | notFinite
  | noText
  /-- The text has a half of a character in it, or the bytes encode no text. -/
  | halfCharacter
deriving DecidableEq, Repr

/-- The short name of a complaint. -/
def Complaint.code : Complaint → String
  | extra => "extra_forbidden"
  | belowBound => "greater_than_equal"
  | aboveBound => "less_than_equal"
  | noAmount => "float_type"
  | unreadableAmount => "float_parsing"
  | noInteger => "int_type"
  | unreadableInteger => "int_parsing"
  | hugeInteger => "int_parsing_size"
  | fraction => "int_from_float"
  | notFinite => "finite_number"
  | noText => "string_type"
  | halfCharacter => "string_unicode"

namespace Settings

/-- The characters that count as blank at the ends of a text. -/
def isBlank (c : Char) : Bool :=
  let n := c.toNat
  (9 ≤ n && n ≤ 13) || n == 32 || n == 0x85 || n == 0xA0 || n == 0x1680 ||
    (0x2000 ≤ n && n ≤ 0x200A) || n == 0x2028 || n == 0x2029 || n == 0x202F || n == 0x205F ||
    n == 0x3000

/-- A text without blanks at its ends. -/
def trimmed (cs : List Char) : List Char :=
  ((cs.dropWhile isBlank).reverse.dropWhile isBlank).reverse

/-- Whether an underscore stands at an end of a text or next to another one. -/
def strayUnderscore : List Char → Bool
  | [] => false
  | '_' :: [] => true
  | '_' :: '_' :: _ => true
  | _ :: cs => strayUnderscore cs

/-- A text without the underscores between its digits, if there are any and they are in place. -/
def withoutUnderscores? (cs : List Char) : Option (List Char) :=
  if cs.contains '_' && cs.head? != some '_' && !strayUnderscore cs then
    some (cs.filter (· ≠ '_'))
  else none

/-- The amount that a text writes out. -/
def amountOfText (s : String) : Except Complaint Float :=
  let cs := s.toList
  match (Written.ofText? (trimmed cs)).or ((withoutUnderscores? cs).bind Written.ofText?) with
  | some w => .ok w.toBinary
  | none => .error .unreadableAmount

/-- What is read from a text. Nothing is read from one with a half of a character in it. -/
def readText {β : Type} (read : String → Except Complaint β) (t : CodeText) :
    Except Complaint β :=
  match t.toString? with
  | some s => read s
  | none => .error .halfCharacter

/-- What is read from the text that bytes encode. Bytes that encode none give a complaint. -/
def readBytes {β : Type} (read : String → Except Complaint β) (complaint : Complaint)
    (bytes : ByteArray) : Except Complaint β :=
  match String.fromUTF8? bytes with
  | some s => read s
  | none => .error complaint

/-- The amount that a value gives. A whole number beyond all amounts gives none. -/
def amountOf : Datum → Except Complaint Float
  | .bool b => .ok (if b then 1 else 0)
  | .integer i => if Binary.uncountable ≤ i.natAbs then .error .noAmount else .ok (Float.ofInt i)
  | .number x => .ok x
  | .text t => readText amountOfText t
  | .binary bytes => readBytes amountOfText .unreadableAmount bytes
  | .null | .date | .dateTime | .list _ | .set _ | .mapping _ => .error .noAmount

/-- An amount within bounds. The upper bound is looked at first. -/
def bounded (lower : Float) (upper : Option Float) (x : Float) : Except Complaint Float :=
  let below := match upper with
    | some u => decide (x ≤ u)
    | none => true
  if !below then .error .aboveBound
  else if lower ≤ x then .ok x
  else .error .belowBound

/-- A text without the noughts in front of its number. There may be underscores among them, but
none in front of them, and a minus behind them. Where nothing follows them the last character
stays, and so does the last one in front of a point. -/
def withoutNoughts? : List Char → Option (List Char)
  | '0' :: cs =>
    let noughts := cs.takeWhile fun c => c == '0' || c == '_'
    let last := noughts.getLast?.getD '0'
    match cs.drop noughts.length with
    | [] => some [last]
    | '.' :: rest => some (last :: '.' :: rest)
    | c :: rest => if c.isDigit || c == '-' then some (c :: rest) else none
  | c :: cs => if c.isDigit then some (c :: cs) else none
  | [] => none

/-- A text without the point and the noughts behind it, if nothing but noughts is behind it. -/
def withoutPart (cs : List Char) : List Char :=
  match cs.dropWhile (· ≠ '.') with
  | '.' :: '0' :: rest => if rest.all (· == '0') then cs.takeWhile (· ≠ '.') else cs
  | _ => cs

/-- A sign in front of a text and the rest of the text. A plus in front of a minus is none. -/
def signed? : List Char → Option (Bool × List Char)
  | '+' :: '-' :: _ => none
  | '+' :: cs => some (false, cs)
  | '-' :: cs => some (true, cs)
  | cs => some (false, cs)

/-- A text without what does no harm to the whole number in it: blanks around it, a plus, noughts
in front, a point with noughts behind it, and underscores. -/
def plain? (cs : List Char) : Option (List Char) := do
  let (negative, rest) ← signed? (trimmed cs)
  let digits := withoutPart (← withoutNoughts? rest)
  let digits := (withoutUnderscores? digits).getD digits
  return if negative then '-' :: digits else digits

/-- The largest number of digits that are read from a text. -/
def mostDigits : Nat := 4300

/-- The digits in front of a text. A nought in front stands alone. -/
def digitsInFront : List Char → List Char
  | '0' :: _ => ['0']
  | cs => cs.takeWhile Char.isDigit

/-- The whole number that characters write out in digits, behind a minus or not. Too many digits
are not read, whatever is behind them. -/
def integerOfPlain (cs : List Char) : Except Complaint Int :=
  let (negative, rest) := match cs with
    | '-' :: rest => (true, rest)
    | rest => (false, rest)
  let digits := digitsInFront rest
  if mostDigits < digits.length then .error .hugeInteger
  else if digits = [] ∨ digits ≠ rest then .error .unreadableInteger
  else
    let n := Written.ofBase 10 digits
    .ok (if negative then -(n : Int) else n)

/-- The whole number that a text writes out. Too many digits are a complaint of their own only if
nothing has to be taken off the text. -/
def integerOfText (s : String) : Except Complaint Int :=
  match integerOfPlain s.toList with
  | .ok i => .ok i
  | .error .hugeInteger => .error .hugeInteger
  | .error _ =>
    match (plain? s.toList).map integerOfPlain with
    | some (.ok i) => .ok i
    | _ => .error .unreadableInteger

/-- The least size at which a number is too large to be taken for a whole one. -/
def hugeNumber : Nat := Nat.pow 2 63

/-- The whole number that a value gives. -/
def integerOf : Datum → Except Complaint Int
  | .bool b => .ok (if b then 1 else 0)
  | .integer i => .ok i
  | .number x =>
    match Binary.decode x.toBits with
    | .finite negative num den =>
      if num % den ≠ 0 then .error .fraction
      else if hugeNumber ≤ num / den then .error .hugeInteger
      else .ok (if negative then -((num / den : Nat) : Int) else (num / den : Nat))
    | .infinite _ | .undefined => .error .notFinite
  | .text t => readText integerOfText t
  | .binary bytes => readBytes integerOfText .unreadableInteger bytes
  | .null | .date | .dateTime | .list _ | .set _ | .mapping _ => .error .noInteger

/-- The largest number of places. -/
def mostPlaces : Nat := 12

/-- The number of places that a value gives. -/
def placesOf (d : Datum) : Except Complaint Nat := do
  let i ← integerOf d
  if mostPlaces < i then .error .aboveBound
  else if i < 0 then .error .belowBound
  else .ok i.toNat

/-- The text that a value gives. -/
def textOf : Datum → Except Complaint CodeText
  | .text t => .ok t
  | .binary bytes => readBytes (fun s => .ok (.ofString s)) .halfCharacter bytes
  | .null | .bool _ | .integer _ | .number _ | .date | .dateTime | .list _
  | .set _ | .mapping _ =>
    .error .noText

/-- An amount that is not below nothing, and perhaps not above a bound. -/
def amountWithin (upper : Option Float) (d : Datum) : Except Complaint Float :=
  (amountOf d).bind (bounded 0 upper)

/-- Settings with one of them replaced by what a value gives. -/
def set (s : Settings Float) (name : String) (d : Datum) : Except Complaint (Settings Float) :=
  match name with
  | "heavy_rainfall_mm" =>
    (amountWithin none d).map fun x => { s with storm := { s.storm with heavyRain := x } }
  | "pre_release_fraction" =>
    (amountWithin (some 1) d).map fun x => { s with storm := { s.storm with extraShare := x } }
  | "warning_percent" =>
    (amountWithin none d).map fun x => { s with limits := { s.limits with warningPercent := x } }
  | "overflow_percent" =>
    (amountWithin none d).map fun x => { s with limits := { s.limits with overflowPercent := x } }
  | "precision" => (placesOf d).map fun n => { s with precision := n }
  | "log_level" => (textOf d).map fun l => { s with logLevel := l }
  | _ => .error .extra

/-- Settings changed by named values, and the complaints about the values that are turned down. -/
def setAll (s : Settings Float) :
    List (String × Datum) → Settings Float × List (String × Complaint)
  | [] => (s, [])
  | (name, d) :: rest =>
    match s.set name d with
    | .ok s' => s'.setAll rest
    | .error complaint =>
      let (s', complaints) := s.setAll rest
      (s', (name, complaint) :: complaints)

/-- The settings that named values give, or all complaints. Of two values of one name the later
counts.

Each value is checked on its own, and there is at most one complaint about a name. Nothing goes by
the order in which the complaints are found, so that order is left open: they are listed by name,
and the same complaints make the same list however the values are given. -/
def ofValues (values : List (String × Datum)) :
    Except (List (String × Complaint)) (Settings Float) :=
  match Settings.default.setAll (Table.ofList values).entries with
  | (s, []) => .ok s
  | (_, complaints) => .error (complaints.mergeSort fun a b => a.1 ≤ b.1)

end Settings

end Catchment

import Catchment.Numeral.Written
import Catchment.Settings.Datum
import Catchment.Settings.Document.Error

/-!
# `Catchment.Settings.Scalar`: what a word of a settings document stands for

A word that is not in quotes may stand for something other than itself: for
nothing, for a truth value, for a whole number in one of five notations, for a
number with a point, or for a day. Whatever is none of these stands for itself.

* `Scalar.resolve`: the value of a word.
-/

set_option autoImplicit false

namespace Catchment

namespace Scalar

/-- The words for nothing. -/
def nullWords : List String := ["~", "null", "Null", "NULL", ""]

/-- The words for true. -/
def trueWords : List String := ["yes", "Yes", "YES", "true", "True", "TRUE", "on", "On", "ON"]

/-- The words for false. -/
def falseWords : List String := ["no", "No", "NO", "false", "False", "FALSE", "off", "Off", "OFF"]

/-- The word that stands for the name of a value. -/
def valueWord : String := "="

/-- The word in front of what a mapping takes in from other mappings. -/
def mergeWord : String := "<<"

/-- The words that have no value. They mean something only as names. -/
def reservedWords : List String := [valueWord, mergeWord]

/-- A word without its underscores. -/
def bare (cs : List Char) : List Char := cs.filter (· ≠ '_')

/-- Whether a word is not empty and consists of digits, given by a test, and underscores. -/
def digits (p : Char → Bool) (cs : List Char) : Bool :=
  cs ≠ [] && cs.all fun c => p c || c == '_'

/-- Whether a word starts with a digit, and more digits and underscores follow. -/
def number (cs : List Char) : Bool :=
  match cs with
  | c :: rest => c.isDigit && rest.all fun d => d.isDigit || d == '_'
  | [] => false

/-- Whether a character is one of the eight digits of the base eight. -/
def isOctal (c : Char) : Bool := '0' ≤ c && c ≤ '7'

/-- A text cut at its colons. -/
def colonParts (cs : List Char) : List (List Char) := cs.splitOn ':'

/-- Whether a part behind a colon counts minutes or seconds: one digit, or two below sixty. -/
def isSixtieth : List Char → Bool
  | [c] => c.isDigit
  | [c, d] => '0' ≤ c && c ≤ '5' && d.isDigit
  | _ => false

/-- Whether a word is a number and one or more sixtieths behind colons. -/
def isBaseSixty (first : List Char → Bool) (cs : List Char) : Bool :=
  match colonParts cs with
  | whole :: part :: parts => first whole && (part :: parts).all isSixtieth
  | _ => false

/-- A row of digits without a nought in front. -/
def plainWhole (cs : List Char) : Bool := number cs && cs.head? != some '0'

/-- The number of decimal digits that are read at most. -/
def mostDigits : Nat := 4300

/-- The number of a row of decimal digits. -/
def decimal (cs : List Char) : Except DocumentError Nat :=
  if mostDigits < cs.length then .error (.tooManyDigits cs.length) else .ok (Written.ofBase 10 cs)

/-- The number of a row of digits in a base. There may be nothing but underscores. -/
def inBase (base : Nat) (cs : List Char) : Except DocumentError Nat :=
  match bare cs with
  | [] => .error (.noDigits base)
  | digits => .ok (Written.ofBase base digits)

/-- The number of a row of parts, each of which counts sixty times as much as the next. -/
def sixty (parts : List (List Char)) : Except DocumentError Nat :=
  parts.foldlM (fun n part => (decimal (bare part)).map (60 * n + ·)) 0

/-- The whole number of a word without a sign, if it is one. -/
def natural? (cs : List Char) : Option (Except DocumentError Nat) :=
  match cs with
  | ['0'] => some (.ok 0)
  | '0' :: 'b' :: rest =>
    if digits (fun c => c == '0' || c == '1') rest then some (inBase 2 rest) else none
  | '0' :: 'x' :: rest => if digits Written.isHex rest then some (inBase 16 rest) else none
  | '0' :: rest => if digits isOctal rest then some (.ok (Written.ofBase 8 (bare rest))) else none
  | _ =>
    if plainWhole cs then some (decimal (bare cs))
    else if isBaseSixty plainWhole cs then some (sixty (colonParts cs))
    else none

/-- The whole number of a word, if it is one. -/
def integer? (cs : List Char) : Option (Except DocumentError Int) :=
  let (negative, rest) := Written.splitSign cs
  (natural? rest).map fun number => number.map fun n => if negative then -(n : Int) else n

/-- Whether a text is a power of ten as it may follow a number with a point: a sign must be
there. -/
def isPower : List Char → Bool
  | [] => true
  | e :: sign :: rest =>
    (e == 'e' || e == 'E') && (sign == '+' || sign == '-') && rest ≠ [] && rest.all Char.isDigit
  | _ => false

/-- Whether a text is digits and underscores with a power of ten behind them, if any. -/
def isPart (cs : List Char) : Bool :=
  isPower (cs.dropWhile fun c => c.isDigit || c == '_')

/-- The amount of parts of which each counts sixty times as much as the next, added up from the
last part on. The last one counts for itself. -/
def sixtieths (parts : List (List Char)) : Except DocumentError Float :=
  (parts.reverse.zipIdx 0).foldlM (fun sum (part, i) =>
    let weight := Nat.pow 60 i
    if Binary.uncountable ≤ weight then .error .tooManyParts
    else
      let amount := ((Written.ofText? part).map Written.toBinary).getD 0
      .ok (sum + amount * Float.ofNat weight)) 0

/-- The amount of a word in digits. -/
def amount? (cs : List Char) : Option (Except DocumentError Float) :=
  (Written.ofText? (bare cs)).map fun w => .ok w.toBinary

/-- The number with a point of a word, if it is one. -/
def pointed? (cs : List Char) : Option (Except DocumentError Float) :=
  let (negative, rest) := Written.splitSign cs
  let signed := rest.length < cs.length
  let whole := rest.takeWhile (· ≠ '.')
  match rest.dropWhile (· ≠ '.') with
  | [] => none
  | _ :: part =>
    if whole = [] then
      if [['i', 'n', 'f'], ['I', 'n', 'f'], ['I', 'N', 'F']].contains part then
        some (.ok (Written.infinite negative).toBinary)
      else if signed then none
      else if [['n', 'a', 'n'], ['N', 'a', 'N'], ['N', 'A', 'N']].contains part then
        some (.ok Written.undefined.toBinary)
      else if (part.head?.map Char.isDigit).getD false && isPart part then amount? cs
      else none
    else if number whole && isPart part then amount? cs
    else if isBaseSixty number whole && part.all (fun c => c.isDigit || c == '_') then
      some ((sixtieths (colonParts (bare rest))).map fun x => if negative then -x else x)
    else none

/-! ## Days and times -/

/-- The number of days of a month. -/
def daysIn (year month : Nat) : Nat :=
  if month = 2 then
    if year % 4 = 0 ∧ (year % 100 ≠ 0 ∨ year % 400 = 0) then 29 else 28
  else if month ∈ [4, 6, 9, 11] then 30
  else 31

/-- A day that must be in the calendar. -/
def checkedDate (year month day : Nat) : Except DateError Unit :=
  if year = 0 then .error .year
  else if month = 0 ∨ 12 < month then .error .month
  else if day = 0 ∨ daysIn year month < day then .error .day
  else .ok ()

/-- A time that must be in the day. -/
def checkedTime (hour minute second : Nat) : Except DateError Unit :=
  if 23 < hour then .error .hour
  else if 59 < minute then .error .minute
  else if 59 < second then .error .second
  else .ok ()

/-- The minutes of a day. -/
def minutesOfDay : Nat := 1440

/-- A zone, in minutes, that must be less than a day away from the common time. -/
def checkedZone (minutes : Int) : Except DateError Unit :=
  if minutesOfDay ≤ minutes.natAbs then .error (.zone minutes) else .ok ()

/-- A number of between some and some more digits at the front of a text, and the rest. -/
def takeDigits? (least most : Nat) (cs : List Char) : Option (Nat × List Char) :=
  let run := (cs.takeWhile Char.isDigit).take most
  if least ≤ run.length then some (Written.ofBase 10 run, cs.drop run.length) else none

/-- The rest of a text behind a character. -/
def behind? (c : Char) : List Char → Option (List Char)
  | d :: rest => if d = c then some rest else none
  | [] => none

/-- The zone at the end of a time, in minutes, if the text is one. No zone and the common time are
the same here. -/
def zone? (cs : List Char) : Option Int :=
  match cs with
  | [] | ['Z'] => some 0
  | sign :: zone => do
    if sign ≠ '+' ∧ sign ≠ '-' then none
    let (hours, rest) ← takeDigits? 1 2 zone
    let minutes ← match rest with
      | [] => some 0
      | ':' :: more =>
        match takeDigits? 2 2 more with
        | some (n, []) => some n
        | _ => none
      | _ => none
    let span : Int := 60 * hours + minutes
    return if sign = '-' then -span else span

/-- The zone at the end of a time, behind parts of a second and blanks. -/
def timeEnd? (cs : List Char) : Option Int :=
  let rest := match cs with
    | '.' :: r => r.dropWhile Char.isDigit
    | r => r
  let behind := rest.dropWhile (fun c => c == ' ' || c == '\t')
  if behind = [] ∧ rest ≠ [] then none else zone? behind

/-- A time of the day. -/
structure Time where
  hour : Nat
  minute : Nat
  second : Nat
  /-- How many minutes the zone is ahead of the common time. -/
  zone : Int

/-- The time behind a day, if it is one. -/
def time? (cs : List Char) : Option Time := do
  let start ← match cs with
    | 'T' :: rest | 't' :: rest => some rest
    | c :: _ =>
      if c = ' ' ∨ c = '\t' then some (cs.dropWhile fun c => c == ' ' || c == '\t') else none
    | [] => none
  let (hour, rest) ← takeDigits? 1 2 start
  let (minute, rest) ← takeDigits? 2 2 (← behind? ':' rest)
  let (second, rest) ← takeDigits? 2 2 (← behind? ':' rest)
  return ⟨hour, minute, second, ← timeEnd? rest⟩

/-- The day, or the day and time, of a word, if it is one. The zone is looked at first. -/
def date? (cs : List Char) : Option (Except DateError Datum) := do
  let (year, rest) ← takeDigits? 4 4 cs
  let monthText ← behind? '-' rest
  let (month, rest) ← takeDigits? 1 2 monthText
  let dayText ← behind? '-' rest
  let (day, rest) ← takeDigits? 1 2 dayText
  if rest = [] then
    -- A day by itself is written with all its digits.
    if cs.length = 10 then some ((checkedDate year month day).map fun _ => .date) else none
  else
    let time ← time? rest
    some (do
      checkedZone time.zone
      checkedDate year month day
      checkedTime time.hour time.minute time.second
      return .dateTime)

/-- The value of a word that is not in quotes. -/
def resolve (word : String) : Except DocumentError Datum :=
  let cs := word.toList
  if nullWords.contains word then .ok .null
  else if trueWords.contains word then .ok (.bool true)
  else if falseWords.contains word then .ok (.bool false)
  else if reservedWords.contains word then .error .malformed
  else
    match pointed? cs, integer? cs, date? cs with
    | some x, _, _ => x.map .number
    | none, some i, _ => i.map .integer
    | none, none, some d => d.mapError .date
    | none, none, none => .ok (.text (.ofString word))

end Scalar

end Catchment

/-!
# `Catchment.Settings.Document.Error`: why a settings document has no value

Most documents without a value break the rules of the notation. Others keep them
and name something that there is not: a day that is not in the calendar, a number
without digits, a character beyond the last one. And a file may hold bytes that are no
text at all.

* `DateError.message`: what is said of a day or a time.
* `DocumentError.message?`: what is said of a document that keeps the rules.
-/

set_option autoImplicit false

namespace Catchment

/-- Why there is no such day or time. -/
inductive DateError where
  | year
  | month
  | day
  | hour
  | minute
  | second
  /-- A zone is a day or more away from the common time, by so many minutes. -/
  | zone (minutes : Int)
deriving DecidableEq, Repr

namespace DateError

/-- A span of time in days and seconds. The seconds count forward from the start of a day, so a
span below nought has fewer days. -/
def spanText (minutes : Int) : String :=
  let days := Int.fdiv minutes 1440
  let seconds := 60 * Int.fmod minutes 1440
  if seconds = 0 then s!"days={days}" else s!"days={days}, seconds={seconds}"

/-- What is said of a day or a time. -/
def message : DateError → String
  | year => "year 0 is out of range"
  | month => "month must be in 1..12"
  | day => "day is out of range for month"
  | hour => "hour must be in 0..23"
  | minute => "minute must be in 0..59"
  | second => "second must be in 0..59"
  | zone minutes =>
    "offset must be a timedelta strictly between " ++
      "-timedelta(hours=24) and timedelta(hours=24), not " ++
      "datetime.timedelta(" ++ spanText minutes ++ ")."

end DateError

/-- Why a settings document has no value. -/
inductive DocumentError where
  /-- Its bytes encode no text. -/
  | notText
  /-- It is not well formed. -/
  | malformed
  | date (reason : DateError)
  /-- A number in a base has no digits. -/
  | noDigits (base : Nat)
  /-- A decimal number has too many digits to be read. -/
  | tooManyDigits (count : Nat)
  /-- A number in sixtieths has too many parts to be read. -/
  | tooManyParts
  /-- The number of a character is beyond the last one. -/
  | noCharacter
  /-- The number of a character is far beyond the last one. -/
  | hugeCharacter
deriving DecidableEq, Repr

/-- What is said of a document that is well formed and has no value. -/
def DocumentError.message? : DocumentError → Option String
  | notText | malformed => none
  | date reason => some reason.message
  | noDigits base => some s!"invalid literal for int() with base {base}: ''"
  | tooManyDigits count =>
    some ("Exceeds the limit (4300 digits) for integer string conversion: " ++
      s!"value has {count} digits; " ++
      "use sys.set_int_max_str_digits() to increase the limit")
  | tooManyParts => some "int too large to convert to float"
  | noCharacter => some "chr() arg not in range(0x110000)"
  | hugeCharacter => some "Python int too large to convert to C int"

end Catchment

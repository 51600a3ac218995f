import Catchment.Notice
import Catchment.Text.CodePoint

/-!
# `Catchment.Log.Threshold`: from which level on entries are kept

A log keeps the entries from some level on. The level is set by its name, once: a
log that is set up stays as it is. A name that no level has stands for warnings,
with two exceptions. The name of the pattern in which entries are written is known
too, and so is that of the styles of patterns, but they name no level.

* `Log.threshold`: the level that a name stands for.
* `Log.Setup.named`: a log set up for a level.
* `Log.Setup.keeps`: whether it keeps an entry.
-/

set_option autoImplicit false

namespace Catchment

namespace Log

/-- A character in capital letters, as far as known names go. Two letters beyond ASCII have a
capital among their letters: the long s, and the i without a dot. Two others stand for an s and a
t. -/
def capitals (c : Char) : List Char :=
  if c = '\u0131' then ['I']
  else if c = '\u017F' then ['S']
  else if c = '\uFB05' ∨ c = '\uFB06' then ['S', 'T']
  else [c.toUpper]

/-- The level that warnings have. -/
def warningLevel : Nat := 30

/-- The number of a level. The higher it is, the more an entry matters. -/
def Level.number : Level → Nat
  | debug => 10
  | info => 20
  | warning => warningLevel
  | error => 40

/-- The numbers of levels by their names. Not every name is that of a level that entries have. -/
def levels : List (String × Nat) :=
  [("NOTSET", 0), ("DEBUG", Level.debug.number), ("INFO", Level.info.number),
    ("WARN", warningLevel), ("WARNING", warningLevel), ("ERROR", Level.error.number),
    ("CRITICAL", 50), ("FATAL", 50)]

/-- A known name that names no level. -/
inductive NoLevel where
  | pattern
  | styles
deriving DecidableEq, Repr

namespace NoLevel

/-- The known names that name no level. -/
def names : List (String × NoLevel) := [("BASIC_FORMAT", pattern), ("_STYLES", styles)]

/-- The pattern. -/
def patternText : String := "%(levelname)s:%(name)s:%(message)s"

/-- The styles of patterns: a character, the name of the style, and the pattern in that style. -/
def styleTexts : List (String × String × String) :=
  [("%", "PercentStyle", patternText),
    ("\x7b", "StrFormatStyle", "\x7blevelname\x7d:\x7bname\x7d:\x7bmessage\x7d"),
    ("$", "StringTemplateStyle", "$\x7blevelname\x7d:$\x7bname\x7d:$\x7bmessage\x7d")]

/-- A style as it is shown. -/
def styleText : String × String × String → String
  | (character, name, sample) =>
    quoted character ++ ": (<class 'logging." ++ name ++ "'>, " ++ quoted sample ++ ")"

/-- What is said of a name that names no level. -/
def message : NoLevel → String
  | pattern => "Unknown level: " ++ quoted patternText
  | styles =>
    "Level not an integer or a valid string: \x7b" ++
      ", ".intercalate (styleTexts.map styleText) ++
      "\x7d"

end NoLevel

/-- The level that a name stands for, in capitals or not. No known name has a half of a character
in it. -/
def threshold (name : CodeText) : Except NoLevel Nat :=
  let known := String.ofList (((name.toString?.getD "").toList).flatMap capitals)
  match NoLevel.names.lookup known with
  | some e => .error e
  | none => .ok ((levels.lookup known).getD warningLevel)

/-- How a log is set up. -/
structure Setup where
  /-- The level from which on entries are kept. -/
  level : Nat
  /-- How many outlets the entries go to. -/
  outlets : Nat
deriving DecidableEq, Repr

namespace Setup

/-- A log that has not been set up. -/
def initial : Setup := ⟨warningLevel, 0⟩

/-- A log set up for a level. One that has an outlet already stays as it is. -/
def named (s : Setup) (name : CodeText) : Except NoLevel Setup :=
  if s.outlets = 0 then (threshold name).map fun level => ⟨level, 1⟩ else .ok s

/-- Whether an entry is kept. -/
def keeps (s : Setup) (e : Entry) : Bool := s.level ≤ e.level.number

end Setup

end Log

end Catchment

import Catchment.CommandLine.Path
import Catchment.Text.Digit
import Catchment.Text.Quoted

/-!
# `Catchment.CommandLine`: what a command line asks for

A command line names one file, or asks for help. Its words are taken from left to
right. A word with a dash in front is an option, and the only option there is asks
for help; it may be cut short, and ends the reading. Any other word is an operand,
and the first operand is the file. A double dash makes operands of all words behind
it. What is left over is not understood, and an error at the end.

* `Word.ofText`: what a word is.
* `Request.ofWords`: what a command line asks for.
* `UsageError.message`: what is said of one that is not understood.
-/

set_option autoImplicit false

namespace Catchment

namespace CommandLine

/-- What a command line asks for. -/
inductive Request where
  | help
  /-- To run the program in the file at a path. -/
  | run (path : String)
deriving DecidableEq, Repr

/-- Why a command line is not understood. -/
inductive UsageError where
  /-- No file is named. -/
  | noFile
  /-- Some words have no meaning. -/
  | unknown (words : List String)
  /-- The option for help is given a value, and it takes none. -/
  | needlessValue (value : String)
deriving DecidableEq, Repr

/-- The option that asks for help, in full. In short it is a dash and an h. -/
def longHelp : List Char := "--help".toList

/-- What is said of a command line that is not understood. -/
def UsageError.message : UsageError → String
  | noFile => "the following arguments are required: source"
  | unknown words => "unrecognized arguments: " ++ " ".intercalate words
  | needlessValue value => "argument -h/--help: ignored explicit argument " ++ quoted value

/-- What a word is. -/
inductive Word where
  | operand
  | help
  | helpWith (value : List Char)
  | unknown
deriving DecidableEq, Repr

namespace Word

/-- The short option for help with text behind it. The text may ask for help again and again;
anything else in it is a value. -/
def helpAnd : List Char → Word
  | ['h'] => help
  | 'h' :: more => helpAnd more
  | value => helpWith value

/-- The short option for help with text behind it, or none, or an equals sign and text. -/
def shortWith : List Char → Word
  | [] => help
  | '=' :: value => helpAnd value
  | value => helpAnd value

/-- A text without a line end behind it. -/
def withoutLineEnd (cs : List Char) : List Char :=
  if cs.getLast? = some '\n' then cs.dropLast else cs

/-- Whether a text is a number below nought, with or without a point, in the digits of any
script. -/
def isNegative (cs : List Char) : Bool :=
  match withoutLineEnd cs with
  | '-' :: digits =>
    match digits.dropWhile isDecimal with
    | [] => digits ≠ []
    | '.' :: part => part ≠ [] && part.all isDecimal
    | _ => false
  | _ => false

/-- What a word is that starts with a dash and asks for no help. Numbers and words with blanks in
them are operands. -/
def withDash (cs : List Char) : Word :=
  if isNegative cs || cs.contains ' ' then operand else unknown

/-- What a word is that starts with two dashes. The part in front of an equals sign may be short
of the full option, and what is behind the sign is a value. -/
def withDashes (cs : List Char) : Word :=
  if (cs.takeWhile (· ≠ '=')).isPrefixOf longHelp then
    match cs.dropWhile (· ≠ '=') with
    | [] => help
    | _ :: value => helpWith value
  else withDash cs

/-- What a word is. -/
def ofText (word : String) : Word :=
  match word.toList with
  | '-' :: '-' :: cs => withDashes ('-' :: '-' :: cs)
  | '-' :: 'h' :: more => shortWith more
  | ['-'] => operand
  | '-' :: cs => withDash ('-' :: cs)
  | _ => operand

end Word

namespace Request

/-- The word that makes operands of all words behind it. -/
def marker : String := "--"

/-- What is asked for in the end, by the file that is named and the words that are left over. -/
def ofParts (file : Option String) (left : List String) : Except UsageError Request :=
  match file, left with
  | none, _ => .error .noFile
  | some path, [] => .ok (.run (Path.plain path))
  | some _, words => .error (.unknown words)

/-- What is asked for, by the file that has been named, the words left over, and those to come. A
double dash next to the file is of no more interest. -/
def goOn (file : Option String) (left : List String) : List String → Except UsageError Request
  | [] => ofParts file left
  | word :: words =>
    if word = marker then
      match file, words with
      | none, path :: more => ofParts (some path) (left ++ more)
      | _, _ => ofParts file (left ++ word :: words)
    else
      match Word.ofText word, file with
      | .help, _ => .ok .help
      | .helpWith value, _ => .error (.needlessValue (String.ofList value))
      | .operand, none =>
        if words.head? = some marker then ofParts (some word) (left ++ words.tail)
        else goOn (some word) left words
      | .operand, some _ | .unknown, _ => goOn file (left ++ [word]) words

/-- What a command line asks for. -/
def ofWords (words : List String) : Except UsageError Request := goOn none [] words

end Request

end CommandLine

end Catchment

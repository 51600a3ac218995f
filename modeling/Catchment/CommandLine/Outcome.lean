import Catchment.CommandLine
import Catchment.Log.Threshold
import Catchment.Narrative
import Catchment.Run

/-!
# `Catchment.CommandLine.Outcome`: what a command line brings about

A command line is answered by texts and a number. The telling of a run goes to one
outlet. Diagnostics and what the log keeps go to another, in the order in which
they come up. The number says how it went.

* `Outcome.ofRequest`: what comes of a command line, up to the file it names.
* `Outcome.ofFile`: what comes of that file.
-/

set_option autoImplicit false

namespace Catchment

namespace CommandLine

/-- How it went. -/
inductive Status where
  | success
  /-- The command line is not understood. -/
  | usage
  /-- The text is no program. -/
  | noProgram
  /-- The file cannot be read. -/
  | noInput
  /-- The program cannot be run to its end. -/
  | noRun
deriving DecidableEq, Repr

/-- The number for how it went. -/
def Status.number : Status → Nat
  | success => 0
  | usage => 64
  | noProgram => 65
  | noInput => 66
  | noRun => 70

/-- How a run went. -/
def Status.ofResult (r : RunResult) : Status :=
  if r.syntaxError then noProgram else if r.runtimeError then noRun else success

/-- Something said beside the telling of a run. -/
inductive Remark where
  | line (text : String)
  /-- An entry of the log, which is written with the time. -/
  | logged (entry : Log.Entry)

/-- A remark with its line end, at a time. -/
def Remark.text (time : String) : Remark → String
  | line text => text ++ "\n"
  | logged e =>
    time ++ " [" ++ e.level.name ++ "] " ++ e.origin.name ++ ": " ++ e.message ++ "\n"

/-- What comes of a command line. -/
structure Outcome where
  /-- The telling of the run, or the help asked for. -/
  told : String
  remarks : List Remark
  /-- How it went, or a problem that is passed on. -/
  status : Except Problem Status

/-- Why a file cannot be read: the number of the reason, and the reason. -/
structure Unreadable where
  number : Nat
  reason : String
deriving DecidableEq, Repr

namespace Unreadable

/-- There is no file at the path. -/
def absent : Unreadable := ⟨2, "No such file or directory"⟩

/-- The path leads through a file. -/
def notDirectory : Unreadable := ⟨20, "Not a directory"⟩

/-- There is a directory at the path. -/
def directory : Unreadable := ⟨21, "Is a directory"⟩

/-- A name on the path is too long. -/
def nameTooLong : Unreadable := ⟨36, "File name too long"⟩

/-- What is said of a file that cannot be read. -/
def message (path : String) (u : Unreadable) : String :=
  let number := u.number
  s!"Error: cannot read {path}: [Errno {number}] " ++ u.reason ++ ": " ++ quoted path

end Unreadable

/-- How the command line is to be written. -/
def usage : String := "usage: riverflow [-h] source"

/-- The help. -/
def help : String :=
  String.join <| [usage, "", "Run a rainfall, river and dam flow simulation program", "",
    "positional arguments:", "  source      Path to the program source file", "", "options:",
    "  -h, --help  show this help message and exit"].map (· ++ "\n")

/-- What a run from the command line is set to. -/
def settings : Settings Float := .default

/-- The log of a run from the command line. -/
def log : Log.Setup := (Log.Setup.initial.named settings.logLevel).toOption.getD .initial

/-- What is remarked of something that a run sends out. -/
def remarks : Dispatch → List Remark
  | .diagnostic d => d.lines.map .line
  | .notice n => if log.keeps n.entry then [.logged n.entry] else []

namespace Outcome

/-- What comes of a run. -/
def ofRun (r : Run) : Outcome :=
  { told := (Narrative.tell settings.precision r.events).text
    remarks := r.dispatches.flatMap CommandLine.remarks
    status := r.result.map Status.ofResult }

/-- What comes of the file at a path. A path with a null character in it is passed on. -/
def ofFile (path : String) (contents : Except Unreadable ByteArray) : Outcome :=
  if path.toList.contains '\x00' then ⟨"", [], .error .nullInPath⟩
  else
    match contents with
    | .ok bytes => ofRun (runBytes settings path bytes)
    | .error u => ⟨"", [.line (u.message path)], .ok .noInput⟩

/-- What comes of a command line that is not understood. -/
def ofUsageError (e : UsageError) : Outcome :=
  ⟨"", [.line usage, .line ("riverflow: error: " ++ e.message)], .ok .usage⟩

/-- What comes of a command line, or the path of the file that is to be read for it. -/
def ofRequest : Except UsageError Request → Outcome ⊕ String
  | .error e => .inl (ofUsageError e)
  | .ok .help => .inl ⟨help, [], .ok .success⟩
  | .ok (.run path) => .inr path

end Outcome

end CommandLine

end Catchment

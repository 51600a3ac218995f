import Std.Time.Format
import Catchment.CommandLine.Outcome

/-!
# `Catchment.Main`: the command line program

Reads the file that the command line names and prints what comes of it.
-/

set_option autoImplicit false

namespace Catchment

namespace CommandLine

/-- The number and the text of an error of the system. -/
def unreadable : IO.Error → Unreadable
  | .alreadyExists _ n reason | .inappropriateType _ n reason | .invalidArgument _ n reason
  | .noFileOrDirectory _ n reason | .noSuchThing _ n reason | .permissionDenied _ n reason
  | .resourceExhausted _ n reason | .interrupted _ n reason | .hardwareFault n reason
  | .illegalOperation n reason | .otherError n reason | .protocolError n reason
  | .resourceBusy n reason | .resourceVanished n reason | .timeExpired n reason
  | .unsatisfiedConstraints n reason | .unsupportedOperation n reason => ⟨n.toNat, reason⟩
  | e => ⟨0, e.toString⟩

/-- The bytes of the file at a path, or why it cannot be read. -/
def contents (path : String) : IO (Except Unreadable ByteArray) := do
  match ← (IO.FS.withFile path .read fun file => file.readBinToEnd).toBaseIO with
  | .ok bytes => return .ok bytes
  | .error e => return .error (unreadable e)

/-- Prints an outcome and gives the number for how it went. A problem that is passed on counts as
one. -/
def report (o : Outcome) : IO UInt32 := do
  let time := (← Std.Time.PlainDateTime.now).format "yyyy-MM-dd HH:mm:ss"
  IO.print o.told
  for remark in o.remarks do
    IO.eprint (remark.text time)
  match o.status with
  | .ok status => return status.number.toUInt32
  | .error _ => return 1

/-- Answers a command line. -/
def answer (words : List String) : IO UInt32 := do
  match Outcome.ofRequest (Request.ofWords words) with
  | .inl outcome => report outcome
  | .inr path => report (.ofFile path (← contents path))

end CommandLine

end Catchment

/-- The command line program. -/
def main (words : List String) : IO UInt32 := Catchment.CommandLine.answer words

import Catchment.Settings.Check
import Catchment.Settings.Document

/-!
# `Catchment.Settings.Reading`: from a settings file to settings

A settings file holds a settings document, and the document a mapping from the
names of settings to their values. An empty document changes nothing.

* `Settings.Refusal`: why a file gives no settings.
* `Settings.ofBytes`: the settings that a file gives.
-/

set_option autoImplicit false

namespace Catchment

namespace Settings

/-- Why a file gives no settings. -/
inductive Refusal where
  | document (error : DocumentError)
  /-- The document is something other than a mapping. -/
  | notMapping (typeName : String)
  /-- Something in front of a colon is no text. -/
  | unnamed
  | values (complaints : List (String × Complaint))

/-- Whether a refusal is reported as one of the file. The others are passed on as they are. -/
def Refusal.isReported : Refusal → Bool
  | document .malformed | notMapping _ | values _ => true
  | document _ | unnamed => false

/-- What is said of a file that is well-formed text but no well-formed mapping. -/
def Refusal.reason? (path : String) : Refusal → Option String
  | document .malformed => some s!"{path}: invalid YAML"
  | notMapping typeName => some s!"{path}: expected a mapping, got {typeName}"
  | document _ | unnamed | values _ => none

/-- What is said of a mapping with something else than texts in front of its colons. -/
def unnamedMessage : String := "keywords must be strings"

/-- An entry of a mapping whose name is a text. -/
def named? : Datum × Datum → Option (CodeText × Datum)
  | (.text name, value) => some (name, value)
  | _ => none

/-- The settings that entries with names give. If a name has a half of a character in it, that is
the only complaint, and one about no setting. -/
def ofEntries (entries : List (CodeText × Datum)) :
    Except (List (String × Complaint)) (Settings Float) :=
  match entries.mapM fun (name, value) => name.toString?.map (·, value) with
  | some values => ofValues values
  | none => .error [("", .halfCharacter)]

/-- The settings that a value of a document gives. -/
def ofDatum : Datum → Except Refusal (Settings Float)
  | .null => .ok .default
  | .mapping entries =>
    match entries.mapM named? with
    | some named => (ofEntries named).mapError .values
    | none => .error .unnamed
  | d => .error (.notMapping d.typeName)

/-- The settings that a text gives, as far as it can be read, by a reader of documents. -/
def ofReadableBy (read : Document.Readable → Except DocumentError Datum)
    (text : Document.Readable) :
    Except Refusal (Settings Float) :=
  match read text with
  | .ok d => ofDatum d
  | .error e => .error (.document e)

/-- The settings that a text gives, as far as it can be read. -/
def ofReadable (text : Document.Readable) : Except Refusal (Settings Float) :=
  ofReadableBy Document.read text

/-- The settings that the characters of a text give. -/
def ofText (text : String) : Except Refusal (Settings Float) :=
  ofReadable (.ofChars text.toList none)

/-- The settings that the bytes of a file give, by a reader of documents. -/
def ofBytesBy (read : Document.Readable → Except DocumentError Datum) (bytes : ByteArray) :
    Except Refusal (Settings Float) :=
  ofReadableBy read (.ofBytes bytes)

/-- The settings that the bytes of a file give. -/
def ofBytes (bytes : ByteArray) : Except Refusal (Settings Float) := ofBytesBy Document.read bytes

end Settings

end Catchment

import Catchment.Settings.Document.Node
import Catchment.Settings.Scalar

/-!
# `Catchment.Settings.Document.Node.Value`: what written values stand for

Two words mean something special as names. An equals sign stands for itself.
Behind a double less-than sign stands a mapping, or a list of mappings, whose
entries are taken in: they stand in front of the mapping's own, so that an entry
of its own counts more. Of several mappings in a list the first counts most.

A value may be flawed in several places. The flaw that counts is the one least
deep inside the value, and of several as deep the first. A collection as a name is
a flaw beside the entries of its mapping.

* `Node.outcome`: the value, or the flaw that counts.
* `Node.value`: the value of a whole document.
-/

set_option autoImplicit false

namespace Catchment

namespace Document

/-- What is wrong at some depth inside a value. -/
structure Flaw where
  depth : Nat
  error : DocumentError
deriving DecidableEq, Repr

/-- Of two flaws the one that is less deep inside, and the first if both are as deep. -/
def Flaw.first (a b : Flaw) : Flaw := if b.depth < a.depth then b else a

/-- A value, or the flaw that counts. -/
abbrev Outcome (α : Type) := Except Flaw α

namespace Outcome

variable {α β γ : Type}

/-- The outcome of two parts put together. -/
def both (join : α → β → γ) : Outcome α → Outcome β → Outcome γ
  | .ok a, .ok b => .ok (join a b)
  | .error a, .error b => .error (a.first b)
  | .error a, .ok _ => .error a
  | .ok _, .error b => .error b

/-- The outcome of a list of parts. -/
def all : List (Outcome α) → Outcome (List α)
  | [] => .ok []
  | x :: xs => both List.cons x (all xs)

end Outcome

namespace Node

/-- The outcomes of the entries of a mapping. -/
abbrev Entries := List (Outcome (Datum × Datum))

mutual

/-- The value of a node at a depth, or the flaw that counts. -/
def outcome (depth : Nat) : Node → Outcome Datum
  | .word text => (Scalar.resolve text).mapError (Flaw.mk depth)
  | .quoted text => .ok (.text text)
  | .list items => (Outcome.all (outcomes (depth + 1) items)).map .list
  | .mapping entries =>
    match entriesOf (depth + 1) entries with
    | some (taken, own) => (Outcome.all (taken ++ own)).map .mapping
    | none => .error ⟨depth + 1, .malformed⟩

/-- The outcomes of the items of a list. -/
def outcomes (depth : Nat) : List Node → List (Outcome Datum)
  | [] => []
  | n :: ns => n.outcome depth :: outcomes depth ns

/-- The entries that a mapping takes in, and its own, unless it takes in what is no mapping. -/
def entriesOf (depth : Nat) : List (Node × Node) → Option (Entries × Entries)
  | [] => some ([], [])
  | e :: es => do
    let (taken, own) ← entryOf depth e
    let (moreTaken, moreOwn) ← entriesOf depth es
    return (taken ++ moreTaken, own ++ moreOwn)

/-- What a written entry adds to the entries that are taken in, and to the mapping's own. -/
def entryOf (depth : Nat) : Node × Node → Option (Entries × Entries)
  | (key, content) =>
    let found := content.outcome depth
    match key with
    | .word text =>
      if text = Scalar.mergeWord then (takenFrom depth content).map (·, [])
      else
        let name :=
          if text = Scalar.valueWord then .ok (.text (.ofString text)) else key.outcome depth
        some ([], [Outcome.both Prod.mk name found])
    | .quoted text => some ([], [Outcome.both Prod.mk (.ok (.text text)) found])
    | .list _ | .mapping _ => some ([], [.error ⟨depth, .malformed⟩])

/-- All entries of a mapping, or of the mappings in a list. -/
def takenFrom (depth : Nat) : Node → Option Entries
  | .mapping entries => (entriesOf depth entries).map fun (taken, own) => taken ++ own
  | .list items => takenFromItems depth items
  | .word _ | .quoted _ => none

/-- All entries of the mappings in a list, those of later ones first. -/
def takenFromItems (depth : Nat) : List Node → Option Entries
  | [] => some []
  | .mapping entries :: rest => do
    let (taken, own) ← entriesOf depth entries
    return (← takenFromItems depth rest) ++ (taken ++ own)
  | _ :: _ => none

end

/-- The value of a whole document. -/
def value (n : Node) : Except DocumentError Datum := (n.outcome 0).mapError Flaw.error

end Node

end Document

end Catchment

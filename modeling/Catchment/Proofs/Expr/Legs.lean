import Mathlib.Data.List.TakeWhile
import Catchment.Proofs.Network.Execution

/-!
# `Catchment.Proofs.Expr.Legs`: what an expression registers

An expression is evaluated part by part: the operands of an operator from left to right, and
then the operator. The only part at which this can go wrong is a name that is not declared,
and the first such name ends the evaluation. The parts in front of it say what has been
registered by then: an arrow whose left operand stands for a connection leads that connection
on, and thereby registers it for itself, without a name and with nothing waiting in it.

* `Expr.parts`, `Expr.evaluatedParts`: the parts of an expression, and those that are evaluated.
* `Expr.ledOn?`: the connection that a part leads on.
* `Expr.error?_evaluate`: an expression goes wrong at the first name that is not declared.
* `Expr.legs_evaluate`: what is registered, by induction on the expression.
* `Expr.ledOn?_eq_some`: a connection that is led on has no name, and nothing waits in it.
-/

set_option autoImplicit false

namespace Catchment

variable {α β γ : Type}

namespace Evaluation

/-- What goes wrong in an evaluation, if anything does. -/
def error? (x : Evaluation α β) : Option (EvaluationError α) :=
  match x.result with
  | .error e => some e
  | .ok _ => none

/-- Nothing has gone wrong in what has a value. -/
theorem error?_of_ok {x : Evaluation α β} {v : β} (h : x.result = .ok v) : x.error? = none := by
  unfold error?
  rw [h]

/-- What goes wrong in an evaluation without a value. -/
theorem error?_of_error {x : Evaluation α β} {e : EvaluationError α} (h : x.result = .error e) :
    x.error? = some e := by
  unfold error?
  rw [h]

/-- An evaluation with a value goes on with it: what is registered and noticed comes first. -/
theorem bind_of_ok {x : Evaluation α β} {v : β} (f : β → Evaluation α γ) (h : x.result = .ok v) :
    x >>= f = ⟨x.legs ++ (f v).legs, x.notices ++ (f v).notices, (f v).result⟩ := by
  show Evaluation.bind x f = _
  unfold Evaluation.bind
  simp only [h]

/-- An evaluation without a value goes no further, but what has been registered and noticed
stays. -/
theorem bind_of_error {x : Evaluation α β} {e : EvaluationError α} (f : β → Evaluation α γ)
    (h : x.result = .error e) : x >>= f = ⟨x.legs, x.notices, .error e⟩ := by
  show Evaluation.bind x f = _
  unfold Evaluation.bind
  simp only [h]

/-- A value that is found with some connections registers these. -/
theorem legs_found (line : Int) (legs : List (Connection α)) (v : Value α) :
    (found line legs v).legs = legs := by
  cases v <;> rfl

end Evaluation

/-- The connections that an operator registers: those that an arrow leads on. -/
theorem Operator.legs_apply [Amount α] (operator : Operator) (line : Int) (a b : Value α) :
    (operator.apply line a b).legs = match operator with
      | .plus => []
      | .arrow => a.legs := by
  cases operator with
  | plus => exact Evaluation.legs_found _ _ _
  | arrow => exact Evaluation.legs_found _ _ _

namespace Expr

/-- The parts of an expression in the order in which they are evaluated. -/
def parts : Expr α → List (Expr α)
  | number value line => [number value line]
  | rain amount days line => [rain amount days line]
  | series amounts line => [series amounts line]
  | reference name line => [reference name line]
  | group inner line => inner.parts ++ [group inner line]
  | binary operator left right line =>
    left.parts ++ right.parts ++ [binary operator left right line]

/-- The name and the line of a part that is a name and is not declared. -/
def undeclared? (declared : String → Bool) : Expr α → Option (String × Int)
  | reference name line => if declared name then none else some (name, line)
  | number .. | rain .. | series .. | group .. | binary .. => none

/-- The parts of an expression that are evaluated: those in front of the first name that is not
declared. -/
def evaluatedParts (declared : String → Bool) (e : Expr α) : List (Expr α) :=
  e.parts.takeWhile fun part => (part.undeclared? declared).isNone

/-- The connection that a part leads on: what the left operand of an arrow stands for, if that is
a connection. -/
def ledOn? [Amount α] (declared : String → Bool) : Expr α → Option (Connection α)
  | binary .arrow left _ _ =>
    match (left.evaluate declared).result with
    | .ok (.flow c) => some c
    | _ => none
  | number .. | rain .. | series .. | reference .. | group .. | binary .plus .. => none

/-- A part that is evaluated is no name that is not declared. -/
theorem undeclared?_of_mem {declared : String → Bool} {e part : Expr α}
    (h : part ∈ e.evaluatedParts declared) : (part.undeclared? declared).isNone = true :=
  List.mem_takeWhile_imp (p := fun part : Expr α => (part.undeclared? declared).isNone) h

variable [Amount α] {declared : String → Bool} {e : Expr α}

/-- An expression goes wrong at the first name in it that is not declared, and nowhere else. -/
theorem error?_evaluate (declared : String → Bool) (e : Expr α) :
    (e.evaluate declared).error?
      = (e.parts.findSome? (undeclared? declared)).map fun found =>
        .undefined found.1 found.2 := by
  induction e with
  | number | rain | series => rfl
  | reference name line =>
    simp only [evaluate, parts, undeclared?, List.findSome?_singleton]
    split <;> rfl
  | group e line ih =>
    rw [evaluate, ih, parts, List.findSome?_append]
    simp [undeclared?]
  | binary operator left right line ihl ihr =>
    have hparts : (binary operator left right line).parts.findSome? (undeclared? declared)
        = (left.parts.findSome? (undeclared? declared)).or
          (right.parts.findSome? (undeclared? declared)) := by
      rw [parts, List.findSome?_append, List.findSome?_append]
      simp [undeclared?]
    rw [hparts, Option.map_or, ← ihl, ← ihr, evaluate]
    -- If the left operand goes wrong, neither the right one nor the operator is come to.
    cases hleft : (left.evaluate declared).result with
    | error error =>
      rw [Evaluation.bind_of_error _ hleft, Evaluation.error?_of_error hleft]
      rfl
    | ok a =>
      rw [Evaluation.bind_of_ok _ hleft, Evaluation.error?_of_ok hleft]
      cases hright : (right.evaluate declared).result with
      | error error =>
        rw [Evaluation.bind_of_error _ hright, Evaluation.error?_of_error hright]
        rfl
      | ok b =>
        rw [Evaluation.bind_of_ok _ hright, Evaluation.error?_of_ok hright,
          operator.result_apply line a b]
        rfl

/-- Where an expression goes wrong, the parts in front of a name that is not declared are
evaluated. -/
theorem exists_parts_eq_of_error {error : EvaluationError α}
    (h : (e.evaluate declared).result = .error error) :
    ∃ name line later, e.parts = e.evaluatedParts declared ++ .reference name line :: later ∧
      declared name = false ∧ error = .undefined name line := by
  -- What goes wrong is the first part that is not declared, so those in front of it are fine.
  have herror := error?_evaluate declared e
  rw [Evaluation.error?_of_error h] at herror
  obtain ⟨⟨name, line⟩, hfound, rfl⟩ := Option.map_eq_some_iff.mp herror.symm
  obtain ⟨before, part, later, hparts, hpart, hbefore⟩ := List.findSome?_eq_some_iff.mp hfound
  have hname : part = .reference name line ∧ declared name = false := by
    cases part with
    | reference name' line' =>
      simp only [undeclared?] at hpart
      split at hpart
      · cases hpart
      · rename_i hname
        cases hpart
        exact ⟨rfl, Bool.eq_false_iff.mpr hname⟩
    | number | rain | series | group | binary => cases hpart
  obtain ⟨rfl, hname⟩ := hname
  have htaken : e.evaluatedParts declared = before := by
    rw [evaluatedParts, hparts, List.takeWhile_append_of_pos (by simpa using hbefore)]
    simp [hpart]
  rw [htaken]
  exact ⟨name, line, later, hparts, hname, rfl⟩

/-- Where an expression has a value, all its parts are evaluated. -/
theorem evaluatedParts_of_ok {v : Value α} (h : (e.evaluate declared).result = .ok v) :
    e.evaluatedParts declared = e.parts := by
  have herror := error?_evaluate declared e
  rw [Evaluation.error?_of_ok h, eq_comm, Option.map_eq_none_iff, List.findSome?_eq_none_iff]
    at herror
  exact List.takeWhile_eq_self_iff.mpr fun part hpart => by rw [herror part hpart]; rfl

/-- Nothing behind an expression is evaluated if it goes wrong. -/
theorem takeWhile_parts_append_of_error {error : EvaluationError α}
    (h : (e.evaluate declared).result = .error error) (others : List (Expr α)) :
    (e.parts ++ others).takeWhile (fun part => (part.undeclared? declared).isNone)
      = e.evaluatedParts declared := by
  obtain ⟨name, line, later, hparts, hname, -⟩ := exists_parts_eq_of_error h
  rw [hparts, List.append_assoc,
    List.takeWhile_append_of_pos fun _ hpart => undeclared?_of_mem hpart]
  simp [undeclared?, hname]

/-- What is behind an expression is evaluated if it has a value. -/
theorem takeWhile_parts_append_of_ok {v : Value α} (h : (e.evaluate declared).result = .ok v)
    (others : List (Expr α)) :
    (e.parts ++ others).takeWhile (fun part => (part.undeclared? declared).isNone)
      = e.parts ++ others.takeWhile fun part => (part.undeclared? declared).isNone := by
  refine List.takeWhile_append_of_pos fun part hpart => ?_
  rw [← evaluatedParts_of_ok h] at hpart
  exact undeclared?_of_mem hpart

/-- The connections that an expression registers are those that its evaluated parts lead on, in
the order of the parts. -/
theorem legs_evaluate (declared : String → Bool) (e : Expr α) :
    (e.evaluate declared).legs = (e.evaluatedParts declared).filterMap (ledOn? declared) := by
  induction e with
  | number | rain | series => rfl
  | reference name line =>
    simp only [evaluate, evaluatedParts, parts, undeclared?]
    split <;> simp [*] <;> rfl
  | group e line ih =>
    rw [evaluate, ih]
    cases hresult : (e.evaluate declared).result with
    | error error =>
      rw [evaluatedParts, evaluatedParts, parts, takeWhile_parts_append_of_error hresult]
      rfl
    | ok v =>
      rw [evaluatedParts_of_ok hresult, evaluatedParts, parts,
        takeWhile_parts_append_of_ok hresult]
      simp [undeclared?, ledOn?]
  | binary operator left right line ihl ihr =>
    rw [evaluate, evaluatedParts, parts, List.append_assoc]
    cases hleft : (left.evaluate declared).result with
    | error error =>
      rw [Evaluation.bind_of_error _ hleft, takeWhile_parts_append_of_error hleft, ← ihl]
    | ok a =>
      rw [Evaluation.bind_of_ok _ hleft, takeWhile_parts_append_of_ok hleft,
        List.filterMap_append, ← evaluatedParts_of_ok hleft, ← ihl]
      cases hright : (right.evaluate declared).result with
      | error error =>
        rw [Evaluation.bind_of_error _ hright, takeWhile_parts_append_of_error hright, ← ihr]
      | ok b =>
        rw [Evaluation.bind_of_ok _ hright, takeWhile_parts_append_of_ok hright,
          List.filterMap_append, ← evaluatedParts_of_ok hright, ← ihr, operator.legs_apply]
        -- The operator itself comes last, and only an arrow leads anything on.
        cases operator with
        | plus => simp [undeclared?, ledOn?]
        | arrow => cases a <;> simp [undeclared?, ledOn?, hleft, Value.legs]

/-- A connection for which an expression stands has no name, and nothing waits in it. -/
theorem unnamed_of_result {c : Connection α} (h : (e.evaluate declared).result = .ok (.flow c)) :
    c.name = none ∧ c.waiting = ∅ := by
  induction e with
  | number | rain | series => cases h
  | reference name line =>
    unfold evaluate at h
    split at h <;> cases h
  | group e line ih => exact ih h
  | binary operator left right line =>
    obtain ⟨a, b, -, -, hvalue⟩ := result_binary_eq_ok_iff.mp h
    cases operator with
    | plus =>
      change Value.flow c = a.add b at hvalue
      unfold Value.add at hvalue
      split at hvalue
      · cases hvalue
      · split at hvalue <;> cases hvalue
    | arrow =>
      change Value.flow c = a.connect b at hvalue
      unfold Value.connect at hvalue
      split at hvalue <;> cases hvalue
      exact ⟨rfl, rfl⟩

/-- A connection that an expression leads on has no name yet, and nothing waits in it. -/
theorem ledOn?_eq_some {c : Connection α} (h : e.ledOn? declared = some c) :
    c.name = none ∧ c.waiting = ∅ := by
  unfold ledOn? at h
  split at h
  · split at h
    · rename_i hresult
      cases h
      exact unnamed_of_result hresult
    · cases h
  all_goals cases h

end Expr

end Catchment

import Catchment.Network.Execution

/-!
# `Catchment.Proofs.Network.Execution`: statements, one after the other

Statements are executed up to the first that goes wrong. So an execution that goes wrong has
a part in which all goes well, and one statement behind it, which is executed in the network
that this part leaves. An execution in which all goes well can be followed from statement to
statement.

* `Expr.result_binary`, `Expr.result_binary_eq_ok_iff`, `Expr.error_binary`: the value of an
  operator.
* `execute_append_of_ok`, `execute_append_of_error`: two lists, one behind the other.
* `error_execute_eq_some_iff`: which statement it is that goes wrong.
* `network_execute_of_error`: what an execution leaves that goes wrong.
* `execute_induction`: what all statements keep that are executed.
-/

set_option autoImplicit false

namespace Catchment

namespace Evaluation

variable {α β γ : Type}

/-- The result of two evaluations, one after the other, is that of the second on what the first
gives. -/
theorem result_bind (x : Evaluation α β) (f : β → Evaluation α γ) :
    (x >>= f).result = x.result.bind fun b => (f b).result := by
  show (Evaluation.bind x f).result = _
  unfold Evaluation.bind
  cases x.result <;> rfl

/-- What is found is the result. -/
theorem result_found (line : Int) (legs : List (Connection α)) (v : Value α) :
    (found line legs v).result = .ok v := by
  cases v <;> rfl

end Evaluation

/-- The value of an operator is worked out from those of both operands. -/
theorem Expr.result_binary {α : Type} [Amount α] (declared : String → Bool) (operator : Operator)
    (left right : Expr α) (line : Int) :
    ((binary operator left right line).evaluate declared).result =
      (left.evaluate declared).result.bind fun a =>
        (right.evaluate declared).result.bind fun b => (operator.apply line a b).result := by
  rw [evaluate, Evaluation.result_bind]
  refine congrArg _ (funext fun a => ?_)
  rw [Evaluation.result_bind]

/-- What an operator makes of two values. -/
def Operator.value {α : Type} [Amount α] : Operator → Value α → Value α → Value α
  | plus, a, b => a.add b
  | arrow, a, b => a.connect b

/-- An operator makes something of any two values. -/
theorem Operator.result_apply {α : Type} [Amount α] (operator : Operator) (line : Int)
    (a b : Value α) :
    (operator.apply line a b).result = .ok (operator.value a b) := by
  cases operator with
  | plus => exact Evaluation.result_found _ _ _
  | arrow => exact Evaluation.result_found _ _ _

section

variable {α : Type} [Amount α] {declared : String → Bool} {operator : Operator}
    {left right : Expr α}
  {line : Int}

/-- An operator in an expression has a result exactly if both operands have, and it is what the
operator makes of these. -/
theorem Expr.result_binary_eq_ok_iff {v : Value α} :
    ((binary operator left right line).evaluate declared).result = .ok v ↔
      ∃ a b, (left.evaluate declared).result = .ok a ∧ (right.evaluate declared).result = .ok b ∧
        v = operator.value a b := by
  rw [result_binary]
  cases (left.evaluate declared).result with
  | error _ => simp [Except.bind]
  | ok a =>
    cases (right.evaluate declared).result with
    | error _ => simp [Except.bind]
    | ok b => simp [Except.bind, Operator.result_apply, eq_comm]

/-- Where an operator goes wrong, it is one of its operands that does. -/
theorem Expr.error_binary {error : EvaluationError α}
    (h : ((binary operator left right line).evaluate declared).result = .error error) :
    (left.evaluate declared).result = .error error ∨
      (right.evaluate declared).result = .error error := by
  rw [result_binary] at h
  cases hleft : (left.evaluate declared).result with
  | error _ =>
    rw [hleft] at h
    exact Or.inl h
  | ok a =>
    cases hright : (right.evaluate declared).result with
    | error _ =>
      rw [hleft, hright] at h
      exact Or.inr h
    | ok b =>
      rw [hleft, hright] at h
      cases (operator.result_apply line a b).symm.trans h

end

namespace Network

variable {α : Type} [Amount α] {n : Network α} {s : Statement α}
  {done rest statements : List (Statement α)} {e : EvaluationError α}

/-- A statement that goes wrong ends the execution. -/
theorem execute_cons_of_error (h : (n.declare s).error = some e) :
    n.execute (s :: rest) = n.declare s := by
  rw [execute]
  simp only [h]

/-- The statements behind one that does not go wrong are executed on what it leaves. -/
theorem network_execute_cons (h : (n.declare s).error = none) :
    (n.execute (s :: rest)).network = ((n.declare s).network.execute rest).network := by
  rw [execute]
  simp only [h]

/-- What goes wrong behind a statement that does not is what goes wrong on what it leaves. -/
theorem error_execute_cons (h : (n.declare s).error = none) :
    (n.execute (s :: rest)).error = ((n.declare s).network.execute rest).error := by
  rw [execute]
  simp only [h]

/-- If all goes well in a list of statements, those behind it are executed in the network that it
leaves. -/
theorem execute_append_of_ok (h : (n.execute done).error = none) :
    (n.execute (done ++ rest)).network = ((n.execute done).network.execute rest).network ∧
      (n.execute (done ++ rest)).error = ((n.execute done).network.execute rest).error := by
  induction done generalizing n with
  | nil => exact ⟨rfl, rfl⟩
  | cons s done ih =>
    cases hfirst : (n.declare s).error with
    | some e =>
      rw [execute_cons_of_error hfirst, hfirst] at h
      cases h
    | none =>
      rw [error_execute_cons hfirst] at h
      rw [List.cons_append, network_execute_cons hfirst, error_execute_cons hfirst,
        network_execute_cons hfirst]
      exact ih h

/-- If something goes wrong in a list of statements, those behind it are not executed. -/
theorem execute_append_of_error (h : (n.execute done).error = some e) :
    (n.execute (done ++ rest)).network = (n.execute done).network ∧
      (n.execute (done ++ rest)).error = some e := by
  induction done generalizing n with
  | nil => cases h
  | cons s done ih =>
    cases hfirst : (n.declare s).error with
    | some e' =>
      rw [execute_cons_of_error hfirst] at h
      rw [List.cons_append, execute_cons_of_error hfirst, execute_cons_of_error hfirst]
      exact ⟨rfl, h⟩
    | none =>
      rw [error_execute_cons hfirst] at h
      rw [List.cons_append, network_execute_cons hfirst, error_execute_cons hfirst,
        network_execute_cons hfirst]
      exact ih h

/-- If all goes well in two lists, one behind the other, all goes well in the first. -/
theorem error_execute_of_append (h : (n.execute (done ++ rest)).error = none) :
    (n.execute done).error = none := by
  cases hdone : (n.execute done).error with
  | none => rfl
  | some e =>
    rw [(execute_append_of_error hdone).2] at h
    cases h

/-- One more statement is executed in the network that those before it leave. -/
theorem execute_concat_of_ok (h : (n.execute done).error = none) :
    (n.execute (done ++ [s])).network = ((n.execute done).network.declare s).network ∧
      (n.execute (done ++ [s])).error = ((n.execute done).network.declare s).error := by
  have hone : ∀ m : Network α, (m.execute [s]).network = (m.declare s).network ∧
      (m.execute [s]).error = (m.declare s).error := by
    intro m
    cases hs : (m.declare s).error with
    | some e =>
      rw [execute_cons_of_error hs]
      exact ⟨rfl, hs⟩
    | none =>
      rw [network_execute_cons hs, error_execute_cons hs]
      exact ⟨rfl, rfl⟩
  exact ⟨(execute_append_of_ok h).1.trans (hone _).1, (execute_append_of_ok h).2.trans (hone _).2⟩

/-- An execution goes wrong at one statement: all goes well before it, and it goes wrong in the
network that is left by then. -/
theorem error_execute_eq_some_iff :
    (n.execute statements).error = some e ↔
      ∃ done s rest, statements = done ++ s :: rest ∧ (n.execute done).error = none ∧
        ((n.execute done).network.declare s).error = some e := by
  constructor
  · intro h
    induction statements generalizing n with
    | nil => cases h
    | cons s rest ih =>
      cases hfirst : (n.declare s).error with
      | some e' =>
        rw [execute_cons_of_error hfirst] at h
        exact ⟨[], s, rest, rfl, rfl, h⟩
      | none =>
        rw [error_execute_cons hfirst] at h
        obtain ⟨done, t, rest', rfl, hdone, ht⟩ := ih h
        refine ⟨s :: done, t, rest', rfl, ?_, ?_⟩
        · rw [error_execute_cons hfirst, hdone]
        · rw [network_execute_cons hfirst, ht]
  · rintro ⟨done, s, rest, rfl, hdone, hs⟩
    rw [(execute_append_of_ok hdone).2, execute_cons_of_error hs, hs]

/-- What an execution leaves that goes wrong is what the statement leaves that does. -/
theorem network_execute_of_error (hdone : (n.execute done).error = none)
    (hs : ((n.execute done).network.declare s).error = some e) :
    (n.execute (done ++ s :: rest)).network = ((n.execute done).network.declare s).network := by
  rw [(execute_append_of_ok hdone).1, execute_cons_of_error hs]

/-- What holds of a network and is kept by every statement that is executed holds of the network
that an execution leaves in which all goes well. -/
theorem execute_induction {motive : Network α → Prop} (start : motive n)
    (step : ∀ m, ∀ s ∈ statements, motive m → (m.declare s).error = none →
      motive (m.declare s).network)
    (h : (n.execute statements).error = none) : motive (n.execute statements).network := by
  induction statements generalizing n with
  | nil => exact start
  | cons s rest ih =>
    cases hfirst : (n.declare s).error with
    | some e =>
      rw [execute_cons_of_error hfirst, hfirst] at h
      cases h
    | none =>
      rw [error_execute_cons hfirst] at h
      rw [network_execute_cons hfirst]
      exact ih (step n s List.mem_cons_self start hfirst)
        (fun m t ht => step m t (List.mem_cons_of_mem s ht)) h

end Network

end Catchment

import Catchment.Proofs.Network.Execution

/-!
# `Catchment.Proofs.Network.Outcome`: all that one statement can do

A statement is executed in steps: an expression is evaluated, its legs are laid, and its
value is given to a river or registered; a number of days is cut off, or a release is looked
at. Any of these can end the statement. `Outcome` lists the ends that there are, each with
what holds if a statement comes to it, the network that it leaves and what goes wrong. What
is true of a statement is read off this list.

* `Network.lay`: the network with the legs of an expression.
* `Network.Gives`: a statement gives the value of an expression to a river.
* `Network.Outcome`, `Network.outcome_declare`: the ends of a statement.
-/

set_option autoImplicit false

namespace Catchment

variable {α : Type}

/-- The connections that a value registers under the name of a statement. -/
def Value.connections (name : String) : Value α → List (Connection α)
  | flow c => [{ c with name := some name }]
  | number _ | rain .. | series _ | river _ | rivers _ | nothing _ => []

namespace Network

variable [Amount α] {n : Network α}

/-- A statement gives the value of an expression to a river: to a new one, or to one that is
declared. -/
inductive Gives (n : Network α) : Statement α → Expr α → River α → Prop
  | river {name : String} {line : Int} {e : Expr α} :
    Gives n ⟨name, line, .river e⟩ e (.dry name)
  | update {name : String} {line : Int} {e : Expr α} {r : River α}
      (hr : n.rivers.get? name = some r) : Gives n ⟨name, line, .update e⟩ e r

/-- The network with the legs of an expression. -/
def lay (n : Network α) (e : Expr α) : Network α := n.addFlows (e.evaluate n.rivers.contains).legs

/-- The end of a statement: the network that it leaves, and what goes wrong. -/
inductive Outcome (n : Network α) : Statement α → Network α → Option (EvaluationError α) → Prop
  | undefined {s : Statement α} {e : Expr α} {error : EvaluationError α}
      (hs : (∃ r, n.Gives s e r) ∨ s.declares = .flow e)
      (he : (e.evaluate n.rivers.contains).result = .error error) :
      Outcome n s (n.lay e) (some error)
  | given {s : Statement α} {e : Expr α} {v : Value α} {r r' : River α} (hs : n.Gives s e r)
      (he : (e.evaluate n.rivers.contains).result = .ok v) (hr : r.receive v = .ok r') :
      Outcome n s { n.lay e with rivers := n.rivers.insert s.name r' } none
  | overrun {s : Statement α} {e : Expr α} {v : Value α} {r : River α} {reason : RainError}
      (hs : n.Gives s e r) (he : (e.evaluate n.rivers.contains).result = .ok v)
      (hr : r.receive v = .error reason) : Outcome n s (n.lay e) (some (.rainTooLong reason))
  | undeclared {name : String} {line : Int} {e : Expr α} (hr : n.rivers.get? name = none) :
      Outcome n ⟨name, line, .update e⟩ n (some (.undeclaredRiver name line))
  | flow {name : String} {line : Int} {e : Expr α} {v : Value α}
      (he : (e.evaluate n.rivers.contains).result = .ok v) :
      Outcome n ⟨name, line, .flow e⟩ ((n.lay e).addFlows (v.connections name)) none
  | capacity {name : String} {line : Int} {volume : α} :
      Outcome n ⟨name, line, .capacity volume⟩
        { n with capacities := n.capacities.insert name volume } none
  | outflow {name : String} {line : Int} {days : α} {whole : Int}
      (hdays : Amount.truncate days = .ok whole) (hlong : (shortestOutflow : Int) ≤ whole) :
      Outcome n ⟨name, line, .flowOut days⟩
        { n with outflowDays := whole.toNat, outflowDeclared := true } none
  | outflowNotWhole {name : String} {line : Int} {days : α} {reason : Numeral.NoWholePart}
      (hdays : Amount.truncate days = .error reason) :
      Outcome n ⟨name, line, .flowOut days⟩ n (some (.outflowNotWhole reason))
  | outflowTooShort {name : String} {line : Int} {days : α} {whole : Int}
      (hdays : Amount.truncate days = .ok whole) (hshort : whole < shortestOutflow) :
      Outcome n ⟨name, line, .flowOut days⟩ n (some (.outflowTooShort whole name line))
  | dam {name : String} {line : Int} {capacity release : α} {r : River α}
      (hrelease : 0 ≤ release ∧ release ≤ 100)
      (hr : (River.dry name).addRain 0 n.outflowDays = .ok r) :
      Outcome n ⟨name, line, .dam capacity release⟩
        { n with
          dams := n.dams.insert name ⟨name, capacity, release, 0⟩
          rivers := n.rivers.insert name r } none
  | stranded {name : String} {line : Int} {capacity release : α} {reason : RainError}
      (hrelease : 0 ≤ release ∧ release ≤ 100)
      (hr : (River.dry name : River α).addRain 0 n.outflowDays = .error reason) :
      Outcome n ⟨name, line, .dam capacity release⟩
        { n with dams := n.dams.insert name ⟨name, capacity, release, 0⟩ }
        (some (.rainTooLong reason))
  | releaseOutOfRange {name : String} {line : Int} {capacity release : α}
      (hrelease : ¬(0 ≤ release ∧ release ≤ 100)) :
      Outcome n ⟨name, line, .dam capacity release⟩ n
        (some (.releaseOutOfRange release name line))

/-- A statement with an expression ends where the expression goes wrong, or as it goes on with the
value. -/
theorem outcome_withValue {s : Statement α} {e : Expr α} {go : Network α → Value α → Execution α}
    (hs : (∃ r, n.Gives s e r) ∨ s.declares = .flow e)
    (hgo : ∀ v, (e.evaluate n.rivers.contains).result = .ok v →
      n.Outcome s (go (n.lay e) v).network (go (n.lay e) v).error) :
    n.Outcome s (n.withValue e go).network (n.withValue e go).error := by
  unfold withValue
  cases he : (e.evaluate n.rivers.contains).result with
  | error error =>
    simp only [he]
    exact .undefined hs he
  | ok v =>
    simp only [he]
    exact hgo v he

/-- With the value of its expression, a statement that declares a river comes to its end: a dry
river receives the value, or its record would be too long. -/
theorem outcome_declareRiver {name : String} {line : Int} {e : Expr α} {v : Value α}
    (he : (e.evaluate n.rivers.contains).result = .ok v) :
    n.Outcome ⟨name, line, .river e⟩ ((n.lay e).declareRiver name line v).network
      ((n.lay e).declareRiver name line v).error := by
  unfold declareRiver
  cases hr : (River.dry name).receive v with
  | error reason => exact .overrun .river he hr
  | ok r => exact .given .river he hr

/-- With the value of its expression, a statement that updates a river comes to its end: the river
that is declared receives the value, or its record would be too long. -/
theorem outcome_updateRiver {name : String} {line : Int} {e : Expr α} {v : Value α}
    {river : River α} (hriver : n.rivers.get? name = some river)
    (he : (e.evaluate n.rivers.contains).result = .ok v) :
    n.Outcome ⟨name, line, .update e⟩ ((n.lay e).updateRiver river name line v).network
      ((n.lay e).updateRiver river name line v).error := by
  unfold updateRiver
  cases hr : river.receive v with
  | error reason => exact .overrun (.update hriver) he hr
  | ok r => exact .given (.update hriver) he hr

/-- With the value of its expression, a statement that declares a flow comes to its end: the
connection that the value is gets the name of the statement, and any other value registers
nothing. -/
theorem outcome_declareFlow {name : String} {line : Int} {e : Expr α} {v : Value α}
    (he : (e.evaluate n.rivers.contains).result = .ok v) :
    n.Outcome ⟨name, line, .flow e⟩ ((n.lay e).declareFlow name line v).network
      ((n.lay e).declareFlow name line v).error := by
  have hnetwork : ((n.lay e).declareFlow name line v).network
      = (n.lay e).addFlows (v.connections name) := by
    cases v with
    | flow c => rfl
    | number | rain | series | river | rivers | nothing =>
      exact congrArg (Network.mk _ _ _ · _ _) (List.append_nil (n.lay e).flows).symm
  have herror : ((n.lay e).declareFlow name line v).error = none := by
    cases v <;> rfl
  rw [hnetwork, herror]
  exact .flow he

/-- A statement that declares days of outflow comes to its end: they have no whole part, or are
too few, or are those of the network from then on. -/
theorem outcome_declareOutflow (n : Network α) (name : String) (line : Int) (days : α) :
    n.Outcome ⟨name, line, .flowOut days⟩ (n.declareOutflow name line days).network
      (n.declareOutflow name line days).error := by
  unfold declareOutflow
  split
  · rename_i reason hdays
    exact .outflowNotWhole hdays
  · rename_i whole hdays
    split
    · rename_i hshort
      exact .outflowTooShort hdays hshort
    · rename_i hlong
      exact .outflow hdays (Int.not_lt.mp hlong)

/-- A statement that declares a dam comes to its end: its release is no percentage, or its river
cannot have a record of so many days of outflow, or both are there. -/
theorem outcome_declareDam (n : Network α) (name : String) (line : Int) (capacity release : α) :
    n.Outcome ⟨name, line, .dam capacity release⟩
      (n.declareDam name line capacity release).network
      (n.declareDam name line capacity release).error := by
  unfold declareDam
  split
  · rename_i hrelease
    cases hr : (River.dry name : River α).addRain 0 n.outflowDays with
    | error reason => exact .stranded hrelease hr
    | ok r => exact .dam hrelease hr
  · rename_i hrelease
    exact .releaseOutOfRange hrelease

/-- Every statement comes to one of these ends. -/
theorem outcome_declare (n : Network α) (s : Statement α) :
    n.Outcome s (n.declare s).network (n.declare s).error := by
  obtain ⟨name, line, declares⟩ := s
  cases declares with
  | river e => exact outcome_withValue (.inl ⟨_, .river⟩) fun v he => outcome_declareRiver he
  | update e =>
    -- The river is looked up before the value is worked out.
    unfold declare
    cases hriver : n.rivers.get? name with
    | none => exact .undeclared hriver
    | some river =>
      exact outcome_withValue (.inl ⟨_, .update hriver⟩) fun v he => outcome_updateRiver hriver he
  | flow e => exact outcome_withValue (.inr rfl) fun v he => outcome_declareFlow he
  | capacity volume => exact .capacity
  | flowOut days => exact n.outcome_declareOutflow name line days
  | dam capacity release => exact n.outcome_declareDam name line capacity release

end Network

end Catchment

import Mathlib.Data.Nat.Cast.Defs
import Catchment.Amount.Binary
import Catchment.Failure
import Catchment.Proofs.Expr.Legs
import Catchment.Proofs.Network.Outcome
import Catchment.Proofs.Table

/-!
# `Catchment.Proofs.Network.Extent`: statements that declare nothing

A statement may go wrong, or be given a value that declares nothing. Either way something may
be left of it. The connections that its expression has led on by then are registered and
stay, and a new river is there, without rain, whatever it is given. Nothing else of the
network has changed.

* `Network.evaluatedParts`, `Network.ledOn`: how far the expression of a statement is evaluated,
  and what is registered meanwhile.
* `Network.FailsAt`, `Network.declare_of_reported`: where a statement goes wrong, and what it
  leaves.
* `Network.failing_statement_leaves_its_legs`: what is left where a program goes wrong.
* `Network.statement_without_value`: what is left of a statement whose expression stands for
  nothing.
* `Network.river_lost_to_nothing`: an old river gives way to a new one that is given nothing.
-/

set_option autoImplicit false

namespace Catchment

variable {α : Type}

/-- The expression of a declaration, if there is one. -/
def Declaration.expr? : Declaration α → Option (Expr α)
  | river e | update e | flow e => some e
  | capacity _ | flowOut _ | dam .. => none

namespace Network

variable [Amount α] {n : Network α} {s : Statement α} {e : Expr α} {error : EvaluationError α}

/-- The parts of the expression of a statement that are evaluated. An update does not come to its
expression unless its river is declared. -/
def evaluatedParts (n : Network α) (s : Statement α) : List (Expr α) :=
  match s.declares with
  | .river e | .flow e => e.evaluatedParts n.rivers.contains
  | .update e => if n.rivers.contains s.name then e.evaluatedParts n.rivers.contains else []
  | .capacity _ | .flowOut _ | .dam .. => []

/-- The connections that the expression of a statement leads on, in the order of its parts. -/
def ledOn (n : Network α) (s : Statement α) : List (Connection α) :=
  (n.evaluatedParts s).filterMap (Expr.ledOn? n.rivers.contains)

omit [Amount α] in
/-- Adding no connections leaves a network as it is. -/
theorem addFlows_nil (n : Network α) : n.addFlows [] = n :=
  congrArg (Network.mk _ _ _ · _ _) (List.append_nil n.flows)

/-- What is led on has no name, and nothing waits in it. -/
theorem unnamed_of_mem_ledOn {c : Connection α} (hc : c ∈ n.ledOn s) :
    c.name = none ∧ c.waiting = ∅ := by
  obtain ⟨part, -, hpart⟩ := List.mem_filterMap.mp hc
  exact Expr.ledOn?_eq_some hpart

/-! ### Statements that come to their expression -/

/-- The expression that a statement gives to a river is the one it declares. -/
theorem Gives.expr?_eq {r : River α} (h : n.Gives s e r) : s.declares.expr? = some e := by
  cases h <;> rfl

/-- The expression that a statement evaluates, for a river or for a connection, is the one it
declares. -/
theorem expr?_eq_of_evaluates (h : (∃ r, n.Gives s e r) ∨ s.declares = .flow e) :
    s.declares.expr? = some e := by
  rcases h with ⟨r, h⟩ | h
  · exact h.expr?_eq
  · rw [h]
    rfl

/-- The parts that are evaluated of a statement are those that are evaluated of its expression. -/
theorem evaluatedParts_eq (h : (∃ r, n.Gives s e r) ∨ s.declares = .flow e) :
    n.evaluatedParts s = e.evaluatedParts n.rivers.contains := by
  unfold evaluatedParts
  rcases h with ⟨r, h⟩ | h
  · cases h with
    | river => rfl
    | @update name line e r hr =>
      have hname : n.rivers.contains name = true := by
        rw [Table.contains, hr]
        rfl
      simp only [hname, if_true]
  · rw [h]

omit [Amount α] in
/-- An update of a river that is not declared does not come to its expression. -/
theorem evaluatedParts_of_undeclared {name : String} {line : Int}
    (h : n.rivers.get? name = none) :
    n.evaluatedParts ⟨name, line, .update e⟩ = [] := by
  have hname : n.rivers.contains name = false := by
    rw [Table.contains, h]
    rfl
  simp only [evaluatedParts, hname, Bool.false_eq_true, if_false]

/-- The legs that are laid are the connections that are led on. -/
theorem lay_eq (h : (∃ r, n.Gives s e r) ∨ s.declares = .flow e) :
    n.lay e = n.addFlows (n.ledOn s) := by
  rw [lay, ledOn, Expr.legs_evaluate, evaluatedParts_eq h]

/-! ### Statements that go wrong -/

/-- Where a statement goes wrong and is reported: at a name in its expression, behind all parts
that are evaluated, or before it comes to an expression. -/
inductive FailsAt (n : Network α) (s : Statement α) : EvaluationError α → Prop
  | name {e : Expr α} {name : String} {line : Int} {later : List (Expr α)}
      (hs : s.declares.expr? = some e)
      (hparts : e.parts = n.evaluatedParts s ++ .reference name line :: later)
      (hname : name ∉ n.rivers.keys) : FailsAt n s (.undefined name line)
  | river {e : Expr α} (hs : s.declares = .update e) (hname : s.name ∉ n.rivers.keys) :
      FailsAt n s (.undeclaredRiver s.name s.line)
  | outflow {days : α} {whole : Int} (hs : s.declares = .flowOut days)
      (hdays : Amount.truncate days = .ok whole) (hshort : whole < shortestOutflow) :
      FailsAt n s (.outflowTooShort whole s.name s.line)
  | release {capacity release : α} (hs : s.declares = .dam capacity release)
      (hrelease : ¬(0 ≤ release ∧ release ≤ 100)) :
      FailsAt n s (.releaseOutOfRange release s.name s.line)

/-- A statement that goes wrong and is reported leaves what it has led on by then. -/
theorem declare_of_reported (h : (n.declare s).error = some error)
    (hreported : error.failure?.isSome) :
    n.FailsAt s error ∧ (n.declare s).network = n.addFlows (n.ledOn s) := by
  have houtcome := n.outcome_declare s
  rw [h] at houtcome
  generalize (n.declare s).network = m at houtcome
  cases houtcome with
  | undefined hs he =>
    obtain ⟨name, line, later, hparts, hname, rfl⟩ := Expr.exists_parts_eq_of_error he
    rw [← evaluatedParts_eq hs] at hparts
    have hkeys : name ∉ n.rivers.keys := by
      rw [← Table.contains_iff, hname]
      exact Bool.false_ne_true
    exact ⟨.name (expr?_eq_of_evaluates hs) hparts hkeys, lay_eq hs⟩
  | undeclared hr =>
    rw [ledOn, evaluatedParts_of_undeclared hr]
    exact ⟨.river rfl ((Table.get?_eq_none_iff _ _).mp hr), (addFlows_nil n).symm⟩
  | outflowTooShort hdays hshort => exact ⟨.outflow rfl hdays hshort, (addFlows_nil n).symm⟩
  | releaseOutOfRange hrelease => exact ⟨.release rfl hrelease, (addFlows_nil n).symm⟩
  | overrun | stranded | outflowNotWhole => cases hreported

/-- Where a program goes wrong and is reported, everything is as the statements in front of the
one that fails leave it, except that the connections are there that this statement has led on by
then. They have no name, and nothing waits in them. So if nothing has been led on, nothing is left
of the statement. -/
theorem failing_statement_leaves_its_legs {statements : List (Statement α)}
    (h : (n.execute statements).error = some error) (hreported : error.failure?.isSome) :
    ∃ done s rest, statements = done ++ s :: rest ∧ (n.execute done).error = none ∧
      let before := (n.execute done).network
      (before.declare s).error = some error ∧ before.FailsAt s error ∧
        (n.execute statements).network = { before with flows := before.flows ++ before.ledOn s } ∧
        (∀ c ∈ before.ledOn s, c.name = none ∧ c.waiting = ∅) ∧
        (before.ledOn s = [] → (n.execute statements).network = before) := by
  obtain ⟨done, s, rest, rfl, hdone, hs⟩ := error_execute_eq_some_iff.mp h
  obtain ⟨hfails, hleft⟩ := declare_of_reported hs hreported
  have hnetwork : (n.execute (done ++ s :: rest)).network
      = (n.execute done).network.addFlows ((n.execute done).network.ledOn s) := by
    rw [network_execute_of_error hdone hs, hleft]
  refine ⟨done, s, rest, rfl, hdone, hs, hfails, hnetwork,
    fun c hc => unnamed_of_mem_ledOn hc, ?_⟩
  intro hnone
  rw [hnetwork, hnone, addFlows_nil]

/-- The last statement leads `a -> b` on before it comes to a name that is not declared. -/
theorem failing_statement_leaves_its_legs_detour :
    let statements : List (Statement Float) :=
      [⟨"a", 1, .river (.rain 1 2 1)⟩, ⟨"b", 2, .river (.rain 3 1 2)⟩,
        ⟨"f", 3, .flow (.binary .arrow (.group (.binary .arrow (.binary .arrow (.reference "a" 3)
          (.reference "b" 3) 3) (.reference "a" 3) 3) 3) (.reference "x" 3) 3)⟩]
    let error : EvaluationError Float := .undefined "x" 3
    (empty.execute statements).error = some error ∧ error.failure?.isSome ∧
      (empty.execute statements).network.flows = [.leg ["a"] ["b"]] ∧
      ∃ done s rest, statements = done ++ s :: rest ∧
        (empty.execute done).network.FailsAt s error ∧
        (empty.execute statements).network = { (empty.execute done).network with
          flows := (empty.execute done).network.flows ++
            (empty.execute done).network.ledOn s } := by
  intro statements error
  have herror : (empty.execute statements).error = some error := rfl
  have hflows : (empty.execute statements).network.flows = [.leg ["a"] ["b"]] := by decide +kernel
  obtain ⟨done, s, rest, hstatements, -, -, hfails, hnetwork, -⟩ :=
    failing_statement_leaves_its_legs herror rfl
  exact ⟨herror, rfl, hflows, done, s, rest, hstatements, hfails, hnetwork⟩

/-! ### Statements without a value -/

/-- The rivers after a statement whose expression stands for nothing: a new river is there all the
same, without rain. -/
def riversWithoutValue (n : Network α) (s : Statement α) : Table (River α) :=
  match s.declares with
  | .river _ => n.rivers.insert s.name (.dry s.name)
  | .update _ | .flow _ | .capacity _ | .flowOut _ | .dam .. => n.rivers

/-- What is left of a statement whose expression stands for nothing: the connections that it leads
on, and a river without rain if it declares one. Everything else is as it was. -/
theorem declare_of_nothing {reason : NoValue} (hs : s.declares.expr? = some e)
    (he : (e.evaluate n.rivers.contains).result = .ok (.nothing reason)) :
    (n.declare s).network
      = { n with rivers := n.riversWithoutValue s, flows := n.flows ++ n.ledOn s } := by
  have houtcome := n.outcome_declare s
  generalize (n.declare s).network = m, (n.declare s).error = error at houtcome
  cases houtcome with
  | undefined hs' he' =>
    obtain rfl := Option.some.inj (hs.symm.trans (expr?_eq_of_evaluates hs'))
    cases he.symm.trans he'
  | given hgives he' hr =>
    obtain rfl := Option.some.inj (hs.symm.trans hgives.expr?_eq)
    obtain rfl := Except.ok.inj (he.symm.trans he')
    -- A river that is given nothing stays as it is, and it is put back under its name.
    cases hr
    rw [lay_eq (.inl ⟨_, hgives⟩)]
    cases hgives with
    | river => rfl
    | update hr => rw [Table.insert_eq_self hr]; rfl
  | overrun hgives he' hr =>
    obtain rfl := Option.some.inj (hs.symm.trans hgives.expr?_eq)
    obtain rfl := Except.ok.inj (he.symm.trans he')
    cases hr
  | undeclared hr =>
    rw [ledOn, evaluatedParts_of_undeclared hr]
    exact (addFlows_nil n).symm
  | @flow name line e' v he' =>
    obtain rfl := Option.some.inj hs
    obtain rfl := Except.ok.inj (he.symm.trans he')
    rw [lay_eq (s := ⟨name, line, .flow e'⟩) (.inr rfl)]
    exact addFlows_nil _
  | capacity | outflow | outflowNotWhole | outflowTooShort | dam | stranded | releaseOutOfRange =>
    cases hs

/-- The rivers stay as they are unless a new one takes a name without being just as dry. -/
theorem riversWithoutValue_eq_iff :
    n.riversWithoutValue s = n.rivers ↔
      ∀ e, s.declares = .river e → n.rivers.get? s.name = some (.dry s.name) := by
  unfold riversWithoutValue
  cases hs : s.declares with
  | river e =>
    constructor
    · intro h e' _
      rw [← h, Table.get?_insert, if_pos rfl]
    · intro h
      exact Table.insert_eq_self (h e rfl)
  | update | flow | capacity | flowOut | dam => exact iff_of_true rfl nofun

/-- A statement whose expression stands for nothing leaves dams, capacities and days of outflow
alone, adds no connections but those that its expression leads on, and changes no river but one
that it declares, which is there without rain. So the network is exactly as it was if and only if
no connection is led on, and the statement does not declare a river that was not there in the same
state before. -/
theorem statement_without_value {reason : NoValue} (hs : s.declares.expr? = some e)
    (he : (e.evaluate n.rivers.contains).result = .ok (.nothing reason)) :
    (n.declare s).network
        = { n with rivers := n.riversWithoutValue s, flows := n.flows ++ n.ledOn s } ∧
      ((n.declare s).network = n ↔ n.ledOn s = [] ∧
        ∀ e, s.declares = .river e → n.rivers.get? s.name = some (.dry s.name)) := by
  have hleft := declare_of_nothing hs he
  refine ⟨hleft, ?_⟩
  rw [← riversWithoutValue_eq_iff, hleft]
  constructor
  · intro h
    have hflows : n.flows ++ n.ledOn s = n.flows := congrArg Network.flows h
    exact ⟨List.append_right_eq_self.mp hflows, congrArg Network.rivers h⟩
  · rintro ⟨hled, hrivers⟩
    rw [hled, hrivers]
    exact addFlows_nil n

/-- A route that ends in a number stands for nothing, but its first leg is registered all the
same. -/
theorem statement_without_value_detour :
    let n : Network Float :=
      (empty.execute [⟨"a", 1, .river (.rain 1 2 1)⟩, ⟨"b", 2, .river (.rain 3 1 2)⟩]).network
    let e : Expr Float := .binary .arrow
      (.binary .arrow (.reference "a" 3) (.reference "b" 3) 3) (.number 5 3) 3
    let s : Statement Float := ⟨"f", 3, .flow e⟩
    s.declares.expr? = some e ∧
      (e.evaluate n.rivers.contains).result = .ok (.nothing (.destination .number)) ∧
      (n.declare s).network = { n with flows := [.leg ["a"] ["b"]] } ∧
        (n.declare s).network ≠ n := by
  intro n e s
  have he : (e.evaluate n.rivers.contains).result = .ok (.nothing (.destination .number)) := rfl
  have hled : n.ledOn s = [.leg ["a"] ["b"]] := by decide +kernel
  obtain ⟨hleft, hsame⟩ := statement_without_value (s := s) rfl he
  refine ⟨rfl, he, ?_, fun h => ?_⟩
  · rw [hleft, hled]
    rfl
  · have hnone := (hsame.mp h).1
    rw [hled] at hnone
    cases hnone

/-- A statement whose expression stands for nothing need not leave a network alone: a river that
is declared again loses its rain. -/
theorem river_lost_to_nothing :
    ¬∀ (n : Network Float) (s : Statement Float) (e : Expr Float) (reason : NoValue),
      s.declares.expr? = some e → (e.evaluate n.rivers.contains).result = .ok (.nothing reason) →
        (n.declare s).network = n := by
  intro h
  let n : Network Float := (empty.execute [⟨"a", 1, .river (.rain 5 1 1)⟩]).network
  let s : Statement Float := ⟨"a", 1, .river (.binary .plus (.rain 5 1 1) (.rain 3 1 1) 1)⟩
  have hlost : ((n.declare s).network.rivers.get? "a").map (·.rain.length) = some 0 := by
    decide +kernel
  have hkept : (n.rivers.get? "a").map (·.rain.length) = some 1 := by decide +kernel
  rw [h n s _ _ rfl rfl, hkept] at hlost
  cases hlost

end Network

end Catchment

import Catchment.Amount.Binary
import Catchment.Proofs.Expr.Legs
import Catchment.Proofs.Table

/-!
# `Catchment.Proofs.Network.Route`: routes and their legs

A route leads water through stops. A stop is one declared river or several with a plus
between them, in any grouping, and every stop but the first stands behind an arrow. Arrows
group to the left, and any front of a route may stand in parentheses. Between two stops that
follow each other there is a leg. All legs but the last are registered while the route is
evaluated, and the last is what the route stands for. The statement that declares the route
gives it its name.

* `Expr.IsSum`, `Expr.IsRoute`: the expressions that are stops, and those that are routes.
* `Connection.legs`: the legs between stops.
* `Expr.evaluate_of_isSum`: what a stop stands for.
* `Expr.evaluate_of_isRoute`: a route registers its legs, by induction on the route.
* `Network.route_registers_its_legs`: the connections of a declared route.
-/

set_option autoImplicit false

namespace Catchment

variable {α : Type}

namespace Expr

/-- Whether an expression puts rivers together. -/
def IsSum : Expr α → Prop
  | reference .. => True
  | group e _ => e.IsSum
  | binary .plus left right _ => left.IsSum ∧ right.IsSum
  | number .. | rain .. | series .. | binary .arrow .. => False

/-- The names in an expression, from left to right. -/
def names : Expr α → List String
  | reference name _ => [name]
  | group e _ => e.names
  | binary _ left right _ => left.names ++ right.names
  | number .. | rain .. | series .. => []

/-- An expression is a route through some stops. -/
inductive IsRoute : Expr α → List (Expr α) → Prop
  | stop {e : Expr α} (h : e.IsSum) : IsRoute e [e]
  | group {e : Expr α} {stops : List (Expr α)} {line : Int} (h : IsRoute e stops) :
      IsRoute (.group e line) stops
  | arrow {left right : Expr α} {stops : List (Expr α)} {line : Int} (hl : IsRoute left stops)
      (hr : right.IsSum) : IsRoute (.binary .arrow left right line) (stops ++ [right])

end Expr

/-! ### Legs -/

namespace Connection

/-- The legs between stops: from each to the one that follows it. -/
def legs : List (List String) → List (Connection α)
  | a :: b :: rest => .leg a b :: legs (b :: rest)
  | _ => []

/-- One more stop makes one more leg. -/
theorem legs_concat (stops : List (List String)) (a b : List String) :
    (legs (stops ++ [a] ++ [b]) : List (Connection α)) = legs (stops ++ [a]) ++ [.leg a b] := by
  induction stops with
  | nil => rfl
  | cons first rest ih =>
    cases rest with
    | nil => rfl
    | cons second rest => exact congrArg (.leg first second :: ·) ih

/-- Between stops there is one leg less than there are stops. -/
theorem length_legs (stops : List (List String)) :
    (legs stops : List (Connection α)).length = stops.length - 1 := by
  induction stops with
  | nil => rfl
  | cons first rest ih =>
    cases rest with
    | nil => rfl
    | cons second rest => simpa [legs] using ih

/-- The leg at a place goes from the stop at that place to the one that follows it. -/
theorem getElem?_legs {stops : List (List String)} {k : Nat} (h : k + 1 < stops.length) :
    (legs stops : List (Connection α))[k]? = some (.leg stops[k] stops[k + 1]) := by
  induction stops generalizing k with
  | nil => cases h
  | cons first rest ih =>
    cases rest with
    | nil => simp at h
    | cons second rest =>
      cases k with
      | zero => rfl
      | succ k => exact ih (Nat.lt_of_succ_lt_succ h)

end Connection

/-! ### Evaluation -/

/-- Rivers that are put together are listed one after the other. -/
theorem Value.add_of_endpoints [Amount α] {a b : Value α} {xs ys : List String}
    (ha : a.endpoints? = some xs) (hb : b.endpoints? = some ys) :
    a.add b = .rivers (xs ++ ys) := by
  cases a with
  | river | rivers => simp only [Value.add, ha, hb]
  | number | rain | series | flow | nothing => cases ha

/-- Rivers can be led on, and no connection is registered for that. -/
theorem Value.outlets?_of_endpoints {v : Value α} {names : List String}
    (h : v.endpoints? = some names) : v.outlets? = some names ∧ v.legs = [] := by
  cases v with
  | river | rivers => exact ⟨h, rfl⟩
  | number | rain | series | flow | nothing => cases h

namespace Expr

variable [Amount α] {declared : String → Bool} {e : Expr α}

/-- A stop stands for its rivers, and nothing happens on the way. -/
theorem evaluate_of_isSum (h : e.IsSum) (hdeclared : ∀ name ∈ e.names, declared name = true) :
    ∃ v, e.evaluate declared = pure v ∧ v.endpoints? = some e.names := by
  induction e with
  | number | rain | series => exact h.elim
  | reference name line =>
    have hname : declared name = true := hdeclared name List.mem_cons_self
    refine ⟨.river name, ?_, rfl⟩
    rw [evaluate, if_pos hname]
  | group e line ih => exact ih h hdeclared
  | binary operator left right line ihl ihr =>
    cases operator with
    | arrow => exact h.elim
    | plus =>
      obtain ⟨a, hleft, ha⟩ :=
        ihl h.1 fun name hname => hdeclared name (List.mem_append_left _ hname)
      obtain ⟨b, hright, hb⟩ :=
        ihr h.2 fun name hname => hdeclared name (List.mem_append_right _ hname)
      refine ⟨.rivers (left.names ++ right.names), ?_, rfl⟩
      rw [evaluate, hleft, hright, ← Value.add_of_endpoints ha hb]
      show Evaluation.found line [] (a.add b) = pure (a.add b)
      rw [Value.add_of_endpoints ha hb]
      rfl

/-- An arrow that makes a connection registers the one that it leads on, and stands for its
own. -/
theorem evaluate_of_connect {left right : Expr α} {a b : Value α} {c : Connection α} (line : Int)
    (hleft : (left.evaluate declared).result = .ok a) (hright : right.evaluate declared = pure b)
    (hconnect : a.connect b = .flow c) :
    (binary .arrow left right line).evaluate declared =
      ⟨(left.evaluate declared).legs ++ a.legs, (left.evaluate declared).notices,
        .ok (.flow c)⟩ := by
  have hrest : (right.evaluate declared >>= fun b => Operator.arrow.apply line a b)
      = ⟨a.legs, [], .ok (.flow c)⟩ := by
    rw [hright]
    show Evaluation.found line a.legs (a.connect b) = _
    rw [hconnect]
    rfl
  rw [evaluate, Evaluation.bind_of_ok _ hleft, hrest, List.append_nil]

/-- A route registers all its legs but the last, stands for that one, and gives nothing to be
noticed. A route with one stop stands for the rivers of that stop. -/
theorem evaluate_of_isRoute {stops : List (Expr α)} (h : e.IsRoute stops)
    (hdeclared : ∀ stop ∈ stops, ∀ name ∈ stop.names, declared name = true) :
    ∃ v before last, stops = before ++ [last] ∧
      (e.evaluate declared).result = .ok v ∧ (e.evaluate declared).notices = [] ∧
      v.outlets? = some last.names ∧
      (e.evaluate declared).legs ++ v.legs = Connection.legs (stops.map names) ∧
      (2 ≤ stops.length → ∃ c, v = .flow c) := by
  -- What is kept from arrow to arrow: what is registered and what the route stands for are all
  -- legs so far.
  induction h with
  | @stop e hsum =>
    obtain ⟨v, hvalue, hends⟩ :=
      evaluate_of_isSum hsum fun name hname => hdeclared e List.mem_cons_self name hname
    obtain ⟨houtlets, hlegs⟩ := Value.outlets?_of_endpoints hends
    refine ⟨v, [], e, rfl, ?_, ?_, houtlets, ?_, fun hlong => ?_⟩
    · rw [hvalue]
      rfl
    · rw [hvalue]
      rfl
    · rw [hvalue, hlegs]
      rfl
    · simp at hlong
  | group h ih => exact ih hdeclared
  | @arrow left right stops line hl hr ih =>
    obtain ⟨a, before, last, rfl, hresult, hnotices, houtlets, hlegs, -⟩ :=
      ih fun stop hstop => hdeclared stop (List.mem_append_left _ hstop)
    obtain ⟨b, hright, hends⟩ :=
      evaluate_of_isSum hr fun name hname =>
        hdeclared right (List.mem_append_right _ (by simp)) name hname
    have hconnect : a.connect b = .flow (.leg last.names right.names) := by
      simp only [Value.connect, houtlets, hends]
    have heval := evaluate_of_connect line hresult hright hconnect
    rw [hnotices] at heval
    rw [heval]
    refine ⟨_, _, right, rfl, rfl, rfl, rfl, ?_, fun _ => ⟨_, rfl⟩⟩
    rw [List.map_append, List.map_append, List.map_singleton, List.map_singleton,
      Connection.legs_concat]
    rw [List.map_append, List.map_singleton] at hlegs
    exact congrArg (· ++ [Connection.leg last.names right.names]) hlegs

end Expr

namespace Network

variable [Amount α] {n : Network α} {e : Expr α} {stops : List (Expr α)}

/-- A declared route with at least two stops registers one connection for every leg, in order.
Each leads from the rivers of a stop to those of the next one, as often as they are named. The
last has the name of the statement and the others have none, and nothing waits in any of them.
Nothing else changes, and nothing is noticed that would be a warning. -/
theorem route_registers_its_legs (name : String) (line : Int) (hroute : e.IsRoute stops)
    (hlong : 2 ≤ stops.length)
    (hdeclared : ∀ stop ∈ stops, ∀ river ∈ stop.names, river ∈ n.rivers.keys) :
    let execution := n.declare ⟨name, line, .flow e⟩
    ∃ legs : List (Connection α),
      execution.network = { n with flows := n.flows ++ legs } ∧ execution.error = none ∧
      (∀ notice ∈ execution.notices, notice.level = .debug) ∧
      legs.length = stops.length - 1 ∧
      ∀ k (_ : k + 1 < stops.length), legs[k]? =
        some { name := if k + 2 = stops.length then some name else none
               sources := stops[k].names
               destinations := stops[k + 1].names
               waiting := ∅ } := by
  intro execution
  have hcontains : ∀ stop ∈ stops, ∀ river ∈ stop.names, n.rivers.contains river = true :=
    fun stop hstop river hriver =>
      (n.rivers.contains_iff river).mpr (hdeclared stop hstop river hriver)
  obtain ⟨v, before, last, -, hresult, hnotices, -, hlegs, hflow⟩ :=
    Expr.evaluate_of_isRoute hroute hcontains
  obtain ⟨c, rfl⟩ := hflow hlong
  let first := (e.evaluate n.rivers.contains).legs
  have hlegs : first ++ [c] = Connection.legs (stops.map Expr.names) := hlegs
  have hexecution : execution = ⟨(n.addFlows first).addFlows [{ c with name := some name }],
      [.flowDeclared name ({ c with name := some name } : Connection α).describe], none⟩ := by
    show n.withValue e (fun n v => n.declareFlow name line v) = _
    simp only [withValue, hresult, hnotices, declareFlow]
    rfl
  have hlength : first.length + 1 = stops.length - 1 := by
    have hcount := congrArg List.length hlegs
    rwa [Connection.length_legs, List.length_map, List.length_append, List.length_singleton]
      at hcount
  refine ⟨first ++ [{ c with name := some name }], ?_, ?_, ?_, ?_, fun k hk => ?_⟩
  · rw [hexecution]
    simp only [addFlows, List.append_assoc]
  · rw [hexecution]
  · rw [hexecution]
    intro notice hnotice
    rw [List.mem_singleton.mp hnotice]
    rfl
  · simpa using hlength
  · have hleg : (first ++ [c])[k]? = some (.leg stops[k].names stops[k + 1].names) := by
      rw [hlegs, Connection.getElem?_legs (by simpa using hk), List.getElem_map, List.getElem_map]
    by_cases hlast : k + 2 = stops.length
    · -- The last leg is the one that the route stands for.
      have hplace : k = first.length := by omega
      subst hplace
      rw [List.getElem?_concat_length] at hleg ⊢
      rw [if_pos hlast, Option.some.inj hleg]
      rfl
    · have hplace : k < first.length := by omega
      rw [List.getElem?_append_left hplace] at hleg ⊢
      rw [hleg, if_neg hlast]
      rfl

/-- A route with three stops, of which the first two stand in parentheses. Rivers that are named
twice at a stop are there twice. -/
theorem route_registers_its_legs_doubled :
    let n : Network Float := (empty.execute [⟨"a", 1, .river (.rain 1 2 1)⟩,
      ⟨"b", 2, .river (.rain 3 1 2)⟩, ⟨"c", 3, .river (.number 4 3)⟩]).network
    let first : Expr Float := .group (.binary .plus (.reference "a" 4)
      (.group (.binary .plus (.reference "b" 4) (.reference "a" 4) 4) 4) 4) 4
    let second : Expr Float := .reference "c" 4
    let third : Expr Float := .binary .plus (.reference "a" 4) (.reference "a" 4) 4
    let e : Expr Float := .binary .arrow (.group (.binary .arrow first second 4) 4) third 4
    e.IsRoute [first, second, third] ∧
      (∀ stop ∈ [first, second, third], ∀ river ∈ stop.names, river ∈ n.rivers.keys) ∧
      (n.declare ⟨"f", 4, .flow e⟩).network = { n with
        flows := [⟨none, ["a", "b", "a"], ["c"], ∅⟩, ⟨some "f", ["c"], ["a", "a"], ∅⟩] } := by
  intro n first second third e
  have hfirst : first.IsSum := ⟨trivial, trivial, trivial⟩
  have hsecond : second.IsSum := trivial
  have hthird : third.IsSum := ⟨trivial, trivial⟩
  have hroute : e.IsRoute [first, second, third] :=
    .arrow (.group (.arrow (.stop hfirst) hsecond)) hthird
  have hdeclared : ∀ stop ∈ [first, second, third],
      ∀ river ∈ stop.names, river ∈ n.rivers.keys := by
    decide +kernel
  obtain ⟨legs, hnetwork, -, -, hlength, hlegs⟩ :=
    route_registers_its_legs "f" 4 hroute (by decide) hdeclared
  have hlist : legs = [⟨none, ["a", "b", "a"], ["c"], ∅⟩, ⟨some "f", ["c"], ["a", "a"], ∅⟩] := by
    obtain ⟨x, y, rfl⟩ := List.length_eq_two.mp hlength
    have hx := Option.some.inj (hlegs 0 (by decide))
    have hy := Option.some.inj (hlegs 1 (by decide))
    rw [hx, hy]
    rfl
  refine ⟨hroute, hdeclared, ?_⟩
  rw [hnetwork, hlist]
  rfl

end Network

end Catchment

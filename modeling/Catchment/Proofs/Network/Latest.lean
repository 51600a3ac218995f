import Catchment.Proofs.Table
import Catchment.Amount.Binary
import Catchment.Proofs.Network.Outcome

/-!
# `Catchment.Proofs.Network.Latest`: what the statements of a program come to

Statements are executed one after the other, but what they come to can be read off their
list. A river is there because a statement declares it, by itself or with a dam. Its rain
begins with the last such statement, and what later statements add follows. Of dams,
capacities and the days of outflow, the last statement counts.

* `Expr.rainfall`: the rain that an expression stands for.
* `Network.executed`: all that one statement does, connections left aside.
* `Network.Latest`: what a list of statements comes to.
* `Network.Latest.concat`: one more statement.
* `last_declaration_counts`: what the statements of a program come to if all are executed.
-/

set_option autoImplicit false

namespace Catchment

variable {α : Type}

/-! ### Rain -/

/-- The rain that a value stands for, day by day. -/
def Value.rainfall : Value α → List α
  | rain amount days => List.replicate days.toNat amount
  | series amounts => amounts
  | number _ | river _ | rivers _ | flow _ | nothing _ => []

/-- The rain that an expression stands for, day by day. An operator never stands for rain. -/
def Expr.rainfall : Expr α → List α
  | rain amount days _ => List.replicate days.toNat amount
  | series amounts _ => amounts
  | group e _ => e.rainfall
  | number .. | reference .. | binary .. => []

section

variable [Amount α]

/-- What an operator makes of two values is no rain, so it gives none to a river. -/
theorem Operator.rainfall_value (operator : Operator) (a b : Value α) :
    (operator.value a b).rainfall = [] := by
  cases operator with
  | plus =>
    show (a.add b).rainfall = []
    unfold Value.add
    split
    · rfl
    · split <;> rfl
  | arrow =>
    show (a.connect b).rainfall = []
    unfold Value.connect
    split <;> rfl

/-- The value of an expression stands for the same rain as the expression. -/
theorem Expr.rainfall_eq {declared : String → Bool} {e : Expr α} {v : Value α}
    (h : (e.evaluate declared).result = .ok v) : v.rainfall = e.rainfall := by
  -- The induction is on the expression.
  induction e with
  | number | rain | series =>
    cases h
    rfl
  | reference name line =>
    unfold evaluate at h
    split at h
    · cases h
      rfl
    · cases h
  | group e line ih => exact ih h
  | binary operator left right line =>
    obtain ⟨a, b, -, -, rfl⟩ := result_binary_eq_ok_iff.mp h
    exact operator.rainfall_value a b

end

namespace River

/-- The length of a record is the number of its days, or nothing for a number below nought. -/
theorem recordLength_eq {days : Int} {length : Nat} (h : recordLength days = .ok length) :
    length = days.toNat := by
  unfold recordLength at h
  split at h
  · cases h
  · split at h
    · cases h
    · cases h
      rfl

/-- A river that takes up rain over some days has the rain of each behind its own, and is
otherwise as it was. -/
theorem addRain_eq {r r' : River α} {amount : α} {days : Int}
    (h : r.addRain amount days = .ok r') :
    r' = { r with rain := r.rain ++ List.replicate days.toNat amount } := by
  unfold addRain at h
  cases hlength : recordLength days with
  | error reason =>
    rw [hlength] at h
    cases h
  | ok length =>
    rw [hlength] at h
    cases h
    rw [recordLength_eq hlength]

/-- A river receives the rain that a value stands for. -/
theorem receive_eq {r r' : River α} {v : Value α} (h : r.receive v = .ok r') :
    r' = { r with rain := r.rain ++ v.rainfall } := by
  cases v with
  | rain amount days => exact addRain_eq h
  | series amounts =>
    cases h
    rfl
  | number | river | rivers | flow | nothing =>
    cases h
    exact congrArg (River.mk r.name · r.volume) (List.append_nil r.rain).symm

end River

/-! ### Statements -/

namespace Statement

/-- Whether a statement declares a river, by itself or with a dam. -/
def founds (s : Statement α) : Bool :=
  match s.declares with
  | .river _ | .dam .. => true
  | .update _ | .flow _ | .capacity _ | .flowOut _ => false

/-- The rain with which a statement declares a river, given the days of outflow that are in force:
that of its expression, or dry days for a dam. -/
def firstRain [Amount α] (outflowDays : Nat) (s : Statement α) : List α :=
  match s.declares with
  | .river e => e.rainfall
  | .dam .. => List.replicate outflowDays 0
  | .update _ | .flow _ | .capacity _ | .flowOut _ => []

/-- The rain that a statement adds to a river that is declared. -/
def furtherRain (name : String) (s : Statement α) : List α :=
  match s.declares with
  | .update e => if s.name = name then e.rainfall else []
  | .river _ | .flow _ | .capacity _ | .flowOut _ | .dam .. => []

/-- The dam that a statement declares under a name. -/
def dam? [Amount α] (name : String) (s : Statement α) : Option (Dam α) :=
  match s.declares with
  | .dam capacity release => if s.name = name then some ⟨s.name, capacity, release, 0⟩ else none
  | .river _ | .update _ | .flow _ | .capacity _ | .flowOut _ => none

/-- The capacity that a statement declares for a name. -/
def capacity? (name : String) (s : Statement α) : Option α :=
  match s.declares with
  | .capacity volume => if s.name = name then some volume else none
  | .river _ | .update _ | .flow _ | .flowOut _ | .dam .. => none

/-- The days of outflow that a statement declares. -/
def outflow? (s : Statement α) : Option α :=
  match s.declares with
  | .flowOut days => some days
  | .river _ | .update _ | .flow _ | .capacity _ | .dam .. => none

end Statement

namespace Network

variable [Amount α] {n m : Network α}

/-- The rivers after a statement that is executed. -/
def riversAfter (n : Network α) (s : Statement α) : Table (River α) :=
  match s.declares with
  | .river _ | .dam .. => n.rivers.insert s.name ⟨s.name, s.firstRain n.outflowDays, 0⟩
  | .update _ => n.rivers.modify s.name fun r => { r with rain := r.rain ++ s.furtherRain s.name }
  | .flow _ | .capacity _ | .flowOut _ => n.rivers

/-- What a statement that is executed does to a network, connections left aside. -/
structure Executed (n m : Network α) (s : Statement α) : Prop where
  rivers : m.rivers = n.riversAfter s
  dams : ∀ name, m.dams.get? name = (s.dam? name).or (n.dams.get? name)
  capacities : ∀ name, m.capacities.get? name = (s.capacity? name).or (n.capacities.get? name)
  outflow : match s.outflow? with
    | some days => Amount.truncate days = .ok (m.outflowDays : Int)
    | none => m.outflowDays = n.outflowDays

/-- What was inserted under one name, and what there was under all others. -/
private theorem get?_insert_or {β : Type} (t : Table β) (name k : String) (v : β) :
    (t.insert name v).get? k = (if name = k then some v else none).or (t.get? k) := by
  rw [Table.get?_insert]
  by_cases h : k = name
  · rw [if_pos h, if_pos h.symm, Option.some_or]
  · rw [if_neg h, if_neg (Ne.symm h), Option.none_or]

/-- All that one statement does, connections left aside. -/
theorem executed {s : Statement α} (h : (n.declare s).error = none) :
    Executed n (n.declare s).network s := by
  have houtcome := n.outcome_declare s
  rw [h] at houtcome
  generalize (n.declare s).network = m at houtcome
  -- Only the ends without an error are left, one for each form of a statement.
  cases houtcome with
  | @given _ e v r r' hgives he hr =>
    rw [River.receive_eq hr, Expr.rainfall_eq he]
    cases hgives with
    | river => exact ⟨rfl, fun _ => rfl, fun _ => rfl, rfl⟩
    | @update name line _ _ hold =>
      have hfurther : (⟨name, line, .update e⟩ : Statement α).furtherRain name = e.rainfall :=
        if_pos rfl
      refine ⟨?_, fun _ => rfl, fun _ => rfl, rfl⟩
      rw [riversAfter, hfurther, Table.modify_eq_insert hold]
  | flow => exact ⟨rfl, fun _ => rfl, fun _ => rfl, rfl⟩
  | capacity => exact ⟨rfl, fun _ => rfl, fun k => get?_insert_or n.capacities _ k _, rfl⟩
  | @outflow _ _ days whole hdays hlong =>
    have hwhole : ((whole.toNat : Nat) : Int) = whole := Int.toNat_of_nonneg (by omega)
    have htruncate :
        Amount.truncate days = .ok ((whole.toNat : Nat) : Int) := by rw [hwhole, hdays]
    exact ⟨rfl, fun _ => rfl, fun _ => rfl, htruncate⟩
  | dam hrelease hr =>
    rw [River.addRain_eq hr]
    exact ⟨rfl, fun k => get?_insert_or n.dams _ k _, fun _ => rfl, rfl⟩

namespace Executed

variable {s : Statement α} (h : Executed n m s)

include h

/-- The rivers after a statement: one more at the end if the statement declares a river that is
not there. -/
theorem keys_rivers : m.rivers.keys =
    if s.founds = true ∧ s.name ∉ n.rivers.keys then n.rivers.keys ++ [s.name]
    else n.rivers.keys := by
  rw [h.rivers]
  have founded : ∀ r : River α, (n.rivers.insert s.name r).keys =
      if true = true ∧ s.name ∉ n.rivers.keys then n.rivers.keys ++ [s.name]
      else n.rivers.keys := by
    intro r
    rw [Table.keys_insert]
    by_cases hname : s.name ∈ n.rivers.keys <;> simp [hname]
  unfold riversAfter Statement.founds
  cases s.declares with
  | river | dam => exact founded _
  | update => simp
  | flow | capacity | flowOut => simp

/-- A river that is declared has its first rain. -/
theorem get?_rivers_of_founds (hs : s.founds = true) :
    m.rivers.get? s.name = some ⟨s.name, s.firstRain n.outflowDays, 0⟩ := by
  rw [h.rivers]
  unfold Statement.founds at hs
  unfold riversAfter
  cases hdeclares : s.declares with
  | river | dam => simp only [Table.get?_insert, if_pos]
  | update | flow | capacity | flowOut =>
    rw [hdeclares] at hs
    cases hs

/-- A river that is not declared again has its rain and what is added to it. -/
theorem get?_rivers_of_kept {name : String} (hs : ¬(s.founds = true ∧ s.name = name))
    {r : River α} (hr : n.rivers.get? name = some r) :
    m.rivers.get? name = some { r with rain := r.rain ++ s.furtherRain name } := by
  have hkept : some r = some { r with rain := r.rain ++ [] } := by rw [List.append_nil]
  rw [h.rivers]
  unfold Statement.founds at hs
  unfold riversAfter Statement.furtherRain
  cases hdeclares : s.declares with
  | river | dam =>
    rw [hdeclares] at hs
    have hname : name ≠ s.name := fun heq => hs ⟨rfl, heq.symm⟩
    simp only [Table.get?_insert, if_neg hname, hr, ← hkept]
  | update e =>
    by_cases hname : name = s.name
    · subst hname
      simp only [Table.get?_modify, if_pos, hr, Option.map_some]
    · simp only [Table.get?_modify, if_neg hname, if_neg (Ne.symm hname), hr, ← hkept]
  | flow | capacity | flowOut => simp only [hr, ← hkept]

end Executed

/-! ### All statements -/

/-- A river has the rain of the last statement that declares it, and what later statements add. -/
def Rained (statements : List (Statement α)) (n : Network α) (name : String) : Prop :=
  ∃ before s after, statements = before ++ s :: after ∧ s.founds = true ∧ s.name = name ∧
    (∀ t ∈ after, ¬(t.founds = true ∧ t.name = name)) ∧
    n.rivers.get? name = some ⟨name,
      s.firstRain (empty.execute before).network.outflowDays ++
        after.flatMap (·.furtherRain name), 0⟩

/-- What a list of statements comes to, connections left aside: the rivers in the order in which
they are first declared, the rain of each, and of dams, capacities and days of outflow the last
that is declared. -/
structure Latest (statements : List (Statement α)) (n : Network α) : Prop where
  rivers : n.rivers.keys = ((statements.filter (·.founds)).map (·.name)).eraseDups
  rain : ∀ name ∈ n.rivers.keys, Rained statements n name
  dams : ∀ name, n.dams.get? name = (statements.filterMap (·.dam? name)).getLast?
  capacities : ∀ name, n.capacities.get? name = (statements.filterMap (·.capacity? name)).getLast?
  outflow : match (statements.filterMap (·.outflow?)).getLast? with
    | some days => Amount.truncate days = .ok (n.outflowDays : Int)
    | none => n.outflowDays = shortestOutflow

/-- No statements come to the empty network. -/
theorem latest_empty : Latest [] (empty : Network α) :=
  ⟨rfl, fun _ h => absurd h List.not_mem_nil, fun _ => rfl, fun _ => rfl, rfl⟩

/-- One more name stands at the end of the names without their repetitions, if it is new. -/
theorem eraseDups_concat (names : List String) (name : String) :
    (names ++ [name]).eraseDups =
      if name ∉ names then names.eraseDups ++ [name] else names.eraseDups := by
  rw [List.eraseDups_append]
  by_cases h : name ∈ names
  · rw [if_neg (not_not_intro h)]
    simp [List.removeAll, h]
  · rw [if_pos h]
    have hnew : [name].removeAll names = [name] := by simp [List.removeAll, h]
    rw [hnew]
    rfl

/-- The last one found in a longer row is found in what is added, if anything is found there. -/
theorem getLast?_filterMap_concat {β γ : Type} (f : β → Option γ) (xs : List β) (x : β) :
    ((xs ++ [x]).filterMap f).getLast? = (f x).or (xs.filterMap f).getLast? := by
  rw [List.filterMap_append, List.getLast?_append]
  cases h : f x <;> simp [h]

variable {statements : List (Statement α)} {s : Statement α}

/-- One more statement, and the rivers that are declared by then. -/
theorem Executed.keys_rivers_concat (hs : Executed n m s)
    (hn : n.rivers.keys = ((statements.filter (·.founds)).map (·.name)).eraseDups) :
    m.rivers.keys = (((statements ++ [s]).filter (·.founds)).map (·.name)).eraseDups := by
  rw [hs.keys_rivers, hn, List.filter_append, List.map_append]
  cases hfounds : s.founds with
  | true =>
    have hlast : ([s].filter (·.founds)).map (·.name) = [s.name] := by simp [hfounds]
    simp only [hlast, eraseDups_concat, List.mem_eraseDups, true_and]
  | false =>
    have hlast : ([s].filter (·.founds)).map (·.name) = [] := by simp [hfounds]
    simp only [hlast, List.append_nil, Bool.false_eq_true, false_and, if_false]

/-- The rivers after the statements of a program, in the order in which they are first
declared. -/
theorem keys_rivers_execute (h : (empty.execute statements).error = none) :
    (empty.execute statements).network.rivers.keys
      = ((statements.filter (·.founds)).map (·.name)).eraseDups := by
  -- The induction is on the statements from the last one back.
  induction statements using List.reverseRecOn with
  | nil => rfl
  | append_singleton statements s ih =>
    have hbefore : (empty.execute statements).error = none := error_execute_of_append h
    obtain ⟨hnetwork, herror⟩ := execute_concat_of_ok hbefore (s := s)
    rw [hnetwork]
    exact (executed (herror.symm.trans h)).keys_rivers_concat (ih hbefore)

/-- One more statement. -/
theorem Latest.concat (hn : Latest statements n)
    (hexecute : n = (empty.execute statements).network)
    (hs : Executed n m s) : Latest (statements ++ [s]) m := by
  constructor
  case rivers => exact hs.keys_rivers_concat hn.rivers
  case rain =>
    intro name hname
    -- Either the statement founds the river anew, or the last one that did is still the last.
    by_cases hfounds : s.founds = true ∧ s.name = name
    · obtain ⟨hfounds, rfl⟩ := hfounds
      refine ⟨statements, s, [], rfl, hfounds, rfl, fun t ht => absurd ht List.not_mem_nil, ?_⟩
      rw [hs.get?_rivers_of_founds hfounds, hexecute]
      simp
    · have hold : name ∈ n.rivers.keys := by
        rw [hs.keys_rivers] at hname
        split at hname
        · rename_i hnew
          rcases List.mem_append.mp hname with h | h
          · exact h
          · exact absurd ⟨hnew.1, (List.mem_singleton.mp h).symm⟩ hfounds
        · exact hname
      obtain ⟨before, t, after, rfl, ht, htname, hlast, hriver⟩ := hn.rain name hold
      refine ⟨before, t, after ++ [s], by simp, ht, htname, fun u hu => ?_, ?_⟩
      · rcases List.mem_append.mp hu with hu | hu
        · exact hlast u hu
        · exact List.mem_singleton.mp hu ▸ hfounds
      · rw [hs.get?_rivers_of_kept hfounds hriver]
        simp
  case dams =>
    intro name
    rw [hs.dams, hn.dams, getLast?_filterMap_concat]
  case capacities =>
    intro name
    rw [hs.capacities, hn.capacities, getLast?_filterMap_concat]
  case outflow =>
    rw [getLast?_filterMap_concat]
    have hfirst := hn.outflow
    have hlast := hs.outflow
    cases houtflow : s.outflow? with
    | some days =>
      rw [houtflow] at hlast
      exact hlast
    | none =>
      rw [houtflow] at hlast
      simp only at hlast
      rw [Option.none_or, hlast]
      exact hfirst

end Network

/-- What the statements of a program come to, if all of them are executed, is what the last of
them declare: rivers in the order in which they are first declared, each with the first rain of
its last declaration and all rain that is added later, and the last dam, the last capacity of
every name and the last days of outflow. -/
theorem last_declaration_counts [Amount α] {statements : List (Statement α)}
    (h : (Network.empty.execute statements).error = none) :
    Network.Latest statements (Network.empty.execute statements).network := by
  -- The induction is on the statements from the last one back.
  induction statements using List.reverseRecOn with
  | nil => exact Network.latest_empty
  | append_singleton statements s ih =>
    have hbefore : (Network.empty.execute statements).error = none :=
      Network.error_execute_of_append h
    obtain ⟨hnetwork, herror⟩ := Network.execute_concat_of_ok hbefore (s := s)
    rw [hnetwork]
    exact (ih hbefore).concat rfl (Network.executed (herror.symm.trans h))

/-- A river that gives way to a dam, and a river in its place: the dam stays as it was declared,
and the rain is that of the last river. -/
theorem last_declaration_counts_replaced :
    let statements : List (Statement Float) :=
      [⟨"a", 1, .river (.series [3, 5] 1)⟩, ⟨"f", 2, .flowOut 4.5⟩,
        ⟨"b", 3, .river (.number 1 3)⟩, ⟨"a", 4, .dam 10 50⟩, ⟨"a", 5, .update (.rain 2 3 5)⟩,
        ⟨"b", 6, .capacity 7⟩,
        ⟨"a", 7, .river (.rain 4 1 7)⟩, ⟨"b", 8, .capacity 9⟩, ⟨"a", 9, .update (.series [6] 9)⟩]
    let execution := Network.empty.execute statements
    execution.error = none ∧ execution.network.rivers.keys = ["a", "b"] ∧
      execution.network.dams.get? "a" = some ⟨"a", 10, 50, 0⟩ ∧
      execution.network.capacities.get? "b" = some 9 ∧
      execution.network.Rained statements "a" := by
  intro statements execution
  have hisNone : execution.error.isNone = true := by decide +kernel
  have herror : execution.error = none := Option.isNone_iff_eq_none.mp hisNone
  have hlatest : execution.network.Latest statements := last_declaration_counts herror
  have hrivers : execution.network.rivers.keys = ["a", "b"] := hlatest.rivers
  have hmem : "a" ∈ execution.network.rivers.keys := hrivers ▸ List.mem_cons_self
  exact ⟨herror, hrivers, hlatest.dams "a", hlatest.capacities "b", hlatest.rain "a" hmem⟩

end Catchment

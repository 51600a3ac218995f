import Catchment.Proofs.Network.Declared
import Catchment.Proofs.Amount.Order

/-!
# `Catchment.Proofs.Network.Stranded`: what statements leave behind

Whatever the statements of a program are, and wherever they stop, they leave a network in
order: every entry stands under its own name, there is no water yet, dams aim at a share
of their capacity, and connections join declared rivers. Every dam has its river, with one
exception. A dam is declared before its river is given the dry days of outflow, and if
these are more than a record can have, the statement goes wrong between the two.

* `Network.InOrder`: what holds of the network that statements leave.
* `Network.fresh_or_stranded`: every execution, by the statement that ends it.
* `Network.not_in_rivers_iff`: the dam without a river.
* `statements_leave_order`: the networks that statements leave, and their amounts if they are
  written.
* `dam_without_river`: the exception.
-/

set_option autoImplicit false

namespace Catchment

namespace Network

section

variable {α : Type} [Amount α] {n : Network α}

/-- A network in order: every entry stands under its own name, there is no water yet, dams aim at
a share of their capacity, and connections join declared rivers. -/
structure InOrder (n : Network α) : Prop where
  outflowDays : shortestOutflow ≤ n.outflowDays
  river : ∀ {name r}, n.rivers.get? name = some r → r.name = name ∧ r.volume = 0
  dam : ∀ {name d}, n.dams.get? name = some d →
    d.name = name ∧ d.level = 0 ∧ 0 ≤ d.targetPercent ∧ d.targetPercent ≤ 100
  flow : ∀ c ∈ n.flows, c.Laid (· ∈ n.rivers.keys)

variable {P : α → Prop}

/-- A network as statements build it without going wrong is in order. -/
theorem Fresh.inOrder (hn : n.Fresh P) : n.InOrder := by
  obtain ⟨-, hdams, hflows⟩ := plan_eq_self_iff.mp hn.plan_eq
  refine ⟨hn.wellFormed.outflowDays, fun {name r} hr => ?_, fun {name d} hd => ?_, fun c hc => ?_⟩
  · obtain ⟨hname, hbed, -⟩ := hn.river hr
    exact ⟨hname, (congrArg River.volume hbed).symm⟩
  · refine ⟨hn.wellFormed.dam_name hd, ?_, hn.wellFormed.target hd⟩
    have hdrained := Table.get?_map Dam.drained n.dams name
    rw [hdams, hd] at hdrained
    exact congrArg Dam.level (Option.some.inj hdrained)
  · refine ⟨hn.wellFormed.joins c hc, ?_⟩
    rw [← hflows] at hc
    obtain ⟨c', -, rfl⟩ := List.mem_map.mp hc
    rfl

/-- A network in order with a further dam, for which there need not be a river. -/
theorem InOrder.insertDam (hn : n.InOrder) {d : Dam α} (hlevel : d.level = 0)
    (hlow : 0 ≤ d.targetPercent) (hhigh : d.targetPercent ≤ 100) :
    ({ n with dams := n.dams.insert d.name d } : Network α).InOrder := by
  obtain ⟨hdays, hriver, hdam, hflow⟩ := hn
  refine ⟨hdays, hriver, fun {name d'} hd' => ?_, hflow⟩
  exact Table.of_get?_insert
    (P := fun k (d : Dam α) =>
      d.name = k ∧ d.level = 0 ∧ 0 ≤ d.targetPercent ∧ d.targetPercent ≤ 100)
    ⟨rfl, hlevel, hlow, hhigh⟩ hdam hd'

/-- An execution leaves a network as statements build it, or the last statement that it comes to
strands a dam. -/
theorem fresh_or_stranded (hzero : P 0) (hn : n.Fresh P) {statements : List (Statement α)}
    (hs : ∀ s ∈ statements, s.declares.All P) :
    (n.execute statements).network.Fresh P ∨
      ∃ done s rest reason, statements = done ++ s :: rest ∧ (n.execute done).error = none ∧
        (n.execute done).network.Fresh P ∧ (n.execute done).network.Strands s reason := by
  cases herror : (n.execute statements).error with
  | none => exact Or.inl (fresh_execute hzero hn hs herror)
  | some e =>
    obtain ⟨done, s, rest, rfl, hdone, he⟩ := error_execute_eq_some_iff.mp herror
    have hbefore : (n.execute done).network.Fresh P :=
      fresh_execute hzero hn (fun t ht => hs t (List.mem_append_left _ ht)) hdone
    by_cases hstrands : ∃ reason, (n.execute done).network.Strands s reason
    · obtain ⟨reason, hstrands⟩ := hstrands
      exact Or.inr ⟨done, s, rest, reason, rfl, hdone, hbefore, hstrands⟩
    · -- The statement at which it stops keeps what the others keep, since it strands no dam.
      left
      rw [network_execute_of_error hdone he]
      exact fresh_declare hzero hbefore (hs s (List.mem_append_right _ List.mem_cons_self))
        fun reason h => hstrands ⟨reason, h⟩

/-- What an execution leaves that strands a dam. -/
theorem execute_of_strands {done : List (Statement α)} (rest : List (Statement α))
    {s : Statement α} {reason : RainError} (hdone : (n.execute done).error = none)
    (hstrands : (n.execute done).network.Strands s reason) :
    ∃ capacity release, s.declares = .dam capacity release ∧ 0 ≤ release ∧ release ≤ 100 ∧
      (n.execute (done ++ s :: rest)).network =
        { (n.execute done).network with
          dams := (n.execute done).network.dams.insert s.name
            ⟨s.name, capacity, release, 0⟩ } := by
  obtain ⟨herror, capacity, release, hdeclares, hlow, hhigh, hnetwork⟩ :=
    declare_of_strands hstrands
  exact ⟨capacity, release, hdeclares, hlow, hhigh,
    (network_execute_of_error hdone herror).trans hnetwork⟩

/-- Which dam an execution leaves without a river: the one that its last statement strands, unless
there has been a river of that name. -/
theorem not_in_rivers_iff (hn : n.Fresh P) (hzero : P 0) {statements : List (Statement α)}
    (hs : ∀ s ∈ statements, s.declares.All P) (name : String) :
    name ∈ (n.execute statements).network.dams.keys ∧
        name ∉ (n.execute statements).network.rivers.keys ↔
      ∃ done s rest reason, statements = done ++ s :: rest ∧ s.name = name ∧
        (n.execute done).error = none ∧ (n.execute done).network.Strands s reason ∧
        name ∉ (n.execute done).network.rivers.keys := by
  constructor
  · rintro ⟨hdam, hriver⟩
    rcases fresh_or_stranded hzero hn hs
      with hfresh | ⟨done, s, rest, reason, rfl, hdone, hbefore, hstrands⟩
    · exact absurd (hfresh.wellFormed.river_of_dam hdam) hriver
    · obtain ⟨capacity, release, -, -, -, hnetwork⟩ := execute_of_strands rest hdone hstrands
      rw [hnetwork] at hdam hriver
      rcases (Table.mem_keys_insert _ _ _ _).mp hdam with hold | rfl
      · exact absurd (hbefore.wellFormed.river_of_dam hold) hriver
      · exact ⟨done, s, rest, reason, rfl, rfl, hdone, hstrands, hriver⟩
  · rintro ⟨done, s, rest, reason, rfl, rfl, hdone, hstrands, hriver⟩
    obtain ⟨capacity, release, -, -, -, hnetwork⟩ := execute_of_strands rest hdone hstrands
    rw [hnetwork]
    exact ⟨(Table.mem_keys_insert _ _ _ _).mpr (Or.inr rfl), hriver⟩

/-- Every execution leaves a network in order. -/
theorem inOrder_execute (hzero : P 0) (hn : n.Fresh P) {statements : List (Statement α)}
    (hs : ∀ s ∈ statements, s.declares.All P) : (n.execute statements).network.InOrder := by
  rcases fresh_or_stranded hzero hn hs
    with hfresh | ⟨done, s, rest, reason, rfl, hdone, hbefore, hstrands⟩
  · exact hfresh.inOrder
  · obtain ⟨capacity, release, -, hlow, hhigh, hnetwork⟩ := execute_of_strands rest hdone hstrands
    rw [hnetwork]
    exact hbefore.inOrder.insertDam (d := ⟨s.name, capacity, release, 0⟩) rfl hlow hhigh

/-- The amounts of the network that an execution leaves are those of the statements, and the
nought of dry days. -/
theorem all_execute (hzero : P 0) (hn : n.Fresh P) {statements : List (Statement α)}
    (hs : ∀ s ∈ statements, s.declares.All P) : (n.execute statements).network.All P := by
  rcases fresh_or_stranded hzero hn hs
    with hfresh | ⟨done, s, rest, reason, rfl, hdone, hbefore, hstrands⟩
  · exact hfresh.all
  · obtain ⟨capacity, release, hdeclares, -, -, hnetwork⟩ :=
      execute_of_strands rest hdone hstrands
    have hall := hs s (List.mem_append_right _ List.mem_cons_self)
    rw [hdeclares] at hall
    rw [hnetwork]
    exact ⟨hbefore.all.rain, Table.of_get?_insert hall.1 hbefore.all.dam_capacity,
      hbefore.all.capacity⟩

end

end Network

/-- A property that all amounts have is one that all amounts of a declaration have. -/
theorem Declaration.all_of_forall {α : Type} {P : α → Prop} (h : ∀ x, P x) (d : Declaration α) :
    d.All P := by
  have expr : ∀ e : Expr α, e.All P := by
    intro e
    induction e with
    | number v line => exact h v
    | rain amount days line => exact h amount
    | series amounts line => exact fun a _ => h a
    | reference name line => trivial
    | group e line ih => exact ih
    | binary operator left right line ihl ihr => exact ⟨ihl, ihr⟩
  cases d with
  | river e | update e | flow e => exact expr e
  | capacity v | flowOut v => exact h v
  | dam volume percent => exact ⟨h volume, h percent⟩

/-- Every list of statements, wherever it stops, leaves a network in order. A dam has no river in
it if and only if the last statement that is executed declares that dam, there has been no river
of its name, and the days of outflow are more than the record of its river can have. In what the
statements of a text leave, or any number of them from the first on, no rain and no capacity is
below nought. -/
theorem statements_leave_order (statements : List (Statement Float)) :
    let n := (Network.empty.execute statements).network
    n.InOrder ∧
      (∀ name, name ∈ n.dams.keys ∧ name ∉ n.rivers.keys ↔
        ∃ done s rest reason, statements = done ++ s :: rest ∧ s.name = name ∧
          (Network.empty.execute done).error = none ∧
          (Network.empty.execute done).network.Strands s reason ∧
          name ∉ (Network.empty.execute done).network.rivers.keys) ∧
      ∀ (path text : String) (program : Program Float),
        let scan : Scan Float := .ofText text
        Program.ofTokens path scan.tokens scan.endLine = .ok program →
        statements <+: program.statements → n.All ((0 : Float) ≤ ·) := by
  intro n
  have hall : ∀ s ∈ statements, s.declares.All fun _ : Float => True :=
    fun s _ => s.declares.all_of_forall fun _ => trivial
  refine ⟨Network.inOrder_execute trivial Network.fresh_empty hall,
    Network.not_in_rivers_iff Network.fresh_empty trivial hall, ?_⟩
  intro path text program scan hprogram hfirst
  have hwritten : ∀ t ∈ scan.tokens, t.All ((0 : Float) ≤ ·) :=
    Scan.all_ofText Binary.ofDecimal_nonneg text
  have hall := Program.all_ofTokens (by decide) hwritten hprogram
  exact Network.all_execute (by decide) Network.fresh_empty fun s hs => hall s (hfirst.subset hs)

/-- The last line updates a river that is not declared. What the lines before it leave is in
order, and no amount of it is below nought. -/
theorem statements_leave_order_stopped :
    let text :=
      "River a = [10, 2.5]mm; FlowOut f = 4;\nDam d = 10ML release 50%; Flow g = a -> d;\nb = 3mm;"
    let scan : Scan Float := .ofText text
    ∃ program, Program.ofTokens "" scan.tokens scan.endLine = .ok program ∧
      (Network.empty.execute program.statements).error.isSome ∧
      (Network.empty.execute program.statements).network.InOrder ∧
      (Network.empty.execute program.statements).network.All ((0 : Float) ≤ ·) := by
  intro text scan
  have hread : (Program.ofTokens "" scan.tokens scan.endLine).toOption.isSome = true := by
    decide +kernel
  have hstopped : ∀ program ∈ (Program.ofTokens "" scan.tokens scan.endLine).toOption,
      (Network.empty.execute program.statements).error.isSome := by
    decide +kernel
  cases hprogram : Program.ofTokens "" scan.tokens scan.endLine with
  | error e =>
    rw [hprogram] at hread
    cases hread
  | ok program =>
    rw [hprogram] at hstopped
    obtain ⟨horder, -, hall⟩ := statements_leave_order program.statements
    exact ⟨program, rfl, hstopped program rfl, horder,
      hall "" text program hprogram (List.prefix_refl _)⟩

/-- A dam can be without a river: the days of outflow are more than any record has. -/
theorem dam_without_river :
    ¬∀ (path text : String) (program : Program Float),
      let scan : Scan Float := .ofText text
      Program.ofTokens path scan.tokens scan.endLine = .ok program →
      let n := (Network.empty.execute program.statements).network
      ∀ name ∈ n.dams.keys, name ∈ n.rivers.keys := by
  intro h
  let text := "FlowOut f = 100000000000000000000; Dam d = 10ML;"
  let scan : Scan Float := .ofText text
  have hread : (Program.ofTokens "" scan.tokens scan.endLine).toOption.isSome = true := by
    decide +kernel
  have hdam : ∀ program ∈ (Program.ofTokens "" scan.tokens scan.endLine).toOption,
      "d" ∈ (Network.empty.execute program.statements).network.dams.keys ∧
        "d" ∉ (Network.empty.execute program.statements).network.rivers.keys := by
    decide +kernel
  cases hprogram : Program.ofTokens "" scan.tokens scan.endLine with
  | error e =>
    rw [hprogram] at hread
    cases hread
  | ok program =>
    rw [hprogram] at hdam
    obtain ⟨hdams, hrivers⟩ := hdam program rfl
    exact hrivers (h "" text program hprogram "d" hdams)

end Catchment

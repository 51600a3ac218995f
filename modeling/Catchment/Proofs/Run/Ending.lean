import Catchment.Proofs.Network.Latest
import Catchment.Proofs.Run.PassedOn

/-!
# `Catchment.Proofs.Run.Ending`: the ends of a run that has a result

A run goes from the tokens of a text to its program, from the program to its network, and from the
network to the report of its simulation. It has a result if it comes to its end, or if what goes
wrong on the way is reported. So there are four ends. `Ending` lists them, each with what is
reported last, what has been told, and how far the result goes. That the parts of a result go
together, and go with what is reported, is read off this list.

* `Ending`: the ends of a run.
* `Run.Ends`, `ends_runNetwork`, `ends_runProgram`: a part of a run comes to one of them.
* `exists_ending`: so does the run of a text, after one diagnostic for each unread character.
* `Ending.flags`, `flags_agree`: the two flags of a result, by what is reported.
* `result_and_diagnostics_agree`: the result of a run beside its diagnostics.
-/

set_option autoImplicit false

namespace Catchment

/-- The ends of a run that has a result, given whether some characters of the text are not read:
what is reported beside these characters, what has been told, and the result. -/
inductive Ending (unread : Bool) : List Diagnostic → List (Event Float) → RunResult → Prop
  /-- The tokens break the grammar. -/
  | ungrammatical {d : Diagnostic} (hkind : d.kind = .parse) :
      Ending unread [d] [] ⟨none, none, none, true, false⟩
  /-- A statement goes wrong. -/
  | misstated {p : Program Float} {d : Diagnostic}
      (hkind : d.kind = .runtime ∨ d.kind = .configuration) :
      Ending unread [d] [] ⟨some p, none, none, unread, true⟩
  /-- There are rivers without a capacity. -/
  | unlimited {p : Program Float} {n : Network Float} {d : Diagnostic}
      (hkind : d.kind = .capacity)
      (hnames : d.names = n.withoutCapacity) (hnetwork : p.network = .ok n) :
      Ending unread [d] [] ⟨some p, some n, none, unread, true⟩
  /-- The simulation comes to its end. -/
  | finished {p : Program Float} {n : Network Float} {report : RunReport Float}
      {events : List (Event Float)} :
      Ending unread [] events ⟨some p, some n, some report, unread, false⟩

namespace Ending

variable {unread : Bool} {ds : List Diagnostic} {events : List (Event Float)} {result : RunResult}

/-- The flags of a result say what is reported. -/
theorem flags (h : Ending unread ds events result) :
    (result.syntaxError = true ↔ unread = true ∨ ∃ d ∈ ds, d.kind = .parse) ∧
      (result.runtimeError = true ↔
        ∃ d ∈ ds, d.kind = .runtime ∨ d.kind = .configuration ∨ d.kind = .capacity) := by
  cases h with
  | ungrammatical hkind | unlimited hkind => simp [hkind]
  | misstated hkind => rcases hkind with hkind | hkind <;> simp [hkind]
  | finished => simp

/-- A run is without fault exactly if all characters were read and nothing was reported. -/
theorem ok_iff (h : Ending unread ds events result) :
    result.ok = true ↔ unread = false ∧ ds = [] := by
  cases h <;> simp [RunResult.ok]

/-- At most one thing is reported beside the characters that are not read. -/
theorem kinds_mem (h : Ending unread ds events result) :
    ds.map (·.kind) ∈ [[], [.parse], [.runtime], [.configuration], [.capacity]] := by
  cases h with
  | ungrammatical hkind | unlimited hkind => simp [hkind]
  | misstated hkind => rcases hkind with hkind | hkind <;> simp [hkind]
  | finished => simp

/-- The ending of a run is not a matter of characters. -/
theorem kind_ne_lex (h : Ending unread ds events result) : ∀ d ∈ ds, d.kind ≠ .lex := by
  intro d hd hlex
  have hmem : Diagnostic.Kind.lex ∈ ds.map (·.kind) := List.mem_map.mpr ⟨d, hd, hlex⟩
  have hkinds := h.kinds_mem
  generalize ds.map (·.kind) = kinds at hmem hkinds
  simp only [List.mem_cons, List.not_mem_nil, or_false] at hkinds
  rcases hkinds with rfl | rfl | rfl | rfl | rfl <;> simp at hmem

/-- Where a capacity is missing, a run ends before anything is told, with the network of its
program. -/
theorem of_capacity (h : Ending unread ds events result) {d : Diagnostic} (hd : d ∈ ds)
    (hkind : d.kind = .capacity) :
    ∃ p n, result.program = some p ∧ p.network = .ok n ∧ result.network = some n ∧ events = [] ∧
      ds = [d] ∧ d.names = n.withoutCapacity := by
  cases h with
  | unlimited _ hnames hnetwork =>
    obtain rfl := List.mem_singleton.mp hd
    exact ⟨_, _, rfl, hnetwork, rfl, rfl, rfl, hnames⟩
  | ungrammatical hother =>
    obtain rfl := List.mem_singleton.mp hd
    rw [hkind] at hother
    cases hother
  | misstated hother =>
    obtain rfl := List.mem_singleton.mp hd
    rw [hkind] at hother
    rcases hother with hother | hother <;> cases hother
  | finished => cases hd

/-- How far a result goes, by what is reported last. -/
theorem extent (h : Ending unread ds events result) {last : Option Diagnostic.Kind}
    (hone : ∀ d, ds = [d] → last = some d.kind)
    (hnone : ds = [] → last = none ∨ last = some .lex) :
    (result.program = none ↔ last = some .parse) ∧
      (result.program.isSome ∧ result.network = none ↔
        last = some .runtime ∨ last = some .configuration) ∧
      (result.network.isSome ∧ result.report = none ↔ last = some .capacity) ∧
      (result.report.isSome ↔ last = none ∨ last = some .lex) := by
  cases h with
  | ungrammatical hkind | unlimited hkind => simp [hone _ rfl, hkind]
  | misstated hkind => rcases hkind with hkind | hkind <;> simp [hone _ rfl, hkind]
  | finished => rcases hnone rfl with hlast | hlast <;> simp [hlast]

end Ending

/-- A run comes to one of the ends, if it has a result. -/
def Run.Ends (unread : Bool) (r : Run) : Prop :=
  ∀ result, r.result = .ok result → Ending unread r.diagnostics r.events result

namespace Run

variable {unread : Bool} {r : Run} {p : Problem}

/-- How a run ends does not depend on what it gives to be noticed. -/
theorem Ends.noticed (h : r.Ends unread) (notices : List (Notice Float)) :
    (r.noticed notices).Ends unread := by
  intro result hresult
  rw [diagnostics_noticed]
  exact h result hresult

/-- A run that a problem ends comes to the end that is meant for it, if the problem is
reported. -/
theorem ends_stopped {result : RunResult}
    (h : ∀ {f}, p.failure? = some f → Ending unread f.diagnostics [] result) :
    (stopped p result).Ends unread := by
  intro result' hresult
  cases hf : p.failure? with
  | none =>
    rw [stopped_of_failure?_eq_none hf] at hresult
    cases hresult
  | some f =>
    rw [stopped_of_failure?_eq_some hf] at hresult ⊢
    cases hresult
    rw [diagnostics, Failure.filterMap_diagnostic?_dispatches]
    exact h hf

end Run

/-- Characters that are not read are reported one by one. -/
theorem Scan.kinds_failure (scan : Scan Float) :
    scan.failure.diagnostics.map (·.kind) = List.replicate scan.faults.length .lex := by
  simp only [failure, Failure.diagnostics, List.map_map]
  exact List.map_const' ..

/-- A program has a network if all of its statements are executed. -/
theorem Program.network_eq_ok_iff {p : Program Float} {n : Network Float} :
    p.network = .ok n ↔ (Network.empty.execute p.statements).error = none ∧
      (Network.empty.execute p.statements).network = n := by
  unfold network
  simp only
  split
  · rename_i hnone
    rw [Except.ok.injEq]
    exact ⟨fun h => ⟨hnone, h⟩, fun h => h.2⟩
  · rename_i e hsome
    rw [hsome]
    exact iff_of_false nofun nofun

/-- What goes wrong in a statement is reported as one diagnostic of its kind. -/
theorem EvaluationError.exists_diagnostic {e : EvaluationError Float} {f : Failure}
    (h : e.failure? = some f) :
    ∃ d, f.diagnostics = [d] ∧ (d.kind = .runtime ∨ d.kind = .configuration) := by
  cases e with
  | undefined | undeclaredRiver =>
    cases h
    exact ⟨_, rfl, Or.inl rfl⟩
  | outflowTooShort | releaseOutOfRange =>
    cases h
    exact ⟨_, rfl, Or.inr rfl⟩
  | outflowNotWhole | rainTooLong => cases h

section
variable (settings : Settings Float) (unread : Bool)

/-- The last part of a run comes to one of the ends. -/
theorem ends_runNetwork {p : Program Float} {n : Network Float} (hnetwork : p.network = .ok n) :
    (runNetwork settings ⟨some p, none, none, unread, false⟩ n).Ends unread := by
  obtain ⟨-, rfl⟩ := Program.network_eq_ok_iff.mp hnetwork
  rcases simulate_cases settings p.statements with
    ⟨-, progress, report, hsimulate, herror⟩ | ⟨-, simulation, hsimulate⟩
  · rw [runNetwork_of_ok _ _ hsimulate herror]
    refine Run.Ends.noticed (fun result hresult => ?_) progress.notices
    cases hresult
    exact .finished
  · rw [runNetwork_of_error _ _ hsimulate rfl]
    refine Run.Ends.noticed (r := Run.stopped _ _) (Run.ends_stopped fun {f} hf => ?_) _
    cases hf
    exact .unlimited rfl rfl hnetwork

/-- So does the run of a program. -/
theorem ends_runProgram (p : Program Float) :
    (runProgram settings ⟨none, none, none, unread, false⟩ p).Ends unread := by
  cases herror : (Network.empty.execute p.statements).error with
  | none =>
    have hnetwork : p.network = .ok (Network.empty.execute p.statements).network :=
      Program.network_eq_ok_iff.mpr ⟨herror, rfl⟩
    rw [runProgram_of_ok _ _ herror]
    exact (ends_runNetwork settings unread hnetwork).noticed _
  | some e =>
    rw [runProgram_of_error _ _ herror]
    refine Run.Ends.noticed (Run.ends_stopped fun {f} hf => ?_) _
    obtain ⟨d, hd, hkind⟩ := EvaluationError.exists_diagnostic (show e.failure? = some f from hf)
    rw [hd]
    exact .misstated hkind

/-- The run of a text reports each character that is not read, and then comes to one of the ends,
if it has a result. -/
theorem exists_ending {path text : String} {result : RunResult}
    (h : (run settings path text).result = .ok result) :
    let scan : Scan Float := .ofText text
    let r := run settings path text
    ∃ ds, r.diagnostics = scan.failure.diagnostics ++ ds ∧
      Ending (!scan.faults.isEmpty) ds r.events result := by
  intro scan r
  have hpreceded : ∀ {rest : Run}, r = rest.preceded scan.failure.dispatches →
      rest.Ends (!scan.faults.isEmpty) → ∃ ds, r.diagnostics = scan.failure.diagnostics ++ ds ∧
        Ending (!scan.faults.isEmpty) ds r.events result := by
    intro rest hr hends
    refine ⟨rest.diagnostics, ?_, ?_⟩
    · rw [hr, Run.diagnostics_preceded, Failure.filterMap_diagnostic?_dispatches]
    · rw [hr, Run.events_preceded]
      refine hends result ?_
      rw [← h, ← Run.result_preceded, ← hr]
  -- The faults come first in any case; the ends differ by whether there is a program.
  cases hread : Program.ofTokens path scan.tokens scan.endLine with
  | ok p => exact hpreceded (run_of_ok settings hread) (ends_runProgram settings _ p)
  | error e =>
    refine hpreceded (run_of_error settings hread) (Run.ends_stopped fun {f} hf => ?_)
    cases e with
    | grammar error =>
      cases hf
      exact .ungrammatical rfl
    | days reason => cases hf

/-- The flags of a result say which kinds of diagnostics there are. -/
theorem flags_agree {path text : String} {result : RunResult}
    (h : (run settings path text).result = .ok result) :
    let ds := (run settings path text).diagnostics
    let kinds := ds.map (·.kind)
    (result.syntaxError = true ↔ .lex ∈ kinds ∨ .parse ∈ kinds) ∧
      (result.runtimeError = true ↔
        .runtime ∈ kinds ∨ .configuration ∈ kinds ∨ .capacity ∈ kinds) ∧
      (result.ok = true ↔ ds = []) := by
  intro all kinds
  obtain ⟨ds, hds, hending⟩ := exists_ending settings h
  -- A kind among the diagnostics is that of an unread character, or it comes from the end of the
  -- run.
  have hmem : ∀ kind, kind ∈ kinds ↔
      (kind = .lex ∧ (Scan.ofText text : Scan Float).faults ≠ []) ∨ ∃ d ∈ ds, d.kind = kind := by
    intro kind
    simp only [kinds, all]
    rw [hds, List.map_append, Scan.kinds_failure, List.mem_append, List.mem_replicate,
      List.mem_map, Ne, List.length_eq_zero_iff, and_comm]
  obtain ⟨hmarked, hruntime⟩ := hending.flags
  refine ⟨?_, ?_, ?_⟩
  · rw [hmarked, hmem, hmem]
    have hlex : ¬∃ d ∈ ds, d.kind = .lex := fun ⟨d, hd, hkind⟩ => hending.kind_ne_lex d hd hkind
    simp [hlex]
  · rw [hruntime, hmem, hmem, hmem]
    simp only [reduceCtorEq, false_and, false_or, and_or_left, exists_or]
  · have hunread : (Scan.ofText text : Scan Float).failure.diagnostics = []
        ↔ (Scan.ofText text : Scan Float).faults = [] := by
      rw [← List.map_eq_nil_iff (f := Diagnostic.kind), Scan.kinds_failure,
        List.replicate_eq_nil_iff, List.length_eq_zero_iff]
    simp only [all]
    rw [hending.ok_iff, hds, List.append_eq_nil_iff, hunread]
    simp

end

/-- The result of a run and its diagnostics say the same. First come diagnostics for the
characters that are not read, then at most one other. What that one is about shows how far the
result goes: without a program, if the grammar is broken; with a program only, if a statement goes
wrong; with the network besides, if a capacity is missing; and up to the report otherwise. Where a
capacity is missing, nothing has been told, the network is as the program declares it, and the
rivers are named that have no capacity and no dam, in the order in which they are first declared.
The flags say whether something of the one sort or of the other is reported. -/
theorem result_and_diagnostics_agree (settings : Settings Float) {path text : String}
    {result : RunResult} (h : (run settings path text).result = .ok result) :
    let r := run settings path text
    let kinds := r.diagnostics.map (·.kind)
    let last := kinds.getLast?
    (∃ unread ending, kinds = List.replicate unread .lex ++ ending ∧
        ending ∈ [[], [.parse], [.runtime], [.configuration], [.capacity]]) ∧
      (result.program = none ↔ last = some .parse) ∧
      (result.program.isSome ∧ result.network = none ↔
        last = some .runtime ∨ last = some .configuration) ∧
      (result.network.isSome ∧ result.report = none ↔ last = some .capacity) ∧
      (result.report.isSome ↔ last = none ∨ last = some .lex) ∧
      (last = some .capacity → ∃ program n names, result.program = some program ∧
        program.network = .ok n ∧ result.network = some n ∧ r.events = [] ∧
        r.diagnostics.getLast?.map (·.names) = some names ∧ names.Nodup ∧
        names = n.rivers.keys.filter (fun name => name ∉ n.capacities.keys ∧ name ∉ n.dams.keys) ∧
        n.rivers.keys = ((program.statements.filter (·.founds)).map (·.name)).eraseDups) ∧
      (result.syntaxError = true ↔ .lex ∈ kinds ∨ .parse ∈ kinds) ∧
      (result.runtimeError = true ↔
        .runtime ∈ kinds ∨ .configuration ∈ kinds ∨ .capacity ∈ kinds) ∧
      (result.ok = true ↔ r.diagnostics = []) := by
  intro r kinds last
  obtain ⟨ds, hds, hending⟩ := exists_ending settings h
  have hkinds : kinds = List.replicate (Scan.ofText text : Scan Float).faults.length .lex
      ++ ds.map (·.kind) := by
    rw [← Scan.kinds_failure, ← List.map_append, ← hds]
  have hone : ∀ d, ds = [d] → last = some d.kind := by
    intro d hd
    simp [last, hkinds, hd]
  have hnone : ds = [] → last = none ∨ last = some .lex := by
    intro hd
    simp only [last, hkinds, hd, List.map_nil, List.append_nil, List.getLast?_replicate]
    split
    · exact Or.inl rfl
    · exact Or.inr rfl
  obtain ⟨hprogram, hnetwork, hreport, hcomplete⟩ := hending.extent hone hnone
  refine ⟨⟨_, _, hkinds, hending.kinds_mem⟩, hprogram, hnetwork, hreport, hcomplete,
    fun hlast => ?_, flags_agree settings h⟩
  -- The last diagnostic is about a missing capacity.
  obtain ⟨d, hd, hkind⟩ : ∃ d ∈ ds, d.kind = .capacity := by
    have hcapacity : .capacity ∈ kinds := List.mem_of_getLast? hlast
    rw [hkinds, List.mem_append] at hcapacity
    rcases hcapacity with hlex | hcapacity
    · cases (List.mem_replicate.mp hlex).2
    · exact List.mem_map.mp hcapacity
  obtain ⟨p, n, hp, hn, hresult, hevents, rfl, hnames⟩ := hending.of_capacity hd hkind
  have hkeys : n.rivers.keys = ((p.statements.filter (·.founds)).map (·.name)).eraseDups := by
    obtain ⟨hexecute, rfl⟩ := Program.network_eq_ok_iff.mp hn
    exact Network.keys_rivers_execute hexecute
  refine ⟨p, n, n.withoutCapacity, hp, hn, hresult, hevents, ?_, ?_, ?_, hkeys⟩
  · rw [hds, List.getLast?_concat, Option.map_some, hnames]
  · exact n.rivers.nodup.filter _
  · refine List.filter_congr fun name _ => ?_
    rw [Bool.eq_iff_iff]
    simp [← Table.contains_iff]

/-- A character that is not read, and two rivers without a capacity: the run goes on behind the
character, has the network, tells nothing, and names the rivers. -/
theorem result_and_diagnostics_agree_unlimited :
    let text := "River b = 1mm; @\nRiver a = 2mm; Dam d = 5ML; River b = 3mm;"
    let r := run .default "" text
    ∃ result, r.result = .ok result ∧ r.diagnostics.map (·.kind) = [.lex, .capacity] ∧
      result.network.isSome ∧ result.report = none ∧ r.events = [] ∧
      r.diagnostics.getLast?.map (·.names) = some ["b", "a"] ∧
      result.syntaxError = true ∧ result.runtimeError = true ∧ result.ok ≠ true := by
  intro text r
  have hsome : r.result.toOption.isSome = true := by decide +kernel
  have hkinds : r.diagnostics.map (·.kind) = [.lex, .capacity] := by decide +kernel
  have hnames : r.diagnostics.getLast?.map (·.names) = some ["b", "a"] := by decide +kernel
  obtain ⟨result, hresult⟩ : ∃ result, r.result = .ok result := by
    cases h : r.result with
    | ok result => exact ⟨result, rfl⟩
    | error p =>
      rw [h] at hsome
      cases hsome
  obtain ⟨-, -, -, hreport, -, hcapacity, hmarked, hstopped, hok⟩ :=
    result_and_diagnostics_agree .default hresult
  rw [hkinds] at hreport hcapacity hmarked hstopped
  obtain ⟨-, -, -, -, -, -, hevents, -⟩ := hcapacity rfl
  refine ⟨result, hresult, hkinds, (hreport.mpr rfl).1, (hreport.mpr rfl).2, hevents, hnames,
    hmarked.mpr (Or.inl (by decide)), hstopped.mpr (Or.inr (Or.inr (by decide))), fun h => ?_⟩
  rw [hok.mp h] at hkinds
  cases hkinds

end Catchment

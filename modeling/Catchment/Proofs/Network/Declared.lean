import Catchment.Proofs.Network.WellFormed
import Catchment.Proofs.Network.Outcome
import Catchment.Proofs.Program.Literal

/-!
# `Catchment.Proofs.Network.Declared`: the networks that texts declare

A text declares a network if its tokens spell a program and the statements of that
program are executed without an error. Such a network is well-formed, there is no
water in it yet, and none of its amounts is below nought. `Fresh` is the invariant:
every statement keeps it, unless it strands a dam, whose river has no room for its dry
days.

* `Evaluation.Yields`: what an evaluation registers and what it stands for.
* `Expr.evaluate_yields`: the evaluation of an expression, by induction on the expression.
* `Network.Strands`, `Network.declare_of_strands`: a statement that leaves a dam without its
  river.
* `Network.fresh_declare`, `Network.fresh_execute`: what one statement keeps, and what all keep.
* `Network.ofText?`, `Network.fresh_of_text`: the network that a text declares.
-/

set_option autoImplicit false

namespace Catchment

variable {α β γ : Type}

/-! ### Values and evaluations -/

/-- A connection as it is registered: it joins declared rivers, and nothing waits in it. -/
def Connection.Laid (declared : String → Prop) (c : Connection α) : Prop :=
  c.Joins declared ∧ c.waiting = ∅

/-- The rivers and connections that a value stands for are declared, and the amounts of rain in it
have a property. -/
def Value.Sound (P : α → Prop) (declared : String → Prop) : Value α → Prop
  | number _ | nothing _ => True
  | rain amount _ => P amount
  | series amounts => ∀ a ∈ amounts, P a
  | river name => declared name
  | rivers names => names ≠ [] ∧ ∀ name ∈ names, declared name
  | flow c => c.Laid declared

/-- All connections that an evaluation registers have one property, and the value it finds, if
any, has another. -/
structure Evaluation.Yields (L : Connection α → Prop) (V : β → Prop) (x : Evaluation α β) :
    Prop where
  legs : ∀ c ∈ x.legs, L c
  value : ∀ v, x.result = .ok v → V v

namespace Evaluation

variable {L : Connection α → Prop} {V : β → Prop} {W : γ → Prop}

/-- A value that is as it should be is all that is yielded, with nothing registered. -/
theorem yields_pure {v : β} (h : V v) : (pure v : Evaluation α β).Yields L V := by
  refine ⟨fun _ hc => absurd hc List.not_mem_nil, ?_⟩
  rintro _ ⟨⟩
  exact h

/-- What goes wrong yields neither a connection nor a value. -/
theorem yields_fail (e : EvaluationError α) : (fail e : Evaluation α β).Yields L V := by
  refine ⟨fun _ hc => absurd hc List.not_mem_nil, ?_⟩
  rintro _ ⟨⟩

/-- An evaluation that goes on registers what both parts register. -/
theorem yields_bind {x : Evaluation α β} {f : β → Evaluation α γ} (hx : x.Yields L V)
    (hf : ∀ v, V v → (f v).Yields L W) : (x >>= f).Yields L W := by
  show (Evaluation.bind x f).Yields L W
  unfold Evaluation.bind
  cases hresult : x.result with
  | error e => exact ⟨hx.legs, by rintro _ ⟨⟩⟩
  | ok v =>
    have hrest := hf v (hx.value v hresult)
    refine ⟨fun c hc => ?_, hrest.value⟩
    rcases List.mem_append.mp hc with hc | hc
    · exact hx.legs c hc
    · exact hrest.legs c hc

/-- Connections and a value that are as they should be are yielded. -/
theorem yields_found {V : Value α → Prop} {line : Int} {legs : List (Connection α)} {v : Value α}
    (hlegs : ∀ c ∈ legs, L c) (hv : V v) : (found line legs v).Yields L V := by
  unfold found
  split
  all_goals refine ⟨hlegs, ?_⟩
  all_goals
    rintro _ ⟨⟩
    exact hv

end Evaluation

namespace Value

variable {P : α → Prop} {declared : String → Prop}

/-- Where a connection may begin or end there are declared rivers, and at least one. -/
theorem Sound.endpoints {v : Value α} (hv : v.Sound P declared) {names : List String}
    (h : v.endpoints? = some names) : names ≠ [] ∧ ∀ name ∈ names, declared name := by
  cases v with
  | river name =>
    cases h
    exact ⟨List.cons_ne_nil _ _, fun _ hn => List.mem_singleton.mp hn ▸ hv⟩
  | rivers names' =>
    cases h
    exact hv
  | number | rain | series | flow | nothing => cases h

/-- Where a connection goes on from there are declared rivers, and at least one. -/
theorem Sound.outlets {v : Value α} (hv : v.Sound P declared) {names : List String}
    (h : v.outlets? = some names) : names ≠ [] ∧ ∀ name ∈ names, declared name := by
  cases v with
  | flow c =>
    cases h
    exact ⟨hv.1.destinations_ne, hv.1.destinations⟩
  | river | rivers | number | rain | series | nothing => exact hv.endpoints h

/-- The connections that a sound value stands for join declared rivers, and nothing waits in
them. -/
theorem Sound.legs {v : Value α} (hv : v.Sound P declared) : ∀ c ∈ v.legs, c.Laid declared := by
  cases v with
  | flow c => exact fun _ hc => List.mem_singleton.mp hc ▸ hv
  | river | rivers | number | rain | series | nothing =>
    exact fun _ hc => absurd hc List.not_mem_nil

/-- The sum of sound values is sound. -/
theorem Sound.add [Amount α] {a b : Value α} (ha : a.Sound P declared) (hb : b.Sound P declared) :
    (a.add b).Sound P declared := by
  unfold Value.add
  split
  · trivial
  · split
    · rename_i xs ys hxs hys
      obtain ⟨hne, hx⟩ := ha.endpoints hxs
      obtain ⟨-, hy⟩ := hb.endpoints hys
      refine ⟨List.append_ne_nil_of_left_ne_nil hne _, fun name hname => ?_⟩
      rcases List.mem_append.mp hname with h | h
      · exact hx name h
      · exact hy name h
    · trivial

/-- The connection of sound values is sound. -/
theorem Sound.connect {a b : Value α} (ha : a.Sound P declared) (hb : b.Sound P declared) :
    (a.connect b).Sound P declared := by
  unfold Value.connect
  split
  · rename_i sources destinations hs hd
    obtain ⟨hsne, hs⟩ := ha.outlets hs
    obtain ⟨hdne, hd⟩ := hb.endpoints hd
    exact ⟨⟨hsne, hdne, hs, hd⟩, rfl⟩
  · trivial
  · trivial

end Value

/-- What the evaluation of an expression registers joins declared rivers, and so does what it
stands for. -/
theorem Expr.evaluate_yields [Amount α] {P : α → Prop} (declared : String → Bool) (e : Expr α)
    (he : e.All P) :
    (e.evaluate declared).Yields (Connection.Laid (declared · = true))
      (Value.Sound P (declared · = true)) := by
  -- The induction is on the expression.
  induction e with
  | number v line => exact Evaluation.yields_pure trivial
  | rain amount days line => exact Evaluation.yields_pure he
  | series amounts line => exact Evaluation.yields_pure he
  | reference name line =>
    unfold evaluate
    split
    · rename_i hname
      exact Evaluation.yields_pure hname
    · exact Evaluation.yields_fail _
  | group e line ih => exact ih he
  | binary operator left right line ihl ihr =>
    refine Evaluation.yields_bind (ihl he.1) fun a ha => ?_
    refine Evaluation.yields_bind (ihr he.2) fun b hb => ?_
    cases operator with
    | plus => exact Evaluation.yields_found (fun _ hc => absurd hc List.not_mem_nil) (ha.add hb)
    | arrow => exact Evaluation.yields_found ha.legs (ha.connect hb)

/-! ### Statements -/

/-- Rain goes on for too long to be recorded. -/
def EvaluationError.IsRainTooLong : EvaluationError α → Prop
  | rainTooLong _ => True
  | undefined .. | undeclaredRiver .. | outflowTooShort .. | releaseOutOfRange ..
  | outflowNotWhole _ => False

variable [Amount α] {P : α → Prop}

/-- A river that was declared under a name and has no water yet. -/
structure River.Fresh (P : α → Prop) (name : String) (r : River α) : Prop where
  name_eq : r.name = name
  bed_eq : r.bed = r
  rain : ∀ x ∈ r.rain, P x

namespace River

/-- A river without rain and water is as it was declared. -/
theorem fresh_dry (name : String) : (dry name : River α).Fresh P name :=
  ⟨rfl, rfl, fun _ hx => absurd hx List.not_mem_nil⟩

omit [Amount α] in
/-- Rain is not recorded exactly if the record of so many days cannot be had, and for the same
reason. -/
theorem addRain_eq_error_iff {r : River α} {amount : α} {days : Int} {reason : RainError} :
    r.addRain amount days = .error reason ↔ recordLength days = .error reason := by
  unfold River.addRain
  cases recordLength days with
  | error reason' =>
    constructor
    · rintro ⟨⟩
      rfl
    · rintro ⟨⟩
      rfl
  | ok length => exact iff_of_false nofun nofun

/-- More rain leaves a river without water. -/
theorem Fresh.addRain {name : String} {r r' : River α} {amount : α} {days : Int}
    (hr : r.Fresh P name) (ha : P amount) (h : r.addRain amount days = .ok r') :
    r'.Fresh P name := by
  unfold River.addRain at h
  cases hlength : recordLength days with
  | error reason =>
    rw [hlength] at h
    cases h
  | ok length =>
    rw [hlength] at h
    cases h
    refine ⟨hr.name_eq, congrArg _ (congrArg River.volume hr.bed_eq), fun x hx => ?_⟩
    rcases List.mem_append.mp hx with hx | hx
    · exact hr.rain x hx
    · exact List.eq_of_mem_replicate hx ▸ ha

/-- A river that has no water yet has none after it receives a value. -/
theorem Fresh.receive {name : String} {declared : String → Prop} {r r' : River α} {v : Value α}
    (hr : r.Fresh P name) (hv : v.Sound P declared) (h : r.receive v = .ok r') :
    r'.Fresh P name := by
  cases v with
  | rain amount days => exact hr.addRain hv h
  | series amounts =>
    cases h
    refine ⟨hr.name_eq, congrArg _ (congrArg River.volume hr.bed_eq), fun x hx => ?_⟩
    rcases List.mem_append.mp hx with hx | hx
    · exact hr.rain x hx
    · exact hv x hx
  | number | river | rivers | flow | nothing =>
    cases h
    exact hr

end River

namespace Network

/-- A network as statements build it: well-formed, without water, and with a property of all its
amounts. -/
structure Fresh (P : α → Prop) (n : Network α) : Prop where
  wellFormed : n.WellFormed
  all : n.All P
  plan_eq : n.plan = n

/-- The empty network has no water and no amounts. -/
theorem fresh_empty : (empty : Network α).Fresh P := by
  refine ⟨⟨le_refl _, ?_, ?_, ?_, ?_, ?_⟩, ⟨?_, ?_, ?_⟩, rfl⟩
  all_goals simp [empty]

variable {n : Network α}

/-- The rivers of a network without water were declared under their names and have no water
yet. -/
theorem Fresh.river (hn : n.Fresh P) {name : String} {r : River α}
    (h : n.rivers.get? name = some r) : r.Fresh P name := by
  refine ⟨hn.wellFormed.river_name h, ?_, hn.all.rain h⟩
  have hplan := get?_rivers_plan_of h
  rw [hn.plan_eq, h] at hplan
  exact (Option.some.inj hplan).symm

/-- A new river, or a new state of an old one. -/
theorem Fresh.insertRiver (hn : n.Fresh P) {name : String} {r : River α} (hr : r.Fresh P name) :
    ({ n with rivers := n.rivers.insert name r } : Network α).Fresh P := by
  obtain ⟨hwf, hall, hplan⟩ := hn
  have hkeys : ∀ k ∈ n.rivers.keys, k ∈ (n.rivers.insert name r).keys := by
    intro k hk
    rw [Table.mem_keys_insert]
    exact Or.inl hk
  refine ⟨⟨hwf.outflowDays,
    Table.of_get?_insert (P := fun k (r : River α) => r.name = k) hr.name_eq hwf.river_name,
    hwf.dam_name, fun {k} hk => hkeys k (hwf.river_of_dam hk), hwf.target, fun c hc => ?_⟩,
    ⟨Table.of_get?_insert hr.rain hall.rain, hall.dam_capacity, hall.capacity⟩, ?_⟩
  · -- What was declared before still is.
    obtain ⟨hs, hd, hsources, hdestinations⟩ := hwf.joins c hc
    exact ⟨hs, hd, fun k hk => hkeys k (hsources k hk), fun k hk => hkeys k (hdestinations k hk)⟩
  · obtain ⟨hrivers, hdams, hflows⟩ := plan_eq_self_iff.mp hplan
    refine plan_eq_self_iff.mpr ⟨?_, hdams, hflows⟩
    rw [Table.map_insert, hrivers, hr.bed_eq]

/-- Further connections that join declared rivers. -/
theorem Fresh.addFlows (hn : n.Fresh P) {flows : List (Connection α)}
    (hflows : ∀ c ∈ flows, c.Laid (· ∈ n.rivers.keys)) : (n.addFlows flows).Fresh P := by
  obtain ⟨hwf, hall, hplan⟩ := hn
  refine ⟨⟨hwf.outflowDays, hwf.river_name, hwf.dam_name, hwf.river_of_dam, hwf.target,
    fun c hc => ?_⟩, ⟨hall.rain, hall.dam_capacity, hall.capacity⟩, ?_⟩
  · rcases List.mem_append.mp hc with hc | hc
    · exact hwf.joins c hc
    · exact (hflows c hc).1
  · obtain ⟨hrivers, hdams, hold⟩ := plan_eq_self_iff.mp hplan
    -- Nothing waits in a new connection, so the plan has it as it is.
    have hnew : flows.map Connection.idle = flows := by
      refine (List.map_congr_left fun c hc => ?_).trans (List.map_id _)
      rw [id, Connection.idle, ← (hflows c hc).2]
    refine plan_eq_self_iff.mpr ⟨hrivers, hdams, ?_⟩
    rw [Network.addFlows, List.map_append, hold, hnew]

/-- A new dam, in a river of its own. -/
theorem Fresh.insertDam (hn : n.Fresh P) {name : String} {d : Dam α} {r : River α}
    (hname : d.name = name) (hcapacity : P d.capacity)
    (htarget : 0 ≤ d.targetPercent ∧ d.targetPercent ≤ 100) (hdry : d.drained = d)
    (hr : r.Fresh P name) :
    ({ n with dams := n.dams.insert name d, rivers := n.rivers.insert name r } :
      Network α).Fresh P := by
  obtain ⟨hwf, hall, hplan⟩ := hn.insertRiver hr
  refine ⟨⟨hwf.outflowDays, hwf.river_name,
    Table.of_get?_insert (P := fun k (d : Dam α) => d.name = k) hname hwf.dam_name,
    fun {k} hk => ?_, Table.of_get?_insert htarget hwf.target, hwf.joins⟩,
    ⟨hall.rain, Table.of_get?_insert hcapacity hall.dam_capacity, hall.capacity⟩, ?_⟩
  · rcases (Table.mem_keys_insert _ _ _ _).mp hk with hk | rfl
    · exact hwf.river_of_dam hk
    · exact (Table.mem_keys_insert _ _ _ _).mpr (Or.inr rfl)
  · obtain ⟨hrivers, hdams, hflows⟩ := plan_eq_self_iff.mp hplan
    refine plan_eq_self_iff.mpr ⟨hrivers, ?_, hflows⟩
    rw [Table.map_insert, hdams, hdry]

/-- The legs of an expression join declared rivers. -/
theorem Fresh.lay (hn : n.Fresh P) {e : Expr α} (he : e.All P) : (n.lay e).Fresh P := by
  have hyields := e.evaluate_yields n.rivers.contains he
  simp only [Table.contains_iff] at hyields
  exact hn.addFlows hyields.legs

omit [Amount α] in
/-- What a value registers joins declared rivers. -/
theorem laid_of_connections {v : Value α} {declared : String → Prop} (hv : v.Sound P declared)
    {name : String} : ∀ c ∈ v.connections name, c.Laid declared := by
  intro c hc
  cases v with
  | flow c' =>
    obtain rfl := List.mem_singleton.mp hc
    obtain ⟨⟨hs, hd, hsources, hdestinations⟩, hwaiting⟩ := hv
    exact ⟨⟨hs, hd, hsources, hdestinations⟩, hwaiting⟩
  | number | rain | series | river | rivers | nothing => cases hc

/-- A statement declares a dam whose river has no room for the days without rain. -/
def Strands (n : Network α) (s : Statement α) (reason : RainError) : Prop :=
  ∃ capacity release, s.declares = .dam capacity release ∧ 0 ≤ release ∧ release ≤ 100 ∧
    River.recordLength n.outflowDays = .error reason

/-- The dam is there all the same, and nothing else has changed. -/
theorem declare_of_strands {s : Statement α} {reason : RainError} (h : n.Strands s reason) :
    (n.declare s).error = some (.rainTooLong reason) ∧
      ∃ capacity release, s.declares = .dam capacity release ∧ 0 ≤ release ∧ release ≤ 100 ∧
        (n.declare s).network
          = { n with dams := n.dams.insert s.name ⟨s.name, capacity, release, 0⟩ } := by
  obtain ⟨name, line, declares⟩ := s
  obtain ⟨capacity, release, rfl, hlow, hhigh, hlength⟩ := h
  have hriver : (River.dry name : River α).addRain 0 n.outflowDays = .error reason :=
    River.addRain_eq_error_iff.mpr hlength
  -- Of the ends that a statement can come to, one only is that of a dam without room for rain.
  have houtcome := n.outcome_declare ⟨name, line, .dam capacity release⟩
  generalize (n.declare ⟨name, line, .dam capacity release⟩).network = m,
    (n.declare ⟨name, line, .dam capacity release⟩).error = error at houtcome
  cases houtcome with
  | undefined hexpr =>
    obtain ⟨r, hgives⟩ | hflow := hexpr
    · cases hgives
    · cases hflow
  | given hgives | overrun hgives => cases hgives
  | dam _ hr =>
    rw [hriver] at hr
    cases hr
  | stranded _ hr =>
    obtain rfl := Except.error.inj (hriver.symm.trans hr)
    exact ⟨rfl, capacity, release, rfl, hlow, hhigh, rfl⟩
  | releaseOutOfRange hrelease => exact absurd ⟨hlow, hhigh⟩ hrelease

/-- What one statement keeps. -/
theorem fresh_declare (hzero : P 0) (hn : n.Fresh P) {s : Statement α} (hs : s.declares.All P)
    (hroom : ∀ reason, ¬n.Strands s reason) : (n.declare s).network.Fresh P := by
  have houtcome := n.outcome_declare s
  generalize (n.declare s).network = m, (n.declare s).error = error at houtcome
  have hsound : ∀ {e : Expr α} {v : Value α}, e.All P →
      (e.evaluate n.rivers.contains).result = .ok v → v.Sound P (· ∈ n.rivers.keys) := by
    intro e v he hv
    have hyields := e.evaluate_yields n.rivers.contains he
    simp only [Table.contains_iff] at hyields
    exact hyields.value v hv
  cases houtcome with
  | undefined hexpr _ =>
    rcases hexpr with ⟨r, hgives⟩ | hflow
    · cases hgives <;> exact hn.lay hs
    · rw [hflow] at hs
      exact hn.lay hs
  | given hgives he hr =>
    -- The legs have been laid, and the rivers are still those from before.
    cases hgives with
    | river => exact (hn.lay hs).insertRiver ((River.fresh_dry _).receive (hsound hs he) hr)
    | update hold => exact (hn.lay hs).insertRiver ((hn.river hold).receive (hsound hs he) hr)
  | overrun hgives _ _ => cases hgives <;> exact hn.lay hs
  | flow he => exact (hn.lay hs).addFlows (laid_of_connections (hsound hs he))
  | undeclared | outflowNotWhole | outflowTooShort | releaseOutOfRange => exact hn
  | capacity =>
    obtain ⟨hwf, hall, hplan⟩ := hn
    refine ⟨⟨hwf.outflowDays, hwf.river_name, hwf.dam_name, hwf.river_of_dam, hwf.target,
      hwf.joins⟩, ⟨hall.rain, hall.dam_capacity, Table.of_get?_insert hs hall.capacity⟩, ?_⟩
    obtain ⟨hrivers, hdams, hflows⟩ := plan_eq_self_iff.mp hplan
    exact plan_eq_self_iff.mpr ⟨hrivers, hdams, hflows⟩
  | @outflow _ _ _ whole _ hlong =>
    obtain ⟨hwf, hall, hplan⟩ := hn
    -- Too few days have been turned down.
    have hdays : shortestOutflow ≤ whole.toNat := by omega
    refine ⟨⟨hdays, hwf.river_name, hwf.dam_name, hwf.river_of_dam, hwf.target, hwf.joins⟩,
      ⟨hall.rain, hall.dam_capacity, hall.capacity⟩, ?_⟩
    obtain ⟨hrivers, hdams, hflows⟩ := plan_eq_self_iff.mp hplan
    exact plan_eq_self_iff.mpr ⟨hrivers, hdams, hflows⟩
  | dam hrelease hr =>
    exact hn.insertDam rfl hs.1 hrelease rfl ((River.fresh_dry _).addRain hzero hr)
  | stranded hrelease hr =>
    -- There is no room for the dry days only if their number is turned down.
    have hlength := River.addRain_eq_error_iff.mp hr
    exact absurd ⟨_, _, rfl, hrelease.1, hrelease.2, hlength⟩ (hroom _)

/-- What statements keep that are all executed. -/
theorem fresh_execute (hzero : P 0) (hn : n.Fresh P) {statements : List (Statement α)}
    (hs : ∀ s ∈ statements, s.declares.All P) (herror : (n.execute statements).error = none) :
    (n.execute statements).network.Fresh P := by
  refine execute_induction hn (fun m s hmem hm hdeclare => ?_) herror
  refine fresh_declare hzero hm (hs s hmem) fun reason hstrands => ?_
  rw [(declare_of_strands hstrands).1] at hdeclare
  cases hdeclare

/-! ### Texts -/

/-- The network that a text declares, if its tokens spell a program and every statement of that
program is executed. -/
def ofText? (text : String) : Option (Network α) :=
  let scan : Scan α := .ofText text
  match Program.ofTokens "" scan.tokens scan.endLine with
  | .error _ => none
  | .ok program =>
    let execution := empty.execute program.statements
    match execution.error with
    | none => some execution.network
    | some _ => none

/-- A text declares a network exactly if its tokens are a program of which every statement is
executed. -/
theorem ofText?_eq_some_iff {text : String} {n : Network α} :
    ofText? text = some n ↔ ∃ program,
      Program.ofTokens "" (Scan.ofText text : Scan α).tokens (Scan.ofText text : Scan α).endLine
        = .ok program ∧
      (empty.execute program.statements).error = none ∧
      (empty.execute program.statements).network = n := by
  unfold ofText?
  cases hprogram : Program.ofTokens "" (Scan.ofText text : Scan α).tokens
      (Scan.ofText text : Scan α).endLine with
  | error e => simp [hprogram]
  | ok program =>
    cases herror : (empty.execute program.statements).error with
    | some e => simp [hprogram, herror]
    | none => simp [hprogram, herror]

/-- The network that a text declares is well-formed, without water, and has a property of all its
amounts that all written numbers have. -/
theorem fresh_of_ofText? (hwritten : ∀ d : Decimal, P (Amount.ofDecimal d)) (hzero : P 0)
    (hdefault : P (defaultRelease : α)) {text : String} {n : Network α}
    (h : ofText? text = some n) : n.Fresh P := by
  obtain ⟨program, hprogram, herror, rfl⟩ := ofText?_eq_some_iff.mp h
  -- The numbers of the text become the amounts of the statements.
  have hall := Program.all_ofTokens hdefault (Scan.all_ofText hwritten text) hprogram
  exact fresh_execute hzero fresh_empty hall herror

/-- Without rounding, no amount of a declared network is below nought. -/
theorem fresh_of_text {K : Type} [Field K] [LinearOrder K] [IsStrictOrderedRing K]
    [Amount.Exact K] {text : String} {n : Network K}
    (h : ofText? text = some n) : n.Fresh (0 ≤ ·) :=
  fresh_of_ofText? Amount.ofDecimal_nonneg Amount.zero_eq.ge (Nat.cast_nonneg _) h

/-- A river that feeds a dam, with rain on both. -/
def reservoirText : String :=
  "River a = [30, 10]mm; Capacity a = 50ML; Dam d = 20ML release 50%; d = 4mm; Flow f = a -> d;"

end Network

end Catchment

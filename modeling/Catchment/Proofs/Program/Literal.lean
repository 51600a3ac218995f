import Catchment.Program.Reading
import Catchment.Token.Scan

/-!
# `Catchment.Proofs.Program.Literal`: amounts come from the text

No amount in a program is made up by the reader. Each is the amount of a number
token, or the default for what a dam keeps. So a property that all numbers of a
text have, and the default too, is a property of all amounts in its statements.
`All` says that of an expression, of a statement, and of everything that is read
only in part.

* `Expr.Reading.all_step`, `Stage.all_step`: a token keeps the property.
* `Program.all_ofTokens`: all amounts in a program have it.
* `Scan.all_ofText`: the number tokens of a text stand for written numbers.
-/

set_option autoImplicit false

namespace Catchment

variable {α : Type} (P : α → Prop)

/-- The amount of a token, if it has one, has the property. -/
def Token.All (t : Token α) : Prop := ∀ v, t.kind = .number v → P v

namespace Expr

/-- Every amount in an expression has the property. -/
def All : Expr α → Prop
  | number v _ => P v
  | rain amount _ _ => P amount
  | series amounts _ => ∀ a ∈ amounts, P a
  | reference .. => True
  | group e _ => e.All
  | binary _ left right _ => left.All ∧ right.All

/-- Every amount that an operand has taken in has the property. The number of days is no
amount. -/
def Operand.All : Operand α → Prop
  | missing => True
  | number v _ | daysOpen v _ | days v _ _ | daysClosed v _ _ => P v
  | seriesOpen amounts _ | series amounts _ | seriesClosed amounts _ => ∀ a ∈ amounts, P a
  | complete e => e.All P

/-- Every amount to the left of a waiting operator has the property. -/
structure Waiting.All (w : Waiting α) : Prop where
  arrow : ∀ l ∈ w.arrow, l.1.All P
  plus : ∀ l ∈ w.plus, l.1.All P

/-- Every amount that has been read has the property. -/
structure Reading.All (r : Reading α) : Prop where
  operand : r.operand.All P
  waiting : r.waiting.All P
  outer : ∀ o ∈ r.outer, o.1.All P

variable {P}

/-- The amounts of an operand that may end where it stands are those of its expression. -/
theorem Operand.all_ending {o : Operand α} {e : Expr α} (ho : o.All P) (he : o.ending = .ok e) :
    e.All P := by
  cases o with
  | number v line =>
    cases he
    exact ho
  | complete e' =>
    cases he
    exact ho
  | missing | daysOpen | days | daysClosed | seriesOpen | series | seriesClosed => cases he

namespace Waiting

/-- Where nothing waits, there are no amounts. -/
theorem all_nothing : (nothing : Waiting α).All P :=
  ⟨fun _ h => (Option.not_mem_none _ h).elim, fun _ h => (Option.not_mem_none _ h).elim⟩

/-- Joining two expressions by an operator adds no amounts. -/
theorem all_join {operator : Operator} {left : Option (Expr α × Int)} {e : Expr α}
    (hl : ∀ l ∈ left, l.1.All P) (he : e.All P) : (join operator left e).All P := by
  cases left with
  | none => exact he
  | some l => exact ⟨hl l rfl, he⟩

/-- Ending a sum adds no amounts. -/
theorem all_sum {w : Waiting α} {e : Expr α} (hw : w.All P) (he : e.All P) : (w.sum e).All P :=
  all_join hw.plus he

/-- Ending an expression adds no amounts. -/
theorem all_whole {w : Waiting α} {e : Expr α} (hw : w.All P) (he : e.All P) :
    (w.whole e).All P :=
  all_join hw.arrow (all_sum hw he)

end Waiting

namespace Reading

/-- At the start of an expression, no amounts have been read. -/
theorem all_start : (start : Reading α).All P :=
  ⟨trivial, Waiting.all_nothing, fun _ h => absurd h List.not_mem_nil⟩

/-- Ending all levels of an expression adds no amounts. -/
theorem all_ending {r : Reading α} {e : Expr α} (hr : r.All P) (he : r.ending = .ok e) :
    e.All P := by
  unfold ending at he
  split at he
  · cases he
  · cases he
  · rename_i e' hop hout
    cases he
    exact Waiting.all_whole hr.waiting (Operand.all_ending hr.operand hop)

/-- A token behind a whole operand adds no amounts. -/
theorem all_afterOperand {r next : Reading α} {e : Expr α} {t : Token α} (hr : r.All P)
    (he : e.All P) (h : r.afterOperand e t = .take next) : next.All P := by
  unfold afterOperand at h
  split at h
  · -- A plus waits for the next operand, with all that is to its left.
    cases h
    refine ⟨trivial, ⟨hr.waiting.arrow, ?_⟩, hr.outer⟩
    rintro l ⟨⟩
    exact Waiting.all_sum hr.waiting he
  · -- So does an arrow, which binds less, so that no plus goes on waiting.
    cases h
    refine ⟨trivial, ⟨?_, fun _ h => (Option.not_mem_none _ h).elim⟩, hr.outer⟩
    rintro l ⟨⟩
    exact Waiting.all_whole hr.waiting he
  · -- A closing parenthesis takes up what waits around it.
    split at h
    · cases h
    · rename_i w line outer hout
      cases h
      have hmem : ∀ o ∈ (w, line) :: outer, o.1.All P := hout ▸ hr.outer
      exact ⟨Waiting.all_whole hr.waiting he, hmem _ List.mem_cons_self,
        fun o ho => hmem o (List.mem_cons_of_mem _ ho)⟩
  · cases h

/-- A token keeps the property of all amounts that have been read. -/
theorem all_step [Amount α] {r next : Reading α} {t : Token α} (hr : r.All P) (ht : t.All P)
    (h : r.step t = .take next) : next.All P := by
  -- Most tokens change the operand and nothing else.
  have change : ∀ {o o' : Operand α}, r.operand = o → (o.All P → o'.All P) →
      ({ r with operand := o' } : Reading α).All P :=
    fun hop himp => ⟨himp (hop ▸ hr.operand), hr.waiting, hr.outer⟩
  revert h
  fun_cases step r t with
  | case1 _ v hkind hop =>
    rintro ⟨⟩
    exact change hop fun _ => ht v hkind
  | case2 _ _ hop =>
    rintro ⟨⟩
    exact change hop id
  | case3 _ _ hop =>
    rintro ⟨⟩
    exact change hop fun _ _ ha => absurd ha List.not_mem_nil
  | case4 =>
    -- An opening parenthesis lays aside what waits.
    rintro ⟨⟩
    refine ⟨trivial, Waiting.all_nothing, fun l hl => ?_⟩
    rcases List.mem_cons.mp hl with rfl | hl
    · exact hr.waiting
    · exact hr.outer l hl
  -- A number that no unit follows is an operand, and so is what stood in parentheses.
  | case7 v line hop =>
    intro h
    have ho : (Operand.number v line).All P := hop ▸ hr.operand
    exact all_afterOperand hr (show (number v line).All P from ho) h
  | case12 _ vs line v hkind hop =>
    rintro ⟨⟩
    refine change hop fun ho a ha => ?_
    rcases List.mem_append.mp ha with ha | ha
    · exact ho a ha
    · rw [List.mem_singleton.mp ha]
      exact ht v hkind
  | case16 e hop =>
    intro h
    have ho : (Operand.complete e).All P := hop ▸ hr.operand
    exact all_afterOperand hr ho h
  | case5 _ _ _ _ hop | case6 _ _ _ _ hop | case8 _ _ _ _ _ hop | case9 _ _ _ _ _ hop
  | case13 _ _ _ _ hop | case14 _ _ _ _ hop | case15 _ _ _ _ hop =>
    rintro ⟨⟩
    exact change hop id
  | case10 _ _ _ _ _ hop =>
    rintro ⟨⟩
    exact change hop id
  | case11 | case17 => rintro ⟨⟩

end Reading

end Expr

/-! ### Statements -/

/-- Every amount in a declaration has the property. -/
def Declaration.All : Declaration α → Prop
  | river e | update e | flow e => e.All P
  | capacity v | flowOut v => P v
  | dam volume percent => P volume ∧ P percent

/-- Every amount in the part of a statement that has been read has the property. -/
def Stage.All : Stage α → Prop
  | start | keyword _ | named .. | flowOut _ | capacity _ | dam _ => True
  | route _ _ reading => reading.All P
  | flowOutDays _ v | capacityVolume _ v | capacityUnit _ v => P v
  | damCapacity _ v | damUnit _ v | damRelease _ v => P v
  | damPercent _ v p | damPercentSign _ v p => P v ∧ P p

variable {P}

/-- The amounts of a declared route are those of its expression. -/
theorem RouteForm.all_declare {form : RouteForm} {e : Expr α} (he : e.All P) :
    (form.declare e).All P := by
  cases form <;> exact he

namespace Stage

/-- Behind an equals sign, no amounts have been read. -/
theorem all_afterEquals (h : Heading) (form : Form) : (afterEquals h form : Stage α).All P := by
  cases form with
  | river | update | flow => exact Expr.Reading.all_start
  | capacity | flowOut | dam => trivial

variable [Amount α]

/-- A token keeps the property of all amounts that have been read, and a statement that it
completes has it. -/
theorem all_step (hdefault : P (defaultRelease : α)) {s next : Stage α} {t : Token α}
    {completed : Option (Statement α)} (hs : s.All P) (ht : t.All P)
    (h : s.step t = .take (next, completed)) :
    next.All P ∧ ∀ statement ∈ completed, statement.declares.All P := by
  have none : ∀ statement ∈ (none : Option (Statement α)), statement.declares.All P :=
    fun _ hmem => (Option.not_mem_none _ hmem).elim
  have one : ∀ {h : Heading} {d : Declaration α}, d.All P →
      ∀ statement ∈ some (h.statement d), statement.declares.All P := by
    rintro h d hd _ ⟨⟩
    exact hd
  -- The cases are those of the step: what the stage is, and what kind of token comes.
  revert h
  fun_cases step s t with
  | case1 | case2 | case4 =>
    rintro ⟨⟩
    exact ⟨trivial, none⟩
  | case5 _ form h =>
    rintro ⟨⟩
    exact ⟨all_afterEquals h form, none⟩
  | case6 _ form h reading _ e he =>
    rintro ⟨⟩
    exact ⟨trivial, one (RouteForm.all_declare (Expr.Reading.all_ending hs he))⟩
  | case8 _ form h reading reading' hstep =>
    rintro ⟨⟩
    exact ⟨Expr.Reading.all_step hs ht hstep, none⟩
  | case11 _ h v hkind | case13 _ h v hkind | case16 _ h v hkind =>
    rintro ⟨⟩
    exact ⟨ht v hkind, none⟩
  | case14 | case17 | case19 | case21 =>
    rintro ⟨⟩
    exact ⟨hs, none⟩
  | case12 | case15 | case22 =>
    rintro ⟨⟩
    exact ⟨trivial, one hs⟩
  | case18 =>
    rintro ⟨⟩
    exact ⟨trivial, one ⟨hs, hdefault⟩⟩
  | case20 _ h v p hkind =>
    rintro ⟨⟩
    exact ⟨⟨hs, ht p hkind⟩, none⟩
  | case3 | case7 | case9 | case10 | case23 => rintro ⟨⟩

/-- The amounts of the statements that are read are those of the tokens, and the release of a dam
that gives none. -/
theorem all_readAll (hdefault : P (defaultRelease : α)) {endLine : Nat} {s : Stage α}
    {tokens : List (Token α)} {statements : List (Statement α)} (hs : s.All P)
    (ht : ∀ t ∈ tokens, t.All P) (h : readAll endLine s tokens = .ok statements) :
    ∀ statement ∈ statements, statement.declares.All P := by
  -- The induction is on the tokens that are left.
  induction tokens generalizing s statements with
  | nil =>
    cases s with
    | start =>
      cases h
      exact fun _ hmem => absurd hmem List.not_mem_nil
    | _ => cases h
  | cons t ts ih =>
    rw [readAll.eq_def] at h
    simp only at h
    split at h
    · rename_i next completed hstep
      obtain ⟨hnext, hcompleted⟩ := all_step hdefault hs (ht t List.mem_cons_self) hstep
      split at h
      · rename_i rest hrest
        cases h
        intro statement hmem
        rcases List.mem_append.mp hmem with hmem | hmem
        · exact hcompleted statement (Option.mem_toList.mp hmem)
        · exact ih hnext (fun t' ht' => ht t' (List.mem_cons_of_mem _ ht')) hrest statement hmem
      · cases h
    · cases h
    · cases h

end Stage

/-- All amounts in the statements of a program have a property that the default and all numbers in
its text have. -/
theorem Program.all_ofTokens [Amount α] (hdefault : P (defaultRelease : α)) {path : String}
    {tokens : List (Token α)} {endLine : Nat} {p : Program α} (ht : ∀ t ∈ tokens, t.All P)
    (h : Program.ofTokens path tokens endLine = .ok p) :
    ∀ statement ∈ p.statements, statement.declares.All P := by
  unfold ofTokens at h
  cases hread : Stage.readAll endLine .start tokens with
  | error e =>
    rw [hread] at h
    cases h
  | ok statements =>
    rw [hread] at h
    cases h
    exact Stage.all_readAll hdefault (s := .start) trivial ht hread

/-! ### Texts -/

/-- No word is a number. -/
theorem Token.Kind.ofWord_ne_number (word : List Char) (v : α) : ofWord word ≠ .number v := by
  unfold ofWord
  split
  · simp
  · split <;> simp

/-- No sign is a number. -/
theorem Token.Kind.ofSign?_ne_number (c : Char) (v : α) : ofSign? c ≠ some (.number v) := by
  unfold ofSign?
  split <;> simp

namespace Scan

variable [Amount α]

/-- The amounts of tokens that are made of pieces are written numbers. -/
theorem all_ofPieces (hwritten : ∀ d : Decimal, P (Amount.ofDecimal d)) (line : Nat)
    (ps : List Piece) : ∀ t ∈ (ofPieces line ps : Scan α).tokens, t.All P := by
  induction ps generalizing line with
  | nil => exact fun _ hmem => absurd hmem List.not_mem_nil
  | cons p ps ih =>
    intro t hmem
    rcases List.mem_append.mp hmem with hmem | hmem
    · obtain ⟨kind, hkind, rfl⟩ := Option.map_eq_some_iff.mp (Option.mem_toList.mp hmem)
      intro v hv
      cases hv
      unfold tokenKind? at hkind
      split at hkind
      · exact absurd (Option.some.inj hkind) (Token.Kind.ofWord_ne_number _ v)
      · cases hkind
        exact hwritten _
      · cases hkind
      · obtain ⟨c, _, hc⟩ := Option.bind_eq_some_iff.mp hkind
        exact absurd hc (Token.Kind.ofSign?_ne_number c v)
      all_goals cases hkind
    · exact ih _ t hmem

/-- The number tokens of a text stand for written numbers. -/
theorem all_ofText (hwritten : ∀ d : Decimal, P (Amount.ofDecimal d)) (text : String) :
    ∀ t ∈ (ofText text : Scan α).tokens, t.All P :=
  all_ofPieces hwritten 1 _

end Scan

end Catchment

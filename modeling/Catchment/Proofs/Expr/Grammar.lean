import Catchment.Proofs.Program.Literal

/-!
# `Catchment.Proofs.Expr.Grammar`: the grammar of expressions

The grammar says which tokens spell which expression, with no reader in sight. It has
three levels. An operand is a name, a number, rain, or an expression in parentheses.
A sum is operands with a plus between them, and a route is sums with an arrow between
them. Both are derived from the left, so that operators of one kind group to the left,
and a plus binds tighter than an arrow.

What has been read of an expression spells, too: the waiting operators spell what is on
their left, and the open parentheses what is in front of them. A token extends what has
been read by itself. Conversely the tokens of an expression are all taken one by one.

* `Expr.Derives`: the tokens that spell an expression.
* `Reading.Spelt`: the tokens that have been read.
* `Reading.spelt_step`: a token is added to those that have been read.
* `Reading.derives_of_ending`: an expression that may end is spelt by what has been read.
* `Reading.reads_of_derives`: the tokens that spell an expression can be read as that expression.
-/

set_option autoImplicit false

namespace Catchment

namespace Expr

/-- The levels of the grammar. -/
inductive Level where
  | operand | sum | route
deriving DecidableEq, Repr

section
variable {α : Type}

/-- The tokens that spell the amounts of a series: numbers with commas between them. -/
inductive Amounts : List (Token α) → List α → Prop
  | one {t : Token α} {v : α} (h : t.kind = .number v) : Amounts [t] [v]
  | more {ts : List (Token α)} {vs : List α} {comma t : Token α} {v : α} (hrest : Amounts ts vs)
      (hcomma : comma.kind = .comma) (h : t.kind = .number v) :
      Amounts (ts ++ [comma, t]) (vs ++ [v])

/-- The tokens that spell an expression at a level of the grammar. Rain without a number of days
is for one day, and a number of days counts up to its point. -/
inductive Derives [Amount α] : Level → List (Token α) → Expr α → Prop
  | reference {t : Token α} (h : t.kind = .identifier) :
      Derives .operand [t] (.reference t.lexeme t.line)
  | number {t : Token α} {v : α} (h : t.kind = .number v) :
      Derives .operand [t] (.number v t.line)
  | rain {t unit : Token α} {v : α} (h : t.kind = .number v) (hunit : unit.kind = .mm) :
      Derives .operand [t, unit] (.rain v 1 t.line)
  | rainOver {t opening count closing unit : Token α} {v n : α} {days : Int}
      (h : t.kind = .number v) (hopening : opening.kind = .leftParen)
      (hcount : count.kind = .number n) (hclosing : closing.kind = .rightParen)
      (hunit : unit.kind = .mm) (hdays : Amount.truncate n = .ok days) :
      Derives .operand [t, opening, count, closing, unit] (.rain v days t.line)
  | series {opening closing unit : Token α} {ts : List (Token α)} {vs : List α}
      (hopening : opening.kind = .leftBracket) (h : Amounts ts vs)
      (hclosing : closing.kind = .rightBracket) (hunit : unit.kind = .mm) :
      Derives .operand (opening :: ts ++ [closing, unit]) (.series vs opening.line)
  | group {opening closing : Token α} {ts : List (Token α)} {e : Expr α}
      (hopening : opening.kind = .leftParen) (h : Derives .route ts e)
      (hclosing : closing.kind = .rightParen) :
      Derives .operand (opening :: ts ++ [closing]) (.group e opening.line)
  | sum {ts : List (Token α)} {e : Expr α} (h : Derives .operand ts e) : Derives .sum ts e
  | plus {left right : List (Token α)} {t : Token α} {l r : Expr α} (hl : Derives .sum left l)
      (h : t.kind = .plus) (hr : Derives .operand right r) :
      Derives .sum (left ++ t :: right) (.binary .plus l r t.line)
  | route {ts : List (Token α)} {e : Expr α} (h : Derives .sum ts e) : Derives .route ts e
  | arrow {left right : List (Token α)} {t : Token α} {l r : Expr α} (hl : Derives .route left l)
      (h : t.kind = .arrow) (hr : Derives .sum right r) :
      Derives .route (left ++ t :: right) (.binary .arrow l r t.line)

end

variable {α : Type} [Amount α]

/-- Some tokens spell rain on a number of days that has a property, and others the same rain on
one day. -/
inductive RainOver (Q : α → Prop) : List (Token α) → List (Token α) → Prop
  | mk {t opening count closing unit : Token α} {v n : α} (h : t.kind = .number v)
      (hopening : opening.kind = .leftParen) (hcount : count.kind = .number n)
      (hclosing : closing.kind = .rightParen) (hunit : unit.kind = .mm) (hn : Q n) :
      RainOver Q [t, opening, count, closing, unit] [t, unit]

omit [Amount α] in
/-- Of rain over some days, a number of days has been read. -/
theorem RainOver.exists_count {Q : α → Prop} {counted single : List (Token α)}
    (h : RainOver Q counted single) : ∃ count ∈ counted, ∃ n, count.kind = .number n ∧ Q n := by
  cases h with
  | @mk _ _ count _ _ _ n _ _ hcount _ _ hn => exact ⟨count, by simp, n, hcount, hn⟩

omit [Amount α] in
/-- What is known of the number of days may be weakened. -/
theorem RainOver.imp {Q Q' : α → Prop} {counted single : List (Token α)}
    (h : RainOver Q counted single)
    (hQ : ∀ count ∈ counted, ∀ n, count.kind = .number n → Q n → Q' n) :
    RainOver Q' counted single := by
  cases h with
  | @mk _ _ count _ _ _ n ht hopening hcount hclosing hunit hn =>
    exact .mk ht hopening hcount hclosing hunit (hQ count (by simp) n hcount hn)

/-! ### What has been read -/

/-- The tokens of an operator that waits, and of what stands on its left. -/
inductive Awaits (level : Level) (kind : Token.Kind α) :
    List (Token α) → Option (Expr α × Int) → Prop
  | nothing : Awaits level kind [] none
  | operator {ts : List (Token α)} {t : Token α} {l : Expr α} (hl : Derives level ts l)
      (h : t.kind = kind) : Awaits level kind (ts ++ [t]) (some (l, t.line))

/-- The tokens of the operators that wait at one level of brackets. -/
def Waiting.Spelt (ts : List (Token α)) (w : Waiting α) : Prop :=
  ∃ arrow plus, ts = arrow ++ plus ∧ Awaits .route .arrow arrow w.arrow ∧
    Awaits .sum .plus plus w.plus

/-- The tokens of what has been read of an operand. -/
inductive Operand.Spelt : List (Token α) → Operand α → Prop
  | missing : Operand.Spelt [] .missing
  | number {t : Token α} {v : α} (h : t.kind = .number v) : Operand.Spelt [t] (.number v t.line)
  | daysOpen {t opening : Token α} {v : α} (h : t.kind = .number v)
      (hopening : opening.kind = .leftParen) : Operand.Spelt [t, opening] (.daysOpen v t.line)
  | days {t opening count : Token α} {v n : α} (h : t.kind = .number v)
      (hopening : opening.kind = .leftParen) (hcount : count.kind = .number n) :
      Operand.Spelt [t, opening, count] (.days v n t.line)
  | daysClosed {t opening count closing : Token α} {v n : α} (h : t.kind = .number v)
      (hopening : opening.kind = .leftParen) (hcount : count.kind = .number n)
      (hclosing : closing.kind = .rightParen) :
      Operand.Spelt [t, opening, count, closing] (.daysClosed v n t.line)
  | seriesStart {opening : Token α} (hopening : opening.kind = .leftBracket) :
      Operand.Spelt [opening] (.seriesOpen [] opening.line)
  | seriesOpen {opening comma : Token α} {ts : List (Token α)} {vs : List α}
      (hopening : opening.kind = .leftBracket) (h : Amounts ts vs)
      (hcomma : comma.kind = .comma) :
      Operand.Spelt (opening :: ts ++ [comma]) (.seriesOpen vs opening.line)
  | series {opening : Token α} {ts : List (Token α)} {vs : List α}
      (hopening : opening.kind = .leftBracket) (h : Amounts ts vs) :
      Operand.Spelt (opening :: ts) (.series vs opening.line)
  | seriesClosed {opening closing : Token α} {ts : List (Token α)} {vs : List α}
      (hopening : opening.kind = .leftBracket) (h : Amounts ts vs)
      (hclosing : closing.kind = .rightBracket) :
      Operand.Spelt (opening :: ts ++ [closing]) (.seriesClosed vs opening.line)
  | complete {ts : List (Token α)} {e : Expr α} (h : Derives .operand ts e) :
      Operand.Spelt ts (.complete e)

/-- The tokens of what stands around the open parentheses, the parentheses among them. -/
inductive Enclosed : List (Token α) → List (Waiting α × Int) → Prop
  | nothing : Enclosed [] []
  | opening {before ts : List (Token α)} {t : Token α} {w : Waiting α}
      {outer : List (Waiting α × Int)} (houter : Enclosed before outer) (hw : w.Spelt ts)
      (h : t.kind = .leftParen) : Enclosed (before ++ ts ++ [t]) ((w, (t.line : Int)) :: outer)

/-- The tokens of what has been read of an expression. -/
def Reading.Spelt (ts : List (Token α)) (r : Reading α) : Prop :=
  ∃ outer waiting operand, ts = outer ++ waiting ++ operand ∧ Enclosed outer r.outer ∧
    r.waiting.Spelt waiting ∧ r.operand.Spelt operand

/-- Where nothing waits, no tokens have been read. -/
theorem Waiting.spelt_nothing : (nothing : Waiting α).Spelt [] :=
  ⟨[], [], rfl, .nothing, .nothing⟩

/-- At the start no tokens have been read. -/
theorem Reading.spelt_start : (start : Reading α).Spelt [] :=
  ⟨[], [], [], rfl, .nothing, Waiting.spelt_nothing, .missing⟩

/-- An operand that may end is spelt by its tokens. -/
theorem Operand.Spelt.derives {o : Operand α} {ts : List (Token α)} {e : Expr α} (ho : o.Spelt ts)
    (he : o.ending = .ok e) : Derives .operand ts e := by
  cases ho with
  | number h =>
    cases he
    exact .number h
  | complete h =>
    cases he
    exact h
  | missing | daysOpen | days | daysClosed | seriesStart | seriesOpen | series | seriesClosed =>
    cases he

/-- With an operand behind it a waiting plus spells a sum. -/
theorem Awaits.derives_sum {before ts : List (Token α)} {left : Option (Expr α × Int)}
    {e : Expr α} (h : Awaits .sum .plus before left) (he : Derives .operand ts e) :
    Derives .sum (before ++ ts) (Waiting.join .plus left e) := by
  cases h with
  | nothing => exact .sum he
  | operator hl hkind =>
    rw [List.append_assoc]
    exact .plus hl hkind he

/-- With a sum behind it a waiting arrow spells a route. -/
theorem Awaits.derives_route {before ts : List (Token α)} {left : Option (Expr α × Int)}
    {e : Expr α} (h : Awaits .route .arrow before left) (he : Derives .sum ts e) :
    Derives .route (before ++ ts) (Waiting.join .arrow left e) := by
  cases h with
  | nothing => exact .route he
  | operator hl hkind =>
    rw [List.append_assoc]
    exact .arrow hl hkind he

/-- With an operand behind them the waiting operators spell a route. -/
theorem Waiting.Spelt.derives {w : Waiting α} {before ts : List (Token α)} {e : Expr α}
    (h : w.Spelt before) (he : Derives .operand ts e) :
    Derives .route (before ++ ts) (w.whole e) := by
  obtain ⟨arrow, plus, rfl, harrow, hplus⟩ := h
  rw [List.append_assoc]
  exact harrow.derives_route (hplus.derives_sum he)

/-- With an operand behind them the open parentheses can be closed, and what stands around them
goes on to a route. -/
theorem Enclosed.exists_derives {before around ts : List (Token α)}
    {outer : List (Waiting α × Int)} {w : Waiting α} {e : Expr α} (h : Enclosed before outer)
    (hw : w.Spelt around)
    (he : Derives .operand ts e) :
    ∃ rest e', Derives .route (before ++ around ++ ts ++ rest) e' := by
  -- The induction is on the open parentheses, from the inmost outward.
  induction h generalizing w around ts e with
  | nothing => exact ⟨[], w.whole e, by simpa using hw.derives he⟩
  | @opening before' around' t _ _ _ hw' hopening ih =>
    let closing : Token α := ⟨.rightParen, ")", t.line⟩
    have hclosing : closing.kind = .rightParen := rfl
    obtain ⟨rest, e', he'⟩ := ih hw' (.group hopening (hw.derives he) hclosing)
    exact ⟨closing :: rest, e', by simpa using he'⟩

namespace Reading

/-- An expression that may end is spelt by what has been read. -/
theorem derives_of_ending {r : Reading α} {ts : List (Token α)} {e : Expr α} (h : r.Spelt ts)
    (he : r.ending = .ok e) : Derives .route ts e := by
  obtain ⟨outer, waiting, operand, rfl, houter, hwaiting, hoperand⟩ := h
  unfold ending at he
  split at he
  · cases he
  · cases he
  · rename_i e' hop hout
    cases he
    rw [hout] at houter
    cases houter
    exact hwaiting.derives (hoperand.derives hop)

/-- A token behind a whole operand adds to the tokens that spell what has been read: the operand
joins what waits, or ends a level. -/
theorem spelt_afterOperand {r next : Reading α} {outer waiting operand : List (Token α)}
    {e : Expr α} {t : Token α} (houter : Enclosed outer r.outer)
    (hwaiting : r.waiting.Spelt waiting)
    (he : Derives .operand operand e) (h : r.afterOperand e t = .take next) :
    next.Spelt (outer ++ waiting ++ operand ++ [t]) := by
  unfold afterOperand at h
  split at h
  · -- The sum in front of a plus goes on waiting behind an arrow.
    rename_i hkind
    cases h
    obtain ⟨arrow, plus, rfl, harrow, hplus⟩ := hwaiting
    have hsum : Derives .sum (plus ++ operand) (r.waiting.sum e) := hplus.derives_sum he
    exact ⟨outer, arrow ++ (plus ++ operand ++ [t]), [], by simp, houter,
      ⟨arrow, _, rfl, harrow, .operator hsum hkind⟩, .missing⟩
  · rename_i hkind
    cases h
    have hwhole : Derives .route (waiting ++ operand) (r.waiting.whole e) := hwaiting.derives he
    exact ⟨outer, waiting ++ operand ++ [t], [], by simp, houter,
      ⟨_, [], (List.append_nil _).symm, .operator hwhole hkind, .nothing⟩, .missing⟩
  · -- A closing parenthesis makes an operand of all that stands behind the opening one.
    rename_i hkind
    split at h
    · cases h
    · rename_i w line outer' hout
      cases h
      rw [hout] at houter
      cases houter with
      | @opening before around opening _ _ houter' hw hopening =>
        have hgroup := Derives.group hopening (hwaiting.derives he) hkind
        exact ⟨before, around, _, by simp, houter', hw, .complete hgroup⟩
  · cases h

/-- A token is added to those that have been read. -/
theorem spelt_step {r next : Reading α} {ts : List (Token α)} {t : Token α} (hr : r.Spelt ts)
    (h : r.step t = .take next) : next.Spelt (ts ++ [t]) := by
  obtain ⟨outer, waiting, operand, rfl, houter, hwaiting, hoperand⟩ := hr
  -- Most tokens change the operand and nothing else.
  have change : ∀ {o : Operand α} {ts : List (Token α)}, ts = operand ++ [t] → o.Spelt ts →
      ({ r with operand := o } : Reading α).Spelt (outer ++ waiting ++ operand ++ [t]) := by
    rintro o _ rfl ho
    exact ⟨outer, waiting, operand ++ [t], List.append_assoc _ _ _, houter, hwaiting, ho⟩
  revert h
  fun_cases step r t with
  | case1 _ v hkind hop =>
    rintro ⟨⟩
    rw [hop] at hoperand
    cases hoperand
    exact change rfl (.number hkind)
  | case2 _ hkind hop =>
    rintro ⟨⟩
    rw [hop] at hoperand
    cases hoperand
    exact change rfl (.complete (.reference hkind))
  | case3 _ hkind hop =>
    rintro ⟨⟩
    rw [hop] at hoperand
    cases hoperand
    exact change rfl (.seriesStart hkind)
  | case4 hkind hop =>
    -- An opening parenthesis encloses what comes behind it.
    rintro ⟨⟩
    rw [hop] at hoperand
    cases hoperand
    exact ⟨outer ++ waiting ++ [t], [], [], by simp, .opening houter hwaiting hkind,
      Waiting.spelt_nothing, .missing⟩
  | case5 _ v line hkind hop =>
    rintro ⟨⟩
    rw [hop] at hoperand
    cases hoperand with
    | number h => exact change rfl (.daysOpen h hkind)
  | case6 _ v line hkind hop =>
    rintro ⟨⟩
    rw [hop] at hoperand
    cases hoperand with
    | number h => exact change rfl (.complete (.rain h hkind))
  | case7 v line hop =>
    intro h
    rw [hop] at hoperand
    exact spelt_afterOperand houter hwaiting (hoperand.derives rfl) h
  | case8 _ v line n hkind hop =>
    rintro ⟨⟩
    rw [hop] at hoperand
    cases hoperand with
    | daysOpen h hopening => exact change rfl (.days h hopening hkind)
  | case9 _ v n line hkind hop =>
    rintro ⟨⟩
    rw [hop] at hoperand
    cases hoperand with
    | days h hopening hcount => exact change rfl (.daysClosed h hopening hcount hkind)
  | case10 _ v n line hkind hop days hdays =>
    rintro ⟨⟩
    rw [hop] at hoperand
    cases hoperand with
    | daysClosed h hopening hcount hclosing =>
      exact change rfl (.complete (.rainOver h hopening hcount hclosing hkind hdays))
  | case12 _ vs line v hkind hop =>
    rintro ⟨⟩
    rw [hop] at hoperand
    cases hoperand with
    | seriesStart hopening => exact change rfl (.series hopening (.one hkind))
    | seriesOpen hopening h hcomma =>
        exact change (by simp) (.series hopening (.more h hcomma hkind))
  | case13 _ vs line hkind hop =>
    rintro ⟨⟩
    rw [hop] at hoperand
    cases hoperand with
    | series hopening h => exact change rfl (.seriesOpen hopening h hkind)
  | case14 _ vs line hkind hop =>
    rintro ⟨⟩
    rw [hop] at hoperand
    cases hoperand with
    | series hopening h => exact change rfl (.seriesClosed hopening h hkind)
  | case15 _ vs line hkind hop =>
    rintro ⟨⟩
    rw [hop] at hoperand
    cases hoperand with
    | seriesClosed hopening h hclosing =>
      exact change (by simp) (.complete (.series hopening h hclosing hkind))
  | case16 e hop =>
    intro h
    rw [hop] at hoperand
    exact spelt_afterOperand houter hwaiting (hoperand.derives rfl) h
  | case11 | case17 => rintro ⟨⟩

/-- A number of days without a whole part ends the reading behind rain that could stand there for
one day. -/
theorem exists_rainOver_of_step {r : Reading α} {ts : List (Token α)} {t : Token α}
    {reason : Numeral.NoWholePart} (hr : r.Spelt ts) (h : r.step t = .noDays reason) :
    ∃ before counted single rest e, RainOver (Amount.truncate · = .error reason) counted single ∧
      ts ++ [t] = before ++ counted ∧ Derives .route (before ++ single ++ rest) e := by
  obtain ⟨outer, waiting, operand, rfl, houter, hwaiting, hoperand⟩ := hr
  -- Behind an operand nothing is counted, so the number stands between the brackets of rain.
  have after : ∀ {e : Expr α}, r.afterOperand e t ≠ .noDays reason := by
    intro e
    unfold afterOperand
    split
    · simp
    · simp
    · split <;> simp
    · simp
  revert h
  fun_cases step r t with
  | case11 v n line hkind hop reason' hdays =>
    rintro ⟨⟩
    rw [hop] at hoperand
    cases hoperand with
    | @daysClosed t' opening count closing _ _ h hopening hcount hclosing =>
      obtain ⟨rest, e, he⟩ := houter.exists_derives hwaiting (.rain h hkind)
      exact ⟨outer ++ waiting, _, [t', t], rest, e, .mk h hopening hcount hclosing hkind hdays,
        by simp, he⟩
  | case7 | case16 => exact fun h => absurd h after
  | _ => rintro ⟨⟩

/-! ### What can be read -/

/-- Some tokens are all taken one after the other and lead from one reading to another. -/
inductive Reads : Reading α → List (Token α) → Reading α → Prop
  | nil {r : Reading α} : Reads r [] r
  | cons {r next last : Reading α} {t : Token α} {ts : List (Token α)} (h : r.step t = .take next)
      (hrest : Reads next ts last) : Reads r (t :: ts) last

namespace Reads

/-- Tokens that are taken one row after the other are taken as one row. -/
theorem append {r middle last : Reading α} {ts ts' : List (Token α)} (h : Reads r ts middle)
    (h' : Reads middle ts' last) : Reads r (ts ++ ts') last := by
  induction h with
  | nil => exact h'
  | cons hstep _ ih => exact .cons hstep (ih h')

/-- A token that is taken is a row of tokens that is taken. -/
theorem one {r next : Reading α} {t : Token α} (h : r.step t = .take next) : Reads r [t] next :=
  .cons h .nil

end Reads

/-- Behind an operand that may end, a token that does not go on with a number ends it. -/
theorem step_of_ending {r : Reading α} {e : Expr α} {t : Token α} (he : r.operand.ending = .ok e)
    (hparen : t.kind ≠ .leftParen) (hunit : t.kind ≠ .mm) : r.step t = r.afterOperand e t := by
  unfold step
  cases hop : r.operand with
  | number v line =>
    rw [hop] at he
    cases he
    cases hkind : t.kind with
    | leftParen => exact absurd hkind hparen
    | mm => exact absurd hkind hunit
    | _ => rfl
  | complete e' =>
    rw [hop] at he
    cases he
    rfl
  | missing | daysOpen | days | daysClosed | seriesOpen | series | seriesClosed =>
    rw [hop] at he
    cases he

/-- A semicolon does not stand in an expression. -/
theorem step_semicolon {r : Reading α} {t : Token α} (h : t.kind = .semicolon) :
    r.step t = .refuse := by
  unfold step
  rw [h]
  cases r.operand <;> simp [afterOperand, h]

/-- The amounts of a series are taken one after the other. -/
theorem reads_amounts {ts : List (Token α)} {vs : List α} (h : Amounts ts vs) (line : Int)
    (w : Waiting α) (outer : List (Waiting α × Int)) :
    Reads ⟨.seriesOpen [] line, w, outer⟩ ts ⟨.series vs line, w, outer⟩ := by
  induction h with
  | one h => exact .one (by rw [step, h]; rfl)
  | more _ hcomma h ih =>
    exact ih.append (.cons (by rw [step, hcomma]) (.one (by rw [step, h])))

/-- Some tokens can be read as an expression, wherever its level may stand: an operand behind any
operator, a sum behind an arrow, and a route where nothing waits. -/
def ReadAs (ts : List (Token α)) (e : Expr α) : Level → Prop
  | .operand => ∀ w outer, ∃ o, Reads ⟨.missing, w, outer⟩ ts ⟨o, w, outer⟩ ∧ o.ending = .ok e
  | .sum => ∀ arrow outer, ∃ o last plus,
      Reads ⟨.missing, ⟨arrow, none⟩, outer⟩ ts ⟨o, ⟨arrow, plus⟩, outer⟩ ∧
        o.ending = .ok last ∧ Waiting.join .plus plus last = e
  | .route => ∀ outer, ∃ o last w, Reads ⟨.missing, .nothing, outer⟩ ts ⟨o, w, outer⟩ ∧
      o.ending = .ok last ∧ w.whole last = e

/-- The tokens that spell an expression can be read as that expression. -/
theorem readAs_of_derives {level : Level} {ts : List (Token α)} {e : Expr α}
    (h : Derives level ts e) : ReadAs ts e level := by
  -- The induction is on the derivation, for all operators that wait and all groups that are open.
  -- An operand leaves both as they are, a sum the arrow in front of it, a route the groups.
  induction h with
  | reference h =>
    intro w outer
    exact ⟨_, .one (by rw [step, h]), rfl⟩
  | number h =>
    intro w outer
    exact ⟨_, .one (by rw [step, h]), rfl⟩
  | rain h hunit =>
    intro w outer
    exact ⟨_, .cons (by rw [step, h]) (.one (by rw [step, hunit])), rfl⟩
  | @rainOver t _ _ _ unit v n days h hopening hcount hclosing hunit hdays =>
    intro w outer
    have hrain : step ⟨.daysClosed v n t.line, w, outer⟩ unit
        = .take ⟨.complete (.rain v days t.line), w, outer⟩ := by
      simp only [step, hunit, hdays]
    exact ⟨_, .cons (by rw [step, h])
      (.cons (by rw [step, hopening]) (.cons (by rw [step, hcount])
      (.cons (by rw [step, hclosing]) (.one hrain)))), rfl⟩
  | series hopening h hclosing hunit =>
    intro w outer
    exact ⟨_, .cons (by rw [step, hopening]) ((reads_amounts h _ w outer).append
      (.cons (by rw [step, hclosing]) (.one (by rw [step, hunit])))), rfl⟩
  | @group opening closing ts e hopening h hclosing ih =>
    intro w outer
    obtain ⟨o, last, inner, hreads, hend, hwhole⟩ := ih ((w, (opening.line : Int)) :: outer)
    have hclose := step_of_ending (r := ⟨o, inner, (w, (opening.line : Int)) :: outer⟩) hend
      (t := closing) (by simp [hclosing]) (by simp [hclosing])
    rw [afterOperand, hclosing] at hclose
    have hfirst : step ⟨.missing, w, outer⟩ opening
        = .take ⟨.missing, .nothing, (w, (opening.line : Int)) :: outer⟩ := by rw [step, hopening]
    refine ⟨.complete (.group e opening.line), .cons hfirst (hreads.append (.one ?_)), rfl⟩
    rw [hclose, ← hwhole]
  | sum _ ih =>
    intro arrow outer
    obtain ⟨o, hreads, hend⟩ := ih ⟨arrow, none⟩ outer
    exact ⟨o, _, none, hreads, hend, rfl⟩
  | @plus left right t l r _ h _ ihl ihr =>
    intro arrow outer
    obtain ⟨o, last, plus, hreads, hend, hsum⟩ := ihl arrow outer
    have hplus := step_of_ending (r := ⟨o, ⟨arrow, plus⟩, outer⟩) hend (t := t)
      (by simp [h]) (by simp [h])
    rw [afterOperand, h] at hplus
    obtain ⟨o', hreads', hend'⟩ := ihr ⟨arrow, some (l, t.line)⟩ outer
    refine ⟨o', r, some (l, t.line), hreads.append (.cons ?_ hreads'), hend', rfl⟩
    rw [hplus, ← hsum]
    rfl
  | route _ ih =>
    intro outer
    obtain ⟨o, last, plus, hreads, hend, hsum⟩ := ih none outer
    exact ⟨o, last, ⟨none, plus⟩, hreads, hend, hsum⟩
  | @arrow left right t l r _ h _ ihl ihr =>
    intro outer
    obtain ⟨o, last, w, hreads, hend, hwhole⟩ := ihl outer
    have harrow := step_of_ending (r := ⟨o, w, outer⟩) hend (t := t) (by simp [h]) (by simp [h])
    rw [afterOperand, h] at harrow
    obtain ⟨o', last', plus, hreads', hend', hsum⟩ := ihr (some (l, t.line)) outer
    refine ⟨o', last', ⟨some (l, t.line), plus⟩, hreads.append (.cons ?_ hreads'), hend', ?_⟩
    · rw [harrow, ← hwhole]
    · rw [← hsum]
      rfl

/-- The tokens that spell an expression can be read, and the expression may end behind them. -/
theorem reads_of_derives {ts : List (Token α)} {e : Expr α} (h : Derives .route ts e) :
    ∃ r, Reads start ts r ∧ r.ending = .ok e := by
  obtain ⟨o, last, w, hreads, hend, hwhole⟩ := readAs_of_derives h []
  refine ⟨⟨o, w, []⟩, hreads, ?_⟩
  rw [ending, hend, ← hwhole]

end Reading

end Expr

end Catchment

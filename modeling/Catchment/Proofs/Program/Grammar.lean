import Catchment.Amount.Binary
import Catchment.Proofs.Amount.Finite
import Catchment.Proofs.Expr.Grammar

/-!
# `Catchment.Proofs.Program.Grammar`: the grammar of programs

A statement is spelt by the keyword of its form, a name, an equals sign, what it
declares, and a semicolon, and a program by its statements one after the other. What
has been read of a statement spells as much of it as there is, so whatever is read as a
program is spelt by the grammar. The tokens of a statement are all taken, so whatever
the grammar spells is read. Nothing else can happen but a break of the grammar, unless
a number of days has no whole part.

* `Declaration.Derives`, `Statement.Derives`, `Program.Derives`: the grammar.
* `Stage.spelt_step`: a token is added to those that have been read.
* `Stage.derives_of_readAll`: what is read is spelt by the grammar.
* `Stage.readAll_of_derives`: what the grammar spells is read.
* `Program.reading_accepts_exactly_the_grammar`: the two together.
-/

set_option autoImplicit false

namespace Catchment

section
variable {α : Type}

/-- The tokens in front of the name that a statement gives: the keyword of its form. An update has
none. -/
inductive Form.Introduced : Form → List (Token α) → Prop
  | river {t : Token α} (h : t.kind = .river) : Introduced .river [t]
  | flow {t : Token α} (h : t.kind = .flow) : Introduced .flow [t]
  | capacity {t : Token α} (h : t.kind = .capacity) : Introduced .capacity [t]
  | flowOut {t : Token α} (h : t.kind = .flowOut) : Introduced .flowOut [t]
  | dam {t : Token α} (h : t.kind = .dam) : Introduced .dam [t]
  | update : Introduced .update []

/-- The tokens up to the equals sign of a statement. -/
inductive Heading.Derives : Form → List (Token α) → Heading → Prop
  | mk {form : Form} {opening : List (Token α)} {name equals : Token α}
      (hopening : form.Introduced opening) (hname : name.kind = .identifier)
      (hequals : equals.kind = .equals) :
      Derives form (opening ++ [name, equals]) ⟨name.lexeme, name.line⟩

variable [Amount α]

/-- The tokens that spell what a form of statement declares. A dam keeps the default unless it is
said what it keeps. -/
inductive Declaration.Derives : Form → List (Token α) → Declaration α → Prop
  | river {ts : List (Token α)} {e : Expr α} (h : Expr.Derives .route ts e) :
      Derives .river ts (.river e)
  | update {ts : List (Token α)} {e : Expr α} (h : Expr.Derives .route ts e) :
      Derives .update ts (.update e)
  | flow {ts : List (Token α)} {e : Expr α} (h : Expr.Derives .route ts e) :
      Derives .flow ts (.flow e)
  | capacity {t unit : Token α} {v : α} (h : t.kind = .number v) (hunit : unit.kind = .ml) :
      Derives .capacity [t, unit] (.capacity v)
  | flowOut {t : Token α} {v : α} (h : t.kind = .number v) : Derives .flowOut [t] (.flowOut v)
  | dam {t unit : Token α} {v : α} (h : t.kind = .number v) (hunit : unit.kind = .ml) :
      Derives .dam [t, unit] (.dam v (defaultRelease : α))
  | damRelease {t unit release percent sign : Token α} {v p : α} (h : t.kind = .number v)
      (hunit : unit.kind = .ml) (hrelease : release.kind = .release)
      (hpercent : percent.kind = .number p) (hsign : sign.kind = .percent) :
      Derives .dam [t, unit, release, percent, sign] (.dam v p)

/-- The tokens that spell a statement. -/
inductive Statement.Derives : List (Token α) → Statement α → Prop
  | mk {form : Form} {head body : List (Token α)} {h : Heading} {d : Declaration α}
      {semicolon : Token α} (hhead : h.Derives form head) (hbody : d.Derives form body)
      (hsemicolon : semicolon.kind = .semicolon) :
      Derives (head ++ body ++ [semicolon]) ⟨h.name, h.line, d⟩

/-- The tokens that spell the statements of a program. -/
inductive Program.Derives : List (Token α) → List (Statement α) → Prop
  | nil : Derives [] []
  | cons {ts rest : List (Token α)} {s : Statement α} {ss : List (Statement α)}
      (h : s.Derives ts) (hrest : Derives rest ss) : Derives (ts ++ rest) (s :: ss)

/-- Some tokens ask for rain on a number of days with a property, and do not break the grammar
before that: what stands in front of the rain goes on to a program with rain on one day in its
place. -/
def Program.RainsOver (Q : α → Prop) (ts : List (Token α)) : Prop :=
  ∃ before counted single after rest ss, Expr.RainOver Q counted single ∧
    ts = before ++ counted ++ after ∧ Program.Derives (before ++ single ++ rest) ss

/-- Of rain over some days, a number of days is among the tokens. -/
theorem Program.RainsOver.exists_count {Q : α → Prop} {ts : List (Token α)}
    (h : Program.RainsOver Q ts) : ∃ t ∈ ts, ∃ n, t.kind = .number n ∧ Q n := by
  obtain ⟨before, counted, single, after, rest, ss, hrain, rfl, -⟩ := h
  obtain ⟨count, hmem, hcount⟩ := hrain.exists_count
  exact ⟨count, by simp [hmem], hcount⟩

/-- What is known of the number of days may be weakened. -/
theorem Program.RainsOver.imp {Q Q' : α → Prop} {ts : List (Token α)} (h : Program.RainsOver Q ts)
    (hQ : ∀ t ∈ ts, ∀ n, t.kind = .number n → Q n → Q' n) : Program.RainsOver Q' ts := by
  obtain ⟨before, counted, single, after, rest, ss, hrain, rfl, hderives⟩ := h
  refine ⟨before, counted, single, after, rest, ss, hrain.imp ?_, rfl, hderives⟩
  exact fun count hmem => hQ count (by simp [hmem])

/-- A statement behind a program makes a longer program. -/
theorem Program.Derives.concat {done ts : List (Token α)} {ss : List (Statement α)}
    {s : Statement α} (h : Program.Derives done ss) (hs : s.Derives ts) :
    Program.Derives (done ++ ts) (ss ++ [s]) := by
  induction h with
  | nil =>
    have hone := Program.Derives.cons hs .nil
    rwa [List.append_nil] at hone
  | cons h _ ih =>
    rw [List.append_assoc]
    exact .cons h ih

end

/-! ### What has been read -/

/-- A route that the grammar allows is one that it allows behind the name of a river, of an update
or of a flow. -/
theorem RouteForm.derives_declare {α : Type} [Amount α] {form : RouteForm} {ts : List (Token α)}
    {e : Expr α} (h : Expr.Derives .route ts e) : (form.declare e).Derives form.form ts := by
  cases form with
  | river => exact .river h
  | update => exact .update h
  | flow => exact .flow h

namespace Stage

/-- A keyword introduces the form of statement that goes by it. -/
theorem introduced_of_formOf? {α : Type} {t : Token α} {form : Form}
    (h : formOf? t.kind = some form) :
    form.Introduced [t] := by
  unfold formOf? at h
  split at h
  all_goals cases h
  · rename_i hkind
    exact .river hkind
  · rename_i hkind
    exact .flow hkind
  · rename_i hkind
    exact .capacity hkind
  · rename_i hkind
    exact .flowOut hkind
  · rename_i hkind
    exact .dam hkind

variable {α : Type} [Amount α]

/-- The tokens of what has been read of a statement. -/
inductive Spelt : List (Token α) → Stage α → Prop
  | start : Spelt [] start
  | keyword {form : Form} {t : Token α} (h : form.Introduced [t]) : Spelt [t] (keyword form)
  | named {form : Form} {opening : List (Token α)} {name : Token α}
      (h : form.Introduced opening) (hname : name.kind = .identifier) :
      Spelt (opening ++ [name]) (named form ⟨name.lexeme, name.line⟩)
  | route {form : RouteForm} {head body : List (Token α)} {h : Heading} {r : Expr.Reading α}
      (hhead : h.Derives form.form head) (hbody : r.Spelt body) :
      Spelt (head ++ body) (route form h r)
  | flowOut {head : List (Token α)} {h : Heading} (hhead : h.Derives .flowOut head) :
      Spelt head (flowOut h)
  | flowOutDays {head : List (Token α)} {h : Heading} {t : Token α} {v : α}
      (hhead : h.Derives .flowOut head) (ht : t.kind = .number v) :
      Spelt (head ++ [t]) (flowOutDays h v)
  | capacity {head : List (Token α)} {h : Heading} (hhead : h.Derives .capacity head) :
      Spelt head (capacity h)
  | capacityVolume {head : List (Token α)} {h : Heading} {t : Token α} {v : α}
      (hhead : h.Derives .capacity head) (ht : t.kind = .number v) :
      Spelt (head ++ [t]) (capacityVolume h v)
  | capacityUnit {head : List (Token α)} {h : Heading} {t unit : Token α} {v : α}
      (hhead : h.Derives .capacity head) (ht : t.kind = .number v) (hunit : unit.kind = .ml) :
      Spelt (head ++ [t, unit]) (capacityUnit h v)
  | dam {head : List (Token α)} {h : Heading} (hhead : h.Derives .dam head) : Spelt head (dam h)
  | damCapacity {head : List (Token α)} {h : Heading} {t : Token α} {v : α}
      (hhead : h.Derives .dam head) (ht : t.kind = .number v) :
      Spelt (head ++ [t]) (damCapacity h v)
  | damUnit {head : List (Token α)} {h : Heading} {t unit : Token α} {v : α}
      (hhead : h.Derives .dam head) (ht : t.kind = .number v) (hunit : unit.kind = .ml) :
      Spelt (head ++ [t, unit]) (damUnit h v)
  | damRelease {head : List (Token α)} {h : Heading} {t unit release : Token α} {v : α}
      (hhead : h.Derives .dam head) (ht : t.kind = .number v) (hunit : unit.kind = .ml)
      (hrelease : release.kind = .release) :
      Spelt (head ++ [t, unit, release]) (damRelease h v)
  | damPercent {head : List (Token α)} {h : Heading} {t unit release percent : Token α} {v p : α}
      (hhead : h.Derives .dam head) (ht : t.kind = .number v) (hunit : unit.kind = .ml)
      (hrelease : release.kind = .release) (hpercent : percent.kind = .number p) :
      Spelt (head ++ [t, unit, release, percent]) (damPercent h v p)
  | damPercentSign {head : List (Token α)} {h : Heading} {t unit release percent sign : Token α}
      {v p : α} (hhead : h.Derives .dam head) (ht : t.kind = .number v) (hunit : unit.kind = .ml)
      (hrelease : release.kind = .release) (hpercent : percent.kind = .number p)
      (hsign : sign.kind = .percent) :
      Spelt (head ++ [t, unit, release, percent, sign]) (damPercentSign h v p)

/-- What a token leads to is spelt with it: a further part of the statement, or the statement, and
then nothing has been read of the next one. -/
def Reached (ts : List (Token α)) : Stage α × Option (Statement α) → Prop
  | (next, none) => next.Spelt ts
  | (next, some s) => next = start ∧ s.Derives ts

/-- A heading is all that has been read behind its equals sign. -/
theorem spelt_afterEquals {form : Form} {ts : List (Token α)} {h : Heading}
    (hhead : h.Derives form ts) : (afterEquals h form : Stage α).Spelt ts := by
  have route : ∀ form : RouteForm, h.Derives form.form ts →
      (Stage.route form h .start : Stage α).Spelt ts := by
    intro form hhead
    have hspelt := Spelt.route hhead Expr.Reading.spelt_start
    rwa [List.append_nil] at hspelt
  cases form with
  | river => exact route .river hhead
  | update => exact route .update hhead
  | flow => exact route .flow hhead
  | capacity => exact .capacity hhead
  | flowOut => exact .flowOut hhead
  | dam => exact .dam hhead

/-- A token is added to those that have been read. -/
theorem spelt_step {s : Stage α} {ts : List (Token α)} {t : Token α}
    {move : Stage α × Option (Statement α)} (hs : s.Spelt ts) (h : s.step t = .take move) :
    Reached (ts ++ [t]) move := by
  -- One case for each move of a stage. What is spelt behind the token is the next stage of the
  -- grammar; a semicolon ends the statement.
  revert h
  fun_cases step s t with
  | case1 _ hkind =>
    rintro ⟨⟩
    cases hs
    exact .named .update hkind
  | case2 _ form _ hform =>
    rintro ⟨⟩
    cases hs
    exact .keyword (introduced_of_formOf? hform)
  | case4 _ form hkind =>
    rintro ⟨⟩
    cases hs with
    | keyword h => exact .named h hkind
  | case5 _ form h hkind =>
    rintro ⟨⟩
    cases hs with
    | @named _ opening name hopening hname =>
      rw [List.append_assoc]
      exact spelt_afterEquals (.mk hopening hname hkind)
  | case6 _ form h r hkind e he =>
    rintro ⟨⟩
    cases hs with
    | route hhead hbody =>
      have hroute : Expr.Derives .route _ e := Expr.Reading.derives_of_ending hbody he
      exact ⟨rfl, .mk hhead (RouteForm.derives_declare hroute) hkind⟩
  | case8 _ form h r next hstep =>
    rintro ⟨⟩
    cases hs with
    | route hhead hbody =>
      rw [List.append_assoc]
      exact .route hhead (Expr.Reading.spelt_step hbody hstep)
  | case11 _ h v hkind =>
    rintro ⟨⟩
    cases hs with
    | flowOut hhead => exact .flowOutDays hhead hkind
  | case12 _ h v hkind =>
    rintro ⟨⟩
    cases hs with
    | flowOutDays hhead ht => exact ⟨rfl, .mk hhead (.flowOut ht) hkind⟩
  | case13 _ h v hkind =>
    rintro ⟨⟩
    cases hs with
    | capacity hhead => exact .capacityVolume hhead hkind
  | case14 _ h v hkind =>
    rintro ⟨⟩
    cases hs with
    | capacityVolume hhead ht =>
      rw [List.append_assoc]
      exact .capacityUnit hhead ht hkind
  | case15 _ h v hkind =>
    rintro ⟨⟩
    cases hs with
    | capacityUnit hhead ht hunit => exact ⟨rfl, .mk hhead (.capacity ht hunit) hkind⟩
  | case16 _ h v hkind =>
    rintro ⟨⟩
    cases hs with
    | dam hhead => exact .damCapacity hhead hkind
  | case17 _ h v hkind =>
    rintro ⟨⟩
    cases hs with
    | damCapacity hhead ht =>
      rw [List.append_assoc]
      exact .damUnit hhead ht hkind
  | case18 _ h v hkind =>
    rintro ⟨⟩
    cases hs with
    | damUnit hhead ht hunit => exact ⟨rfl, .mk hhead (.dam ht hunit) hkind⟩
  | case19 _ h v hkind =>
    rintro ⟨⟩
    cases hs with
    | damUnit hhead ht hunit =>
      rw [List.append_assoc]
      exact .damRelease hhead ht hunit hkind
  | case20 _ h v p hkind =>
    rintro ⟨⟩
    cases hs with
    | damRelease hhead ht hunit hrelease =>
      rw [List.append_assoc]
      exact .damPercent hhead ht hunit hrelease hkind
  | case21 _ h v p hkind =>
    rintro ⟨⟩
    cases hs with
    | damPercent hhead ht hunit hrelease hpercent =>
      rw [List.append_assoc]
      exact .damPercentSign hhead ht hunit hrelease hpercent hkind
  | case22 _ h v p hkind =>
    rintro ⟨⟩
    cases hs with
    | damPercentSign hhead ht hunit hrelease hpercent hsign =>
      exact ⟨rfl, .mk hhead (.damRelease ht hunit hrelease hpercent hsign) hkind⟩
  | case3 | case7 | case9 | case10 | case23 => rintro ⟨⟩

/-- A number of days without a whole part ends the reading behind rain that could stand there for
one day. -/
theorem exists_rainOver_of_step {s : Stage α} {ts : List (Token α)} {t : Token α}
    {reason : Numeral.NoWholePart} (hs : s.Spelt ts) (h : s.step t = .noDays reason) :
    ∃ before counted single rest statement,
      Expr.RainOver (Amount.truncate · = .error reason) counted single ∧
      ts ++ [t] = before ++ counted ∧
      (statement : Statement α).Derives (before ++ single ++ rest) := by
  revert h
  fun_cases step s t with
  | case10 form h r reason' hstep =>
    rintro ⟨⟩
    cases hs with
    | @route _ head body _ _ hhead hbody =>
      obtain ⟨before, counted, single, rest, e, hrain, hts, he⟩ :=
        Expr.Reading.exists_rainOver_of_step hbody hstep
      -- With rain for one day in its place, and a semicolon behind, the statement could be ended.
      let semicolon : Token α := ⟨.semicolon, ";", t.line⟩
      have hsemicolon : semicolon.kind = .semicolon := rfl
      have hstatement := Statement.Derives.mk hhead (RouteForm.derives_declare he) hsemicolon
      have htokens : head ++ (before ++ single ++ rest) ++ [semicolon]
          = head ++ before ++ single ++ (rest ++ [semicolon]) := by
        simp only [List.append_assoc]
      rw [htokens] at hstatement
      refine ⟨head ++ before, counted, single, _, _, hrain, ?_, hstatement⟩
      rw [List.append_assoc, hts, List.append_assoc]
  | _ => rintro ⟨⟩

/-- What is read is spelt by the grammar: from a stage on, with what has been read before. -/
theorem derives_of_readAll {endLine : Nat} {s : Stage α} {before ts : List (Token α)}
    {ss : List (Statement α)} (hs : s.Spelt before) (h : readAll endLine s ts = .ok ss) :
    Program.Derives (before ++ ts) ss := by
  -- The induction is on the tokens that are left.
  induction ts generalizing s before ss with
  | nil =>
    cases hs with
    | start =>
      cases h
      exact .nil
    | _ => cases h
  | cons t ts ih =>
    rw [readAll.eq_def] at h
    simp only at h
    split at h
    · rename_i next completed hstep
      have hreached : Reached (before ++ [t]) (next, completed) := spelt_step hs hstep
      split at h
      · rename_i rest hrest
        cases h
        cases completed with
        | none =>
          have hderives := ih hreached hrest
          rwa [List.append_assoc] at hderives
        | some statement =>
          obtain ⟨rfl, hstatement⟩ := hreached
          have hderives := Program.Derives.cons hstatement (ih .start hrest)
          rwa [List.append_assoc] at hderives
      · cases h
    · cases h
    · cases h

/-- Where a number of days ends the reading, the grammar is not broken before that. -/
theorem rainsOver_of_readAll {endLine : Nat} {s : Stage α} {done before ts : List (Token α)}
    {ss : List (Statement α)} {reason : Numeral.NoWholePart} (hdone : Program.Derives done ss)
    (hs : s.Spelt before) (h : readAll endLine s ts = .error (.days reason)) :
    Program.RainsOver (Amount.truncate · = .error reason) (done ++ before ++ ts) := by
  -- The induction is on the tokens that are left, for any statements that have been read.
  induction ts generalizing s done before ss with
  | nil => cases s <;> cases h
  | cons t ts ih =>
    rw [readAll.eq_def] at h
    simp only at h
    split at h
    · rename_i next completed hstep
      have hreached : Reached (before ++ [t]) (next, completed) := spelt_step hs hstep
      split at h
      · cases h
      · rename_i e hrest
        cases h
        cases completed with
        | none => simpa using ih hdone hreached hrest
        | some statement =>
          obtain ⟨rfl, hstatement⟩ := hreached
          simpa using ih (hdone.concat hstatement) .start hrest
    · cases h
    · rename_i reason' hstep
      cases h
      obtain ⟨front, counted, single, rest, statement, hrain, hts, hstatement⟩ :=
        exists_rainOver_of_step hs hstep
      have hprogram := hdone.concat hstatement
      rw [← List.append_assoc, ← List.append_assoc] at hprogram
      refine ⟨done ++ front, counted, single, ts, rest, _, hrain, ?_, hprogram⟩
      calc done ++ before ++ t :: ts = done ++ (before ++ [t]) ++ ts := by simp
        _ = done ++ front ++ counted ++ ts := by simp [hts]

/-! ### What can be read -/

/-- A token that completes no statement leads on. -/
theorem readAll_of_take {endLine : Nat} {s next : Stage α} {t : Token α} {ts : List (Token α)}
    (h : s.step t = .take (next, none)) :
    readAll endLine s (t :: ts) = readAll endLine next ts := by
  rw [readAll.eq_def]
  simp only [h]
  cases readAll endLine next ts <;> rfl

/-- A token that completes a statement puts it in front of the rest. -/
theorem readAll_of_finish {endLine : Nat} {s : Stage α} {statement : Statement α} {t : Token α}
    {ts : List (Token α)} (h : s.step t = .take (start, some statement)) :
    readAll endLine s (t :: ts) = (readAll endLine start ts).map (statement :: ·) := by
  rw [readAll.eq_def]
  simp only [h]
  cases readAll endLine start ts <;> rfl

/-- The tokens of an expression are taken within its statement. -/
theorem readAll_of_reads {endLine : Nat} {form : RouteForm} {h : Heading} {r r' : Expr.Reading α}
    {ts rest : List (Token α)} (hreads : Expr.Reading.Reads r ts r') :
    readAll endLine (route form h r) (ts ++ rest) = readAll endLine (route form h r') rest := by
  induction hreads with
  | nil => rfl
  | @cons r next last t ts hstep _ ih =>
    have hkind : t.kind ≠ .semicolon := by
      intro hkind
      rw [Expr.Reading.step_semicolon hkind] at hstep
      cases hstep
    have htake : (route form h r).step t = .take (route form h next, none) := by
      unfold step
      cases h' : t.kind with
      | semicolon => exact absurd h' hkind
      | _ => simp only [hstep]
    rw [List.cons_append, readAll_of_take htake]
    exact ih

/-- A keyword at the start of a statement is taken. -/
theorem step_start_of_formOf? {t : Token α} {form : Form} (h : formOf? t.kind = some form) :
    (start : Stage α).step t = .take (keyword form, none) := by
  unfold step
  cases hkind : t.kind with
  | identifier =>
    rw [hkind] at h
    cases h
  | _ =>
    rw [hkind] at h
    simp only [h]

/-- The tokens up to the equals sign lead to the stage behind it. -/
theorem readAll_of_heading {endLine : Nat} {form : Form} {h : Heading}
    {head rest : List (Token α)} (hhead : h.Derives form head) :
    readAll endLine start (head ++ rest) = readAll endLine (afterEquals h form) rest := by
  cases hhead with
  | @mk opening name equals hopening hname hequals =>
    let heading : Heading := ⟨name.lexeme, name.line⟩
    have hafter : readAll endLine (named form heading) (equals :: rest)
        = readAll endLine (afterEquals heading form) rest :=
      readAll_of_take (by simp only [step, hequals])
    have hkeyword : ∀ {t : Token α}, formOf? t.kind = some form →
        readAll endLine start (t :: name :: equals :: rest)
          = readAll endLine (named form heading) (equals :: rest) := by
      intro t hform
      rw [readAll_of_take (step_start_of_formOf? hform)]
      exact readAll_of_take (by simp only [step, hname, heading])
    rw [← hafter]
    cases hopening with
    | update => exact readAll_of_take (by simp only [step, hname, heading])
    | river hkind | flow hkind | capacity hkind | flowOut hkind | dam hkind =>
      exact hkeyword (by rw [hkind]; rfl)

/-- The expression of a statement is read to its semicolon. -/
theorem readAll_of_route {endLine : Nat} (form : RouteForm) {h : Heading}
    {body rest : List (Token α)} {e : Expr α} {semicolon : Token α}
    (hbody : Expr.Derives .route body e)
    (hsemicolon : semicolon.kind = .semicolon) :
    readAll endLine (route form h .start) (body ++ semicolon :: rest)
      = (readAll endLine start rest).map (h.statement (form.declare e) :: ·) := by
  obtain ⟨r, hreads, hend⟩ := Expr.Reading.reads_of_derives hbody
  rw [readAll_of_reads hreads]
  refine readAll_of_finish ?_
  simp only [step, hsemicolon, hend]

/-- What a statement declares is read to its semicolon. -/
theorem readAll_of_body {endLine : Nat} {form : Form} {h : Heading} {d : Declaration α}
    {body rest : List (Token α)} {semicolon : Token α} (hbody : d.Derives form body)
    (hsemicolon : semicolon.kind = .semicolon) :
    readAll endLine (afterEquals h form) (body ++ semicolon :: rest)
      = (readAll endLine start rest).map (h.statement d :: ·) := by
  -- Routes are read as expressions; each token of the other forms moves the stage on by one.
  cases hbody with
  | river he => exact readAll_of_route .river he hsemicolon
  | update he => exact readAll_of_route .update he hsemicolon
  | flow he => exact readAll_of_route .flow he hsemicolon
  | @flowOut t v ht =>
    calc readAll endLine (flowOut h) (t :: semicolon :: rest)
        = readAll endLine (flowOutDays h v) (semicolon :: rest) :=
          readAll_of_take (by simp only [step, ht])
      _ = _ := readAll_of_finish (by simp only [step, hsemicolon])
  | @capacity t unit v ht hunit =>
    calc readAll endLine (capacity h) (t :: unit :: semicolon :: rest)
        = readAll endLine (capacityVolume h v) (unit :: semicolon :: rest) :=
          readAll_of_take (by simp only [step, ht])
      _ = readAll endLine (capacityUnit h v) (semicolon :: rest) :=
          readAll_of_take (by simp only [step, hunit])
      _ = _ := readAll_of_finish (by simp only [step, hsemicolon])
  | @dam t unit v ht hunit =>
    calc readAll endLine (dam h) (t :: unit :: semicolon :: rest)
        = readAll endLine (damCapacity h v) (unit :: semicolon :: rest) :=
          readAll_of_take (by simp only [step, ht])
      _ = readAll endLine (damUnit h v) (semicolon :: rest) :=
          readAll_of_take (by simp only [step, hunit])
      _ = _ := readAll_of_finish (by simp only [step, hsemicolon])
  | @damRelease t unit release percent sign v p ht hunit hrelease hpercent hsign =>
    calc readAll endLine (dam h) (t :: unit :: release :: percent :: sign :: semicolon :: rest)
        = readAll endLine (damCapacity h v)
          (unit :: release :: percent :: sign :: semicolon :: rest) :=
          readAll_of_take (by simp only [step, ht])
      _ = readAll endLine (damUnit h v) (release :: percent :: sign :: semicolon :: rest) :=
          readAll_of_take (by simp only [step, hunit])
      _ = readAll endLine (damRelease h v) (percent :: sign :: semicolon :: rest) :=
          readAll_of_take (by simp only [step, hrelease])
      _ = readAll endLine (damPercent h v p) (sign :: semicolon :: rest) :=
          readAll_of_take (by simp only [step, hpercent])
      _ = readAll endLine (damPercentSign h v p) (semicolon :: rest) :=
          readAll_of_take (by simp only [step, hsign])
      _ = _ := readAll_of_finish (by simp only [step, hsemicolon])

/-- What the grammar spells is read. -/
theorem readAll_of_derives {endLine : Nat} {ts : List (Token α)} {ss : List (Statement α)}
    (h : Program.Derives ts ss) : readAll endLine start ts = .ok ss := by
  induction h with
  | nil => rfl
  | cons hstatement _ ih =>
    cases hstatement with
    | mk hhead hbody hsemicolon =>
      rw [List.append_assoc, List.append_assoc, List.singleton_append, readAll_of_heading hhead,
        readAll_of_body hbody hsemicolon, ih]
      rfl

/-- The statements that are read are those that the grammar spells. -/
theorem readAll_eq_ok_iff (endLine : Nat) {ts : List (Token α)} {ss : List (Statement α)} :
    readAll endLine start ts = .ok ss ↔ Program.Derives ts ss := by
  constructor
  · intro h
    exact derives_of_readAll .start h
  · intro h
    exact readAll_of_derives h

end Stage

instance {α : Type} (P : α → Prop) [DecidablePred P] (t : Token α) : Decidable (t.All P) :=
  match h : t.kind with
  | .number v => decidable_of_iff (P v) (by simp [Token.All, h])
  | .river | .flow | .capacity | .flowOut | .dam | .release | .identifier | .mm | .ml | .percent
  | .plus | .arrow | .equals | .comma | .semicolon | .leftParen | .rightParen | .leftBracket
  | .rightBracket => isTrue (by simp [Token.All, h])

namespace Program

variable {α : Type} [Amount α]

/-- Some tokens spell one program at most. -/
theorem Derives.unique {ts : List (Token α)} {ss ss' : List (Statement α)} (h : Derives ts ss)
    (h' : Derives ts ss') : ss = ss' := by
  have hread : Stage.readAll 0 .start ts = .ok ss := Stage.readAll_of_derives h
  have hread' : Stage.readAll 0 .start ts = .ok ss' := Stage.readAll_of_derives h'
  exact Except.ok.inj (hread.symm.trans hread')

/-- Where all numbers are finite, the reading ends at a break of the grammar if it does not
succeed. -/
theorem error_ofTokens_of_finite {path : String} {endLine : Nat} {ts : List (Token α)}
    {e : ReadingError} (hfinite : ∀ t ∈ ts, t.All Amount.IsFinite)
    (h : ofTokens path ts endLine = .error e) : ∃ error, e = .grammar error := by
  rw [ofTokens] at h
  cases hread : Stage.readAll endLine .start ts with
  | ok ss =>
    rw [hread] at h
    cases h
  | error e' =>
    rw [hread] at h
    cases h
    cases e with
    | grammar error => exact ⟨error, rfl⟩
    | days reason =>
      obtain ⟨count, hmem, n, hkind, herror⟩ :=
        (Stage.rainsOver_of_readAll .nil .start hread).exists_count
      obtain ⟨days, hdays⟩ := Amount.exists_truncate_eq_ok (hfinite count hmem n hkind)
      rw [hdays] at herror
      cases herror

/-- Where all numbers are finite, some tokens are read as a program if and only if the grammar
spells it, and it spells one program at most. If it spells none, the reading ends at a break of
the grammar. -/
theorem reading_accepts_exactly_the_grammar (path : String) (endLine : Nat) {ts : List (Token α)}
    (hfinite : ∀ t ∈ ts, t.All Amount.IsFinite) :
    (∀ p : Program α,
      ofTokens path ts endLine = .ok p ↔ p.path = path ∧ Derives ts p.statements) ∧
      (∀ ss ss', Derives ts ss → Derives ts ss' → ss = ss') ∧
      ((¬ ∃ ss, Derives ts ss) → ∃ e, ofTokens path ts endLine = .error (.grammar e)) := by
  have hread : ∀ p : Program α, ofTokens path ts endLine = .ok p ↔
      p.path = path ∧ Derives ts p.statements := by
    rintro ⟨path', statements⟩
    rw [ofTokens, ← Stage.readAll_eq_ok_iff endLine]
    cases Stage.readAll endLine .start ts with
    | ok ss => simp [Except.map, eq_comm]
    | error e => simp [Except.map]
  refine ⟨hread, fun ss ss' h h' => h.unique h', fun hnone => ?_⟩
  cases hof : ofTokens path ts endLine with
  | ok p => exact absurd ⟨p.statements, ((hread p).mp hof).2⟩ hnone
  | error e =>
    obtain ⟨error, rfl⟩ := error_ofTokens_of_finite hfinite hof
    exact ⟨error, rfl⟩

/-- The tokens of a text with parentheses around a sum, around a number of days, and with a dam
that keeps the default, are finite and spell the program that is read. -/
theorem reading_accepts_exactly_the_grammar_reservoir :
    let ts : List (Token Float) :=
      (Scan.ofText "Dam d = 5ML; d = 2.5(3.7)mm; Flow f = (a + b) + 1 -> c -> d;").tokens
    (∀ t ∈ ts, t.All Amount.IsFinite) ∧
      ∃ p, ofTokens "" ts 1 = .ok p ∧ Derives ts p.statements ∧ p.statements.length = 3 := by
  intro ts
  have hfinite : ∀ t ∈ ts, t.All Amount.IsFinite := by decide +kernel
  have hread :
      ((ofTokens "" ts 1).toOption.map (·.statements.length)) = some 3 := by decide +kernel
  obtain ⟨p, hp, hlength⟩ := Option.map_eq_some_iff.mp hread
  have hok : ofTokens "" ts 1 = .ok p := by
    cases h : ofTokens "" ts 1 with
    | ok q =>
      rw [h] at hp
      exact congrArg Except.ok (Option.some.inj hp)
    | error e =>
      rw [h] at hp
      cases hp
  exact ⟨hfinite, p, hok, (((reading_accepts_exactly_the_grammar "" 1 hfinite).1 p).mp hok).2,
    hlength⟩

end Program

end Catchment

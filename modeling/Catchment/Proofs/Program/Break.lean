import Catchment.Proofs.Program.Days

/-!
# `Catchment.Proofs.Program.Break`: where the grammar is broken

A row of tokens that breaks the grammar does so at one token, or at its end. The tokens in front
of that place break nothing: they are some statements and a part of the next one, and whatever
part it is, there are tokens that make a whole of it. The token at that place cannot stand
there, whatever comes behind it, because the reading goes by the tokens in front of it alone.

* `Expr.Operand.Spelt.exists_derives`, `Expr.Reading.Spelt.exists_derives`,
  `Stage.Spelt.exists_derives`: what has been read goes on to a whole.
* `Stage.Takes`, `Stage.exists_takes_of_readAll`: the tokens in front of a break are taken.
* `Stage.exists_derives_of_takes`: tokens that are taken go on to a program.
* `Stage.readAll_ne_ok_of_takes`: a token that is refused is in no program.
* `Program.break_is_at_the_first_impossible_token`: where a break is reported.
-/

set_option autoImplicit false

namespace Catchment

variable {α : Type} [Amount α]

/-! ### Tokens to go on with -/

namespace Token

/-- A name. -/
def someName : Token α := ⟨.identifier, "a", 1⟩

/-- A number. -/
def nought : Token α := ⟨.number 0, "0", 1⟩

/-- The unit of rain. -/
def millimetres : Token α := ⟨.mm, "mm", 1⟩

/-- The unit of volume. -/
def megalitres : Token α := ⟨.ml, "ML", 1⟩

/-- The sign behind what a dam keeps. -/
def percentSign : Token α := ⟨.percent, "%", 1⟩

/-- The sign behind the name of a statement. -/
def equalsSign : Token α := ⟨.equals, "=", 1⟩

/-- The sign behind a statement. -/
def stop : Token α := ⟨.semicolon, ";", 1⟩

/-- The sign behind a number of days. -/
def closingParen : Token α := ⟨.rightParen, ")", 1⟩

/-- The sign behind the amounts of a series. -/
def closingBracket : Token α := ⟨.rightBracket, "]", 1⟩

end Token

/-! ### What has been read goes on to a whole -/

namespace Expr

open Token (someName nought millimetres closingParen closingBracket)

/-- What has been read of an operand goes on to a whole one. Numbers of days need a whole part for
that, as finite numbers have. -/
theorem Operand.Spelt.exists_derives {o : Operand α} {ts : List (Token α)} (h : o.Spelt ts)
    (hfinite : ∀ t ∈ ts, t.All Amount.IsFinite) : ∃ rest e, Derives .operand (ts ++ rest) e := by
  cases h with
  | missing => exact ⟨[someName], _, .reference rfl⟩
  | number h => exact ⟨[], _, .number h⟩
  | @daysOpen t opening v h hopening =>
    -- The number of days may be the number that is there.
    obtain ⟨days, hdays⟩ := Amount.exists_truncate_eq_ok (hfinite t (by simp) v h)
    exact ⟨[t, closingParen, millimetres], _, .rainOver h hopening h rfl rfl hdays⟩
  | @days t opening count v n h hopening hcount =>
    obtain ⟨days, hdays⟩ := Amount.exists_truncate_eq_ok (hfinite count (by simp) n hcount)
    exact ⟨[closingParen, millimetres], _, .rainOver h hopening hcount rfl rfl hdays⟩
  | @daysClosed t opening count closing v n h hopening hcount hclosing =>
    obtain ⟨days, hdays⟩ := Amount.exists_truncate_eq_ok (hfinite count (by simp) n hcount)
    exact ⟨[millimetres], _, .rainOver h hopening hcount hclosing rfl hdays⟩
  | seriesStart hopening =>
    exact ⟨[nought, closingBracket, millimetres], _, .series hopening (.one rfl) rfl rfl⟩
  | @seriesOpen opening comma ts vs hopening h hcomma =>
    have hseries :
        Derives .operand (opening :: (ts ++ [comma, nought]) ++ [closingBracket, millimetres])
        (.series (vs ++ [0]) opening.line) := .series hopening (.more h hcomma rfl) rfl rfl
    exact ⟨[nought, closingBracket, millimetres], _, by simpa using hseries⟩
  | series hopening h =>
    exact ⟨[closingBracket, millimetres], _, .series hopening h rfl rfl⟩
  | @seriesClosed opening closing ts vs hopening h hclosing =>
    have hseries : Derives .operand (opening :: ts ++ [closing, millimetres])
        (.series vs opening.line) := .series hopening h hclosing rfl
    exact ⟨[millimetres], _, by simpa using hseries⟩
  | @complete ts e h => exact ⟨[], e, by simpa using h⟩

/-- What has been read of an expression goes on to a whole one: the operand is completed, and then
the open parentheses are closed. -/
theorem Reading.Spelt.exists_derives {r : Reading α} {ts : List (Token α)} (h : r.Spelt ts)
    (hfinite : ∀ t ∈ ts, t.All Amount.IsFinite) : ∃ rest e, Derives .route (ts ++ rest) e := by
  obtain ⟨outer, waiting, operand, rfl, houter, hwaiting, hoperand⟩ := h
  obtain ⟨rest, e, he⟩ := hoperand.exists_derives fun t ht => hfinite t (by simp [ht])
  obtain ⟨closings, e', he'⟩ := houter.exists_derives hwaiting he
  exact ⟨rest ++ closings, e', by simpa using he'⟩

end Expr

open Token (someName nought megalitres percentSign equalsSign stop)

/-- Every form of statement has something to declare. -/
theorem Declaration.exists_derives (form : Form) :
    ∃ body, ∃ d : Declaration α, d.Derives form body := by
  have hname : Expr.Derives .route [someName] (.reference "a" 1 : Expr α) :=
    .route (.sum (.reference rfl))
  cases form with
  | river => exact ⟨_, _, .river hname⟩
  | update => exact ⟨_, _, .update hname⟩
  | flow => exact ⟨_, _, .flow hname⟩
  | capacity => exact ⟨[nought, megalitres], _, .capacity rfl rfl⟩
  | flowOut => exact ⟨[nought], _, .flowOut rfl⟩
  | dam => exact ⟨[nought, megalitres], _, .dam rfl rfl⟩

namespace Statement

variable {form : Form} {head : List (Token α)} {h : Heading} {d : Declaration α}

/-- A statement goes on to its semicolon if its declaration goes on. -/
theorem exists_derives (before rest : List (Token α)) (hhead : h.Derives form head)
    (hbody : d.Derives form (before ++ rest)) :
    ∃ rest', ∃ s : Statement α, s.Derives (head ++ before ++ rest') := by
  have hstatement : (⟨h.name, h.line, d⟩ : Statement α).Derives
      (head ++ (before ++ rest) ++ [stop]) := .mk hhead hbody rfl
  exact ⟨rest ++ [stop], _, by simpa using hstatement⟩

/-- A statement that has been read up to its equals sign goes on. -/
theorem exists_derives_of_heading (hhead : h.Derives form head) :
    ∃ rest, ∃ s : Statement α, s.Derives (head ++ rest) := by
  obtain ⟨body, d, hd⟩ := Declaration.exists_derives (α := α) form
  obtain ⟨rest, s, hs⟩ := exists_derives [] body hhead hd
  exact ⟨rest, s, by simpa using hs⟩

/-- A statement that has been read up to its name goes on. -/
theorem exists_derives_of_name {opening : List (Token α)} {name : Token α}
    (hopening : form.Introduced opening) (hname : name.kind = .identifier) :
    ∃ rest, ∃ s : Statement α, s.Derives (opening ++ [name] ++ rest) := by
  have hhead : Heading.Derives form (opening ++ [name, equalsSign]) ⟨name.lexeme, name.line⟩ :=
    .mk hopening hname rfl
  obtain ⟨rest, s, hs⟩ := exists_derives_of_heading hhead
  exact ⟨equalsSign :: rest, s, by simpa using hs⟩

end Statement

namespace Stage

open Statement (exists_derives_of_heading exists_derives_of_name)

/-- What has been read of a statement goes on to a whole one. -/
theorem Spelt.exists_derives {s : Stage α} {ts : List (Token α)} (h : s.Spelt ts)
    (hfinite : ∀ t ∈ ts, t.All Amount.IsFinite) :
    ∃ rest, ∃ statement : Statement α, statement.Derives (ts ++ rest) := by
  cases h with
  | start =>
    -- Nothing need stand in front of the name in an update.
    obtain ⟨rest, statement, h⟩ :=
      exists_derives_of_name (α := α) .update (show someName.kind = .identifier from rfl)
    exact ⟨_, statement, h⟩
  | keyword h =>
    obtain ⟨rest, statement, h⟩ :=
      exists_derives_of_name h (show someName.kind = .identifier from rfl)
    exact ⟨someName :: rest, statement, by simpa using h⟩
  | named h hname => exact exists_derives_of_name h hname
  | route hhead hbody =>
    obtain ⟨rest, e, he⟩ :=
      hbody.exists_derives fun t ht => hfinite t (List.mem_append_right _ ht)
    exact Statement.exists_derives _ rest hhead (RouteForm.derives_declare he)
  | flowOut hhead | capacity hhead | dam hhead => exact exists_derives_of_heading hhead
  | flowOutDays hhead ht => exact Statement.exists_derives [_] [] hhead (.flowOut ht)
  | capacityVolume hhead ht =>
    exact Statement.exists_derives [_] [megalitres] hhead (.capacity ht rfl)
  | capacityUnit hhead ht hunit =>
    exact Statement.exists_derives [_, _] [] hhead (.capacity ht hunit)
  | damCapacity hhead ht => exact Statement.exists_derives [_] [megalitres] hhead (.dam ht rfl)
  | damUnit hhead ht hunit => exact Statement.exists_derives [_, _] [] hhead (.dam ht hunit)
  | damRelease hhead ht hunit hrelease =>
    exact Statement.exists_derives [_, _, _] [nought, percentSign] hhead
      (.damRelease ht hunit hrelease rfl rfl)
  | damPercent hhead ht hunit hrelease hpercent =>
    exact Statement.exists_derives [_, _, _, _] [percentSign] hhead
      (.damRelease ht hunit hrelease hpercent rfl)
  | damPercentSign hhead ht hunit hrelease hpercent hsign =>
    exact Statement.exists_derives [_, _, _, _, _] [] hhead
      (.damRelease ht hunit hrelease hpercent hsign)

/-! ### Tokens that are taken -/

/-- Some tokens are all taken one after the other and lead from one stage to another. -/
inductive Takes : Stage α → List (Token α) → Stage α → Prop
  | nil {s : Stage α} : Takes s [] s
  | cons {s next last : Stage α} {t : Token α} {ts : List (Token α)}
      {completed : Option (Statement α)} (h : s.step t = .take (next, completed))
      (hrest : Takes next ts last) : Takes s (t :: ts) last

variable {endLine : Nat} {s last : Stage α} {before ts : List (Token α)} {t : Token α}

/-- Where the grammar is broken, the tokens in front are taken, and the first one behind them, if
there is one, is refused. -/
theorem exists_takes_of_readAll {error : SyntaxError}
    (h : readAll endLine s ts = .error (.grammar error)) :
    ∃ front back last, ts = front ++ back ∧ s.Takes front last ∧
      error = .before last.expected back endLine ∧ ∀ t ∈ back.head?, last.step t = .refuse := by
  induction ts generalizing s with
  | nil =>
    -- Only between two statements may the tokens end.
    refine ⟨[], [], s, rfl, .nil, ?_, nofun⟩
    cases s with
    | start => cases h
    | _ =>
      cases h
      rfl
  | cons t ts ih =>
    rw [readAll.eq_def] at h
    simp only at h
    split at h
    · rename_i next completed hstep
      split at h
      · cases h
      · rename_i e hrest
        cases h
        obtain ⟨front, back, last, rfl, htakes, herror, hrefuse⟩ := ih hrest
        exact ⟨t :: front, back, last, rfl, .cons hstep htakes, herror, hrefuse⟩
    · rename_i hstep
      cases h
      refine ⟨[], t :: ts, s, rfl, .nil, rfl, ?_⟩
      rintro _ ⟨⟩
      exact hstep
    · cases h

/-- A token that is refused is in no program: no tokens behind it make up for it. -/
theorem readAll_ne_ok_of_takes (h : s.Takes before last) (ht : last.step t = .refuse)
    (rest : List (Token α)) (ss : List (Statement α)) :
    readAll endLine s (before ++ t :: rest) ≠ .ok ss := by
  induction h generalizing ss with
  | nil =>
    intro hread
    obtain ⟨_, _, _, hstep, -⟩ := exists_step_of_readAll hread
    cases ht.symm.trans hstep
  | cons hstep _ ih =>
    intro hread
    obtain ⟨_, _, ss', hstep', hrest⟩ := exists_step_of_readAll hread
    cases hstep.symm.trans hstep'
    exact ih ht ss' hrest

/-- Tokens that are taken are some statements and a part of the next one. -/
theorem exists_spelt_of_takes {done : List (Token α)} {ss : List (Statement α)}
    (hdone : Program.Derives done ss) (hs : s.Spelt before) (h : s.Takes ts last) :
    ∃ done' before' ss', done ++ before ++ ts = done' ++ before' ∧ Program.Derives done' ss' ∧
      last.Spelt before' := by
  induction h generalizing done before ss with
  | nil => exact ⟨done, before, ss, by simp, hdone, hs⟩
  | @cons s next last t ts completed hstep _ ih =>
    have hreached : Reached (before ++ [t]) (next, completed) := spelt_step hs hstep
    cases completed with
    | none =>
      obtain ⟨done', before', ss', hsplit, hrest⟩ := ih hdone hreached
      exact ⟨done', before', ss', by simpa using hsplit, hrest⟩
    | some statement =>
      obtain ⟨rfl, hstatement⟩ := hreached
      obtain ⟨done', before', ss', hsplit, hrest⟩ := ih (hdone.concat hstatement) .start
      exact ⟨done', before', ss', by simpa using hsplit, hrest⟩

/-- Tokens that are taken go on to a program. -/
theorem exists_derives_of_takes (h : start.Takes ts last)
    (hfinite : ∀ t ∈ ts, t.All Amount.IsFinite) :
    ∃ rest ss, Program.Derives (ts ++ rest) ss := by
  obtain ⟨done, part, ss, hsplit, hdone, hpart⟩ := exists_spelt_of_takes .nil .start h
  obtain rfl : ts = done ++ part := by simpa using hsplit
  obtain ⟨rest, statement, hstatement⟩ :=
    hpart.exists_derives fun t ht => hfinite t (List.mem_append_right _ ht)
  exact ⟨rest, ss ++ [statement], by simpa using hdone.concat hstatement⟩

end Stage

namespace Program

variable {path : String} {endLine : Nat} {ts : List (Token α)}

/-- Tokens are a program exactly if they are read to the end from the start of a statement. -/
theorem ofTokens_eq_ok_iff {p : Program α} :
    ofTokens path ts endLine = .ok p ↔
      p.path = path ∧ Stage.readAll endLine .start ts = .ok p.statements := by
  obtain ⟨path', statements⟩ := p
  rw [ofTokens]
  cases Stage.readAll endLine .start ts with
  | ok ss => simp [Except.map, eq_comm]
  | error e => simp [Except.map]

/-- What is wrong with tokens is what ends their reading from the start of a statement. -/
theorem ofTokens_eq_error_iff {e : ReadingError} :
    ofTokens path ts endLine = .error e ↔ Stage.readAll endLine .start ts = .error e := by
  rw [ofTokens]
  cases Stage.readAll endLine .start ts with
  | ok ss => simp [Except.map]
  | error e' => simp [Except.map]

/-- Where all numbers are finite, a break of the grammar is reported at the first token that
cannot stand where it does, with its line and its characters, or at the last line without any
characters. The tokens in front of it go on to a program, and with it none do. At the end of the
tokens, they are no program as they are. -/
theorem break_is_at_the_first_impossible_token {error : SyntaxError}
    (hfinite : ∀ t ∈ ts, t.All Amount.IsFinite)
    (h : ofTokens path ts endLine = .error (.grammar error)) :
    ∃ j, j ≤ ts.length ∧
      (∃ rest p, ofTokens path (ts.take j ++ rest) endLine = .ok p) ∧
      (∀ _ : j < ts.length, error.line = ts[j].line ∧ error.lexeme = some ts[j].lexeme ∧
        ∀ rest line p, ofTokens path (ts.take (j + 1) ++ rest) line ≠ .ok p) ∧
      (j = ts.length → error.line = endLine ∧ error.lexeme = none ∧
        ∀ line p, ofTokens path ts line ≠ .ok p) := by
  obtain ⟨front, back, last, rfl, htakes, rfl, hrefuse⟩ :=
    Stage.exists_takes_of_readAll (ofTokens_eq_error_iff.mp h)
  obtain ⟨rest, ss, hderives⟩ := Stage.exists_derives_of_takes htakes fun t ht =>
    hfinite t (List.mem_append_left _ ht)
  refine ⟨front.length, by simp, ⟨rest, ⟨path, ss⟩, ?_⟩, fun hlt => ?_, fun hend => ?_⟩
  · rw [List.take_left]
    exact ofTokens_eq_ok_iff.mpr ⟨rfl, Stage.readAll_of_derives hderives⟩
  · cases back with
    | nil => simp at hlt
    | cons t back =>
      have hplace : (front ++ t :: back)[front.length] = t := by simp
      have htake : (front ++ t :: back).take (front.length + 1) = front ++ [t] := by
        rw [List.take_length_add_append]
        rfl
      rw [hplace, htake]
      refine ⟨rfl, rfl, fun rest line p hp => ?_⟩
      rw [List.append_assoc] at hp
      exact Stage.readAll_ne_ok_of_takes htakes (hrefuse t rfl) rest _
        (ofTokens_eq_ok_iff.mp hp).2
  · obtain rfl : back = [] := by simpa using hend
    refine ⟨rfl, rfl, fun line p hp => ?_⟩
    -- What is read once is a program, and would be read with any last line.
    have hprogram := Stage.derives_of_readAll .start (ofTokens_eq_ok_iff.mp hp).2
    have hread := ofTokens_eq_error_iff.mp h
    rw [← List.nil_append (front ++ []), Stage.readAll_of_derives hprogram] at hread
    cases hread

/-- The second line breaks the grammar where the second operand of a sum is missing. -/
theorem break_is_at_the_first_impossible_token_operand :
    let ts : List (Token Float) := (Scan.ofText "River a = 2.5(3)mm;\nFlow f = (a + ;").tokens
    let error : SyntaxError := ⟨.operand, 2, some ";"⟩
    (∀ t ∈ ts, t.All Amount.IsFinite) ∧ ofTokens "" ts 2 = .error (.grammar error) ∧
      ∃ j, j ≤ ts.length ∧ (∃ rest p, ofTokens "" (ts.take j ++ rest) 2 = .ok p) ∧
        ∀ rest line p, ofTokens "" (ts.take (j + 1) ++ rest) line ≠ .ok p := by
  intro ts error
  have hfinite : ∀ t ∈ ts, t.All Amount.IsFinite := by decide +kernel
  have hbroken : (match ofTokens "" ts 2 with
      | .ok _ => none
      | .error e => some e) = some (.grammar error) := by decide +kernel
  have herror : ofTokens "" ts 2 = .error (.grammar error) := by
    cases h : ofTokens "" ts 2 with
    | ok p =>
      rw [h] at hbroken
      cases hbroken
    | error e =>
      rw [h] at hbroken
      exact congrArg Except.error (Option.some.inj hbroken)
  obtain ⟨j, hj, hfront, hbad, hend⟩ := break_is_at_the_first_impossible_token hfinite herror
  have hlt : j < ts.length := by
    refine Nat.lt_of_le_of_ne hj fun h => ?_
    cases (hend h).2.1
  exact ⟨hfinite, herror, j, hj, hfront, (hbad hlt).2.2⟩

end Program

end Catchment

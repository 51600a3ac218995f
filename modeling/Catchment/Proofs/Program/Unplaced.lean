import Catchment.Problem
import Catchment.Proofs.Program.Break
import Catchment.Proofs.Token.Respaced

/-!
# `Catchment.Proofs.Program.Unplaced`: the layout of a text means nothing

The reader takes one token after the other and goes by what they are. It writes their
lines down, in expressions, in statements and in what it says of a broken grammar, but
never looks at them. If the lines of the tokens are forgotten, what is read of them is
therefore what was read before, with its lines forgotten. So two texts with the same
tokens are read alike, whatever stands between the tokens and wherever the lines end.

* `Program.unplaced`, `SyntaxError.unplaced`: what is read, without its lines.
* `Expr.Reading.step_unplaced`, `Stage.step_unplaced`: one token without its line.
* `Stage.readAll_unplaced`: a row of tokens without their lines.
* `Program.layout_means_nothing`: a text written again with single spaces.
-/

set_option autoImplicit false

namespace Catchment

variable {α : Type}

/-! ### What is read, without its lines -/

/-- An expression without its lines. -/
def Expr.unplaced : Expr α → Expr α
  | number value _ => .number value 0
  | rain amount days _ => .rain amount days 0
  | series amounts _ => .series amounts 0
  | reference name _ => .reference name 0
  | group inner _ => .group inner.unplaced 0
  | binary operator left right _ => .binary operator left.unplaced right.unplaced 0

/-- What a statement declares, without its lines. -/
def Declaration.unplaced : Declaration α → Declaration α
  | river rain => .river rain.unplaced
  | update rain => .update rain.unplaced
  | flow route => .flow route.unplaced
  | capacity volume => .capacity volume
  | flowOut days => .flowOut days
  | dam volume percent => .dam volume percent

/-- A statement without its lines. -/
def Statement.unplaced (s : Statement α) : Statement α := ⟨s.name, 0, s.declares.unplaced⟩

/-- A program without its lines. -/
def Program.unplaced (p : Program α) : Program α := ⟨p.path, p.statements.map Statement.unplaced⟩

/-- A break of the grammar without its line. -/
def SyntaxError.unplaced (e : SyntaxError) : SyntaxError := { e with line := 0 }

/-- Why a row of tokens is not read to its end, without the line. -/
def ReadingError.unplaced : ReadingError → ReadingError
  | grammar e => .grammar e.unplaced
  | days reason => .days reason

namespace Expr

/-! ### Expressions, token by token -/

/-- What a token does, told of other values. -/
def Move.map {σ τ : Type} (f : σ → τ) : Move σ → Move τ
  | take next => .take (f next)
  | refuse => .refuse
  | noDays reason => .noDays reason

/-- What stands on the left of an operator, without its lines. -/
def Waiting.unplacedLeft (left : Option (Expr α × Int)) : Option (Expr α × Int) :=
  left.map fun (e, _) => (e.unplaced, 0)

/-- Waiting operators without their lines. -/
def Waiting.unplaced (w : Waiting α) : Waiting α := ⟨unplacedLeft w.arrow, unplacedLeft w.plus⟩

/-- An operand without its lines. -/
def Operand.unplaced : Operand α → Operand α
  | missing => .missing
  | number value _ => .number value 0
  | daysOpen value _ => .daysOpen value 0
  | days value count _ => .days value count 0
  | daysClosed value count _ => .daysClosed value count 0
  | seriesOpen amounts _ => .seriesOpen amounts 0
  | series amounts _ => .series amounts 0
  | seriesClosed amounts _ => .seriesClosed amounts 0
  | complete e => .complete e.unplaced

/-- What has been read of an expression, without its lines. -/
def Reading.unplaced (r : Reading α) : Reading α :=
  ⟨r.operand.unplaced, r.waiting.unplaced, r.outer.map fun (w, _) => (w.unplaced, 0)⟩

/-- Joining two expressions by an operator does not depend on their lines. -/
theorem Waiting.join_unplaced (operator : Operator) (left : Option (Expr α × Int)) (e : Expr α) :
    join operator (unplacedLeft left) e.unplaced = (join operator left e).unplaced := by
  cases left <;> rfl

/-- Ending a sum does not depend on lines. -/
theorem Waiting.sum_unplaced (w : Waiting α) (e : Expr α) :
    w.unplaced.sum e.unplaced = (w.sum e).unplaced :=
  join_unplaced .plus w.plus e

/-- Ending an expression does not depend on lines. -/
theorem Waiting.whole_unplaced (w : Waiting α) (e : Expr α) :
    w.unplaced.whole e.unplaced = (w.whole e).unplaced := by
  rw [whole, sum_unplaced]
  exact join_unplaced .arrow w.arrow (w.sum e)

/-- Whether an operand may end where it stands does not depend on lines. -/
theorem Operand.ending_unplaced (o : Operand α) :
    o.unplaced.ending = o.ending.map Expr.unplaced := by
  cases o <;> rfl

namespace Reading

/-- Whether an expression may end where it stands does not depend on lines, and neither does what
it then is. -/
theorem ending_unplaced (r : Reading α) : r.unplaced.ending = r.ending.map Expr.unplaced := by
  obtain ⟨operand, waiting, outer⟩ := r
  unfold ending
  rw [unplaced, Operand.ending_unplaced]
  cases operand.ending with
  | error missing => rfl
  | ok e =>
    cases outer with
    | nil => exact congrArg Except.ok (Waiting.whole_unplaced waiting e)
    | cons _ _ => rfl

/-- What a token does behind a whole operand does not depend on lines. -/
theorem afterOperand_unplaced (r : Reading α) (e : Expr α) (t : Token α) :
    r.unplaced.afterOperand e.unplaced t.unplaced = (r.afterOperand e t).map unplaced := by
  obtain ⟨operand, waiting, outer⟩ := r
  obtain ⟨kind, lexeme, line⟩ := t
  have hsum := waiting.sum_unplaced e
  have hwhole := waiting.whole_unplaced e
  cases kind with
  | plus =>
    simp only [afterOperand, Token.unplaced, unplaced, hsum, Move.map, Operand.unplaced]
    rfl
  | arrow =>
    simp only [afterOperand, Token.unplaced, unplaced, hwhole, Move.map, Operand.unplaced]
    rfl
  | rightParen =>
    cases outer with
    | nil => rfl
    | cons level outer =>
      simp [afterOperand, Token.unplaced, unplaced, hwhole, Move.map, Operand.unplaced,
        Expr.unplaced]
  | _ => rfl

variable [Amount α]

/-- A token without its line does what it does with its line, and no line is looked at. -/
theorem step_unplaced (r : Reading α) (t : Token α) :
    r.unplaced.step t.unplaced = (r.step t).map unplaced := by
  obtain ⟨operand, waiting, outer⟩ := r
  obtain ⟨kind, lexeme, line⟩ := t
  cases operand with
  | complete e => exact afterOperand_unplaced ⟨.complete e, waiting, outer⟩ e ⟨kind, lexeme, line⟩
  | number value place =>
    have hafter := afterOperand_unplaced ⟨.number value place, waiting, outer⟩
      (.number value place) ⟨kind, lexeme, line⟩
    cases kind with
    | leftParen | mm => rfl
    | _ => exact hafter
  | daysClosed value count place =>
    cases kind with
    | mm =>
      simp only [step, unplaced, Operand.unplaced, Token.unplaced]
      cases Amount.truncate count <;> rfl
    | _ => rfl
  | _ => cases kind <;> rfl

end Reading

end Expr

/-! ### Programs, token by token -/

/-- A heading without its line. -/
def Heading.unplaced (h : Heading) : Heading := { h with line := 0 }

namespace Stage

/-- What has been read of a statement, without its lines. -/
def unplaced : Stage α → Stage α
  | start => start
  | keyword form => keyword form
  | named form h => named form h.unplaced
  | route form h reading => route form h.unplaced reading.unplaced
  | flowOut h => flowOut h.unplaced
  | flowOutDays h days => flowOutDays h.unplaced days
  | capacity h => capacity h.unplaced
  | capacityVolume h volume => capacityVolume h.unplaced volume
  | capacityUnit h volume => capacityUnit h.unplaced volume
  | dam h => dam h.unplaced
  | damCapacity h volume => damCapacity h.unplaced volume
  | damUnit h volume => damUnit h.unplaced volume
  | damRelease h volume => damRelease h.unplaced volume
  | damPercent h volume percent => damPercent h.unplaced volume percent
  | damPercentSign h volume percent => damPercentSign h.unplaced volume percent

/-- What is expected next does not depend on lines. -/
theorem expected_unplaced (s : Stage α) : s.unplaced.expected = s.expected := by
  cases s with
  | route form h reading =>
    simp only [unplaced, expected, Expr.Reading.ending_unplaced]
    cases reading.ending <;> rfl
  | _ => rfl

variable [Amount α]

/-- A token without its line moves the stage on as it does with its line. -/
theorem step_unplaced (s : Stage α) (t : Token α) :
    s.unplaced.step t.unplaced = (s.step t).map fun (next, completed) =>
      (next.unplaced, completed.map Statement.unplaced) := by
  cases s with
  | route form h reading =>
    -- Within a route only a semicolon is looked at by the stage, the rest by the reading.
    by_cases hkind : t.kind = .semicolon
    · simp only [step, unplaced, Token.unplaced, hkind, Expr.Reading.ending_unplaced]
      cases reading.ending with
      | error missing => rfl
      | ok e => cases form <;> rfl
    · have hstep : ∀ (h : Heading) (reading : Expr.Reading α) (t : Token α), t.kind ≠ .semicolon →
          (route form h reading).step t
            = (reading.step t).map fun next => (route form h next, none) := by
        intro h reading t ht
        simp only [step]
        cases reading.step t <;> rfl
      rw [unplaced, hstep _ _ _ hkind, hstep _ _ t.unplaced hkind, Expr.Reading.step_unplaced]
      cases reading.step t <;> rfl
  | named form h =>
    obtain ⟨kind, lexeme, line⟩ := t
    cases kind with
    | equals => cases form <;> rfl
    | _ => rfl
  | _ =>
    obtain ⟨kind, lexeme, line⟩ := t
    cases kind <;> rfl

/-- What is read of a row of tokens, without its lines. -/
def unplacedResult (result : Except ReadingError (List (Statement α))) :
    Except ReadingError (List (Statement α)) :=
  (result.map (·.map Statement.unplaced)).mapError ReadingError.unplaced

/-- If the lines of the tokens are forgotten, nothing but the lines is missing in what is read. -/
theorem readAll_unplaced (endLine : Nat) (s : Stage α) (ts : List (Token α)) :
    readAll 0 s.unplaced (ts.map Token.unplaced) = unplacedResult (readAll endLine s ts) := by
  -- The induction is on the tokens, whatever has been read in front of them.
  induction ts generalizing s with
  | nil =>
    have hexpected : (.error (.grammar ⟨s.unplaced.expected, 0, none⟩)
        : Except ReadingError (List (Statement α)))
          = .error (.grammar ⟨s.expected, 0, none⟩) := by
      rw [expected_unplaced]
    cases s with
    | start => rfl
    | _ => exact hexpected
  | cons t ts ih =>
    have hstep := s.step_unplaced t
    rw [List.map_cons, readAll.eq_def, readAll.eq_def endLine]
    simp only [hstep]
    cases s.step t with
    | take move =>
      obtain ⟨next, completed⟩ := move
      simp only [Expr.Move.map, ih]
      cases readAll endLine next ts with
      | ok statements => cases completed <;> rfl
      | error e => rfl
    | refuse =>
      simp only [Expr.Move.map, expected_unplaced]
      rfl
    | noDays reason => rfl

end Stage

namespace Program

variable [Amount α] {path : String} {ts ts' : List (Token α)}

/-- Tokens that differ in nothing but their lines spell programs that differ in nothing but their
lines, or break the grammar in the same way. -/
theorem unplacedResult_eq (h : ts'.map Token.unplaced = ts.map Token.unplaced)
    (endLine endLine' : Nat) :
    Stage.unplacedResult (Stage.readAll endLine' .start ts')
      = Stage.unplacedResult (Stage.readAll endLine .start ts) := by
  have hread := Stage.readAll_unplaced endLine .start ts
  rw [← h] at hread
  exact (Stage.readAll_unplaced endLine' .start ts').symm.trans hread

/-- Tokens that differ in their places only are read to programs that differ in their lines
only. -/
theorem exists_ok_of_unplaced (h : ts'.map Token.unplaced = ts.map Token.unplaced)
    {endLine : Nat} {p : Program α} (hp : ofTokens path ts endLine = .ok p) (endLine' : Nat) :
    ∃ p', ofTokens path ts' endLine' = .ok p' ∧ p'.unplaced = p.unplaced := by
  have hresult := unplacedResult_eq h endLine endLine'
  obtain ⟨hpath, hread⟩ := ofTokens_eq_ok_iff.mp hp
  rw [hread] at hresult
  cases hread' : Stage.readAll endLine' .start ts' with
  | error e =>
    rw [hread'] at hresult
    cases hresult
  | ok ss =>
    rw [hread'] at hresult
    have hstatements : ss.map Statement.unplaced = p.statements.map Statement.unplaced :=
      Except.ok.inj hresult
    refine ⟨⟨path, ss⟩, ofTokens_eq_ok_iff.mpr ⟨rfl, hread'⟩, ?_⟩
    rw [unplaced, unplaced, hstatements, hpath]

/-- Tokens that differ in their places only break the grammar in the same way, but for the line
that is given. -/
theorem exists_error_of_unplaced (h : ts'.map Token.unplaced = ts.map Token.unplaced)
    {endLine : Nat} {e : ReadingError} (he : ofTokens path ts endLine = .error e)
    (endLine' : Nat) :
    ∃ e', ofTokens path ts' endLine' = .error e' ∧ e'.unplaced = e.unplaced := by
  have hresult := unplacedResult_eq h endLine endLine'
  rw [ofTokens_eq_error_iff.mp he] at hresult
  cases hread' : Stage.readAll endLine' .start ts' with
  | error e' =>
    rw [hread'] at hresult
    exact ⟨e', ofTokens_eq_error_iff.mpr hread', Except.error.inj hresult⟩
  | ok ss =>
    rw [hread'] at hresult
    cases hresult

/-- The layout of a text means nothing. If the characters of its tokens are written with single
spaces between them, all of them are read, and as tokens of the same kinds, numbers included, and
the same characters. Where the text is a program, they are the same program but for the lines.
Where the text breaks the grammar, they break it with the same expectation at the same
characters. -/
theorem layout_means_nothing (path text : String) :
    let again := (Scan.ofText text : Scan Float).respaced
    (Scan.ofText again : Scan Float).faults = [] ∧
      (Scan.ofText again : Scan Float).tokens.map (fun t => (t.kind, t.lexeme))
        = (Scan.ofText text : Scan Float).tokens.map (fun t => (t.kind, t.lexeme)) ∧
      (∀ p, read path text = .ok p → ∃ p', read path again = .ok p' ∧ p'.unplaced = p.unplaced) ∧
      ∀ e, read path text = .error (.grammar e) → ∃ e', read path again = .error (.grammar e') ∧
        e'.expected = e.expected ∧ e'.lexeme = e.lexeme := by
  intro again
  have hfaults : (Scan.ofText again : Scan Float).faults = [] := Scan.faults_ofText_respaced text
  -- The tokens are the same but for their lines, and reading them commutes with forgetting lines.
  have htokens := Scan.tokens_ofText_respaced (α := Float) text
  refine ⟨hfaults, ?_, fun p hp => ?_, fun e he => ?_⟩
  · have hmap := congrArg (List.map fun t : Token Float => (t.kind, t.lexeme)) htokens
    rwa [List.map_map, List.map_map] at hmap
  · obtain ⟨p', hp', heq⟩ := exists_ok_of_unplaced htokens (read_eq_ok_iff.mp hp).2
      (Scan.ofText again : Scan Float).endLine
    exact ⟨p', read_eq_ok_iff.mpr ⟨hfaults, hp'⟩, heq⟩
  · obtain ⟨e', he', heq⟩ := exists_error_of_unplaced htokens (read_eq_grammar_iff.mp he).2
      (Scan.ofText again : Scan Float).endLine
    cases e' with
    | days reason => cases heq
    | grammar e' =>
      obtain ⟨hexpected, -, hlexeme⟩ := SyntaxError.mk.inj (ReadingError.grammar.inj heq)
      exact ⟨e', read_eq_grammar_iff.mpr ⟨hfaults, he'⟩, hexpected, hlexeme⟩

/-- A comment, a tabulator, a stray character and the end of a line are gone, and words that stood
together are apart. -/
example : (Scan.ofText "River a=[1,2.5]mm;# rain\n\t?Flow f =a->b;" : Scan Float).respaced
    = "River a = [ 1 , 2.5 ] mm ; Flow f = a -> b ;" := by decide +kernel

end Program

end Catchment

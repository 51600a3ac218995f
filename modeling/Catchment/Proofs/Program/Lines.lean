import Mathlib.Data.List.Forall2
import Catchment.Problem
import Catchment.Proofs.Expr.Legs
import Catchment.Proofs.Program.Break

/-!
# `Catchment.Proofs.Program.Lines`: the lines of statements and expressions

A statement and each part of an expression records a line. It is not always the line on
which the part starts. An operand, with its parentheses or brackets, has the line of its
first token. Two expressions with an operator between them have the line of the operator,
which may be further down than their first token, and a statement has the line of the
name that it declares, which may be further down than its keyword. Only an update has no
keyword, and therefore the line on which it starts.

* `Expr.Node`: the parts of an expression, each with the tokens that spell it.
* `Expr.Lined`, `Statement.Lined`: the token that a line is taken from.
* `Scan.pairwise_line`: the lines of the tokens never go down.
* `Program.lines_are_those_of_names_and_operators`: the lines of a whole program.
-/

set_option autoImplicit false

namespace Catchment

variable {α : Type}

/-! ### Parts and the tokens that spell them -/

namespace Operator

/-- The token that an operator is written as. -/
def kind : Operator → Token.Kind α
  | plus => .plus
  | arrow => .arrow

/-- The level of the grammar on the left of an operator. -/
def leftLevel : Operator → Expr.Level
  | plus => .sum
  | arrow => .route

/-- The level of the grammar on the right of an operator. -/
def rightLevel : Operator → Expr.Level
  | plus => .operand
  | arrow => .sum

end Operator

namespace Expr

/-- The line that an expression records. -/
def line : Expr α → Int
  | number _ line | rain _ _ line | series _ line | reference _ line | group _ line
  | binary _ _ _ line => line

/-- Whether an expression has an operator outside of all parentheses. -/
def IsBinary : Expr α → Prop
  | binary .. => True
  | number .. | rain .. | series .. | reference .. | group .. => False

variable [Amount α]

/-- Two expressions and an operator between them, with the tokens that spell them. -/
structure Joins (operator : Operator) (left : List (Token α)) (l : Expr α) (t : Token α)
    (right : List (Token α)) (r : Expr α) : Prop where
  left : Derives operator.leftLevel left l
  sign : t.kind = operator.kind
  right : Derives operator.rightLevel right r

/-- The parts of an expression that some tokens spell, each with the tokens among them that spell
it. -/
inductive Node : List (Token α) → Expr α → List (Token α) → Expr α → Prop
  | whole {level : Level} {ts : List (Token α)} {e : Expr α} (h : Derives level ts e) :
      Node ts e ts e
  | inner {opening closing : Token α} {ts ts' : List (Token α)} {e e' : Expr α}
      (h : Derives .operand (opening :: ts ++ [closing]) (.group e opening.line))
      (hinner : Node ts e ts' e') :
      Node (opening :: ts ++ [closing]) (.group e opening.line) ts' e'
  | left {operator : Operator} {left right ts' : List (Token α)} {t : Token α} {l r e' : Expr α}
      (h : Joins operator left l t right r) (hleft : Node left l ts' e') :
      Node (left ++ t :: right) (.binary operator l r t.line) ts' e'
  | right {operator : Operator} {left right ts' : List (Token α)} {t : Token α} {l r e' : Expr α}
      (h : Joins operator left l t right r) (hright : Node right r ts' e') :
      Node (left ++ t :: right) (.binary operator l r t.line) ts' e'

/-- The token that the line of an expression is taken from: the operator, or else the first
token. -/
inductive Lined : List (Token α) → Expr α → Prop
  | first {t : Token α} {ts : List (Token α)} {e : Expr α} (h : ¬ e.IsBinary)
      (hline : e.line = t.line) :
      Lined (t :: ts) e
  | operator {operator : Operator} {left right : List (Token α)} {t : Token α} {l r : Expr α}
      (h : Joins operator left l t right r) :
      Lined (left ++ t :: right) (.binary operator l r t.line)

/-- An expression has the line of its operator, or else of its first token. -/
theorem Derives.lined {level : Level} {ts : List (Token α)} {e : Expr α}
    (h : Derives level ts e) :
    e.Lined ts := by
  induction h with
  | reference | number | rain | rainOver | series | group => exact .first id rfl
  | sum _ ih | route _ ih => exact ih
  | plus hl ht hr => exact .operator ⟨hl, ht, hr⟩
  | arrow hl ht hr => exact .operator ⟨hl, ht, hr⟩

/-- What spells a part spells an expression. -/
theorem Node.exists_derives {ts ts' : List (Token α)} {e e' : Expr α} (h : Node ts e ts' e') :
    ∃ level, Derives level ts' e' := by
  induction h with
  | whole h => exact ⟨_, h⟩
  | inner _ _ ih | left _ _ ih | right _ _ ih => exact ih

/-- Every part of an expression is spelt by some of its tokens. -/
theorem Derives.exists_node {level : Level} {ts : List (Token α)} {e part : Expr α}
    (h : Derives level ts e) (hpart : part ∈ e.parts) : ∃ ts', Node ts e ts' part := by
  -- A part of two expressions with an operator between them is the whole, or a part of one of
  -- them.
  have hbinary :
      ∀ {operator : Operator} {left right : List (Token α)} {t : Token α} {l r : Expr α}
      {level : Level}, Derives level (left ++ t :: right) (.binary operator l r t.line) →
      Joins operator left l t right r → (part ∈ l.parts → ∃ ts', Node left l ts' part) →
      (part ∈ r.parts → ∃ ts', Node right r ts' part) →
      part ∈ (binary operator l r t.line).parts →
      ∃ ts', Node (left ++ t :: right) (.binary operator l r t.line) ts' part := by
    intro operator left right t l r level hwhole hjoins hleft hright hmem
    rcases List.mem_append.mp hmem with hmem | hmem
    · rcases List.mem_append.mp hmem with hmem | hmem
      · obtain ⟨ts', hnode⟩ := hleft hmem
        exact ⟨ts', .left hjoins hnode⟩
      · obtain ⟨ts', hnode⟩ := hright hmem
        exact ⟨ts', .right hjoins hnode⟩
    · obtain rfl := List.mem_singleton.mp hmem
      exact ⟨_, .whole hwhole⟩
  induction h with
  | reference | number | rain | rainOver | series =>
    obtain rfl := List.mem_singleton.mp hpart
    exact ⟨_, .whole (by constructor <;> assumption)⟩
  | group hopening h hclosing ih =>
    have hgroup := Derives.group hopening h hclosing
    rcases List.mem_append.mp hpart with hmem | hmem
    · obtain ⟨ts', hnode⟩ := ih hmem
      exact ⟨ts', .inner hgroup hnode⟩
    · obtain rfl := List.mem_singleton.mp hmem
      exact ⟨_, .whole hgroup⟩
  | sum _ ih | route _ ih => exact ih hpart
  | plus hl ht hr ihl ihr => exact hbinary (.plus hl ht hr) ⟨hl, ht, hr⟩ ihl ihr hpart
  | arrow hl ht hr ihl ihr => exact hbinary (.arrow hl ht hr) ⟨hl, ht, hr⟩ ihl ihr hpart

end Expr

/-! ### Statements -/

/-- Whether a statement has no keyword. -/
def Declaration.IsUpdate : Declaration α → Prop
  | update _ => True
  | river _ | flow _ | capacity _ | flowOut _ | dam _ _ => False

/-- The expression in a statement, if there is one. -/
def Declaration.expression? : Declaration α → Option (Expr α)
  | river e | update e | flow e => some e
  | capacity _ | flowOut _ | dam _ _ => none

/-- Where the lines in a statement are taken from. The statement has the line of the name that it
declares, which is its first token in an update and its second in all others. The parts of its
expression are spelt by tokens behind it, and have the lines of their operators, or else of their
first tokens. -/
structure Statement.Lined [Amount α] (ts : List (Token α)) (s : Statement α) : Prop where
  derives : s.Derives ts
  name : ∃ opening name rest, ts = opening ++ name :: rest ∧ name.kind = .identifier ∧
    s.name = name.lexeme ∧ s.line = name.line ∧ opening.length ≤ 1 ∧
    (opening = [] ↔ s.declares.IsUpdate)
  parts : ∀ e, s.declares.expression? = some e →
    ∃ head body semicolon, ts = head ++ body ++ [semicolon] ∧
      (∀ part ∈ e.parts, ∃ ts', e.Node body ts' part) ∧
      ∀ ts' part, e.Node body ts' part → part.Lined ts'

section
variable [Amount α]

/-- The expression of a declaration is spelt by what stands behind the equals sign. -/
theorem Declaration.Derives.expression {form : Form} {ts : List (Token α)} {d : Declaration α}
    {e : Expr α} (h : d.Derives form ts)
    (he : d.expression? = some e) : Expr.Derives .route ts e := by
  cases h with
  | river h | update h | flow h =>
    cases he
    exact h
  | capacity | flowOut | dam | damRelease => cases he

/-- Only an update has nothing in front of its name. -/
theorem Form.Introduced.eq_nil_iff {form : Form} {opening ts : List (Token α)} {d : Declaration α}
    (h : form.Introduced opening) (hd : d.Derives form ts) :
    opening.length ≤ 1 ∧ (opening = [] ↔ d.IsUpdate) := by
  cases h <;> cases hd <;> simp [Declaration.IsUpdate]

/-- A statement that some tokens spell has its lines from among them. -/
theorem Statement.Derives.lined {ts : List (Token α)} {s : Statement α} (h : s.Derives ts) :
    s.Lined ts := by
  refine ⟨h, ?_, fun e he => ?_⟩
  · cases h with
    | @mk _ _ body _ _ semicolon hhead hbody _ =>
      cases hhead with
      | @mk opening name equals hopening hname _ =>
        exact ⟨opening, name, equals :: body ++ [semicolon], by simp, hname, rfl, rfl,
          hopening.eq_nil_iff hbody⟩
  · cases h with
    | @mk _ head body _ _ semicolon _ hbody _ =>
      have hroute := hbody.expression he
      refine ⟨head, body, semicolon, rfl, fun part hpart => hroute.exists_node hpart, ?_⟩
      intro ts' part hnode
      obtain ⟨level, hpart⟩ := hnode.exists_derives
      exact hpart.lined

/-- The tokens of a program are those of its statements. -/
theorem Program.Derives.exists_rows {ts : List (Token α)} {ss : List (Statement α)}
    (h : Program.Derives ts ss) :
    ∃ rows : List (List (Token α)), rows.flatten = ts ∧
      List.Forall₂ (fun row s => Statement.Lined row s) rows ss := by
  induction h with
  | nil => exact ⟨[], rfl, .nil⟩
  | @cons ts _ _ _ h _ ih =>
    obtain ⟨rows, rfl, hrows⟩ := ih
    exact ⟨ts :: rows, rfl, .cons h.lined hrows⟩

/-! ### The lines of the tokens -/

namespace Scan

/-- No token of some pieces stands above the line on which they begin. -/
theorem le_line_of_mem_ofPieces {line : Nat} {ps : List Piece} {t : Token α}
    (h : t ∈ (ofPieces line ps).tokens) : line ≤ t.line := by
  induction ps generalizing line with
  | nil => cases h
  | cons p ps ih =>
    rcases List.mem_append.mp h with hfirst | hrest
    · rw [Option.mem_toList] at hfirst
      obtain ⟨kind, -, rfl⟩ := Option.map_eq_some_iff.mp hfirst
      exact le_refl line
    · exact (Nat.le_add_right _ _).trans (ih hrest)

/-- The lines of the tokens never go down. -/
theorem pairwise_line (text : String) :
    (ofText text : Scan α).tokens.Pairwise fun t t' => t.line ≤ t'.line := by
  have hpieces : ∀ (ps : List Piece) (line : Nat),
      (ofPieces line ps : Scan α).tokens.Pairwise fun t t' => t.line ≤ t'.line := by
    intro ps
    induction ps with
    | nil => exact fun _ => .nil
    | cons p ps ih =>
      intro line
      refine List.pairwise_append.mpr ⟨?_, ih _, fun t ht t' ht' => ?_⟩
      · cases (tokenKind? p : Option (Token.Kind α)) <;> simp
      · rw [Option.mem_toList] at ht
        obtain ⟨kind, -, rfl⟩ := Option.map_eq_some_iff.mp ht
        exact (Nat.le_add_right _ _).trans (le_line_of_mem_ofPieces ht')
  exact hpieces _ 1

end Scan

end

namespace Program

/-- The tokens of a text that is a program stand in rows, one for each statement, and their lines
never go down. A statement has the line of the name that it declares, and each part of its
expression that of its operator, or else of the first token that spells it. -/
theorem lines_are_those_of_names_and_operators {path text : String} {p : Program Float}
    (h : read path text = .ok p) :
    (Scan.ofText text : Scan Float).tokens.Pairwise (fun t t' => t.line ≤ t'.line) ∧
      ∃ rows : List (List (Token Float)), rows.flatten = (Scan.ofText text : Scan Float).tokens ∧
        List.Forall₂ (fun row s => Statement.Lined row s) rows p.statements := by
  obtain ⟨-, htokens⟩ := read_eq_ok_iff.mp h
  obtain ⟨-, hread⟩ := ofTokens_eq_ok_iff.mp htokens
  exact ⟨Scan.pairwise_line text, ((Stage.readAll_eq_ok_iff _).mp hread).exists_rows⟩

/-- A statement whose keyword, name and operator are on three lines. -/
def spread : String := "River\nr = a\n+ b;"

/-- The sum in that statement, which goes from the second line to the third. -/
def spreadSum : Expr Float := .binary .plus (.reference "a" 2) (.reference "b" 3) 3

/-- The tokens of that sum. -/
def spreadTokens : List (Token Float) :=
  [⟨.identifier, "a", 2⟩, ⟨.plus, "+", 3⟩, ⟨.identifier, "b", 3⟩]

/-- The tokens of the statement on three lines, with the line of each. -/
theorem ofText_spread : (Scan.ofText spread : Scan Float) =
    ⟨[⟨.river, "River", 1⟩, ⟨.identifier, "r", 2⟩, ⟨.equals, "=", 2⟩] ++ spreadTokens ++
      [⟨.semicolon, ";", 3⟩], [], 3⟩ := by
  decide +kernel

/-- What the statement on three lines is read as. -/
theorem read_spread : read "" spread = .ok ⟨"", [⟨"r", 2, .river spreadSum⟩]⟩ := by
  rw [read_eq_ok_iff, ofText_spread]
  exact ⟨rfl, rfl⟩

/-- The statement on three lines: the keyword stands on the first, its name on the second and the
operator on the third. -/
theorem lines_are_those_of_names_and_operators_spread :
    read "" spread = .ok ⟨"", [⟨"r", 2, .river spreadSum⟩]⟩ ∧
      (Scan.ofText spread : Scan Float).tokens.Pairwise (fun t t' => t.line ≤ t'.line) ∧
      ∃ rows : List (List (Token Float)),
        rows.flatten = (Scan.ofText spread : Scan Float).tokens ∧
        List.Forall₂ (fun row s => Statement.Lined row s) rows [⟨"r", 2, .river spreadSum⟩] :=
  ⟨read_spread, lines_are_those_of_names_and_operators read_spread⟩

/-- Neither the statement nor the sum has the line on which it starts. The statement starts with
its keyword on the first line and has the second, and the sum starts on the second line and has
the third. -/
theorem sum_has_not_the_line_it_starts_on :
    let statement : Statement Float := ⟨"r", 2, .river spreadSum⟩
    let tokens := (Scan.ofText spread : Scan Float).tokens
    read "" spread = .ok ⟨"", [statement]⟩ ∧
      (statement.Derives tokens ∧ tokens.head?.map (·.line) = some 1 ∧ statement.line = 2) ∧
      spreadTokens <:+: tokens ∧ Expr.Derives .route spreadTokens spreadSum ∧
      spreadTokens.head?.map (·.line) = some 2 ∧ spreadSum.line = 3 := by
  intro statement tokens
  have htokens : tokens = [⟨.river, "River", 1⟩, ⟨.identifier, "r", 2⟩, ⟨.equals, "=", 2⟩] ++
      spreadTokens ++ [⟨.semicolon, ";", 3⟩] := congrArg Scan.tokens ofText_spread
  have hsum : Expr.Derives .route spreadTokens spreadSum :=
    .route (.plus (.sum (.reference (t := ⟨.identifier, "a", 2⟩) rfl)) (t := ⟨.plus, "+", 3⟩) rfl
      (.reference (t := ⟨.identifier, "b", 3⟩) rfl))
  have hhead : Heading.Derives (α := Float) .river
      ([⟨.river, "River", 1⟩] ++ [⟨.identifier, "r", 2⟩, ⟨.equals, "=", 2⟩]) ⟨"r", 2⟩ :=
    .mk (.river rfl) rfl rfl
  rw [htokens]
  exact ⟨read_spread, ⟨.mk hhead (.river hsum) rfl, rfl, rfl⟩, ⟨_, _, rfl⟩, hsum, rfl, rfl⟩

end Program

end Catchment

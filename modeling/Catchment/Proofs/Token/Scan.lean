import Mathlib.Data.Nat.Digits.Defs
import Catchment.Proofs.Source.Longest
import Catchment.Token.Scan

/-!
# `Catchment.Proofs.Token.Scan`: what a text is read as

A text is split into longest pieces. Its tokens are the pieces that mean something,
and its faults are the pieces that fit no shape, each with the line on which it
stands. What a piece means is told here from what is written in it: by a list of the
known words, a list of the signs, and the value of digits in base ten.

* `Piece.Means`: the kind of token that a piece is.
* `Piece.Fails`: what is said of a piece that fits no shape.
* `Piece.lineBehind`: the line on which a piece stands, from the pieces in front of it.
* `Scan.tokenKind?_eq_some_iff`, `Scan.fault?_eq_some_iff`: the tokens and faults of single
  pieces.
* `Scan.text_is_read_in_longest_pieces`: the tokens and faults of a text.
-/

set_option autoImplicit false

namespace Catchment

namespace Piece

/-- The words that are more than names, with what they are. -/
def vocabulary {α : Type} : List (String × Token.Kind α) :=
  [("River", .river), ("Flow", .flow), ("Capacity", .capacity), ("FlowOut", .flowOut),
    ("Dam", .dam), ("release", .release), ("mm", .mm), ("ML", .ml)]

/-- The single characters, with what they are. -/
def signs {α : Type} : List (Char × Token.Kind α) :=
  [('(', .leftParen), (')', .rightParen), ('[', .leftBracket), (']', .rightBracket),
    (',', .comma), ('+', .plus), (';', .semicolon), ('=', .equals), ('%', .percent)]

/-- The number that some digits are in base ten. -/
def valueOf (digits : List Char) : Nat :=
  Nat.ofDigits 10 (digits.reverse.map fun c => c.toNat - '0'.toNat)

/-- What kind of token a piece is. Blanks, comments and strays are none. -/
inductive Means {α : Type} [Amount α] : Piece → Token.Kind α → Prop
  | marker {text : List Char} (h : text.getLast? = some '%') : Means ⟨.word, text⟩ .percent
  | known {word : String} {kind : Token.Kind α} (h : (word, kind) ∈ vocabulary) :
      Means ⟨.word, word.toList⟩ kind
  | name {text : List Char} (hmarker : text.getLast? ≠ some '%')
      (h : ∀ entry ∈ vocabulary (α := α), entry.1.toList ≠ text) : Means ⟨.word, text⟩ .identifier
  | whole {digits : List Char} (h : ∀ c ∈ digits, Shape.IsDigit c) :
      Means ⟨.number, digits⟩ (.number (Amount.ofDecimal ⟨valueOf digits, 0⟩))
  | decimal {whole part : List Char} (hwhole : ∀ c ∈ whole, Shape.IsDigit c)
      (hpart : ∀ c ∈ part, Shape.IsDigit c) :
      Means ⟨.number, whole ++ '.' :: part⟩
        (.number (Amount.ofDecimal ⟨valueOf (whole ++ part), part.length⟩))
  | arrow : Means ⟨.arrow, ['-', '>']⟩ .arrow
  | sign {c : Char} {kind : Token.Kind α} (h : (c, kind) ∈ signs) : Means ⟨.sign, [c]⟩ kind

/-- What is said of a piece that fits no shape. -/
inductive Fails : Piece → String → Prop
  | brokenArrow : Fails ⟨.stray, ['-']⟩ "Expected '>' after '-'."
  | unexpected {c : Char} (h : c ≠ '-') :
      Fails ⟨.stray, [c]⟩ ("Unexpected character: " ++ c.toString)

/-- The line on which a piece stands, from the pieces in front of it. -/
def lineBehind (before : List Piece) : Nat := 1 + (before.flatMap (·.text)).count '\n'

end Piece

/-! ### Words, numbers and signs -/

namespace Token.Kind

variable {α : Type}

/-- A word is what the list of known words says, or a name. -/
theorem means_ofWord [Amount α] (text : List Char) :
    Piece.Means ⟨.word, text⟩ (ofWord text : Kind α) := by
  have known : ∀ {word : String} {kind : Kind α}, String.ofList text = word →
      (word, kind) ∈ Piece.vocabulary → Piece.Means ⟨.word, text⟩ kind := by
    intro word kind hword hmem
    have htext : text = word.toList := by rw [← hword, String.toList_ofList]
    rw [htext]
    exact .known hmem
  unfold ofWord
  split
  · rename_i hmarker
    exact .marker hmarker
  · rename_i hmarker
    split
    case h_9 =>
      have hname :
          ∀ entry ∈ (Piece.vocabulary : List (String × Kind α)), entry.1.toList ≠ text := by
        rintro ⟨word, kind⟩ hmem rfl
        simp_all [Piece.vocabulary, String.ofList_toList]
      exact .name hmarker hname
    all_goals
      rename_i hword
      exact known hword (by simp [Piece.vocabulary])

/-- Nothing but the list of known words, and what is no name, says what a word is. -/
theorem eq_ofWord_of_means [Amount α] {text : List Char} {kind : Kind α}
    (h : Piece.Means ⟨.word, text⟩ kind) : ofWord text = kind := by
  cases h with
  | marker hmarker => exact if_pos hmarker
  | known hmem =>
    simp only [Piece.vocabulary, List.mem_cons, Prod.mk.injEq, List.not_mem_nil, or_false] at hmem
    rcases hmem with ⟨rfl, rfl⟩ | ⟨rfl, rfl⟩ | ⟨rfl, rfl⟩ | ⟨rfl, rfl⟩ | ⟨rfl, rfl⟩ | ⟨rfl, rfl⟩ |
      ⟨rfl, rfl⟩ | ⟨rfl, rfl⟩ <;> rfl
  | name hmarker hname =>
    generalize hkind : (ofWord text : Kind α) = kind
    cases (hkind ▸ means_ofWord text : Piece.Means ⟨.word, text⟩ kind) with
    | marker hmarker' => exact absurd hmarker' hmarker
    | known hmem => exact absurd rfl (hname _ hmem)
    | name _ _ => rfl

/-- The list of signs says what a single character is. -/
theorem ofSign?_eq_some_iff {c : Char} {kind : Kind α} :
    ofSign? c = some kind ↔ (c, kind) ∈ Piece.signs := by
  constructor
  · intro h
    unfold ofSign? at h
    split at h
    case h_10 => cases h
    all_goals
      cases h
      simp [Piece.signs]
  · intro h
    simp only [Piece.signs, List.mem_cons, Prod.mk.injEq, List.not_mem_nil, or_false] at h
    rcases h with ⟨rfl, rfl⟩ | ⟨rfl, rfl⟩ | ⟨rfl, rfl⟩ | ⟨rfl, rfl⟩ | ⟨rfl, rfl⟩ | ⟨rfl, rfl⟩ |
      ⟨rfl, rfl⟩ | ⟨rfl, rfl⟩ | ⟨rfl, rfl⟩ <;> rfl

end Token.Kind

namespace Decimal

/-- The value of some digits is the number that they are in base ten. -/
theorem digitsValue_eq (cs : List Char) : digitsValue cs = Piece.valueOf cs := by
  rw [digitsValue, Piece.valueOf, Nat.ofDigits_eq_foldr, List.foldr_map, List.foldr_reverse]
  refine congrArg (fun f => cs.foldl f 0) ?_
  funext n c
  exact Nat.add_comm _ _

/-- Digits without a point are a whole number. -/
theorem ofDigits_whole {digits : List Char} (h : ∀ c ∈ digits, Shape.IsDigit c) :
    ofDigits digits = ⟨Piece.valueOf digits, 0⟩ := by
  have hall : ∀ c ∈ digits, c.isDigit = true := fun c hc => Shape.isDigit_iff.mpr (h c hc)
  rw [ofDigits, List.takeWhile_eq_self_iff.mpr hall, List.dropWhile_eq_nil_iff.mpr hall]
  simp [digitsValue_eq]

/-- Digits with a point are the number of all digits, with as many places as there are digits
behind it. -/
theorem ofDigits_decimal {whole part : List Char} (h : ∀ c ∈ whole, Shape.IsDigit c) :
    ofDigits (whole ++ '.' :: part) = ⟨Piece.valueOf (whole ++ part), part.length⟩ := by
  have hall : ∀ c ∈ whole, c.isDigit = true := fun c hc => Shape.isDigit_iff.mpr (h c hc)
  rw [ofDigits, List.takeWhile_append_of_pos hall, List.dropWhile_append_of_pos hall]
  simp [digitsValue_eq]

end Decimal

/-! ### Tokens and faults -/

namespace Piece

/-- The shape of a longest piece is that of its text, or it is a stray of one character. -/
theorem Splits.mem {cs : List Char} {ps : List Piece} (h : Splits cs ps) {p : Piece}
    (hp : p ∈ ps) : p.shape.Fits p.text ∨ ∃ c, p = ⟨.stray, [c]⟩ := by
  induction h with
  | nil => cases hp
  | cons hleads _ ih =>
    rcases List.mem_cons.mp hp with rfl | hp
    · cases hleads with
      | fits hfits _ => exact Or.inl hfits
      | stray _ => exact Or.inr ⟨_, rfl⟩
    · exact ih hp

end Piece

namespace Scan

variable {α : Type} [Amount α]

/-- The token that a piece is, if it is one, is of the kind that the piece means. -/
theorem tokenKind?_eq_some_iff {p : Piece} (hp : p.shape.Fits p.text ∨ ∃ c, p = ⟨.stray, [c]⟩)
    {kind : Token.Kind α} : tokenKind? p = some kind ↔ p.Means kind := by
  obtain ⟨shape, text⟩ := p
  constructor
  · intro h
    -- That a piece fits its shape says what its number is written with: digits, and perhaps a
    -- point with more of them behind it.
    rcases hp with ⟨c, cs, rfl, hopens, hcontinues⟩ | ⟨c, hstray⟩
    · cases shape with
      | word =>
        cases h
        exact Token.Kind.means_ofWord _
      | number =>
        cases h
        obtain ⟨whole, hwhole, rfl | ⟨d, part, hpart, rfl⟩⟩ := hcontinues
        · have hall : ∀ c' ∈ c :: cs, Shape.IsDigit c' :=
            List.forall_mem_cons.mpr ⟨hopens, hwhole⟩
          rw [Decimal.ofDigits_whole hall]
          exact .whole hall
        · have hall : ∀ c' ∈ c :: whole, Shape.IsDigit c' :=
            List.forall_mem_cons.mpr ⟨hopens, hwhole⟩
          rw [← List.cons_append, Decimal.ofDigits_decimal hall]
          exact .decimal hall hpart
      | arrow =>
        cases h
        cases hopens
        cases hcontinues
        exact .arrow
      | sign =>
        cases hcontinues
        exact .sign (Token.Kind.ofSign?_eq_some_iff.mp h)
      | blank | comment | stray => cases h
    · cases hstray
      cases h
  · intro h
    cases h with
    | marker hmarker => exact congrArg some (Token.Kind.eq_ofWord_of_means (.marker hmarker))
    | known hmem => exact congrArg some (Token.Kind.eq_ofWord_of_means (.known hmem))
    | name hmarker hname =>
        exact congrArg some (Token.Kind.eq_ofWord_of_means (.name hmarker hname))
    | whole hall =>
      show some (Token.Kind.number (Amount.ofDecimal (Decimal.ofDigits text))) = _
      rw [Decimal.ofDigits_whole hall]
    | @decimal whole part hwhole hpart =>
      show some (Token.Kind.number (Amount.ofDecimal (Decimal.ofDigits (whole ++ '.' :: part))))
        = _
      rw [Decimal.ofDigits_decimal hwhole]
    | arrow => rfl
    | sign hmem => exact Token.Kind.ofSign?_eq_some_iff.mpr hmem

/-- What is said of a piece, if it is a fault, is what is said of a piece that fits no shape. -/
theorem fault?_eq_some_iff {p : Piece} (hp : p.shape.Fits p.text ∨ ∃ c, p = ⟨.stray, [c]⟩)
    {message : String} :
    (fault? p).map StrayCharacter.message = some message ↔ p.Fails message := by
  constructor
  · intro h
    rcases hp with ⟨c, cs, -, hopens, -⟩ | ⟨c, rfl⟩
    · obtain ⟨shape, text⟩ := p
      cases shape with
      | stray => cases hopens
      | blank | comment | word | number | arrow | sign => cases h
    · by_cases hc : c = '-'
      · subst hc
        cases h
        exact .brokenArrow
      · have hof : StrayCharacter.ofChar c = .unexpected c := if_neg hc
        rw [fault?, List.head?_cons, Option.map_some, Option.map_some, hof] at h
        cases h
        exact .unexpected hc
  · intro h
    cases h with
    | brokenArrow => rfl
    | @unexpected c hc =>
      have hof : StrayCharacter.ofChar c = .unexpected c := if_neg hc
      rw [fault?, List.head?_cons, Option.map_some, Option.map_some, hof]
      rfl

/-- The tokens and faults of pieces, with the line of each counted from those in front of it. -/
theorem ofPieces_eq (line : Nat) (ps : List Piece) :
    (ofPieces line ps : Scan α) =
      { tokens := ps.zipIdx.filterMap fun (p, i) => (tokenKind? p).map fun kind =>
          ⟨kind, String.ofList p.text, line + ((ps.take i).flatMap (·.text)).count '\n'⟩
        faults := ps.zipIdx.filterMap fun (p, i) => (fault? p).map fun fault =>
          (line + ((ps.take i).flatMap (·.text)).count '\n', fault)
        endLine := line + (ps.flatMap (·.text)).count '\n' } := by
  induction ps generalizing line with
  | nil => rfl
  | cons p ps ih =>
    -- The pieces behind the first have it in front of them, and it counts for their lines.
    have hline : ∀ before : List Piece,
        line + p.lineEnds + (before.flatMap (·.text)).count '\n'
          = line + ((p :: before).flatMap (·.text)).count '\n' := by
      intro before
      rw [List.flatMap_cons, List.count_append, Piece.lineEnds, Nat.add_assoc]
    have hfirst : ∀ {β : Type} (f : Piece × Nat → Option β),
        (p :: ps).zipIdx.filterMap f
          = (f (p, 0)).toList ++ ps.zipIdx.filterMap fun (q, i) => f (q, i + 1) := by
      intro β f
      rw [List.zipIdx_cons, Nat.zero_add, List.zipIdx_succ, List.filterMap_cons,
        List.filterMap_map]
      cases f (p, 0) <;> rfl
    rw [ofPieces, ih, hfirst, hfirst]
    simp only [hline, List.take_succ_cons, List.take_zero, List.flatMap_nil, List.count_nil,
      Nat.add_zero]

/-- A text can be split in one way only into pieces each of which is the longest that fits at its
place. The tokens of the text are the pieces that mean something, and the faults are the pieces
that fit no shape, in order and with their lines. The text ends on the line after all its line
ends. -/
theorem text_is_read_in_longest_pieces (text : String) :
    ∃ ps : List Piece, (Piece.Splits text.toList ps ∧
        ∀ qs, Piece.Splits text.toList qs → qs = ps) ∧
      (∀ p ∈ ps, p.text ≠ [] ∧ (∀ kind : Token.Kind α, tokenKind? p = some kind ↔ p.Means kind) ∧
        ∀ message, (fault? p).map StrayCharacter.message = some message ↔ p.Fails message) ∧
      (ofText text : Scan α).tokens = ps.zipIdx.filterMap (fun (p, i) =>
        (tokenKind? p).map fun kind =>
          ⟨kind, String.ofList p.text, Piece.lineBehind (ps.take i)⟩) ∧
      (ofText text : Scan α).faults.map (fun (line, fault) => (line, fault.message))
        = ps.zipIdx.filterMap (fun (p, i) =>
          ((fault? p).map StrayCharacter.message).map fun message =>
            (Piece.lineBehind (ps.take i), message)) ∧
      (ofText text : Scan α).endLine = 1 + text.toList.count '\n' := by
  have hsplits : Piece.Splits text.toList (Piece.split text.toList) := Piece.splits_split _
  have htext : (Piece.split text.toList).flatMap (·.text) = text.toList := by
    rw [List.flatMap_def]
    exact Piece.split_flatten _
  -- The tokens are read off the pieces of this split, and there is no other.
  refine ⟨Piece.split text.toList, ⟨hsplits, fun qs hqs => Piece.splits_iff.mp hqs⟩,
    fun p hp => ⟨Piece.split_ne_nil _ p hp, fun kind => ?_, fun message => ?_⟩, ?_, ?_, ?_⟩
  · exact tokenKind?_eq_some_iff (hsplits.mem hp)
  · exact fault?_eq_some_iff (hsplits.mem hp)
  · rw [ofText, ofPieces_eq]
    rfl
  · rw [ofText, ofPieces_eq, List.map_filterMap]
    simp only [Option.map_map]
    rfl
  · rw [ofText, ofPieces_eq, htext]

end Scan

end Catchment

import Catchment.Proofs.Token.Cleared

/-!
# `Catchment.Proofs.Token.Respaced`: the tokens of a text with single spaces between them

What stands between the tokens of a text does not count. If the characters of its
tokens are written down again with one space behind each but the last, the tokens
come out as they were. A token can neither take in the space behind it, because no
word, number, arrow or sign has a space in it, nor end earlier than it did, because
it is written in one shape from its first character to its last.

* `Scan.respaced`: the tokens of a text, written with single spaces.
* `Piece.leads_of_space`: a piece that a space follows is the longest at its place.
* `Piece.splits_intersperse`: how pieces with spaces between them are split.
* `Scan.faults_ofText_respaced`, `Scan.tokens_ofText_respaced`: what is read of the tokens.
-/

set_option autoImplicit false

namespace Catchment

/-- A token without its line. -/
def Token.unplaced {α : Type} (t : Token α) : Token α := { t with line := 0 }

/-- The tokens of a text, written with single spaces between them. -/
def Scan.respaced {α : Type} (scan : Scan α) : String :=
  " ".intercalate (scan.tokens.map (·.lexeme))

/-! ### Pieces with spaces between them -/

namespace Piece

/-- A space. -/
def space : Piece := ⟨.blank, [' ']⟩

/-- What has no space in it ends in front of the first space. -/
theorem length_le_of_space {t text rest : List Char} (h : t <+: text ++ rest) (hspace : ' ' ∉ t)
    (hrest : ∀ c ∈ rest.head?, c = ' ') : t.length ≤ text.length := by
  rcases List.prefix_or_prefix_of_prefix h (List.prefix_append text rest) with h | ⟨more, rfl⟩
  · exact h.length_le
  · cases more with
    | nil => simp
    | cons c more =>
      obtain ⟨tail, rfl⟩ := (List.prefix_append_right_inj text).mp h
      obtain rfl := hrest c rfl
      exact absurd (by simp) hspace

/-- A piece that is no blank and no comment is the longest at its place if a space follows, or
nothing. -/
theorem leads_of_space {shape : Shape} {text rest : List Char} (h : shape.Fits text)
    (hblank : shape ≠ .blank) (hcomment : shape ≠ .comment) (hrest : ∀ c ∈ rest.head?, c = ' ') :
    Leads rest ⟨shape, text⟩ := by
  refine .fits h fun shape' text' hfits hpre => ?_
  -- What opens with the same character is of the same shape, so it has no space in it either.
  obtain ⟨c, cs, rfl, hopens, -⟩ := id h
  obtain ⟨c', cs', rfl, hopens', -⟩ := id hfits
  obtain rfl := (List.cons_prefix_cons.mp hpre).1
  obtain rfl := hopens'.unique hopens
  exact length_le_of_space hpre (space_not_mem_of_fits hfits hblank hcomment) hrest

/-- Pieces that are no blanks and no comments are split again into themselves and the spaces
between them. -/
theorem splits_intersperse {ps : List Piece}
    (h : ∀ p ∈ ps, p.shape.Fits p.text ∧ p.shape ≠ .blank ∧ p.shape ≠ .comment) :
    Splits ([' '].intercalate (ps.map (·.text))) (ps.intersperse space) := by
  induction ps with
  | nil => exact .nil
  | cons p ps ih =>
    obtain ⟨hfits, hblank, hcomment⟩ := h p List.mem_cons_self
    have hrest := ih fun q hq => h q (List.mem_cons_of_mem p hq)
    cases ps with
    | nil =>
      have hlast : Leads [] p := leads_of_space hfits hblank hcomment nofun
      have hsplits := Splits.cons hlast .nil
      rw [List.append_nil] at hsplits
      rwa [List.map_cons, List.map_nil, List.intercalate_singleton]
    | cons q ps =>
      have hspaced : Leads (' ' :: [' '].intercalate ((q :: ps).map (·.text))) p := by
        refine leads_of_space hfits hblank hcomment ?_
        rintro _ ⟨⟩
        rfl
      rw [List.map_cons, List.map_cons, List.intercalate_cons_cons, List.append_assoc]
      exact .cons hspaced (.cons (leads_space _) hrest)

end Piece

/-! ### Tokens without their lines -/

namespace Scan

variable {α : Type} [Amount α]

/-- The token that a piece is, if it is one, without its line. -/
def unplacedToken? (p : Piece) : Option (Token α) :=
  (tokenKind? p).map fun kind => ⟨kind, String.ofList p.text, 0⟩

/-- The tokens of some pieces, apart from their places, are told piece by piece. -/
theorem tokens_ofPieces (line : Nat) (ps : List Piece) :
    (ofPieces line ps : Scan α).tokens.map Token.unplaced = ps.filterMap unplacedToken? := by
  induction ps generalizing line with
  | nil => rfl
  | cons p ps ih =>
    rw [ofPieces, List.map_append, ih, List.filterMap_cons, unplacedToken?]
    cases (tokenKind? p : Option (Token.Kind α)) <;> rfl

/-- The faults of some pieces, apart from their lines, are told piece by piece. -/
theorem faults_ofPieces (line : Nat) (ps : List Piece) :
    (ofPieces line ps : Scan α).faults.map (·.2) = ps.filterMap fault? := by
  induction ps generalizing line with
  | nil => rfl
  | cons p ps ih =>
    rw [ofPieces, List.map_append, ih, List.filterMap_cons]
    cases fault? p <;> rfl

/-- Nothing is said of the spaces between some pieces. -/
theorem filterMap_intersperse {β : Type} {f : Piece → Option β} (h : f Piece.space = none)
    (ps : List Piece) : (ps.intersperse Piece.space).filterMap f = ps.filterMap f := by
  induction ps with
  | nil => rfl
  | cons p ps ih =>
    cases ps with
    | nil => rfl
    | cons q ps =>
      rw [List.intersperse_cons_cons, List.filterMap_cons, List.filterMap_cons_none h, ih]
      exact List.filterMap_cons.symm

/-- The pieces of a text that are tokens. -/
def words (text : String) : List Piece :=
  (Piece.split text.toList).filter fun p => (tokenKind? p : Option (Token.Kind α)).isSome

/-- The words of a text have the tokens of the text, apart from their places. -/
theorem filterMap_words (text : String) :
    (words (α := α) text).filterMap (unplacedToken? (α := α))
      = (Piece.split text.toList).filterMap unplacedToken? := by
  rw [words, List.filterMap_filter]
  refine List.filterMap_congr fun p _ => ?_
  unfold unplacedToken?
  cases (tokenKind? p : Option (Token.Kind α)) <;> rfl

/-- A piece that is a token is a word, a number, an arrow or a sign. -/
theorem fits_of_mem_words {text : String} {p : Piece} (h : p ∈ words (α := α) text) :
    p.shape.Fits p.text ∧ p.shape ≠ .blank ∧ p.shape ≠ .comment := by
  obtain ⟨hmem, htoken⟩ := List.mem_filter.mp h
  have hshape : ∀ {shape : Shape}, p.shape = shape →
      (shape = .blank ∨ shape = .comment ∨ shape = .stray) → False := by
    rintro _ rfl (hshape | hshape | hshape) <;> simp [tokenKind?, hshape] at htoken
  refine ⟨?_, fun h => hshape h (by simp), fun h => hshape h (by simp)⟩
  rcases (Piece.splits_split _).mem hmem with hfits | ⟨c, rfl⟩
  · exact hfits
  · exact (hshape rfl (by simp)).elim

/-- A respaced text is made of the words with one space between each two. -/
theorem toList_respaced (text : String) :
    (ofText text : Scan α).respaced.toList
      = [' '].intercalate ((words (α := α) text).map (·.text)) := by
  have hlexemes : (ofText text : Scan α).tokens.map (·.lexeme.toList)
      = ((ofText text : Scan α).tokens.map Token.unplaced).map (·.lexeme.toList) := by
    rw [List.map_map]
    rfl
  have htexts : ∀ {ps : List Piece}, (∀ p ∈ ps, (tokenKind? p : Option (Token.Kind α)).isSome) →
      (ps.filterMap (unplacedToken? (α := α))).map (·.lexeme.toList) = ps.map (·.text) := by
    intro ps hps
    rw [List.map_filterMap, ← List.filterMap_eq_map]
    refine List.filterMap_congr fun p hp => ?_
    obtain ⟨kind, hkind⟩ := Option.isSome_iff_exists.mp (hps p hp)
    simp [unplacedToken?, hkind]
  rw [respaced, String.toList_intercalate, List.map_map]
  show [' '].intercalate ((ofText text : Scan α).tokens.map (·.lexeme.toList)) = _
  rw [hlexemes, ofText, tokens_ofPieces, ← filterMap_words, htexts]
  exact fun p hp => (List.mem_filter.mp hp).2

/-- The tokens of a text with single spaces between them are split into themselves and the
spaces. -/
theorem split_respaced (text : String) :
    Piece.split (ofText text : Scan α).respaced.toList
      = (words (α := α) text).intersperse Piece.space := by
  rw [toList_respaced]
  exact (Piece.splits_iff.mp (Piece.splits_intersperse fun p hp => fits_of_mem_words hp)).symm

/-- Tokens with single spaces between them are all read. -/
theorem faults_ofText_respaced (text : String) :
    (ofText (ofText text : Scan α).respaced : Scan α).faults = [] := by
  have hfault : ∀ p ∈ words (α := α) text, fault? p = none := by
    intro p hp
    obtain ⟨hfits, -, -⟩ := fits_of_mem_words hp
    obtain ⟨c, cs, -, hopens, -⟩ := hfits
    unfold fault?
    cases hshape : p.shape with
    | stray => exact (hshape ▸ hopens : Shape.stray.Opens c).elim
    | _ => rfl
  have hnone : (ofText (ofText text : Scan α).respaced : Scan α).faults.map (·.2) = [] := by
    rw [ofText, split_respaced, faults_ofPieces, filterMap_intersperse rfl,
      List.filterMap_eq_nil_iff]
    exact hfault
  exact List.map_eq_nil_iff.mp hnone

/-- Tokens with single spaces between them are read as the tokens that they are. -/
theorem tokens_ofText_respaced (text : String) :
    (ofText (ofText text : Scan α).respaced : Scan α).tokens.map Token.unplaced
      = (ofText text : Scan α).tokens.map Token.unplaced := by
  have hspace : (unplacedToken? Piece.space : Option (Token α)) = none := rfl
  rw [ofText, split_respaced, tokens_ofPieces, filterMap_intersperse hspace, filterMap_words,
    ofText, tokens_ofPieces]

end Scan

end Catchment

import Mathlib.Data.List.Forall2
import Catchment.Proofs.Token.Scan

/-!
# `Catchment.Proofs.Token.Cleared`: a text with its faults blanked out

A character that is not read does no more than a blank. If every such character of a
text is replaced by a space, the pieces stay where they were, the tokens and their
lines are the same, and no fault is left. The pieces around a replaced character do
not grow together, because no piece but a blank or a comment has a space in it, and a
comment goes on to the end of its line in any case.

* `Piece.cleared`, `Scan.cleared`: a piece and a text with spaces in place of strays.
* `Piece.Leads.cleared`: a longest piece stays the longest where spaces come in behind it.
* `Piece.split_cleared`: the pieces of a cleared text.
* `Scan.ofText_cleared`: the tokens of a cleared text.
-/

set_option autoImplicit false

namespace Catchment

namespace Piece

/-- A piece with a space in place of a stray. -/
def cleared (p : Piece) : Piece := if p.shape = .stray then ⟨.blank, [' ']⟩ else p

/-- What a character may be in a cleared text: what it was, or a space unless it ended a line. -/
def Cleared (c d : Char) : Prop := d = c ∨ (d = ' ' ∧ c ≠ '\n')

/-- A text may be left as it is. -/
theorem forall₂_cleared_self (cs : List Char) : List.Forall₂ Cleared cs cs :=
  List.forall₂_same.mpr fun _ _ => Or.inl rfl

/-- The end of a line is never replaced. -/
theorem newline_of_cleared {c : Char} (h : Cleared '\n' c) : c = '\n' := by
  rcases h with h | ⟨-, h⟩
  · exact h
  · exact absurd rfl h

/-- What has no space in it was there before a text was cleared. -/
theorem prefix_of_cleared {t xs ys : List Char} (h : List.Forall₂ Cleared xs ys) (ht : t <+: ys)
    (hspace : ' ' ∉ t) : t <+: xs := by
  induction t generalizing xs ys with
  | nil => exact List.nil_prefix
  | cons c t ih =>
    obtain ⟨hc, ht'⟩ := not_or.mp (List.mem_cons.not.mp hspace)
    cases h with
    | nil => exact absurd (List.prefix_nil.mp ht) (List.cons_ne_nil c t)
    | cons hchar hrest =>
      obtain ⟨rfl, htail⟩ := List.cons_prefix_cons.mp ht
      rcases hchar with rfl | ⟨rfl, -⟩
      · exact List.cons_prefix_cons.mpr ⟨rfl, ih hrest htail ht'⟩
      · exact absurd rfl hc

/-- No piece but a blank or a comment has a space in it. -/
theorem space_not_mem_of_fits {shape : Shape} {text : List Char} (h : shape.Fits text)
    (hblank : shape ≠ .blank) (hcomment : shape ≠ .comment) : ' ' ∉ text := by
  obtain ⟨c, cs, rfl, hopens, hcontinues⟩ := h
  rw [List.mem_cons, not_or]
  -- A space opens a blank and nothing else, and continues nothing but a comment.
  constructor
  · rintro rfl
    exact hblank (hopens.unique (show Shape.blank.Opens ' ' from List.mem_cons_self))
  · intro hmem
    cases shape with
    | blank => exact hblank rfl
    | comment => exact hcomment rfl
    | word =>
      obtain ⟨letters, hall, rfl | rfl⟩ := hcontinues
      · exact absurd (hall _ hmem) (by decide)
      · rcases List.mem_append.mp hmem with hmem | hmem
        · exact absurd (hall _ hmem) (by decide)
        · exact absurd (List.mem_singleton.mp hmem) (by decide)
    | number =>
      obtain ⟨whole, hwhole, rfl | ⟨d, part, hpart, rfl⟩⟩ := hcontinues
      · exact absurd (hwhole _ hmem) (by decide)
      · rcases List.mem_append.mp hmem with hmem | hmem
        · exact absurd (hwhole _ hmem) (by decide)
        · rcases List.mem_cons.mp hmem with hmem | hmem
          · exact absurd hmem (by decide)
          · exact absurd (hpart _ hmem) (by decide)
    | arrow =>
      have hcs : cs = ['>'] := hcontinues
      rw [hcs] at hmem
      exact absurd hmem (by decide)
    | sign =>
      have hcs : cs = [] := hcontinues
      rw [hcs] at hmem
      exact List.not_mem_nil hmem
    | stray => exact hcontinues

/-- A blank is a single character. -/
theorem length_of_fits_blank {text : List Char} (h : Shape.blank.Fits text) :
    text.length = 1 := by
  obtain ⟨c, cs, rfl, -, hcontinues⟩ := h
  have hcs : cs = [] := hcontinues
  rw [hcs]
  rfl

/-- A space is the longest piece wherever it stands. -/
theorem leads_space (rest : List Char) : Leads rest ⟨.blank, [' ']⟩ := by
  refine .fits ⟨' ', [], rfl, List.mem_cons_self, rfl⟩ fun shape text hfits hpre => ?_
  obtain ⟨c, cs, rfl, hopens, -⟩ := id hfits
  obtain rfl := (List.cons_prefix_cons.mp hpre).1
  obtain rfl := hopens.unique (show Shape.blank.Opens ' ' from List.mem_cons_self)
  exact le_of_eq (length_of_fits_blank hfits)

/-- A stray is a single character that ends no line. -/
theorem Leads.eq_of_stray {rest : List Char} {p : Piece} (h : Leads rest p)
    (hstray : p.shape = .stray) : ∃ c, p = ⟨.stray, [c]⟩ ∧ c ≠ '\n' := by
  cases h with
  | fits hfits _ =>
    obtain ⟨c, cs, -, hopens, -⟩ := hfits
    exact (show Shape.stray.Opens c from hstray ▸ hopens).elim
  | @stray c hnone =>
    refine ⟨c, rfl, ?_⟩
    rintro rfl
    have hfits : Shape.blank.Fits ['\n'] := ⟨'\n', [], rfl, by simp [Shape.Opens], rfl⟩
    exact hnone _ _ hfits (List.cons_prefix_cons.mpr ⟨rfl, List.nil_prefix⟩)

/-- A longest comment ends where its line does. -/
theorem newline_of_longest_comment {text tail : List Char} {e : Char}
    (hfits : Shape.comment.Fits text)
    (hlongest : ∀ shape' text', Shape.Fits shape' text' → text' <+: text ++ e :: tail →
      text'.length ≤ text.length) : e = '\n' := by
  by_contra hline
  obtain ⟨c, cs, rfl, hopens, hcontinues⟩ := hfits
  have hnot : '\n' ∉ cs := hcontinues
  have hlonger : Shape.comment.Fits (c :: (cs ++ [e])) := by
    refine ⟨c, cs ++ [e], rfl, hopens, ?_⟩
    show '\n' ∉ cs ++ [e]
    rw [List.mem_append, List.mem_singleton, not_or]
    exact ⟨hnot, Ne.symm hline⟩
  have hle := hlongest _ _ hlonger ⟨tail, by simp⟩
  simp at hle

/-- A comment does not go on behind the end of its line. -/
theorem length_le_of_newline {t text rest : List Char} (ht : Shape.comment.Fits t)
    (htext : text ≠ []) (hpre : t <+: text ++ rest)
    (hline : ∀ d tail, rest = d :: tail → d = '\n') : t.length ≤ text.length := by
  rcases List.prefix_or_prefix_of_prefix hpre (List.prefix_append text rest) with h | ⟨more, rfl⟩
  · exact h.length_le
  · cases more with
    | nil => simp
    | cons d more =>
      obtain ⟨c, cs, heq, -, hcontinues⟩ := ht
      obtain ⟨tail, rfl⟩ := (List.prefix_append_right_inj text).mp hpre
      obtain rfl := hline d _ rfl
      obtain ⟨c', cs', rfl⟩ := List.exists_cons_of_ne_nil htext
      obtain ⟨rfl, rfl⟩ := List.cons.inj heq
      have hnot : '\n' ∉ cs' ++ '\n' :: more := hcontinues
      exact absurd (by simp) hnot

/-- A longest piece stays the longest where spaces come in behind it, and a space in place of a
stray is a longest piece. -/
theorem Leads.cleared {rest rest' : List Char} {p : Piece} (h : Leads rest p)
    (hrest : List.Forall₂ Cleared rest rest') : Leads rest' p.cleared := by
  cases h with
  | @fits shape text hfits hlongest =>
    obtain ⟨c, cs, htext, hopens, -⟩ := id hfits
    have hread : shape ≠ .stray := by
      rintro rfl
      exact hopens
    rw [Piece.cleared, if_neg hread]
    refine .fits hfits fun shape' text' hfits' hpre => ?_
    -- What opens with the same character is of the same shape.
    have hshape : shape' = shape := by
      obtain ⟨c', cs', htext', hopens', -⟩ := id hfits'
      rw [htext, htext', List.cons_append] at hpre
      obtain rfl := (List.cons_prefix_cons.mp hpre).1
      exact hopens'.unique hopens
    subst hshape
    by_cases hblank : shape' = .blank
    · subst hblank
      exact le_of_eq ((length_of_fits_blank hfits').trans (length_of_fits_blank hfits).symm)
    by_cases hcomment : shape' = .comment
    · subst hcomment
      refine length_le_of_newline hfits' (htext ▸ List.cons_ne_nil c cs) hpre ?_
      rintro d tail rfl
      cases hrest with
      | cons hchar _ =>
        obtain rfl := newline_of_longest_comment hfits hlongest
        exact newline_of_cleared hchar
    · refine hlongest _ _ hfits' (prefix_of_cleared ?_ hpre ?_)
      · exact List.rel_append (forall₂_cleared_self text) hrest
      · exact space_not_mem_of_fits hfits' hblank hcomment
  | stray _ => exact leads_space rest'

/-- Only strays become other characters, and they end no lines. -/
theorem Leads.text_cleared {rest : List Char} {p : Piece} (h : Leads rest p) :
    List.Forall₂ Cleared p.text p.cleared.text := by
  by_cases hstray : p.shape = .stray
  · obtain ⟨c, rfl, hc⟩ := h.eq_of_stray hstray
    exact .cons (Or.inr ⟨rfl, hc⟩) .nil
  · rw [Piece.cleared, if_neg hstray]
    exact forall₂_cleared_self p.text

/-- The pieces of a cleared text are the cleared pieces. -/
theorem Splits.cleared {cs : List Char} {ps : List Piece} (h : Splits cs ps) :
    Splits (ps.flatMap (·.cleared.text)) (ps.map Piece.cleared) ∧
      List.Forall₂ Cleared cs (ps.flatMap (·.cleared.text)) := by
  induction h with
  | nil => exact ⟨.nil, .nil⟩
  | cons hleads _ ih =>
    rw [List.flatMap_cons]
    exact ⟨.cons (hleads.cleared ih.2) ih.1, List.rel_append hleads.text_cleared ih.2⟩

/-- The pieces of a cleared text are the cleared pieces of the text. -/
theorem split_cleared (cs : List Char) :
    split ((split cs).flatMap (·.cleared.text)) = (split cs).map cleared :=
  (splits_iff.mp (splits_split cs).cleared.1).symm

/-- Where a text is split, strays end no lines. -/
theorem Splits.lineEnds_stray {cs : List Char} {ps : List Piece} (h : Splits cs ps) :
    ∀ p ∈ ps, p.shape = .stray → p.lineEnds = 0 := by
  induction h with
  | nil => exact fun p hp => absurd hp List.not_mem_nil
  | cons hleads _ ih =>
    intro p hp hstray
    rcases List.mem_cons.mp hp with rfl | hp
    · obtain ⟨c, rfl, hc⟩ := hleads.eq_of_stray hstray
      show [c].count '\n' = 0
      rw [List.count_eq_zero, List.mem_singleton]
      exact Ne.symm hc
    · exact ih p hp hstray

/-- A piece has as many line ends once it is cleared, if there are none in what is not read. -/
theorem lineEnds_cleared {p : Piece} (h : p.shape = .stray → p.lineEnds = 0) :
    p.cleared.lineEnds = p.lineEnds := by
  unfold cleared
  split
  · rename_i hstray
    rw [h hstray]
    rfl
  · rfl

end Piece

namespace Scan

/-- A text with a space in place of every character that is not read. -/
def cleared (text : String) : String :=
  String.ofList ((Piece.split text.toList).flatMap fun p =>
    if (fault? p).isSome then [' '] else p.text)

/-- Clearing a piece replaces it by a blank if it is a fault, and else leaves it. -/
theorem text_cleared {p : Piece} (h : p.text ≠ []) :
    p.cleared.text = if (fault? p).isSome then [' '] else p.text := by
  obtain ⟨shape, text⟩ := p
  obtain ⟨c, cs, rfl⟩ := List.exists_cons_of_ne_nil h
  cases shape <;> rfl

/-- A cleared text is made of the cleared pieces. -/
theorem toList_cleared (text : String) :
    (cleared text).toList = (Piece.split text.toList).flatMap (·.cleared.text) := by
  rw [cleared, String.toList_ofList]
  refine (List.flatMap_congr fun p hp => ?_).symm
  exact text_cleared (Piece.split_ne_nil _ p hp)

variable {α : Type} [Amount α]

/-- Clearing a piece does not change the token that it is. -/
theorem tokenKind?_cleared (p : Piece) :
    (tokenKind? p.cleared : Option (Token.Kind α)) = tokenKind? p := by
  unfold Piece.cleared
  split
  · rename_i hstray
    rw [tokenKind?, tokenKind?, hstray]
  · rfl

/-- A cleared piece is no fault. -/
theorem fault?_cleared (p : Piece) : fault? p.cleared = none := by
  unfold Piece.cleared
  split
  · rfl
  · rename_i hread
    unfold fault?
    cases hshape : p.shape with
    | stray => exact absurd hshape hread
    | blank | comment | word | number | arrow | sign => rfl

/-- A piece that is a token is the same when it is cleared. -/
theorem cleared_of_tokenKind? {p : Piece} {kind : Token.Kind α} (h : tokenKind? p = some kind) :
    p.cleared = p := by
  refine if_neg fun hstray => ?_
  rw [tokenKind?, hstray] at h
  cases h

/-- Clearing pieces leaves the tokens with their lines, and no faults. -/
theorem ofPieces_cleared (line : Nat) {ps : List Piece}
    (h : ∀ p ∈ ps, p.shape = .stray → p.lineEnds = 0) :
    (ofPieces line (ps.map Piece.cleared) : Scan α)
      = { (ofPieces line ps) with faults := [] } := by
  induction ps generalizing line with
  | nil => rfl
  | cons p ps ih =>
    have hline : p.cleared.lineEnds = p.lineEnds :=
      Piece.lineEnds_cleared (h p List.mem_cons_self)
    have htoken : (tokenKind? p).map (fun kind =>
          Token.mk (α := α) kind (String.ofList p.cleared.text) line)
        = (tokenKind? p).map fun kind => ⟨kind, String.ofList p.text, line⟩ := by
      refine Option.map_congr fun kind hkind => ?_
      rw [cleared_of_tokenKind? hkind]
    rw [List.map_cons, ofPieces, ofPieces, tokenKind?_cleared, fault?_cleared, hline, htoken,
      ih _ fun q hq => h q (List.mem_cons_of_mem p hq)]
    rfl

/-- A cleared text has the tokens of the text, on the same lines, and no fault. -/
theorem ofText_cleared (text : String) :
    (ofText (cleared text) : Scan α) = { (ofText text) with faults := [] } := by
  rw [ofText, toList_cleared, Piece.split_cleared]
  exact ofPieces_cleared 1 (Piece.splits_split _).lineEnds_stray

end Scan

end Catchment

import Mathlib.Data.List.TakeWhile
import Catchment.Source.Piece

/-!
# `Catchment.Proofs.Source.Longest`: every piece is the longest that fits

What may be written in each shape is said here once more, without a scanner: by the
character that opens a piece and by what may follow it. A text can then be split in
one way only so that every piece is the longest text of any shape at its place, and
a character is a piece by itself only where no shape fits. That is how `Piece.split`
splits it.

* `Shape.Fits`: what may be written in a shape.
* `Piece.Leads`: the longest piece at the front of a text.
* `Piece.Splits`: a text split into longest pieces.
* `Shape.Opens.unique`: a character opens pieces of one shape at most.
* `Piece.leads_reach`: what `Piece.reach` takes off is the longest piece.
* `Piece.splits_iff`: the one split of a text.
-/

set_option autoImplicit false

namespace Catchment

namespace Shape

/-- The letters of a word, the underscore among them. -/
def IsLetter (c : Char) : Prop := ('a' ≤ c ∧ c ≤ 'z') ∨ ('A' ≤ c ∧ c ≤ 'Z') ∨ c = '_'

/-- The ten digits. -/
def IsDigit (c : Char) : Prop := '0' ≤ c ∧ c ≤ '9'

instance (c : Char) : Decidable (IsLetter c) := inferInstanceAs (Decidable (_ ∨ _))

instance (c : Char) : Decidable (IsDigit c) := inferInstanceAs (Decidable (_ ∧ _))

/-- Whether a character may open a piece of a shape. Nothing is written as a stray. -/
def Opens (c : Char) : Shape → Prop
  | blank => c ∈ [' ', '\r', '\t', '\n']
  | comment => c = '#'
  | word => IsLetter c
  | number => IsDigit c
  | arrow => c = '-'
  | sign => c ∈ ['(', ')', '[', ']', ',', '+', ';', '=', '%']
  | stray => False

/-- Whether some characters may follow the one that opens a piece of a shape. -/
def Continues (cs : List Char) : Shape → Prop
  | blank | sign => cs = []
  | comment => '\n' ∉ cs
  | word => ∃ letters, (∀ c ∈ letters, IsLetter c ∨ IsDigit c) ∧
      (cs = letters ∨ cs = letters ++ ['%'])
  | number => ∃ whole, (∀ c ∈ whole, IsDigit c) ∧
      (cs = whole ∨ ∃ d part, (∀ c ∈ d :: part, IsDigit c) ∧ cs = whole ++ '.' :: d :: part)
  | arrow => cs = ['>']
  | stray => False

/-- Whether a text may be written in a shape. -/
def Fits (shape : Shape) (text : List Char) : Prop :=
  ∃ c cs, text = c :: cs ∧ shape.Opens c ∧ shape.Continues cs

end Shape

namespace Piece

/-- Whether a piece leads a text that goes on with a rest: it fits its shape and nothing longer at
the front of the text fits any shape, or it is a single character where nothing fits. -/
inductive Leads (rest : List Char) : Piece → Prop
  | fits {shape : Shape} {text : List Char} (hfits : shape.Fits text)
      (hlongest : ∀ shape' text', Shape.Fits shape' text' → text' <+: text ++ rest →
        text'.length ≤ text.length) : Leads rest ⟨shape, text⟩
  | stray {c : Char} (hnone : ∀ shape text, Shape.Fits shape text → ¬ text <+: c :: rest) :
      Leads rest ⟨.stray, [c]⟩

/-- Whether a text is split into pieces of which each leads what is left of the text. -/
inductive Splits : List Char → List Piece → Prop
  | nil : Splits [] []
  | cons {p : Piece} {rest : List Char} {ps : List Piece} (hleads : Leads rest p)
      (hrest : Splits rest ps) : Splits (p.text ++ rest) (p :: ps)

end Piece

/-! ### The shapes apart -/

namespace Shape

/-- The test for digits tells digits. -/
theorem isDigit_iff {c : Char} : c.isDigit = true ↔ IsDigit c := by
  simp only [IsDigit, Char.isDigit, Char.le_def, Bool.and_eq_true, decide_eq_true_eq, ge_iff_le]

/-- The test for letters tells letters. -/
theorem isLetter_iff {c : Char} : Piece.isLetter c = true ↔ IsLetter c := by
  show (decide ('A'.val ≤ c.val ∧ c.val ≤ 'Z'.val) ||
    decide ('a'.val ≤ c.val) && decide (c.val ≤ 'z'.val) || c == '_') = true ↔ _
  simp only [IsLetter, Char.le_def, Bool.or_eq_true, Bool.and_eq_true, decide_eq_true_eq,
    beq_iff_eq]
  rw [← or_assoc, or_comm (a := 'A'.val ≤ c.val ∧ c.val ≤ 'Z'.val)]

/-- A character opens pieces of one shape at most. -/
theorem Opens.unique {c : Char} {shape shape' : Shape} (h : shape.Opens c) (h' : shape'.Opens c) :
    shape = shape' := by
  -- What a character opens is told by its number.
  cases shape <;> cases shape' <;> try rfl
  all_goals
    simp [Opens, IsLetter, IsDigit, Char.le_def, UInt32.le_iff_toNat_le, ← Char.toNat_inj]
      at h h' <;>
    omega

/-- The test for blanks tells what a blank is made of. -/
theorem isBlank_iff {c : Char} : Piece.isBlank c = true ↔ blank.Opens c := by
  simp [Piece.isBlank, Opens, or_assoc]

/-- The test for signs tells what a sign is made of. -/
theorem isSign_iff {c : Char} : Piece.isSign c = true ↔ sign.Opens c := by
  simp [Piece.isSign, Opens]

end Shape

namespace Piece

/-! ### Runs of characters -/

/-- A run of characters that pass a test is the longest one from the front. -/
theorem take_run (p : Char → Bool) (cs : List Char) : cs.take (run p cs) = cs.takeWhile p :=
  (List.prefix_iff_eq_take.mp (List.takeWhile_prefix p)).symm

/-- A run is at least as long as any text of its characters at the front. -/
theorem length_le_run {p : Char → Bool} {xs cs : List Char} (hxs : ∀ c ∈ xs, p c = true)
    (hpre : xs <+: cs) : xs.length ≤ run p cs := by
  obtain ⟨rest, rfl⟩ := hpre
  rw [run, List.takeWhile_append_of_pos hxs, List.length_append]
  omega

/-- A run ends in front of the first other character. -/
theorem run_append_cons {p : Char → Bool} {xs rest : List Char} {c : Char}
    (hxs : ∀ c ∈ xs, p c = true) (hc : p c = false) : run p (xs ++ c :: rest) = xs.length := by
  rw [run, List.takeWhile_append_of_pos hxs, List.takeWhile_cons, hc]
  simp

/-! ### How far each shape goes -/

/-- Whether some characters at the front of a text, and no more of them, may follow the character
that opens a piece of a shape. -/
def Reaches (shape : Shape) (cs : List Char) (n : Nat) : Prop :=
  shape.Continues (cs.take n) ∧ ∀ t, shape.Continues t → t <+: cs → t.length ≤ n

/-- A word goes on with letters and digits. -/
theorem isWordChar_iff {c : Char} : isWordChar c = true ↔ Shape.IsLetter c ∨ Shape.IsDigit c := by
  rw [isWordChar, Bool.or_eq_true, Shape.isLetter_iff, Shape.isDigit_iff]

/-- A comment reaches as far as its line. -/
theorem reaches_comment (cs : List Char) : Reaches .comment cs (run (· != '\n') cs) := by
  constructor
  · rw [take_run]
    intro hmem
    have hne := List.mem_takeWhile_imp hmem
    simp at hne
  · intro t ht hpre
    refine length_le_run (fun c hc => ?_) hpre
    rw [bne_iff_ne]
    rintro rfl
    exact ht hc

/-- A word reaches as far as there are letters and digits. -/
theorem reaches_word (cs : List Char) : Reaches .word cs (wordReach cs) := by
  have hletters : ∀ c ∈ cs.take (run isWordChar cs), Shape.IsLetter c ∨ Shape.IsDigit c := by
    intro c hc
    rw [take_run] at hc
    exact isWordChar_iff.mp (List.mem_takeWhile_imp hc)
  constructor
  · refine ⟨cs.take (run isWordChar cs), hletters, ?_⟩
    unfold wordReach
    simp only
    split
    · rename_i hmark
      obtain ⟨rest, hrest⟩ := List.head?_eq_some_iff.mp hmark
      right
      rw [List.take_add, hrest]
      rfl
    · left
      rfl
  · rintro t ⟨letters, hall, rfl | rfl⟩ hpre
    · have hle : t.length ≤ run isWordChar cs :=
        length_le_run (fun c hc => isWordChar_iff.mpr (hall c hc)) hpre
      unfold wordReach
      simp only
      split <;> omega
    · -- The letters are all there are, because a percent sign is none of them.
      obtain ⟨rest, rfl⟩ := hpre
      have hrun : run isWordChar (letters ++ '%' :: rest) = letters.length :=
        run_append_cons (fun c hc => isWordChar_iff.mpr (hall c hc)) (by decide)
      unfold wordReach
      simp [hrun]

/-- A number reaches as far as there are digits, with one point among them if a digit follows
it. -/
theorem reaches_number (cs : List Char) : Reaches .number cs (numberReach cs) := by
  have hdigits : ∀ {xs : List Char}, ∀ c ∈ xs.take (run Char.isDigit xs), Shape.IsDigit c := by
    intro xs c hc
    rw [take_run] at hc
    exact Shape.isDigit_iff.mp (List.mem_takeWhile_imp hc)
  constructor
  · refine ⟨cs.take (run Char.isDigit cs), hdigits, ?_⟩
    unfold numberReach
    simp only
    split
    · rename_i rest hrest
      split
      · left
        rfl
      · rename_i hsome
        right
        have hpart : ∀ c ∈ rest.take (run Char.isDigit rest), Shape.IsDigit c := hdigits
        obtain ⟨d, part, heq⟩ : ∃ d part, rest.take (run Char.isDigit rest) = d :: part := by
          refine List.exists_cons_of_ne_nil fun hnil => hsome ?_
          rw [take_run] at hnil
          rw [run, hnil]
          rfl
        refine ⟨d, part, fun c hc => hpart c (heq ▸ hc), ?_⟩
        rw [Nat.add_assoc, List.take_add, hrest, Nat.add_comm 1, List.take_succ_cons, heq]
    · left
      rfl
  · rintro t ⟨whole, hall, rfl | ⟨d, part, hpart, rfl⟩⟩ hpre
    · have hle : t.length ≤ run Char.isDigit cs :=
        length_le_run (fun c hc => Shape.isDigit_iff.mpr (hall c hc)) hpre
      unfold numberReach
      simp only
      split
      · split <;> omega
      · omega
    · -- The digits in front of the point are all there are, and those behind it count.
      obtain ⟨rest, rfl⟩ := hpre
      have hrun : run Char.isDigit (whole ++ '.' :: (d :: part ++ rest)) = whole.length :=
        run_append_cons (fun c hc => Shape.isDigit_iff.mpr (hall c hc)) (by decide)
      have hle : (d :: part).length ≤ run Char.isDigit (d :: part ++ rest) :=
        length_le_run (fun c hc => Shape.isDigit_iff.mpr (hpart c hc)) (List.prefix_append _ _)
      rw [List.append_assoc, List.cons_append, numberReach, hrun, List.drop_left]
      simp only [List.length_append, List.length_cons] at hle ⊢
      split <;> omega

/-- A shape with nothing behind its first character reaches no further. -/
theorem reaches_nil {shape : Shape} (h : ∀ {t}, shape.Continues t ↔ t = []) (cs : List Char) :
    Reaches shape cs 0 := by
  refine ⟨h.mpr List.take_zero, fun t ht _ => ?_⟩
  rw [h.mp ht]
  exact le_refl 0

/-- An arrow reaches one character beyond the dash. -/
theorem reaches_arrow {cs : List Char} (h : cs.head? = some '>') : Reaches .arrow cs 1 := by
  obtain ⟨rest, rfl⟩ := List.head?_eq_some_iff.mp h
  refine ⟨rfl, fun t ht _ => ?_⟩
  have ht' : t = ['>'] := ht
  rw [ht']
  exact le_refl 1

/-- A piece is the longest at its place if it goes as far as its shape reaches. -/
theorem leads_of_reaches {shape : Shape} {c : Char} {cs : List Char} {n : Nat}
    (hopens : shape.Opens c) (hreach : Reaches shape cs n) :
    Leads (cs.drop n) ⟨shape, c :: cs.take n⟩ := by
  refine .fits ⟨c, cs.take n, rfl, hopens, hreach.1⟩ ?_
  rintro shape' _ ⟨c', t, rfl, hopens', ht⟩ hpre
  rw [List.cons_append, List.take_append_drop] at hpre
  obtain ⟨rfl, htail⟩ := List.cons_prefix_cons.mp hpre
  obtain rfl := hopens.unique hopens'
  have hle : t.length ≤ n := hreach.2 t ht htail
  have hlen : t.length ≤ cs.length := htail.length_le
  simp only [List.length_cons, List.length_take]
  omega

/-- What is taken off at the front of a text is the longest piece. -/
theorem leads_reach (c : Char) (cs : List Char) :
    Leads (cs.drop (reach c cs).2) ⟨(reach c cs).1, c :: cs.take (reach c cs).2⟩ := by
  -- What is taken is decided by the first character: at most one shape opens with it.
  fun_cases reach c cs with
  | case1 hblank =>
    exact leads_of_reaches (Shape.isBlank_iff.mp hblank) (reaches_nil Iff.rfl cs)
  | case2 _ hcomment =>
    exact leads_of_reaches (show Shape.comment.Opens c from hcomment) (reaches_comment cs)
  | case3 _ _ hdigit => exact leads_of_reaches (Shape.isDigit_iff.mp hdigit) (reaches_number cs)
  | case4 _ _ _ hletter =>
    exact leads_of_reaches (Shape.isLetter_iff.mp hletter) (reaches_word cs)
  | case5 _ _ _ _ harrow hhead =>
    exact leads_of_reaches (show Shape.arrow.Opens c from harrow) (reaches_arrow hhead)
  | case6 _ _ _ _ harrow hhead =>
    refine .stray ?_
    rintro shape _ ⟨c', t, rfl, hopens, ht⟩ hpre
    obtain ⟨rfl, htail⟩ := List.cons_prefix_cons.mp hpre
    obtain rfl := Shape.Opens.unique (show Shape.arrow.Opens c' from harrow) hopens
    have ht' : t = ['>'] := ht
    obtain ⟨rest, rfl⟩ := ht' ▸ htail
    exact hhead rfl
  | case7 _ _ _ _ _ hsign =>
    exact leads_of_reaches (Shape.isSign_iff.mp hsign) (reaches_nil Iff.rfl cs)
  | case8 hblank hcomment hdigit hletter harrow hsign =>
    refine .stray ?_
    rintro shape _ ⟨c', t, rfl, hopens, ht⟩ hpre
    obtain ⟨rfl, -⟩ := List.cons_prefix_cons.mp hpre
    cases shape with
    | blank => exact hblank (Shape.isBlank_iff.mpr hopens)
    | comment => exact hcomment hopens
    | word => exact hletter (Shape.isLetter_iff.mpr hopens)
    | number => exact hdigit (Shape.isDigit_iff.mpr hopens)
    | arrow => exact harrow hopens
    | sign => exact hsign (Shape.isSign_iff.mpr hopens)
    | stray => exact hopens

/-! ### The one split -/

/-- The pieces of a text are the longest at their places. -/
theorem splits_split (cs : List Char) : Splits cs (split cs) := by
  fun_induction split cs with
  | case1 => exact .nil
  | case2 c cs shape n hreach ih =>
    have hleads := leads_reach c cs
    rw [hreach] at hleads
    have hcs : c :: cs = (c :: cs.take n) ++ cs.drop n := by
      rw [List.cons_append, List.take_append_drop]
    rw [hcs]
    exact .cons hleads ih

/-- A text is led by one piece only. -/
theorem Leads.unique {p q : Piece} {rest rest' : List Char} (hp : Leads rest p)
    (hq : Leads rest' q) (h : p.text ++ rest = q.text ++ rest') : p = q ∧ rest = rest' := by
  have hpre : p.text <+: q.text ++ rest' := h ▸ List.prefix_append p.text rest
  have hpre' : q.text <+: p.text ++ rest := h ▸ List.prefix_append q.text rest'
  cases hp with
  | @fits shape text hfits hlongest =>
    cases hq with
    | @fits shape' text' hfits' hlongest' =>
      -- Neither is longer than the other.
      have hle : text.length ≤ text'.length := hlongest' shape text hfits hpre
      have hge : text'.length ≤ text.length := hlongest shape' text' hfits' hpre'
      obtain ⟨rfl, hrest⟩ := List.append_inj h (Nat.le_antisymm hle hge)
      obtain ⟨c, cs, rfl, hopens, -⟩ := hfits
      obtain ⟨c', cs', htext, hopens', -⟩ := hfits'
      obtain ⟨rfl, -⟩ := List.cons.inj htext
      obtain rfl := hopens.unique hopens'
      exact ⟨rfl, hrest⟩
    | stray hnone => exact absurd hpre (hnone shape text hfits)
  | stray hnone =>
    cases hq with
    | @fits shape' text' hfits' _ => exact absurd hpre' (hnone shape' text' hfits')
    | stray _ =>
      obtain ⟨rfl, rfl⟩ := List.cons.inj h
      exact ⟨rfl, rfl⟩

/-- A piece at the front of a text has at least one character. -/
theorem Leads.text_ne_nil {p : Piece} {rest : List Char} (h : Leads rest p) : p.text ≠ [] := by
  cases h with
  | fits hfits _ =>
    obtain ⟨c, cs, rfl, -, -⟩ := hfits
    exact List.cons_ne_nil c cs
  | stray _ => exact List.cons_ne_nil _ _

/-- A text is split into longest pieces in one way only. -/
theorem Splits.unique {cs : List Char} {ps qs : List Piece} (hp : Splits cs ps)
    (hq : Splits cs qs) : ps = qs := by
  induction hp generalizing qs with
  | nil =>
    generalize hcs : ([] : List Char) = cs at hq
    cases hq with
    | nil => rfl
    | cons hleads _ => exact absurd (List.append_eq_nil_iff.mp hcs.symm).1 hleads.text_ne_nil
  | @cons p rest ps hleads _ ih =>
    generalize hcs : p.text ++ rest = cs at hq
    cases hq with
    | nil => exact absurd (List.append_eq_nil_iff.mp hcs).1 hleads.text_ne_nil
    | cons hleads' hrest' =>
      obtain ⟨rfl, rfl⟩ := hleads.unique hleads' hcs
      rw [ih hrest']

/-- The only split of a text into longest pieces is the one that is made. -/
theorem splits_iff {cs : List Char} {ps : List Piece} : Splits cs ps ↔ ps = split cs := by
  constructor
  · intro h
    exact h.unique (splits_split cs)
  · rintro rfl
    exact splits_split cs

end Piece

end Catchment

import Catchment.Proofs.Program.Grammar

/-!
# `Catchment.Proofs.Program.Days`: numbers of days that end the reading

The tokens in front of a number of days decide where it stands, and the tokens behind it
change nothing about that. If the first tokens go on to a program in which it rains for one
day at some place, they lead to the same place where the rain is over a number of days,
and there the reading ends if that number has no whole part. So the reading ends in this
way exactly where the tokens ask for rain over such a number of days before they break the
grammar.

* `Stage.exists_stage_of_readAll`: where the first tokens of a program lead.
* `Stage.exists_missing_of_step`: where rain can stand.
* `Stage.readAll_of_rainOver`: where rain can stand, the reading can end.
* `Stage.readAll_eq_error_days_iff`, `Program.ofTokens_eq_error_days_iff`: when the reading ends
  at a number of days.
-/

set_option autoImplicit false

namespace Catchment

variable {α : Type} [Amount α]

/-- A number with a unit of rain right behind it can only be read where an operand is missing. -/
theorem Expr.Reading.operand_eq_missing {r next last : Reading α} {t unit : Token α} {v : α}
    (ht : t.kind = .number v) (hunit : unit.kind = .mm) (h : r.step t = .take next)
    (h' : next.step unit = .take last) : r.operand = .missing := by
  cases hop : r.operand with
  | missing => rfl
  | number | complete =>
    simp only [step, hop, ht, afterOperand] at h
    cases h
  | daysOpen | seriesOpen =>
    -- The number is taken, but the unit is not.
    simp only [step, hop, ht] at h
    cases h
    simp only [step, hunit] at h'
    cases h'
  | days | daysClosed | series | seriesClosed =>
    simp only [step, hop, ht] at h
    cases h

namespace Stage

variable {endLine : Nat}

/-- Where a row of tokens is read, its first token is taken, and then the others are read. -/
theorem exists_step_of_readAll {s : Stage α} {t : Token α} {ts : List (Token α)}
    {ss : List (Statement α)} (h : readAll endLine s (t :: ts) = .ok ss) :
    ∃ next completed ss', s.step t = .take (next, completed) ∧
      readAll endLine next ts = .ok ss' := by
  rw [readAll.eq_def] at h
  simp only at h
  split at h
  · rename_i next completed hstep
    split at h
    · rename_i ss' hrest
      exact ⟨next, completed, ss', hstep, hrest⟩
    · cases h
  · cases h
  · cases h

/-- The first tokens of a row that is read lead to a stage, whatever stands behind them. -/
theorem exists_stage_of_readAll {s : Stage α} {before rest : List (Token α)}
    {ss : List (Statement α)} (h : readAll endLine s (before ++ rest) = .ok ss) :
    ∃ next ss', readAll endLine next rest = .ok ss' ∧
      ∀ ts e, readAll endLine next ts = .error e →
        readAll endLine s (before ++ ts) = .error e := by
  -- The induction is on the first tokens.
  induction before generalizing s ss with
  | nil => exact ⟨s, ss, h, fun _ _ he => he⟩
  | cons t before ih =>
    obtain ⟨next, completed, rest', hstep, hrest⟩ := exists_step_of_readAll h
    obtain ⟨reached, ss', hread, herror⟩ := ih hrest
    refine ⟨reached, ss', hread, fun ts e he => ?_⟩
    rw [List.cons_append, readAll.eq_def]
    simp only [hstep, herror ts e he]

/-- A number with a unit of rain right behind it stands where an operand does. -/
theorem exists_missing_of_step {s next : Stage α} {t unit : Token α} {v : α}
    {completed : Option (Statement α)} {move : Stage α × Option (Statement α)}
    (ht : t.kind = .number v) (hunit : unit.kind = .mm) (h : s.step t = .take (next, completed))
    (h' : next.step unit = .take move) :
    ∃ form heading w outer, s = route form heading ⟨.missing, w, outer⟩ := by
  cases s with
  | route form heading r =>
    cases hstep : r.step t with
    | take r' =>
      simp only [step, ht, hstep] at h
      cases h
      cases hstep' : r'.step unit with
      | take last =>
        obtain ⟨operand, w, outer⟩ := r
        obtain rfl : operand = .missing := Expr.Reading.operand_eq_missing ht hunit hstep hstep'
        exact ⟨form, heading, w, outer, rfl⟩
      | refuse | noDays =>
        simp only [step, hunit, hstep'] at h'
        cases h'
    | refuse | noDays =>
      simp only [step, ht, hstep] at h
      cases h
  | flowOut | capacity | dam | damRelease =>
    -- Other numbers have another unit, or none.
    simp only [step, ht] at h
    cases h
    simp only [step, hunit] at h'
    cases h'
  | start | keyword | named | flowOutDays | capacityVolume | capacityUnit | damCapacity | damUnit
  | damPercent | damPercentSign =>
    simp only [step, ht, formOf?] at h
    cases h

/-- Where an operand stands, the reading ends at rain on a number of days without a whole part. -/
theorem readAll_of_rainOver {form : RouteForm} {h : Heading} {w : Expr.Waiting α}
    {outer : List (Expr.Waiting α × Int)} {reason : Numeral.NoWholePart}
    {counted single : List (Token α)} (after : List (Token α))
    (hrain : Expr.RainOver (Amount.truncate · = .error reason) counted single) :
    readAll endLine (route form h ⟨.missing, w, outer⟩) (counted ++ after)
      = .error (.days reason) := by
  cases hrain with
  | @mk t opening count closing unit v n ht hopening hcount hclosing hunit hn =>
    have hreads : Expr.Reading.Reads ⟨.missing, w, outer⟩ [t, opening, count, closing]
        ⟨.daysClosed v n t.line, w, outer⟩ :=
      .cons (by rw [Expr.Reading.step, ht]) (.cons (by rw [Expr.Reading.step, hopening])
        (.cons (by rw [Expr.Reading.step, hcount]) (.one (by rw [Expr.Reading.step, hclosing]))))
    have hend : (route form h ⟨.daysClosed v n t.line, w, outer⟩ : Stage α).step unit
        = .noDays reason := by
      simp only [step, hunit, Expr.Reading.step, hn]
    show readAll endLine _ ([t, opening, count, closing] ++ unit :: after) = _
    rw [readAll_of_reads hreads, readAll.eq_def]
    simp only [hend]

/-- The reading ends at a number of days exactly where the tokens ask for rain over a number of
days without a whole part before they break the grammar. -/
theorem readAll_eq_error_days_iff (endLine : Nat) {ts : List (Token α)}
    {reason : Numeral.NoWholePart} :
    readAll endLine start ts = .error (.days reason) ↔
      Program.RainsOver (Amount.truncate · = .error reason) ts := by
  constructor
  · intro h
    exact rainsOver_of_readAll .nil .start h
  · rintro ⟨before, counted, single, after, rest, ss, hrain, rfl, hderives⟩
    have hread : readAll endLine start (before ++ single ++ rest) = .ok ss :=
      readAll_of_derives hderives
    rw [List.append_assoc] at hread ⊢
    obtain ⟨next, ss', hrest, herror⟩ := exists_stage_of_readAll hread
    refine herror _ _ ?_
    cases id hrain with
    | mk ht _ _ _ hunit _ =>
      -- The rain on one day shows what stage it is.
      obtain ⟨reached, _, _, hstep, hrest'⟩ := exists_step_of_readAll hrest
      obtain ⟨_, _, _, hstep', -⟩ := exists_step_of_readAll hrest'
      obtain ⟨form, heading, w, outer, rfl⟩ := exists_missing_of_step ht hunit hstep hstep'
      exact readAll_of_rainOver after hrain

end Stage

/-- Where all numbers are defined, the reading ends at a number of days exactly where the tokens
ask for rain over infinitely many days before they break the grammar. -/
theorem Program.ofTokens_eq_error_days_iff {path : String} {endLine : Nat} {ts : List (Token α)}
    {reason : Numeral.NoWholePart} (hdefined : ∀ t ∈ ts, t.All (Amount.numeral · ≠ .undefined)) :
    ofTokens path ts endLine = .error (.days reason) ↔
      reason = .infinite ∧ RainsOver Amount.IsInfinite ts := by
  have hread : ofTokens path ts endLine = .error (.days reason) ↔
      RainsOver (Amount.truncate · = .error reason) ts := by
    rw [← Stage.readAll_eq_error_days_iff endLine, ofTokens]
    cases Stage.readAll endLine .start ts with
    | ok ss => exact iff_of_false (by rintro ⟨⟩) (by rintro ⟨⟩)
    | error e =>
      show Except.error e = _ ↔ _
      rw [Except.error.injEq, Except.error.injEq]
  rw [hread]
  constructor
  · intro h
    obtain ⟨t, ht, n, hn, htruncate⟩ := h.exists_count
    refine ⟨((Amount.truncate_eq_error_iff (hdefined t ht n hn)).mp htruncate).1, h.imp ?_⟩
    intro t ht n hn htruncate
    exact ((Amount.truncate_eq_error_iff (hdefined t ht n hn)).mp htruncate).2
  · rintro ⟨rfl, h⟩
    refine h.imp fun t ht n hn hinfinite => ?_
    exact (Amount.truncate_eq_error_iff (hdefined t ht n hn)).mpr ⟨rfl, hinfinite⟩

end Catchment

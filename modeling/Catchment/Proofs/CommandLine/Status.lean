import Catchment.CommandLine.Outcome
import Catchment.Proofs.Run.Ending
import Catchment.Proofs.Run.Unreported

/-!
# `Catchment.Proofs.CommandLine.Status`: what the number of a command line says

A command line of one word that is no option names a file. What comes of the file ends with a
number, or a problem is passed on instead. `PassedOn` lists the problems: a null character in the
path, bytes that encode no text, and the three problems that the run of a text does not report. In
all other cases the number says which lines are shown: none, some about characters or the grammar,
or others only.

* `Path.mem_plain`: the plain form of a path has the characters of the path.
* `Request.ofWords_singleton`: one word that is no option asks for the run of a file.
* `PassedOn`, `Outcome.status_eq_error_iff`: the problems that are passed on.
* `Remark.line?`, `filterMap_line?_remarks`: the lines that are shown beside the telling of a run.
* `number_says_what_is_shown`: the number of a command line.
-/

set_option autoImplicit false

namespace Catchment

namespace Path

/-- The characters of joined parts are those of the parts, apart from the characters between
them. -/
theorem mem_intercalate {c : Char} {between : List Char} (h : c ∉ between)
    (parts : List (List Char)) :
    c ∈ between.intercalate parts ↔ ∃ part ∈ parts, c ∈ part := by
  induction parts with
  | nil => simp
  | cons part parts ih =>
    cases parts with
    | nil => simp
    | cons next parts =>
      rw [List.intercalate_cons_cons]
      simp only [List.mem_append, ih, h, or_false, List.mem_cons, exists_eq_or_imp]

/-- The names along a path have its characters, apart from slashes and points. -/
theorem exists_mem_names {c : Char} (hslash : c ≠ '/') (hpoint : c ≠ '.') (cs : List Char) :
    (∃ part ∈ names cs, c ∈ part) ↔ c ∈ cs := by
  have hparts : (∃ part ∈ cs.splitOn '/', c ∈ part) ↔ c ∈ cs := by
    have hbetween : c ∉ ['/'] := by simpa using hslash
    rw [← mem_intercalate hbetween, List.intercalate_splitOn]
  rw [← hparts]
  refine ⟨fun ⟨part, hpart, hc⟩ => ⟨part, List.mem_of_mem_filter hpart, hc⟩, ?_⟩
  rintro ⟨part, hpart, hc⟩
  -- A part with such a character is a name.
  refine ⟨part, List.mem_filter.mpr ⟨hpart, ?_⟩, hc⟩
  have hempty : part ≠ [] := List.ne_nil_of_mem hc
  have hdot : part ≠ ['.'] := by
    rintro rfl
    exact hpoint (List.mem_singleton.mp hc)
  simp [hempty, hdot]

/-- The front of a path holds nothing but slashes. -/
theorem not_mem_root {c : Char} (hslash : c ≠ '/') (cs : List Char) : c ∉ (root cs).toList := by
  unfold root
  split <;> simp [hslash]

/-- The plain form of a path has the characters of the path, apart from slashes and points. -/
theorem mem_plain {c : Char} (hslash : c ≠ '/') (hpoint : c ≠ '.') (path : String) :
    c ∈ (plain path).toList ↔ c ∈ path.toList := by
  let text := root path.toList ++ "/".intercalate ((names path.toList).map String.ofList)
  have htext : c ∈ text.toList ↔ c ∈ path.toList := by
    have hjoined : c ∈ ("/".intercalate ((names path.toList).map String.ofList)).toList ↔
        ∃ part ∈ names path.toList, c ∈ part := by
      rw [String.toList_intercalate, mem_intercalate (by simpa using hslash), List.map_map]
      simp
    rw [String.toList_append, List.mem_append, hjoined, exists_mem_names hslash hpoint]
    simp [not_mem_root hslash]
  rw [← htext]
  show c ∈ (if text = "" then "." else text).toList ↔ c ∈ text.toList
  split
  · -- A path that leads nowhere has no such character, and neither has a point.
    rename_i hempty
    simp [hempty, hpoint]
  · rfl

end Path

namespace CommandLine

/-- One word without a dash in front names a file. -/
theorem Request.ofWords_singleton {word : String} (h : word.toList.head? ≠ some '-') :
    Request.ofWords [word] = .ok (.run (Path.plain word)) := by
  have hmarker : word ≠ marker := by
    rintro rfl
    exact h rfl
  have hoperand : Word.ofText word = .operand := by
    cases hword : word.toList with
    | nil => simp only [Word.ofText, hword]
    | cons c cs =>
      have hdash : c ≠ '-' := by simpa [hword] using h
      simp [Word.ofText, hword, hdash]
  unfold ofWords goOn
  rw [if_neg hmarker, hoperand]
  rfl

/-- The problems with a text that its run does not report. -/
inductive Unreported (path text : String) : Problem → Prop
  /-- The tokens ask for rain over infinitely many days before they break the grammar. -/
  | days (hrains : Program.RainsOver Amount.IsInfinite (Scan.ofText text : Scan Float).tokens) :
      Unreported path text (.days .infinite)
  /-- The run comes to a statement that declares outflow over no whole number of days. -/
  | outflow {n : Network Float} {s : Statement Float} {days : Float}
      {reason : Numeral.NoWholePart}
      (hreaches : (Scan.ofText text : Scan Float).Reaches path n s)
      (hdeclares : s.declares = .flowOut days)
      (htruncate : Amount.truncate days = .error reason) :
      Unreported path text (.statement (.outflowNotWhole reason))
  /-- The run comes to a statement that asks for a record of rain that is too long. -/
  | record {n : Network Float} {s : Statement Float} {reason : RainError}
      (hreaches : (Scan.ofText text : Scan Float).Reaches path n s)
      (hoverruns : n.Overruns s reason) :
      Unreported path text (.statement (.rainTooLong reason))

/-- These are the problems that a run passes on. -/
theorem unreported_iff {path text : String} {p : Problem} :
    (run settings path text).result = .error p ↔ Unreported path text p := by
  refine (run_eq_error_iff settings path text p).trans ⟨?_, fun h => ?_⟩
  · rintro (⟨reason, hread, rfl⟩ | ⟨program, e, hread, herror, hnone, rfl⟩)
    · obtain ⟨rfl, hrains⟩ :=
        (Program.ofTokens_eq_error_days_iff (Scan.all_defined text)).mp hread
      exact .days hrains
    · obtain ⟨n, s, hreaches, hdeclare⟩ := Scan.exists_reaches_iff.mp ⟨program, hread, herror⟩
      -- Of what can go wrong in a statement, two kinds are not reported.
      rcases EvaluationError.eq_of_failure?_eq_none hnone with ⟨reason, rfl⟩ | ⟨reason, rfl⟩
      · obtain ⟨days, hdeclares, htruncate⟩ :=
          Network.error_declare_eq_outflowNotWhole_iff.mp hdeclare
        exact .outflow hreaches hdeclares htruncate
      · exact .record hreaches (Network.error_declare_eq_rainTooLong_iff.mp hdeclare)
  · cases h with
    | days hrains =>
      exact Or.inl ⟨.infinite,
        (Program.ofTokens_eq_error_days_iff (Scan.all_defined text)).mpr ⟨rfl, hrains⟩, rfl⟩
    | outflow hreaches hdeclares htruncate =>
      obtain ⟨program, hread, herror⟩ := Scan.exists_reaches_iff.mpr ⟨_, _, hreaches,
        Network.error_declare_eq_outflowNotWhole_iff.mpr ⟨_, hdeclares, htruncate⟩⟩
      exact Or.inr ⟨program, _, hread, herror, rfl, rfl⟩
    | record hreaches hoverruns =>
      obtain ⟨program, hread, herror⟩ := Scan.exists_reaches_iff.mpr ⟨_, _, hreaches,
        Network.error_declare_eq_rainTooLong_iff.mpr hoverruns⟩
      exact Or.inr ⟨program, _, hread, herror, rfl, rfl⟩

/-- The problems that are passed on, by the path of a file and what it holds. -/
inductive PassedOn (path : String) : Except Unreadable ByteArray → Problem → Prop
  /-- There is a null character in the path. -/
  | nullInPath {contents : Except Unreadable ByteArray} (hnull : '\x00' ∈ path.toList) :
      PassedOn path contents .nullInPath
  /-- The bytes of the file encode no text. -/
  | notText {bytes : ByteArray} (hpath : '\x00' ∉ path.toList) (hbytes : decoded? bytes = none) :
      PassedOn path (.ok bytes) .notText
  /-- The run of the text passes on what it does not report. -/
  | unreported {bytes : ByteArray} {text : String} {p : Problem} (hpath : '\x00' ∉ path.toList)
      (hbytes : decoded? bytes = some text) (h : Unreported (Path.plain path) text p) :
      PassedOn path (.ok bytes) p

namespace PassedOn

variable {path text : String} {contents : Except Unreadable ByteArray} {bytes : ByteArray}
    {p : Problem}

/-- With a null character in the path, that is what is passed on, whatever the file holds. -/
theorem iff_of_null (hnull : '\x00' ∈ path.toList) :
    PassedOn path contents p ↔ p = .nullInPath := by
  constructor
  · intro h
    cases h with
    | nullInPath => rfl
    | notText hpath | unreported hpath => exact absurd hnull hpath
  · rintro rfl
    exact .nullInPath hnull

/-- A file that cannot be opened is no problem to pass on. -/
theorem false_of_error (hpath : '\x00' ∉ path.toList) {u : Unreadable}
    (h : PassedOn path (.error u) p) : False := by
  cases h with
  | nullInPath hnull => exact hpath hnull

/-- Of a file that encodes no text, this is what is passed on. -/
theorem iff_of_none (hpath : '\x00' ∉ path.toList) (hbytes : decoded? bytes = none) :
    PassedOn path (.ok bytes) p ↔ p = .notText := by
  constructor
  · intro h
    cases h with
    | nullInPath hnull => exact absurd hnull hpath
    | notText => rfl
    | unreported _ hsome =>
      rw [hbytes] at hsome
      cases hsome
  · rintro rfl
    exact .notText hpath hbytes

/-- Of a file that encodes a text, what is passed on is what the run of the text does not
report. -/
theorem iff_of_some (hpath : '\x00' ∉ path.toList) (hbytes : decoded? bytes = some text) :
    PassedOn path (.ok bytes) p ↔ Unreported (Path.plain path) text p := by
  refine ⟨fun h => ?_, .unreported hpath hbytes⟩
  cases h with
  | nullInPath hnull => exact absurd hnull hpath
  | notText _ hnone =>
    rw [hbytes] at hnone
    cases hnone
  | unreported _ hsome h =>
    rw [hbytes] at hsome
    cases hsome
    exact h

end PassedOn

/-- The line that is shown by a remark, if it is no entry of the log. -/
def Remark.line? : Remark → Option String
  | line text => some text
  | logged _ => none

/-- The lines that are shown beside the telling of a run are those of its diagnostics. -/
theorem filterMap_line?_remarks (r : Run) :
    (r.dispatches.flatMap remarks).filterMap Remark.line? = r.diagnostics.flatMap (·.lines) := by
  obtain ⟨dispatches, events, result⟩ := r
  simp only [Run.diagnostics]
  induction dispatches with
  | nil => rfl
  | cons d dispatches ih =>
    rw [List.flatMap_cons, List.filterMap_append, ih]
    cases d with
    | diagnostic d =>
      have hlines : (remarks (.diagnostic d)).filterMap Remark.line? = d.lines := by
        simp [remarks, List.filterMap_map, Function.comp_def, Remark.line?]
      rw [hlines]
      rfl
    | notice n =>
      -- A notice is kept in the log or dropped, and is no line in either case.
      have hnone : (remarks (.notice n)).filterMap Remark.line? = [] := by
        simp only [remarks]
        split <;> rfl
      rw [hnone]
      rfl

/-- The number for a result tells its flags. -/
theorem Status.number_ofResult (r : RunResult) :
    let number := (ofResult r).number
    number ∈ [0, 65, 70] ∧ (number = 65 ↔ r.syntaxError = true) ∧
      (number = 70 ↔ ¬r.syntaxError = true ∧ r.runtimeError = true) ∧
      (number = 0 ↔ r.ok = true) := by
  unfold ofResult RunResult.ok
  cases r.syntaxError <;> cases r.runtimeError <;> decide

/-- The run of bytes that encode a text is the run of the text. -/
theorem runBytes_of_eq_some {path text : String} {bytes : ByteArray}
    (h : decoded? bytes = some text) :
    runBytes settings path bytes = run settings path text := by
  unfold runBytes
  rw [h]

/-- The run of bytes that encode no text ends at once, with nothing told or reported. -/
theorem runBytes_of_eq_none {path : String} {bytes : ByteArray} (h : decoded? bytes = none) :
    runBytes settings path bytes = ⟨[], [], .error .notText⟩ := by
  unfold runBytes
  rw [h]

namespace Outcome

variable {path : String} {contents : Except Unreadable ByteArray}

/-- A file with a null character in its path is not asked for. -/
theorem ofFile_of_null (h : '\x00' ∈ path.toList) :
    ofFile path contents = ⟨"", [], .error .nullInPath⟩ := by
  unfold ofFile
  rw [if_pos (List.contains_iff_mem.mpr h)]

/-- What comes of a file that can be read is what comes of the run of its bytes. -/
theorem ofFile_of_ok (h : '\x00' ∉ path.toList) (bytes : ByteArray) :
    ofFile path (.ok bytes) = ofRun (runBytes settings path bytes) := by
  unfold ofFile
  rw [if_neg (by simpa using h)]

/-- The number for a file that cannot be read is that of a missing input. -/
theorem status_of_error (h : '\x00' ∉ path.toList) (u : Unreadable) :
    (ofFile path (.error u)).status = .ok .noInput := by
  unfold ofFile
  rw [if_neg (by simpa using h)]

/-- What comes of a run has no number exactly if the run passes a problem on. -/
theorem status_ofRun_eq_error_iff {r : Run} {p : Problem} :
    (ofRun r).status = .error p ↔ r.result = .error p := by
  unfold ofRun
  cases r.result <;> simp [Except.map]

/-- These are the problems that are passed on. -/
theorem status_eq_error_iff {p : Problem} :
    (ofFile (Path.plain path) contents).status = .error p ↔ PassedOn path contents p := by
  have hplain : '\x00' ∈ (Path.plain path).toList ↔ '\x00' ∈ path.toList :=
    Path.mem_plain (by decide) (by decide) path
  by_cases hnull : '\x00' ∈ path.toList
  · rw [ofFile_of_null (hplain.mpr hnull), PassedOn.iff_of_null hnull, Except.error.injEq,
      eq_comm]
  · have hpath : '\x00' ∉ (Path.plain path).toList := fun h => hnull (hplain.mp h)
    cases contents with
    | error u =>
      rw [status_of_error hpath]
      exact iff_of_false nofun (PassedOn.false_of_error hnull)
    | ok bytes =>
      rw [ofFile_of_ok hpath, status_ofRun_eq_error_iff]
      cases hbytes : decoded? bytes with
      | none =>
        rw [runBytes_of_eq_none hbytes, PassedOn.iff_of_none hnull hbytes, Except.error.injEq,
          eq_comm]
      | some text =>
        rw [runBytes_of_eq_some hbytes, PassedOn.iff_of_some hnull hbytes, unreported_iff]

/-- A run that has a number has a result, and it is the number for that. -/
theorem exists_result_of_status {bytes : ByteArray} {status : Status}
    (h : (ofRun (runBytes settings path bytes)).status = .ok status) :
    ∃ text result, decoded? bytes = some text ∧ (run settings path text).result = .ok result ∧
      status = .ofResult result := by
  cases hbytes : decoded? bytes with
  | none =>
    rw [runBytes_of_eq_none hbytes] at h
    cases h
  | some text =>
    rw [runBytes_of_eq_some hbytes] at h
    cases hresult : (run settings path text).result with
    | error p =>
      rw [status_ofRun_eq_error_iff.mpr hresult] at h
      cases h
    | ok result =>
      simp only [ofRun, hresult, Except.map, Except.ok.injEq] at h
      exact ⟨text, result, rfl, hresult, h.symm⟩

end Outcome

/-- A command line of one word without a dash in front asks for the run of a file. It has a
number, unless a problem is passed on. The number is 66 if the file cannot be opened. Otherwise,
the lines that are shown beside the telling of the run are those of its diagnostics, and the
number is 65 if one of these is about a character or the grammar, 70 if there are only others, and
0 if there is none. -/
theorem number_says_what_is_shown {path : String} (hpath : path.toList.head? ≠ some '-')
    (contents : Except Unreadable ByteArray) :
    let plain := Path.plain path
    let o := Outcome.ofFile plain contents
    Outcome.ofRequest (Request.ofWords [path]) = .inr plain ∧
      (∀ p, o.status = .error p ↔ PassedOn path contents p) ∧
      ∀ status, o.status = .ok status →
        status.number ∈ [0, 65, 66, 70] ∧
        (status.number = 66 ↔ ∃ u, contents = .error u) ∧
        ∀ bytes, contents = .ok bytes →
          let ds := (runBytes settings plain bytes).diagnostics
          let kinds := ds.map (·.kind)
          o.remarks.filterMap Remark.line? = ds.flatMap (·.lines) ∧
          (status.number = 65 ↔ .lex ∈ kinds ∨ .parse ∈ kinds) ∧
          (status.number = 70 ↔ ¬(.lex ∈ kinds ∨ .parse ∈ kinds) ∧
            (.runtime ∈ kinds ∨ .configuration ∈ kinds ∨ .capacity ∈ kinds)) ∧
          (status.number = 0 ↔ ds = []) := by
  intro plain o
  refine ⟨?_, fun p => Outcome.status_eq_error_iff, fun status hstatus => ?_⟩
  · rw [Request.ofWords_singleton hpath]
    rfl
  -- A path with a null character in it has no number.
  have hnull : '\x00' ∉ plain.toList := by
    intro h
    rw [show o = _ from Outcome.ofFile_of_null h] at hstatus
    cases hstatus
  cases contents with
  | error u =>
    have hnumber : status = .noInput := by
      rw [show o.status = _ from Outcome.status_of_error hnull u] at hstatus
      exact (Except.ok.inj hstatus).symm
    subst hnumber
    exact ⟨by decide, iff_of_true rfl ⟨u, rfl⟩, nofun⟩
  | ok bytes =>
    have ho : o = Outcome.ofRun (runBytes settings plain bytes) :=
      Outcome.ofFile_of_ok hnull bytes
    rw [ho] at hstatus ⊢
    obtain ⟨text, result, hbytes, hresult, rfl⟩ := Outcome.exists_result_of_status hstatus
    -- The number is told by the flags of the result, and the flags by the diagnostics.
    obtain ⟨hmarked, hruntime, hok⟩ := flags_agree settings hresult
    obtain ⟨hmem, hdata, hsoftware, hsuccess⟩ := Status.number_ofResult result
    refine ⟨?_, iff_of_false (fun hinput => ?_) nofun, ?_⟩
    · exact (show [0, 65, 70] ⊆ [0, 65, 66, 70] by decide) hmem
    · rw [hinput] at hmem
      exact absurd hmem (by decide)
    · rintro bytes' hsame
      cases hsame
      intro ds kinds
      have hds : ds = (run settings plain text).diagnostics := by
        simp only [ds, runBytes_of_eq_some hbytes]
      refine ⟨filterMap_line?_remarks _, ?_⟩
      simp only [kinds, hds]
      rw [← hmarked, ← hruntime, ← hok]
      exact ⟨hdata, hsoftware, hsuccess⟩

/-- A character that is not read does not keep the run from its end, but it shows in the
number. -/
theorem number_says_what_is_shown_stray :
    let o := Outcome.ofFile "storm.rf" (.ok "River a = 1mm; @ Capacity a = 1ML;".toUTF8)
    Outcome.ofRequest (Request.ofWords ["./storm.rf"]) = .inr "storm.rf" ∧
      ∃ status, o.status = .ok status ∧ status.number = 65 ∧
        o.remarks.filterMap Remark.line? = ["[line 1] Error: Unexpected character: @"] := by
  intro o
  let bytes := "River a = 1mm; @ Capacity a = 1ML;".toUTF8
  have hplain : Path.plain "./storm.rf" = "storm.rf" := by decide +kernel
  have hsome : o.status.toOption.isSome = true := by decide +kernel
  have hds : (runBytes settings "storm.rf" bytes).diagnostics =
      [.plain .lex "Unexpected character: @" (some 1)] := by decide +kernel
  have hoption : "./storm.rf".toList.head? ≠ some '-' := by decide
  obtain ⟨hrequest, -, hnumber⟩ := number_says_what_is_shown hoption (.ok bytes)
  rw [hplain] at hrequest hnumber
  obtain ⟨status, hstatus⟩ : ∃ status, o.status = .ok status := by
    cases h : o.status with
    | ok status => exact ⟨status, rfl⟩
    | error p =>
      rw [h] at hsome
      cases hsome
  obtain ⟨-, -, hread⟩ := hnumber status hstatus
  obtain ⟨hlines, hdata, -⟩ := hread bytes rfl
  rw [hds] at hlines hdata
  exact ⟨hrequest, status, hstatus, hdata.mpr (Or.inl (by decide)),
    hlines.trans (by decide +kernel)⟩

/-- There is no number for a file whose bytes encode no text. -/
theorem file_without_text_has_no_number :
    ¬∀ (path : String) (contents : Except Unreadable ByteArray), path.toList.head? ≠ some '-' →
      ∃ status, (Outcome.ofFile (Path.plain path) contents).status = .ok status := by
  intro h
  obtain ⟨status, hstatus⟩ := h "utf.rf" (.ok ⟨#[0xff]⟩) (by decide)
  have hpassed : PassedOn "utf.rf" (.ok ⟨#[0xff]⟩) .notText :=
    .notText (by decide) (by decide +kernel)
  rw [Outcome.status_eq_error_iff.mpr hpassed] at hstatus
  cases hstatus

end CommandLine

end Catchment

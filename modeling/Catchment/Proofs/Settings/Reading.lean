import Mathlib.Data.Set.List
import Catchment.Problem
import Catchment.Proofs.Settings.Check
import Catchment.Settings.Reading

/-!
# `Catchment.Proofs.Settings.Reading`: what a settings file gives

A settings file is read as a text, the text as a document, and the document gives settings. What
reads documents is left open here: `ofBytesBy` takes any reader, and `ofBytes` is the case of the
reader of this library. All that is relied on is that the reader finds a value in a text or finds
that the text breaks the rules.

The names of a mapping are values like all others, and they become names of settings only if all
of them are texts. Where one is not, the mapping is refused in a way that is not reported,
whatever else is wrong with it (`ofDatum_eq_unnamed_iff`). In all other cases a file gives
settings or a refusal that is reported.

* `Datum.last?`: what a document gives under a name.
* `GivesSettings`: the documents that give settings.
* `exists_ofDatum_eq_ok_iff`, `follows_of_ofDatum`: when a document gives settings, and which.
* `held_within_bounds`: settings that are read are within their bounds.
* `file_gives_settings_or_is_refused`: the settings of a file, or its refusal.
-/

set_option autoImplicit false

namespace Catchment

/-! ## Results and rows of them -/

/-- A result that is taken for an option is some value exactly if it is that value. -/
theorem toOption_eq_some_iff {ε β : Type} {x : Except ε β} {v : β} :
    x.toOption = some v ↔ x = .ok v := by
  cases x <;> simp [Except.toOption]

/-- If a reading is undone by a writing, a row is read to what it is written from. -/
theorem mapM_eq_some_iff {α β : Type} {read : α → Option β} {write : β → α}
    (h : ∀ x y, read x = some y ↔ x = write y) {xs : List α} {ys : List β} :
    xs.mapM read = some ys ↔ xs = ys.map write := by
  induction xs generalizing ys with
  | nil => cases ys <;> simp
  | cons x xs ih =>
    simp only [List.mapM_cons, Option.bind_eq_bind, Option.bind_eq_some_iff, Option.pure_def,
      Option.some.injEq, h, ih]
    constructor
    · rintro ⟨y, rfl, ys, rfl, rfl⟩
      rfl
    · intro hxs
      obtain ⟨y, ys, rfl, hx, hxs⟩ := List.map_eq_cons_iff.mp hxs.symm
      exact ⟨y, hx.symm, ys, hxs.symm, rfl⟩

/-- A row is not read if something in it is not. -/
theorem mapM_eq_none_iff {α β : Type} {read : α → Option β} {xs : List α} :
    xs.mapM read = none ↔ ∃ x ∈ xs, read x = none := by
  induction xs with
  | nil => simp
  | cons x xs ih =>
    rw [List.mapM_cons]
    cases h : read x with
    | none => simp [h]
    | some y => cases hxs : xs.mapM read <;> simp [h, hxs, ← ih]

/-- A text is a string if it is made of the characters of the string. -/
theorem CodeText.toString?_eq_some_iff {t : CodeText} {s : String} :
    t.toString? = some s ↔ t = ofString s := by
  have hchar : ∀ (p : CodePoint) (c : Char), p.char? = some c ↔ p = .char c := by
    intro p c
    cases p <;> simp [CodePoint.char?]
  obtain ⟨points⟩ := t
  rw [toString?, Option.map_eq_some_iff]
  simp only [mapM_eq_some_iff hchar, ofString, CodeText.mk.injEq]
  constructor
  · rintro ⟨cs, hcs, rfl⟩
    rw [hcs, String.toList_ofList]
  · intro hpoints
    exact ⟨s.toList, hpoints, String.ofList_toList⟩

/-- Different strings are made of different characters. -/
theorem CodeText.ofString_injective {s s' : String} (h : ofString s = ofString s') : s = s' :=
  Option.some.inj ((toString?_eq_some_iff.mpr h).symm.trans (toString?_eq_some_iff.mpr rfl)).symm

/-! ## Documents -/

namespace Datum

/-- What a document gives under a name: of several entries of a mapping the last. -/
def last? : Datum → String → Option Datum
  | mapping entries, name => entries.reverse.findSome? fun
    | (text t, d) => if t = .ofString name then some d else none
    | _ => none
  | _, _ => none

/-- The entry of a mapping for a named value. -/
def entry (p : String × Datum) : Datum × Datum := (text (.ofString p.1), p.2)

/-- Of a mapping of texts, what is given under a name is the last of the named values. -/
theorem last?_map_entry (values : List (String × Datum)) (k : String) :
    (mapping (values.map entry)).last? k = Entries.find k values.reverse := by
  rw [last?, ← List.map_reverse, List.findSome?_map]
  -- From here on the order does not matter: the first entry of any row is looked for.
  generalize values.reverse = row
  induction row with
  | nil => rfl
  | cons p row ih =>
    obtain ⟨j, d⟩ := p
    rw [List.findSome?_cons, ih]
    by_cases h : j = k
    · simp [entry, Entries.find, h]
    · have hne : CodeText.ofString j ≠ .ofString k := fun he => h (CodeText.ofString_injective he)
      simp [entry, Entries.find, h, hne]

/-- The documents that give settings: one without content, and a mapping of which every name is
that of a setting, where each setting takes the last value under its name. -/
inductive GivesSettings : Datum → Prop
  | null : GivesSettings null
  | mapping {entries : List (Datum × Datum)}
      (names : ∀ e ∈ entries, ∃ f : Setting, e.1 = text (.ofString f.name))
      (values : ∀ (f : Setting) (d : Datum), (mapping entries).last? f.name = some d →
        ∃ v, f.kind.Takes d v) :
      GivesSettings (mapping entries)

/-- A mapping that gives settings has texts for names. -/
theorem exists_eq_map_entry {entries : List (Datum × Datum)}
    (h : (mapping entries).GivesSettings) :
    ∃ values : List (String × Datum), entries = values.map entry := by
  cases h with
  | mapping names _ =>
    have hrange : entries ∈ Set.range (List.map entry) := by
      rw [Set.range_list_map]
      intro e he
      obtain ⟨f, hf⟩ := names e he
      exact ⟨(f.name, e.2), Prod.ext hf.symm rfl⟩
    obtain ⟨values, hvalues⟩ := hrange
    exact ⟨values, hvalues.symm⟩

/-- A mapping of texts gives settings if each value that counts is under the name of a setting
that takes it. -/
theorem givesSettings_map_entry_iff {values : List (String × Datum)} :
    (mapping (values.map entry)).GivesSettings ↔
      ∀ k d, Entries.find k values.reverse = some d →
        ∃ f : Setting, f.name = k ∧ ∃ v, f.kind.Takes d v := by
  -- Under each name there is a value that counts.
  have hfound : ∀ k, (∃ d, Entries.find k values.reverse = some d) ↔ ∃ p ∈ values, p.1 = k := by
    intro k
    rw [← Option.isSome_iff_exists, Entries.find_isSome_iff, Entries.keys, List.map_reverse,
      List.mem_reverse, List.mem_map]
  constructor
  · intro h k d hd
    cases h with
    | mapping names taken =>
      obtain ⟨p, hp, rfl⟩ := (hfound k).mp ⟨d, hd⟩
      obtain ⟨f, hf⟩ := names (entry p) (List.mem_map_of_mem hp)
      have hname : f.name = p.1 := CodeText.ofString_injective (text.inj hf).symm
      rw [← hname, ← last?_map_entry] at hd
      exact ⟨f, hname, taken f d hd⟩
  · intro h
    refine .mapping (fun e he => ?_) fun f d hd => ?_
    · obtain ⟨p, hp, rfl⟩ := List.mem_map.mp he
      obtain ⟨d, hd⟩ := (hfound p.1).mpr ⟨p, hp, rfl⟩
      obtain ⟨f, hname, -⟩ := h p.1 d hd
      exact ⟨f, congrArg (fun k => text (.ofString k)) hname.symm⟩
    · rw [last?_map_entry] at hd
      obtain ⟨g, hname, hv⟩ := h f.name d hd
      exact Setting.name_injective hname ▸ hv

end Datum

namespace Settings

/-- An entry is named exactly if a text stands in front of its colon. -/
theorem named?_eq_some_iff (e : Datum × Datum) (p : CodeText × Datum) :
    named? e = some p ↔ e = (.text p.1, p.2) := by
  obtain ⟨name, value⟩ := e
  obtain ⟨t, d⟩ := p
  cases name <;> simp [named?]

/-- An entry is not named exactly if no text stands in front of its colon. -/
theorem named?_eq_none_iff (e : Datum × Datum) : named? e = none ↔ ∀ t, e.1 ≠ .text t := by
  obtain ⟨name, value⟩ := e
  cases name <;> simp [named?]

/-- An entry goes by a string exactly if the characters of its name are those of the string. -/
theorem string?_eq_some_iff (e : CodeText × Datum) (p : String × Datum) :
    (match e with | (name, value) => name.toString?.map (·, value)) = some p ↔
      e = (.ofString p.1, p.2) := by
  obtain ⟨name, value⟩ := e
  obtain ⟨s, d⟩ := p
  simp [Option.map_eq_some_iff, CodeText.toString?_eq_some_iff]

/-- A mapping of texts gives what its named values give. -/
theorem ofDatum_map_entry (values : List (String × Datum)) :
    ofDatum (.mapping (values.map Datum.entry)) = (ofValues values).mapError .values := by
  have hnamed : (values.map Datum.entry).mapM named?
      = some (values.map fun p => (CodeText.ofString p.1, p.2)) :=
    (mapM_eq_some_iff named?_eq_some_iff).mpr (by rw [List.map_map]; rfl)
  have hstrings : (values.map fun p => (CodeText.ofString p.1, p.2)).mapM
      (fun (name, value) => name.toString?.map (·, value)) = some values :=
    (mapM_eq_some_iff string?_eq_some_iff).mpr rfl
  rw [ofDatum, hnamed]
  show (ofEntries _).mapError _ = _
  rw [ofEntries, hstrings]

/-- A mapping that gives settings is one of texts. -/
theorem exists_eq_map_entry_of_ofDatum {entries : List (Datum × Datum)} {s : Settings Float}
    (h : ofDatum (.mapping entries) = .ok s) :
    ∃ values : List (String × Datum), entries = values.map Datum.entry := by
  rw [ofDatum] at h
  split at h
  · rename_i named hnamed
    rw [mapError_eq_ok_iff, ofEntries] at h
    split at h
    · rename_i values hvalues
      refine ⟨values, ?_⟩
      rw [(mapM_eq_some_iff named?_eq_some_iff).mp hnamed,
        (mapM_eq_some_iff string?_eq_some_iff).mp hvalues, List.map_map]
      rfl
    · cases h
  · cases h

/-- These are the documents that give settings. -/
theorem exists_ofDatum_eq_ok_iff {d : Datum} : (∃ s, ofDatum d = .ok s) ↔ d.GivesSettings := by
  have hvalues : ∀ values : List (String × Datum),
      (∃ s, ofDatum (.mapping (values.map Datum.entry)) = .ok s) ↔
        (Datum.mapping (values.map Datum.entry)).GivesSettings := by
    intro values
    rw [Datum.givesSettings_map_entry_iff, ← exists_ofValues_eq_ok_iff]
    simp only [ofDatum_map_entry, mapError_eq_ok_iff]
  cases d with
  | null => exact iff_of_true ⟨.default, rfl⟩ .null
  | mapping entries =>
    constructor
    · rintro ⟨s, h⟩
      obtain ⟨values, rfl⟩ := exists_eq_map_entry_of_ofDatum h
      exact (hvalues values).mp ⟨s, h⟩
    · intro h
      obtain ⟨values, rfl⟩ := Datum.exists_eq_map_entry h
      exact (hvalues values).mpr h
  | bool | integer | number | text | binary | date | dateTime | list | set =>
    exact iff_of_false nofun nofun

/-- What a document gives settles what each setting is. -/
theorem follows_of_ofDatum {d : Datum} {s : Settings Float} (h : ofDatum d = .ok s) :
    Follows .default s d.last? := by
  cases d with
  | null =>
    cases h
    exact ⟨nofun, fun _ => rfl⟩
  | mapping entries =>
    obtain ⟨values, rfl⟩ := exists_eq_map_entry_of_ofDatum h
    rw [ofDatum_map_entry, mapError_eq_ok_iff] at h
    have hlast : (Datum.mapping (values.map Datum.entry)).last?
        = fun k => Entries.find k values.reverse := funext (Datum.last?_map_entry values)
    exact hlast ▸ follows_of_ofValues h
  | bool | integer | number | text | binary | date | dateTime | list | set => cases h

/-- A mapping is refused without a report if something other than a text stands in front of a
colon. -/
theorem ofDatum_eq_unnamed_iff {d : Datum} :
    ofDatum d = .error .unnamed ↔
      ∃ entries, d = .mapping entries ∧ ∃ e ∈ entries, ∀ t, e.1 ≠ .text t := by
  cases d with
  | mapping entries =>
    have hnone : entries.mapM named? = none ↔ ∃ e ∈ entries, ∀ t, e.1 ≠ .text t := by
      simp only [mapM_eq_none_iff, named?_eq_none_iff]
    simp only [Datum.mapping.injEq, exists_eq_left', ← hnone]
    rw [ofDatum]
    split
    · rename_i named h
      rw [h]
      refine iff_of_false ?_ nofun
      cases ofEntries named <;> exact nofun
    · rename_i h
      exact iff_of_true rfl h
  | null | bool | integer | number | text | binary | date | dateTime | list | set =>
    exact iff_of_false nofun nofun

/-- All other refusals of a document are reported. -/
theorem isReported_of_ofDatum {d : Datum} {r : Refusal} (h : ofDatum d = .error r)
    (hr : r ≠ .unnamed) : r.isReported = true := by
  cases d with
  | null => cases h
  | mapping entries =>
    rw [ofDatum] at h
    split at h
    · rename_i named _
      cases hentries : ofEntries named with
      | ok s =>
        rw [hentries] at h
        cases h
      | error complaints =>
        rw [hentries] at h
        cases h
        rfl
    · cases h
      exact absurd rfl hr
  | bool | integer | number | text | binary | date | dateTime | list | set =>
    cases h
    rfl

/-- Settings that a document gives are within their bounds: each would be taken again. -/
theorem held_within_bounds {d : Datum} {s : Settings Float} (h : ofDatum d = .ok s)
    (f : Setting) :
    f.kind.Takes (f.held s) (f.held s) := by
  have hfollows := follows_of_ofDatum h
  cases hlast : d.last? f.name with
  | none =>
    rw [hfollows.kept hlast]
    exact f.takes_default
  | some given => exact (hfollows.taken hlast).self

/-! ## Files -/

/-- A text in which a document is found gives what the document gives. -/
theorem ofReadableBy_of_ok {read : Document.Readable → Except DocumentError Datum}
    {text : Document.Readable} {d : Datum} (h : read text = .ok d) :
    ofReadableBy read text = ofDatum d := by
  rw [ofReadableBy, h]

/-- A text in which no document is found is refused for what is wrong with it. -/
theorem ofReadableBy_of_error {read : Document.Readable → Except DocumentError Datum}
    {text : Document.Readable} {e : DocumentError} (h : read text = .error e) :
    ofReadableBy read text = .error (.document e) := by
  rw [ofReadableBy, h]

/-- Bytes that encode a text are read as the text. -/
theorem ofBytesBy_of_decoded {read : Document.Readable → Except DocumentError Datum}
    {bytes : ByteArray} {text : String} (h : decoded? bytes = some text) :
    ofBytesBy read bytes = ofReadableBy read (.ofChars text.toList none) := by
  unfold ofBytesBy Document.Readable.ofBytes
  rw [h]

/-- A file whose bytes encode a text gives settings or a refusal. What reads documents is left
open: all that is relied on is that it finds a value in the text, or finds that the text breaks
the rules. Then a refusal is reported, unless something other than a text stands in front of a
colon of the mapping that the document is. The file gives settings exactly if the document is
without content, or is a mapping of which every name is that of a setting that takes the last
value under its name. What a setting takes is what it is in these settings, and where nothing is
said of a setting it has its default. -/
theorem file_gives_settings_or_is_refused (read : Document.Readable → Except DocumentError Datum)
    {bytes : ByteArray} {text : String} (readable : decoded? bytes = some text)
    (reader : ∀ e, read (.ofChars text.toList none) = .error e → e = .malformed) :
    let document := read (.ofChars text.toList none)
    let outcome := ofBytesBy read bytes
    ((∃ s, outcome = .ok s) ∨ (∃ r, outcome = .error r ∧ r.isReported = true) ∨
        outcome = .error .unnamed) ∧
      (outcome = .error .unnamed ↔
        ∃ entries, document = .ok (.mapping entries) ∧ ∃ e ∈ entries, ∀ name, e.1 ≠ .text name) ∧
      ((∃ s, outcome = .ok s) ↔ ∃ d, document = .ok d ∧ d.GivesSettings) ∧
      ∀ s, outcome = .ok s → ∃ d, document = .ok d ∧ Follows .default s d.last? := by
  intro document outcome
  have houtcome : outcome = ofReadableBy read (.ofChars text.toList none) :=
    ofBytesBy_of_decoded readable
  -- A document that is no value is malformed, by what is relied on, and that is reported.
  cases hdocument : document with
  | error e =>
    have hmalformed : outcome = .error (.document .malformed) :=
      houtcome.trans (ofReadableBy_of_error (reader e hdocument ▸ hdocument))
    rw [hmalformed]
    exact ⟨Or.inr (Or.inl ⟨_, rfl, rfl⟩), iff_of_false nofun nofun,
      iff_of_false nofun nofun, nofun⟩
  | ok d =>
    rw [houtcome.trans (ofReadableBy_of_ok hdocument)]
    simp only [Except.ok.injEq, exists_eq_left']
    refine ⟨?_, ofDatum_eq_unnamed_iff, exists_ofDatum_eq_ok_iff, fun s => follows_of_ofDatum⟩
    cases h : ofDatum d with
    | ok s => exact Or.inl ⟨s, rfl⟩
    | error r =>
      by_cases hr : r = .unnamed
      · exact Or.inr (Or.inr (congrArg Except.error hr))
      · exact Or.inr (Or.inl ⟨r, rfl, isReported_of_ofDatum h hr⟩)

/-- An empty file changes nothing. -/
example : ofBytes ⟨#[]⟩ = .ok .default := rfl

/-- Of two values under a name the later counts, also where the earlier one would be turned
down. -/
theorem file_gives_settings_or_is_refused_again :
    let text := "precision: x\nprecision: 3"
    let document := Document.read (.ofChars text.toList none)
    decoded? text.toUTF8 = some text ∧ (∀ e, document = .error e → e = .malformed) ∧
      ∃ s, ofBytes text.toUTF8 = .ok s ∧ s.precision = 3 ∧ s.logLevel = .ofString "WARNING" ∧
        ∃ d, document = .ok d ∧ d.GivesSettings ∧ Follows .default s d.last? := by
  intro text document
  have readable : decoded? text.toUTF8 = some text := by decide +kernel
  have reader : ∀ e, document = .error e → e = .malformed := by
    have hok : document.isOk = true := by decide +kernel
    intro e he
    rw [he] at hok
    cases hok
  have houtcome : (ofBytes text.toUTF8).toOption.map (fun s => (s.precision, s.logLevel))
      = some (3, .ofString "WARNING") := by decide +kernel
  obtain ⟨s, hs, hheld⟩ := Option.map_eq_some_iff.mp houtcome
  have hs : ofBytes text.toUTF8 = .ok s := toOption_eq_some_iff.mp hs
  obtain ⟨-, -, hgives, hfollows⟩ :=
    file_gives_settings_or_is_refused Document.read readable reader
  obtain ⟨d, hd, hd'⟩ := hgives.mp ⟨s, hs⟩
  obtain ⟨d', hread, hs'⟩ := hfollows s hs
  obtain rfl : d = d' := Except.ok.inj (hd.symm.trans hread)
  exact ⟨readable, reader, s, hs, congrArg Prod.fst hheld, congrArg Prod.snd hheld, d, hd,
    hd', hs'⟩

/-- There is a file with a mapping for which there are neither settings nor a report: a number
stands in front of the colon. -/
theorem number_in_front_of_a_colon_is_not_reported :
    ¬∀ (bytes : ByteArray) (text : String), decoded? bytes = some text →
      (∀ e, Document.read (.ofChars text.toList none) = .error e → e = .malformed) →
      (∃ s, ofBytes bytes = .ok s) ∨ ∃ r, ofBytes bytes = .error r ∧ r.isReported = true := by
  intro h
  have hread : (Document.read (.ofChars "1: 2".toList none)).isOk = true := by decide +kernel
  have hsilent : (match ofBytes "1: 2".toUTF8 with
      | .ok _ => true
      | .error r => r.isReported) = false := by decide +kernel
  have hreader :
      ∀ e, Document.read (.ofChars "1: 2".toList none) = .error e → e = .malformed := by
    intro e he
    rw [he] at hread
    cases hread
  rcases h "1: 2".toUTF8 "1: 2" (by decide +kernel) hreader with ⟨s, hs⟩ | ⟨r, hr, hreported⟩
  · rw [hs] at hsilent
    cases hsilent
  · rw [hr] at hsilent
    exact Bool.false_ne_true (hsilent.symm.trans hreported)

end Settings

end Catchment

import Catchment.Proofs.Table
import Catchment.Settings.Check

/-!
# `Catchment.Proofs.Settings.Check`: what named values do to settings

There are six settings, of three kinds. What a setting takes goes by its kind alone
(`Kind.Takes`): an amount within bounds, a number of places, or a text. `Settings.set` checks a
value by the kind of the setting with its name and puts what is taken in its place
(`set_name_eq`). So it does not depend on the settings whether a value is turned down, and a value
that is taken changes one setting only.

`Settings.setAll` is followed by induction on the values, which have different names by then. It
complains of exactly the values that are turned down (`mem_complaints_setAll`). Where nothing is
turned down, a setting is what the value under its name gives, or what it was (`follows_setAll`).

* `Setting.takes_default`: every setting takes its own default.
* `set_eq_error_iff`: why a value is turned down.
* `Follows`: what settings are, told by what is given under names; it tells them in full
  (`Follows.unique`).
* `mem_complaints_of_ofValues`, `complaints_ordered_of_ofValues`: the complaints about named
  values, and how they are listed.
* `exists_ofValues_eq_ok_iff`, `follows_of_ofValues`: when named values give settings, and which.
-/

set_option autoImplicit false

namespace Catchment

/-- A value that comes of a change comes of a value. -/
theorem map_eq_ok_iff {ε β δ : Type} {x : Except ε β} {f : β → δ} {v : δ} :
    x.map f = .ok v ↔ ∃ a, x = .ok a ∧ f a = v := by
  cases x <;> simp [Except.map]

/-- A change does not change what goes wrong. -/
theorem map_eq_error_iff {ε β δ : Type} {x : Except ε β} {f : β → δ} {e : ε} :
    x.map f = .error e ↔ x = .error e := by
  cases x <;> simp [Except.map]

namespace Settings

/-! ## Bounds -/

/-- An amount is within bounds, and is then left as it is. -/
theorem bounded_eq_ok_iff {most : Option Float} {x y : Float} :
    bounded 0 most x = .ok y ↔ (0 ≤ x ∧ ∀ u ∈ most, x ≤ u) ∧ x = y := by
  unfold bounded
  cases most with
  | none => by_cases hleast : 0 ≤ x <;> simp [hleast]
  | some u =>
    by_cases hmost : x ≤ u
    · by_cases hleast : 0 ≤ x <;> simp [hmost, hleast]
    · simp [hmost]

/-- The amount that a value gives, if it is within bounds. -/
theorem amountWithin_eq_ok_iff {most : Option Float} {d : Datum} {x : Float} :
    amountWithin most d = .ok x ↔
      amountOf d = .ok x ∧ 0 ≤ x ∧ ∀ u ∈ most, x ≤ u := by
  unfold amountWithin
  cases h : amountOf d with
  | error c => exact iff_of_false nofun nofun
  | ok y =>
    show bounded 0 most y = .ok x ↔ _
    rw [bounded_eq_ok_iff, Except.ok.injEq]
    exact ⟨fun ⟨hbounds, he⟩ => ⟨he, he ▸ hbounds⟩, fun ⟨he, hbounds⟩ => ⟨he ▸ hbounds, he⟩⟩

/-- The whole number that a value gives, if it is a number of places. -/
theorem placesOf_eq_ok_iff {d : Datum} {n : Nat} :
    placesOf d = .ok n ↔ integerOf d = .ok (n : Int) ∧ n ≤ 12 := by
  unfold placesOf mostPlaces
  cases h : integerOf d with
  | error c => exact iff_of_false nofun nofun
  | ok i =>
    show (if 12 < i then _ else if i < 0 then _ else Except.ok i.toNat) = .ok n ↔ _
    rw [Except.ok.injEq]
    split
    · exact iff_of_false nofun (by omega)
    · split
      · exact iff_of_false nofun (by omega)
      · rw [Except.ok.injEq]
        omega

end Settings

/-! ## The settings and their kinds -/

/-- The kinds of settings. -/
inductive Setting.Kind where
  /-- An amount that is not below nothing, and perhaps not above a bound. -/
  | amount (most : Option Float)
  | places
  | level

namespace Setting.Kind

/-- A value that a setting of a kind takes, and what the setting is then. -/
inductive Takes : Kind → Datum → Datum → Prop
  | amount {most : Option Float} {d : Datum} {x : Float} (hread : Settings.amountOf d = .ok x)
      (hleast : 0 ≤ x) (hmost : ∀ u ∈ most, x ≤ u) : Takes (.amount most) d (.number x)
  | places {d : Datum} {i : Int} (hread : Settings.integerOf d = .ok i) (hleast : 0 ≤ i)
      (hmost : i ≤ 12) : Takes .places d (.integer i)
  | level {d : Datum} {t : CodeText} (hread : Settings.textOf d = .ok t) :
      Takes .level d (.text t)

/-- What a setting of a kind is once it is given a value, or why the value is turned down. -/
def check : Kind → Datum → Except Complaint Datum
  | amount most, d => (Settings.amountWithin most d).map .number
  | places, d => (Settings.placesOf d).map fun (n : Nat) => .integer n
  | level, d => (Settings.textOf d).map .text

/-- What is taken is what passes the check. -/
theorem check_eq_ok_iff {k : Kind} {d v : Datum} : k.check d = .ok v ↔ k.Takes d v := by
  cases k with
  | amount most =>
    show (Settings.amountWithin most d).map Datum.number = .ok v ↔ _
    rw [map_eq_ok_iff]
    constructor
    · rintro ⟨x, hx, rfl⟩
      obtain ⟨hread, hleast, hmost⟩ := Settings.amountWithin_eq_ok_iff.mp hx
      exact .amount hread hleast hmost
    · intro h
      cases h with
      | amount hread hleast hmost =>
        exact ⟨_, Settings.amountWithin_eq_ok_iff.mpr ⟨hread, hleast, hmost⟩, rfl⟩
  | places =>
    show (Settings.placesOf d).map (fun (n : Nat) => Datum.integer n) = .ok v ↔ _
    rw [map_eq_ok_iff]
    constructor
    · rintro ⟨n, hn, rfl⟩
      obtain ⟨hread, hmost⟩ := Settings.placesOf_eq_ok_iff.mp hn
      exact .places hread (Int.natCast_nonneg n) (by omega)
    · intro h
      cases h with
      | @places _ i hread hleast hmost =>
        obtain ⟨n, rfl⟩ := Int.eq_ofNat_of_zero_le hleast
        exact ⟨n, Settings.placesOf_eq_ok_iff.mpr ⟨hread, by omega⟩, rfl⟩
  | level =>
    show (Settings.textOf d).map Datum.text = .ok v ↔ _
    rw [map_eq_ok_iff]
    constructor
    · rintro ⟨t, ht, rfl⟩
      exact .level ht
    · intro h
      cases h with
      | level hread => exact ⟨_, hread, rfl⟩

/-- What a setting is given settles what it is. -/
theorem Takes.unique {k : Kind} {d v v' : Datum} (h : k.Takes d v) (h' : k.Takes d v') : v = v' :=
  Except.ok.inj ((check_eq_ok_iff.mpr h).symm.trans (check_eq_ok_iff.mpr h'))

/-- What a setting is it takes again, and stays the same. -/
theorem Takes.self {k : Kind} {d v : Datum} (h : k.Takes d v) : k.Takes v v := by
  cases h with
  | amount _ hleast hmost => exact .amount rfl hleast hmost
  | places _ hleast hmost => exact .places rfl hleast hmost
  | level _ => exact .level rfl

end Setting.Kind

/-- One of the settings. -/
inductive Setting where
  | heavyRain
  | extraShare
  | warningPercent
  | overflowPercent
  | precision
  | logLevel
deriving DecidableEq, Repr

namespace Setting

/-- The name under which a setting is given. -/
def name : Setting → String
  | heavyRain => "heavy_rainfall_mm"
  | extraShare => "pre_release_fraction"
  | warningPercent => "warning_percent"
  | overflowPercent => "overflow_percent"
  | precision => "precision"
  | logLevel => "log_level"

/-- The kind of a setting, by which its values are checked. -/
def kind : Setting → Kind
  | heavyRain | warningPercent | overflowPercent => .amount none
  | extraShare => .amount (some 1)
  | precision => .places
  | logLevel => .level

/-- What a setting is. -/
def held (s : Settings Float) : Setting → Datum
  | heavyRain => .number s.storm.heavyRain
  | extraShare => .number s.storm.extraShare
  | warningPercent => .number s.limits.warningPercent
  | overflowPercent => .number s.limits.overflowPercent
  | precision => .integer s.precision
  | logLevel => .text s.logLevel

/-- Settings with one of them changed. What is not of its kind changes nothing. -/
def put (s : Settings Float) : Setting → Datum → Settings Float
  | heavyRain, .number x => { s with storm := { s.storm with heavyRain := x } }
  | extraShare, .number x => { s with storm := { s.storm with extraShare := x } }
  | warningPercent, .number x => { s with limits := { s.limits with warningPercent := x } }
  | overflowPercent, .number x => { s with limits := { s.limits with overflowPercent := x } }
  | precision, .integer i => { s with precision := i.toNat }
  | logLevel, .text t => { s with logLevel := t }
  | _, _ => s

/-- Different settings have different names. -/
theorem name_injective {f g : Setting} (h : f.name = g.name) : f = g := by
  cases f <;> cases g <;> first | rfl | exact absurd h (by decide)

/-- Settings are the same if each of them is. -/
theorem ext_held {s s' : Settings Float} (h : ∀ f, held s f = held s' f) : s = s' := by
  obtain ⟨⟨heavyRain, extraShare⟩, ⟨warning, overflow⟩, places, level⟩ := s
  obtain ⟨⟨heavyRain', extraShare'⟩, ⟨warning', overflow'⟩, places', level'⟩ := s'
  have hstorm : heavyRain = heavyRain' ∧ extraShare = extraShare' :=
    ⟨Datum.number.inj (h .heavyRain), Datum.number.inj (h .extraShare)⟩
  have hlimits : warning = warning' ∧ overflow = overflow' :=
    ⟨Datum.number.inj (h .warningPercent), Datum.number.inj (h .overflowPercent)⟩
  have hplaces : places = places' := Int.ofNat.inj (Datum.integer.inj (h .precision))
  have hlevel : level = level' := Datum.text.inj (h .logLevel)
  rw [hstorm.1, hstorm.2, hlimits.1, hlimits.2, hplaces, hlevel]

/-- A setting that is given what it takes is what it has taken. -/
theorem held_put_self {f : Setting} {d v : Datum} (h : f.kind.Takes d v) (s : Settings Float) :
    held (put s f v) f = v := by
  cases f with
  | heavyRain | extraShare | warningPercent | overflowPercent => cases h with | amount => rfl
  | precision =>
    cases h with
    | places _ hleast => exact congrArg Datum.integer (Int.toNat_of_nonneg hleast)
  | logLevel => cases h with | level => rfl

/-- Giving something to a setting leaves the others as they are. -/
theorem held_put_of_ne {f g : Setting} (h : g ≠ f) (s : Settings Float) (v : Datum) :
    held (put s f v) g = held s g := by
  cases f <;> cases g <;> first | exact absurd rfl h | (cases v <;> rfl)

/-- Every setting takes its own default. -/
theorem takes_default (f : Setting) : f.kind.Takes (held .default f) (held .default f) := by
  cases f with
  | heavyRain | extraShare | warningPercent | overflowPercent =>
    exact .amount rfl (by decide) (by decide)
  | precision => exact .places rfl (by decide) (by decide)
  | logLevel => exact .level rfl

end Setting

namespace Settings

/-! ## One value -/

/-- A value is checked by the kind of the setting with its name, and what is taken is put in
place. -/
theorem set_name_eq (s : Settings Float) (f : Setting) (d : Datum) :
    s.set f.name d = (f.kind.check d).map (Setting.put s f) := by
  cases f with
  | heavyRain | warningPercent | overflowPercent =>
    show (amountWithin none d).map _ = ((amountWithin none d).map _).map _
    cases amountWithin none d <;> rfl
  | extraShare =>
    show (amountWithin (some 1) d).map _ = ((amountWithin (some 1) d).map _).map _
    cases amountWithin (some 1) d <;> rfl
  | precision =>
    show (placesOf d).map _ = ((placesOf d).map _).map _
    cases placesOf d <;> rfl
  | logLevel =>
    show (textOf d).map _ = ((textOf d).map _).map _
    cases textOf d <;> rfl

/-- A value under a name that no setting has is too much. -/
theorem set_of_unknown {k : String} (h : ∀ f : Setting, f.name ≠ k) (s : Settings Float)
    (d : Datum) :
    s.set k d = .error .extra := by
  unfold set
  split
  · exact absurd rfl (h .heavyRain)
  · exact absurd rfl (h .extraShare)
  · exact absurd rfl (h .warningPercent)
  · exact absurd rfl (h .overflowPercent)
  · exact absurd rfl (h .precision)
  · exact absurd rfl (h .logLevel)
  · rfl

/-- Why a value under a name is turned down: there is no such setting, or the setting does not
take it. -/
inductive TurnsDown (k : String) (d : Datum) : Complaint → Prop
  | unknown (h : ∀ f : Setting, f.name ≠ k) : TurnsDown k d .extra
  | value {f : Setting} {c : Complaint} (hname : f.name = k)
      (hcheck : f.kind.check d = .error c) :
      TurnsDown k d c

/-- It does not depend on the settings why a value is turned down. -/
theorem set_eq_error_iff {s : Settings Float} {k : String} {d : Datum} {c : Complaint} :
    s.set k d = .error c ↔ TurnsDown k d c := by
  by_cases hknown : ∃ f : Setting, f.name = k
  · obtain ⟨f, rfl⟩ := hknown
    rw [set_name_eq, map_eq_error_iff]
    constructor
    · exact .value rfl
    · intro h
      cases h with
      | unknown hunknown => exact absurd rfl (hunknown f)
      | value hname hcheck => exact Setting.name_injective hname ▸ hcheck
  · have hunknown : ∀ f : Setting, f.name ≠ k := not_exists.mp hknown
    rw [set_of_unknown hunknown, Except.error.injEq]
    constructor
    · rintro rfl
      exact .unknown hunknown
    · intro h
      cases h with
      | unknown _ => rfl
      | value hname _ => exact absurd hname (hunknown _)

/-- A value is taken exactly if it is under the name of a setting that takes it, and is then put
in place. -/
theorem set_eq_ok_iff {s s' : Settings Float} {k : String} {d : Datum} :
    s.set k d = .ok s' ↔
      ∃ f : Setting, f.name = k ∧ ∃ v, f.kind.Takes d v ∧ Setting.put s f v = s' := by
  by_cases hknown : ∃ f : Setting, f.name = k
  · obtain ⟨f, rfl⟩ := hknown
    rw [set_name_eq, map_eq_ok_iff]
    simp only [Setting.Kind.check_eq_ok_iff]
    refine ⟨fun h => ⟨f, rfl, h⟩, fun ⟨g, hname, h⟩ => ?_⟩
    exact Setting.name_injective hname ▸ h
  · rw [set_of_unknown (not_exists.mp hknown)]
    exact iff_of_false nofun fun ⟨f, hname, _⟩ => hknown ⟨f, hname⟩

/-- A value is not turned down if the setting with its name takes it. -/
theorem not_turnsDown_iff {k : String} {d : Datum} :
    (¬∃ c, TurnsDown k d c) ↔ ∃ f : Setting, f.name = k ∧ ∃ v, f.kind.Takes d v := by
  cases h : (default : Settings Float).set k d with
  | error c =>
    refine iff_of_false (fun hnone => hnone ⟨c, set_eq_error_iff.mp h⟩) ?_
    rintro ⟨f, hname, v, hv⟩
    rw [set_eq_ok_iff.mpr ⟨f, hname, v, hv, rfl⟩] at h
    cases h
  | ok s =>
    obtain ⟨f, hname, v, hv, -⟩ := set_eq_ok_iff.mp h
    refine iff_of_true ?_ ⟨f, hname, v, hv⟩
    rintro ⟨c, hc⟩
    rw [set_eq_error_iff.mpr hc] at h
    cases h

/-! ## Several values -/

/-- Behind a value that is taken, the rest goes on with the changed settings. -/
theorem setAll_cons_of_ok {s s' : Settings Float} {k : String} {d : Datum}
    (h : s.set k d = .ok s')
    (values : List (String × Datum)) : s.setAll ((k, d) :: values) = s'.setAll values := by
  rw [setAll, h]

/-- Behind a value that is turned down, the rest goes on with the settings as they are. -/
theorem setAll_cons_of_error {s : Settings Float} {k : String} {d : Datum} {c : Complaint}
    (h : s.set k d = .error c) (values : List (String × Datum)) :
    s.setAll ((k, d) :: values) = ((s.setAll values).1, (k, c) :: (s.setAll values).2) := by
  rw [setAll, h]

/-- The complaints are about the values that are turned down. -/
theorem mem_complaints_setAll {s : Settings Float} {values : List (String × Datum)} {k : String}
    {c : Complaint} :
    (k, c) ∈ (s.setAll values).2 ↔ ∃ d, (k, d) ∈ values ∧ TurnsDown k d c := by
  induction values generalizing s with
  | nil => simp [setAll]
  | cons e values ih =>
    obtain ⟨j, d⟩ := e
    -- Whether the value is turned down does not depend on the settings that it would change.
    have hdown : ∀ c, TurnsDown j d c ↔ s.set j d = .error c := fun c => set_eq_error_iff.symm
    cases h : s.set j d with
    | error c' =>
      rw [h] at hdown
      rw [setAll_cons_of_error h, List.mem_cons, ih]
      constructor
      · rintro (he | ⟨d', hmem, hd'⟩)
        · cases he
          exact ⟨d, List.mem_cons_self, (hdown c).mpr rfl⟩
        · exact ⟨d', List.mem_cons_of_mem _ hmem, hd'⟩
      · rintro ⟨d', hmem, hd'⟩
        rcases List.mem_cons.mp hmem with he | hmem
        · cases he
          rw [Except.error.inj ((hdown c).mp hd')]
          exact Or.inl rfl
        · exact Or.inr ⟨d', hmem, hd'⟩
    | ok s' =>
      rw [h] at hdown
      rw [setAll_cons_of_ok h, ih]
      constructor
      · rintro ⟨d', hmem, hd'⟩
        exact ⟨d', List.mem_cons_of_mem _ hmem, hd'⟩
      · rintro ⟨d', hmem, hd'⟩
        rcases List.mem_cons.mp hmem with he | hmem
        · cases he
          exact absurd ((hdown c).mp hd') nofun
        · exact ⟨d', hmem, hd'⟩

/-- Settings follow from others by what is given under names: a setting is what it takes of the
value under its name, or what it was. -/
structure Follows (s s' : Settings Float) (given : String → Option Datum) : Prop where
  taken : ∀ {f : Setting} {d : Datum}, given f.name = some d → f.kind.Takes d (f.held s')
  kept : ∀ {f : Setting}, given f.name = none → f.held s' = f.held s

/-- Only one thing follows: the settings are told in full. -/
theorem Follows.unique {s s₁ s₂ : Settings Float} {given : String → Option Datum}
    (h₁ : Follows s s₁ given) (h₂ : Follows s s₂ given) : s₁ = s₂ := by
  refine Setting.ext_held fun f => ?_
  cases hgiven : given f.name with
  | none => exact (h₁.kept hgiven).trans (h₂.kept hgiven).symm
  | some d => exact (h₁.taken hgiven).unique (h₂.taken hgiven)

/-- Values with different names of which none is turned down settle what each setting is. -/
theorem follows_setAll {s : Settings Float} {values : List (String × Datum)}
    (hnames : (Entries.keys values).Nodup) (hnone : (s.setAll values).2 = []) :
    Follows s (s.setAll values).1 fun k => Entries.find k values := by
  induction values generalizing s with
  | nil => exact ⟨nofun, fun _ => rfl⟩
  | cons e values ih =>
    obtain ⟨k, d⟩ := e
    obtain ⟨hnew, hothers⟩ := List.nodup_cons.mp hnames
    cases h : s.set k d with
    | error c =>
      rw [setAll_cons_of_error h] at hnone
      cases hnone
    | ok s' =>
      rw [setAll_cons_of_ok h] at hnone ⊢
      obtain ⟨f, rfl, v, hv, rfl⟩ := set_eq_ok_iff.mp h
      have hrest := ih hothers hnone
      -- The rest has no value under this name, so what is put in place stays.
      have hf : Entries.find f.name values = none := by
        rw [← Option.not_isSome_iff_eq_none, Entries.find_isSome_iff]
        exact hnew
      have hlast : f.held ((Setting.put s f v).setAll values).1 = v :=
        (hrest.kept hf).trans (Setting.held_put_self hv s)
      constructor
      · intro g d' hd'
        by_cases hg : f = g
        · subst hg
          simp only [Entries.find, if_true, Option.some.injEq] at hd'
          rw [hlast, ← hd']
          exact hv
        · have hname : f.name ≠ g.name := fun hname => hg (Setting.name_injective hname)
          simp only [Entries.find, if_neg hname] at hd'
          exact hrest.taken hd'
      · intro g hd'
        have hname : f.name ≠ g.name := by
          intro hname
          simp [Entries.find, hname] at hd'
        simp only [Entries.find, if_neg hname] at hd'
        have hg : g ≠ f := fun hg => hname (congrArg Setting.name hg.symm)
        rw [hrest.kept hd', Setting.held_put_of_ne hg]

/-- Named values give settings if there are no complaints about those that count, and else these
complaints, listed by name. -/
theorem ofValues_eq (values : List (String × Datum)) :
    ofValues values = if (Settings.default.setAll (Table.ofList values).entries).2 = []
      then .ok (Settings.default.setAll (Table.ofList values).entries).1
      else .error ((Settings.default.setAll (Table.ofList values).entries).2.mergeSort
        fun a b => a.1 ≤ b.1) := by
  unfold ofValues
  obtain ⟨s, complaints⟩ := Settings.default.setAll (Table.ofList values).entries
  cases complaints <;> rfl

/-- The values that count: of several under a name the last. -/
theorem mem_entries_ofList {values : List (String × Datum)} {k : String} {d : Datum} :
    (k, d) ∈ (Table.ofList values).entries ↔ Entries.find k values.reverse = some d := by
  rw [Table.mem_entries, Table.get?_ofList]

/-- The complaints about named values are about those that count and are turned down. -/
theorem mem_complaints_of_ofValues {values : List (String × Datum)}
    {complaints : List (String × Complaint)} (h : ofValues values = .error complaints)
    {k : String}
    {c : Complaint} :
    (k, c) ∈ complaints ↔ ∃ d, Entries.find k values.reverse = some d ∧ TurnsDown k d c := by
  rw [ofValues_eq] at h
  split at h
  · cases h
  · cases h
    rw [List.mem_mergeSort, mem_complaints_setAll]
    simp only [mem_entries_ofList]

/-- The names of the complaints are among those of the values, in the same order. -/
theorem keys_complaints_sublist (s : Settings Float) (values : List (String × Datum)) :
    ((s.setAll values).2.map Prod.fst).Sublist (Entries.keys values) := by
  induction values generalizing s with
  | nil => exact List.Sublist.slnil
  | cons e values ih =>
    obtain ⟨k, d⟩ := e
    cases h : s.set k d with
    | error c =>
      rw [setAll_cons_of_error h]
      exact (ih s).cons_cons k
    | ok s' =>
      rw [setAll_cons_of_ok h]
      exact (ih s').cons k

/-- The complaints about named values are listed by name, at most one about each. -/
theorem complaints_ordered_of_ofValues {values : List (String × Datum)}
    {complaints : List (String × Complaint)} (h : ofValues values = .error complaints) :
    complaints.Pairwise fun a b => a.1 < b.1 := by
  rw [ofValues_eq] at h
  split at h
  · cases h
  · cases h
    have hnames : ((Settings.default.setAll (Table.ofList values).entries).2.map
        Prod.fst).Nodup :=
      (keys_complaints_sublist _ _).nodup (Table.ofList values).nodup
    generalize (Settings.default.setAll (Table.ofList values).entries).2 = found at hnames ⊢
    have htrans (a b c : String × Complaint) (hab : decide (a.1 ≤ b.1))
        (hbc : decide (b.1 ≤ c.1)) : decide (a.1 ≤ c.1) :=
      decide_eq_true (String.le_trans (of_decide_eq_true hab) (of_decide_eq_true hbc))
    have htotal (a b : String × Complaint) : decide (a.1 ≤ b.1) || decide (b.1 ≤ a.1) := by
      simpa using String.le_total a.1 b.1
    have hsorted := List.pairwise_mergeSort htrans htotal found
    -- Sorting gives no more than `≤`; that no name comes twice makes it strict.
    have hdiffer : (found.mergeSort fun a b => decide (a.1 ≤ b.1)).Pairwise
        fun a b => a.1 ≠ b.1 :=
      List.pairwise_map.mp (((List.mergeSort_perm found _).map Prod.fst).nodup_iff.mpr hnames)
    refine hsorted.imp₂ (fun a b hle hne => ?_) hdiffer
    exact String.not_le.mp fun hge => hne (String.le_antisymm (of_decide_eq_true hle) hge)

/-- Named values give settings if each that counts is under the name of a setting that takes
it. -/
theorem exists_ofValues_eq_ok_iff {values : List (String × Datum)} :
    (∃ s, ofValues values = .ok s) ↔ ∀ k d, Entries.find k values.reverse = some d →
      ∃ f : Setting, f.name = k ∧ ∃ v, f.kind.Takes d v := by
  have hnone : (Settings.default.setAll (Table.ofList values).entries).2 = [] ↔
      ∀ k d, Entries.find k values.reverse = some d → ¬∃ c, TurnsDown k d c := by
    rw [List.eq_nil_iff_forall_not_mem]
    constructor
    · rintro h k d hd ⟨c, hc⟩
      exact h (k, c) (mem_complaints_setAll.mpr ⟨d, mem_entries_ofList.mpr hd, hc⟩)
    · rintro h ⟨k, c⟩ hmem
      obtain ⟨d, hd, hc⟩ := mem_complaints_setAll.mp hmem
      exact h k d (mem_entries_ofList.mp hd) ⟨c, hc⟩
  simp only [not_turnsDown_iff] at hnone
  rw [← hnone, ofValues_eq]
  split
  · rename_i h
    exact iff_of_true ⟨_, rfl⟩ h
  · rename_i h
    exact iff_of_false nofun h

/-- The settings that named values give follow from the defaults. -/
theorem follows_of_ofValues {values : List (String × Datum)} {s : Settings Float}
    (h : ofValues values = .ok s) :
    Follows .default s fun k => Entries.find k values.reverse := by
  rw [ofValues_eq] at h
  split at h
  · rename_i hnone
    cases h
    have hfollows := follows_setAll (Table.ofList values).nodup hnone
    have hfind : (fun k => Entries.find k (Table.ofList values).entries)
        = fun k => Entries.find k values.reverse := funext (Table.get?_ofList values)
    exact hfind ▸ hfollows
  · cases h

end Settings

end Catchment

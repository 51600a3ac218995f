import Catchment.Proofs.Day.Locality
import Catchment.Proofs.Day.Settlement

/-!
# `Catchment.Proofs.Day.Regulation`: the arrivals of a day, name by name

What the arrivals of a day do to a river or a dam is told from what comes to its
name, in order. A river takes the sum. A dam comes to a level that depends on the
sum and, if it meets heavy rain, on what comes in first: the extra release is made
then, and only what comes in later can fill the room it leaves.

Nothing is asked of the rest of the network here, since it makes no difference. Only
`regulated_settlement`, which tells of all names at once, is about sound networks.

* `amountsTo`, `inflows`: what comes to a name, and what of it counts.
* `Dam.levelAfter`, `Dam.releaseAfter`: the level a dam comes to, and what it lets go.
* `levelAfter_concat`, `Dam.Ready.settle_concat`: one more arrival.
* `get?_rivers_settlement_of_plain`: a river without a dam after all arrivals.
* `Settlement.RegulatedAt`, `regulatedAt_settlement`: a dam and its river after all arrivals.
* `Settlement.Regulated`, `regulated_settlement`: the rivers and dams after all arrivals.
-/

set_option autoImplicit false

namespace Catchment

/-- What comes to a name, in order. -/
def amountsTo (name : String) (arrivals : List (String × Rat)) : List Rat :=
  (arrivals.filter fun a => a.1 = name).map (·.2)

/-- What comes to a name of two rows of arrivals comes of the first and then of the second. -/
theorem amountsTo_append (name : String) (xs ys : List (String × Rat)) :
    amountsTo name (xs ++ ys) = amountsTo name xs ++ amountsTo name ys := by
  rw [amountsTo, List.filter_append, List.map_append]
  rfl

/-- An amount comes to a name exactly if it is among the arrivals under this name. -/
theorem mem_amountsTo {name : String} {arrivals : List (String × Rat)} {x : Rat} :
    x ∈ amountsTo name arrivals ↔ (name, x) ∈ arrivals := by
  simp [amountsTo]

/-- What comes in at a name, in order. Nothing, or less, does not come in. -/
def inflows (name : String) (arrivals : List (String × Rat)) : List Rat :=
  (amountsTo name arrivals).filter (0 < ·)

/-- What comes in at a name is more than nothing. -/
theorem pos_of_mem_inflows {name : String} {arrivals : List (String × Rat)} {x : Rat}
    (hx : x ∈ inflows name arrivals) : 0 < x :=
  of_decide_eq_true (List.mem_filter.mp hx).2

/-- What comes in at a name is no less than nothing. -/
theorem nonneg_of_mem_inflows {name : String} {arrivals : List (String × Rat)} :
    ∀ x ∈ inflows name arrivals, 0 ≤ x :=
  fun _ hx => (pos_of_mem_inflows hx).le

/-- Where only some water arrives, all that comes to a name comes in there. -/
theorem inflows_eq_amountsTo {name : String} {arrivals : List (String × Rat)}
    (h : ∀ a ∈ arrivals, 0 < a.2) : inflows name arrivals = amountsTo name arrivals := by
  refine List.filter_eq_self.mpr fun x hx => ?_
  exact decide_eq_true (h (name, x) (mem_amountsTo.mp hx))

/-- In a table a name occurs once. -/
theorem amountsTo_entries {waiting : Table Rat} {name : String} {x : Rat}
    (h : waiting.get? name = some x) : amountsTo name waiting.entries = [x] := by
  obtain ⟨entries, hnodup⟩ := waiting
  change Entries.find name entries = some x at h
  show amountsTo name entries = [x]
  -- The induction is on the entries.
  induction entries with
  | nil => cases h
  | cons e rest ih =>
    obtain ⟨k, y⟩ := e
    obtain ⟨hk, hrest⟩ := List.nodup_cons.mp hnodup
    by_cases hname : k = name
    · subst hname
      have hy : y = x := by simpa [Entries.find] using h
      have hnone : amountsTo k rest = [] := by
        refine List.eq_nil_iff_forall_not_mem.mpr fun z hz => hk ?_
        exact List.mem_map.mpr ⟨(k, z), mem_amountsTo.mp hz, rfl⟩
      rw [← List.singleton_append, amountsTo_append, hnone, hy]
      simp [amountsTo]
    · have hfind : Entries.find name rest = some x := by simpa [Entries.find, hname] using h
      rw [← ih hrest hfind]
      simp [amountsTo, hname]

namespace Dam

/-- The level a dam comes to on a day on which some amounts come in, one after the other. -/
def levelAfter (rule : StormRule Rat) (rain : Rat) (d : Dam Rat) : List Rat → Rat
  | [] => d.level
  | x :: xs => d.levelIfFirst rule rain (x :: xs).sum x

/-- What a dam lets go on a day on which some amounts come in: all that it does not keep. Where
nothing comes in, the rain does not count either. -/
def releaseAfter (rule : StormRule Rat) (rain : Rat) (d : Dam Rat) (xs : List Rat) : Rat :=
  if xs = [] then 0 else d.available xs.sum rain - d.levelAfter rule rain xs

/-- A dam within its bounds. -/
structure Regular (d : Dam Rat) : Prop where
  level : 0 ≤ d.level ∧ d.level ≤ d.capacity
  target : 0 ≤ d.targetPercent ∧ d.targetPercent ≤ 100

/-- A dam that can deal with the rain of a day: it is within its bounds, it does not rain less
than not at all, and what settings say of heavy rain makes sense, as far as the dam has to go by
it. -/
structure Ready (rule : StormRule Rat) (rain : Rat) (d : Dam Rat) : Prop extends d.Regular where
  rain_nonneg : 0 ≤ rain
  heavyRain : 0 ≤ rule.heavyRain
  extraShare : d.bracesFor rule rain = true → 0 ≤ rule.extraShare

/-- What comes in at a dam, with the rain that counts each time: all of it counts with what comes
in first. -/
def withRain (rain : Rat) : List Rat → List (Rat × Rat)
  | [] => []
  | x :: xs => (x, rain) :: xs.map fun y => (y, 0)

/-- The rain counts with one more amount only if none was there before. -/
theorem withRain_concat (rain : Rat) (xs : List Rat) (y : Rat) :
    withRain rain (xs ++ [y]) = withRain rain xs ++ [(y, if xs = [] then rain else 0)] := by
  cases xs with
  | nil => rfl
  | cons x rest => simp [withRain]

variable {d : Dam Rat} {rule : StormRule Rat} {rain : Rat}

/-- A dam within its bounds has no capacity below nought. -/
theorem Regular.capacity_nonneg (hd : d.Regular) : 0 ≤ d.capacity := hd.level.1.trans hd.level.2

/-- There is no less than nothing at a dam within its bounds once something has come in. -/
theorem Regular.available_nonneg (hd : d.Regular) (hrain : 0 ≤ rain) {x : Rat} (hx : 0 ≤ x) :
    0 ≤ d.available x rain :=
  add_nonneg (add_nonneg hd.level.1 hx) hrain

/-- A dam within its bounds is ready for any rain, if the settings make sense. -/
theorem Regular.ready (hd : d.Regular) (hrule : rule.Admissible) (hrain : 0 ≤ rain) :
    d.Ready rule rain :=
  ⟨hd, hrain, hrule.heavyRain, fun _ => hrule.extraShare.1⟩

/-- A dam within its bounds never comes to a level below nought. -/
theorem Regular.levelAfter_nonneg (hd : d.Regular) {xs : List Rat} (hxs : ∀ x ∈ xs, 0 ≤ x) :
    0 ≤ d.levelAfter rule rain xs := by
  cases xs with
  | nil => exact hd.level.1
  | cons x xs =>
    have hrest : 0 ≤ xs.sum := List.sum_nonneg fun y hy => hxs y (List.mem_cons_of_mem _ hy)
    have hlevel : 0 ≤ (d.settle rule x rain).level := level_settle_nonneg
    refine le_min ?_ (target_nonneg hd.capacity_nonneg hd.target.1)
    rw [List.sum_cons]
    linarith

/-- A dam within its bounds never comes to a level above its capacity. -/
theorem Regular.levelAfter_le (hd : d.Regular) (xs : List Rat) :
    d.levelAfter rule rain xs ≤ d.capacity := by
  cases xs with
  | nil => exact hd.level.2
  | cons x xs =>
    exact (min_le_right _ _).trans (target_le_capacity hd.capacity_nonneg hd.target.2)

/-- Without heavy rain the level is told from the sum of all that comes in. -/
theorem Regular.levelAfter_of_calm (hd : d.Regular) (hrain : 0 ≤ rain) {xs : List Rat}
    (hxs : ∀ x ∈ xs, 0 ≤ x) (hne : xs ≠ []) (hcalm : d.bracesFor rule rain = false) :
    d.levelAfter rule rain xs = min (d.available xs.sum rain) d.target := by
  cases xs with
  | nil => exact absurd rfl hne
  | cons x rest =>
    have hx : 0 ≤ x := hxs x List.mem_cons_self
    have hle : x ≤ (x :: rest).sum := List.single_le_sum hxs x List.mem_cons_self
    exact levelIfFirst_of_calm hd.capacity_nonneg hd.target
      (hd.available_nonneg hrain hx) hle hcalm

/-- With one amount the level in closed form is the one to which the dam is regulated. -/
theorem Ready.levelAfter_singleton (hd : d.Ready rule rain) {x : Rat} (hx : 0 ≤ x) :
    d.levelAfter rule rain [x] = (d.settle rule x rain).level := by
  have hlevel : (d.settle rule x rain).level ≤ d.target :=
    level_settle_le_target hd.extraShare hd.capacity_nonneg hd.target
      (hd.available_nonneg hd.rain_nonneg hx)
  rw [levelAfter, levelIfFirst, List.sum_singleton, sub_self, add_zero, min_eq_left hlevel]

/-- A later arrival. The rain has been counted already, so the dam just fills up to its target. -/
theorem Regular.levelAfter_concat (hd : d.Regular) (hheavy : 0 ≤ rule.heavyRain) {x y : Rat}
    {xs : List Rat} (hxs : ∀ z ∈ x :: xs, 0 ≤ z) (hy : 0 ≤ y) :
    d.levelAfter rule rain (x :: xs ++ [y])
      = (({ d with level := d.levelAfter rule rain (x :: xs) } : Dam Rat).settle rule y
          0).level := by
  have hlevel : 0 ≤ d.levelAfter rule rain (x :: xs) := hd.levelAfter_nonneg hxs
  have hd' : ({ d with level := d.levelAfter rule rain (x :: xs) } : Dam Rat).Regular :=
    ⟨⟨hlevel, hd.levelAfter_le _⟩, hd.target⟩
  rw [level_settle_of_calm hd'.capacity_nonneg hd'.target.1 hd'.target.2
    (hd'.available_nonneg (le_refl _) hy) (bracesFor_zero hheavy)]
  show min ((d.settle rule x rain).level + ((x :: (xs ++ [y])).sum - x)) d.target
    = min (min ((d.settle rule x rain).level + ((x :: xs).sum - x)) d.target + y + 0) d.target
  rw [List.sum_cons, List.sum_cons, List.sum_append, List.sum_singleton, add_sub_cancel_left,
    add_sub_cancel_left, add_zero, ← add_assoc]
  -- Once the dam is at its target, what comes in later is let go at once.
  rcases le_total ((d.settle rule x rain).level + xs.sum) d.target with hlow | hhigh
  · rw [min_eq_left hlow]
  · rw [min_eq_right hhigh, min_eq_right (by linarith), min_eq_right (by linarith)]

/-- What a dam comes to at a further arrival, and what it lets go. The rain counts at the first
arrival, and at no later one. -/
theorem Ready.settle_concat (hd : d.Ready rule rain) {xs : List Rat} (hxs : ∀ x ∈ xs, 0 ≤ x)
    {y : Rat} (hy : 0 ≤ y) :
    let now : Dam Rat := { d with level := d.levelAfter rule rain xs }
    let counts := if xs = [] then rain else 0
    (now.settle rule y counts).level = d.levelAfter rule rain (xs ++ [y]) ∧
      d.releaseAfter rule rain xs + now.release rule y counts
        = d.releaseAfter rule rain (xs ++ [y]) := by
  intro now counts
  have hnow : now.Regular :=
    ⟨⟨hd.levelAfter_nonneg hxs, hd.levelAfter_le _⟩, hd.target⟩
  have hcounts : 0 ≤ counts := by
    show 0 ≤ if xs = [] then rain else 0
    split
    · exact hd.rain_nonneg
    · exact le_refl _
  have hlevel : (now.settle rule y counts).level = d.levelAfter rule rain (xs ++ [y]) := by
    cases hcases : xs with
    | nil =>
      rw [List.nil_append, hd.levelAfter_singleton hy]
      simp only [now, counts, hcases, if_true, levelAfter]
    | cons x rest =>
      rw [hd.levelAfter_concat hd.heavyRain (hcases ▸ hxs) hy]
      simp only [now, counts, hcases, if_neg (List.cons_ne_nil x rest)]
  refine ⟨hlevel, ?_⟩
  -- What is not let go is kept, so the release is what the levels leave over.
  have hkept : (now.settle rule y counts).level
      = now.level + y + counts - now.release rule y counts :=
    level_settle hnow.capacity_nonneg (hnow.available_nonneg hcounts hy)
  have hne : xs ++ [y] ≠ [] := List.append_ne_nil_of_right_ne_nil _ (List.cons_ne_nil _ _)
  rw [releaseAfter, releaseAfter, if_neg hne, ← hlevel, hkept, List.sum_append,
    List.sum_singleton]
  show _ = d.level + (xs.sum + y) + rain - _
  cases hcases : xs with
  | nil =>
    simp only [now, counts, hcases, levelAfter, if_true, List.sum_nil]
    ring
  | cons x rest =>
    simp only [now, counts, hcases, if_neg (List.cons_ne_nil x rest), available]
    ring

end Dam

namespace Settlement

variable {rule : StormRule Rat} {day : Int} {s : Settlement Rat} {name : String}

/-- All that comes in at a name, one after the other. Nothing else that arrives counts for it. -/
theorem sameAt_foldl_inflows (s : Settlement Rat) (arrivals : List (String × Rat)) :
    SameAt name (arrivals.foldl (arrive rule day) s)
      (((inflows name arrivals).map fun x => (name, x)).foldl (arrive rule day) s) := by
  -- The induction is on the arrivals, for any settlement.
  induction arrivals generalizing s with
  | nil => exact .refl name s
  | cons a rest ih =>
    obtain ⟨k, x⟩ := a
    rw [List.foldl_cons]
    by_cases hk : k = name
    · subst hk
      by_cases hx : 0 < x
      · have hin : inflows k ((k, x) :: rest) = x :: inflows k rest := by
          simp [inflows, amountsTo, hx]
        rw [hin]
        exact ih _
      · -- Nothing, or less, does not arrive.
        have hin : inflows k ((k, x) :: rest) = inflows k rest := by
          simp [inflows, amountsTo, hx]
        have hstays : s.arrive rule day (k, x) = s := if_pos (not_lt.mp hx)
        rw [hin, hstays]
        exact ih s
    · have hin : inflows name ((k, x) :: rest) = inflows name rest := by
        simp [inflows, amountsTo, hk]
      rw [hin]
      -- An arrival in another place may as well come after all that comes in here.
      exact (sameAt_foldl (sameAt_arrive_of_ne hk s) rest).trans
        ((sameAt_foldl (.refl name s) rest).symm.trans (ih s))

/-- A dam and its river after some amounts have come in, and what has been recorded and told of
the dam. -/
structure RegulatedAt (rule : StormRule Rat) (day : Int) (name : String) (d : Dam Rat)
    (r : River Rat) (before : Rat) (xs : List Rat) (s : Settlement Rat) : Prop where
  dam : s.dams.get? name = some { d with level := d.levelAfter rule (r.rainOn day) xs }
  river : s.rivers.get? name = some
    { r with volume := if xs = [] then r.volume else d.levelAfter rule (r.rainOn day) xs }
  released : s.released.get? name = some (before + d.releaseAfter rule (r.rainOn day) xs)
  operated : name ∈ s.operated ↔ xs ≠ []
  intakes : Event.intakes name s.events = Dam.withRain (r.rainOn day) xs

variable {d : Dam Rat} {r : River Rat} {before : Rat} {xs : List Rat}

/-- What is known of a dam and its river is known of every settlement that is the same in their
place. -/
theorem RegulatedAt.of_sameAt {t : Settlement Rat}
    (h : RegulatedAt rule day name d r before xs s) (hts : SameAt name t s) :
    RegulatedAt rule day name d r before xs t :=
  ⟨hts.dam.trans h.dam, hts.river.trans h.river, hts.released.trans h.released,
    hts.operated.trans h.operated, hts.intakes.trans h.intakes⟩

/-- One more amount comes in. -/
theorem RegulatedAt.arrive (h : RegulatedAt rule day name d r before xs s)
    (hd : d.Ready rule (r.rainOn day)) (hxs : ∀ x ∈ xs, 0 ≤ x) {y : Rat} (hy : 0 < y) :
    RegulatedAt rule day name d r before (xs ++ [y]) (s.arrive rule day (name, y)) := by
  obtain ⟨hlevel, hrelease⟩ := hd.settle_concat hxs hy.le
  have hne : xs ++ [y] ≠ [] := List.append_ne_nil_of_right_ne_nil _ (List.cons_ne_nil _ _)
  -- The rain that is left is what counts with this amount.
  have hleft : ∀ v, s.rainLeft day { r with volume := v } name
      = if xs = [] then r.rainOn day else 0 := by
    intro v
    unfold rainLeft
    simp only [h.operated, ne_eq, ite_not]
    rfl
  rw [arrive_eq_fillDam (not_le.mpr hy) h.river h.dam]
  refine ⟨?_, ?_, ?_, ?_, ?_⟩
  · show (s.dams.insert name _).get? name = _
    rw [Table.get?_insert, if_pos rfl, ← hlevel, ← hleft]
    rfl
  · rw [rivers_fillDam h.river, Table.get?_insert, if_pos rfl, if_neg hne, ← hlevel, hleft]
  · rw [released_fillDam h.released, Table.get?_insert, if_pos rfl, hleft, add_assoc, hrelease]
  · show name ∈ name :: s.operated ↔ _
    simp
  · show Event.intakes name (s.events ++ [.regulated day name y (s.rainLeft day _ name) _ _ _])
      = _
    rw [Event.intakes_concat, h.intakes, Dam.withRain_concat, hleft, Event.intake?, if_pos rfl]
    rfl

end Settlement

namespace Network

variable {rule : StormRule Rat} {day : Int} {n : Network Rat} {name : String} {d : Dam Rat}
  {r : River Rat} {released : Table Rat} {before : Rat}

/-- What the arrivals of a day do in a place is what the amounts do that come in there. -/
theorem sameAt_settlement_inflows (rule : StormRule Rat) (day : Int) (released : Table Rat)
    (n : Network Rat) (name : String) :
    (n.settlement rule day released).SameAt name
      (((inflows name n.arrivals).map fun x => (name, x)).foldl (Settlement.arrive rule day)
        ⟨n.rivers, n.dams, released, [], []⟩) :=
  Settlement.sameAt_foldl_inflows _ n.arrivals

/-- A river without a dam takes the sum of all that comes in. -/
theorem get?_rivers_settlement_of_plain (hr : n.rivers.get? name = some r)
    (hd : n.dams.get? name = none) :
    (n.settlement rule day released).rivers.get? name
      = some { r with volume := r.volume + (inflows name n.arrivals).sum } := by
  rw [(sameAt_settlement_inflows rule day released n name).river]
  have hpos : ∀ x ∈ inflows name n.arrivals, 0 < x := fun _ hx => pos_of_mem_inflows hx
  generalize inflows name n.arrivals = xs at hpos
  -- The induction is on what comes in, from the last. There is no dam at any time.
  suffices h : ∀ s : Settlement Rat,
      s = (xs.map fun x => (name, x)).foldl (Settlement.arrive rule day)
          ⟨n.rivers, n.dams, released, [], []⟩ →
      s.dams.get? name = none ∧
        s.rivers.get? name = some { r with volume := r.volume + xs.sum } from
    (h _ rfl).2
  induction xs using List.reverseRecOn with
  | nil =>
    rintro s rfl
    exact ⟨hd, by simpa using hr⟩
  | append_singleton xs y ih =>
    rintro s rfl
    obtain ⟨hdam, hriver⟩ := ih (fun x hx => hpos x (List.mem_append_left _ hx)) _ rfl
    have hy : 0 < y := hpos y (by simp)
    rw [List.map_append, List.map_singleton, List.foldl_append, List.foldl_cons, List.foldl_nil,
      Settlement.arrive_eq_fillRiver (not_le.mpr hy) hriver hdam]
    refine ⟨hdam, ?_⟩
    rw [Settlement.rivers_fillRiver hriver, Table.get?_insert, if_pos rfl, List.sum_append,
      List.sum_singleton, add_assoc]

/-- A dam and its river after the arrivals of a day, and what has been recorded and told of the
dam, whatever the rest of the network is. -/
theorem regulatedAt_settlement (hd : n.dams.get? name = some d) (hr : n.rivers.get? name = some r)
    (hready : d.Ready rule (r.rainOn day)) (hreleased : released.get? name = some before) :
    (n.settlement rule day released).RegulatedAt rule day name d r before
      (inflows name n.arrivals) := by
  refine Settlement.RegulatedAt.of_sameAt ?_ (sameAt_settlement_inflows rule day released n name)
  have hpos : ∀ x ∈ inflows name n.arrivals, 0 < x := fun _ hx => pos_of_mem_inflows hx
  generalize inflows name n.arrivals = xs at hpos
  -- The induction is on what comes in, from the last.
  induction xs using List.reverseRecOn with
  | nil =>
    refine ⟨hd, hr, ?_, by simp, rfl⟩
    rw [Dam.releaseAfter, if_pos rfl, add_zero]
    exact hreleased
  | append_singleton xs y ih =>
    have hxs : ∀ x ∈ xs, 0 < x := fun x hx => hpos x (List.mem_append_left _ hx)
    have hy : 0 < y := hpos y (by simp)
    rw [List.map_append, List.map_singleton, List.foldl_append, List.foldl_cons, List.foldl_nil]
    exact (ih hxs).arrive hready (fun x hx => (hxs x hx).le) hy

end Network

/-! ### All names at once -/

namespace Settlement

variable {rule : StormRule Rat} {day : Int} {n : Network Rat} {s : Settlement Rat}
  {done : List (String × Rat)} {name : String}

/-- The rivers and dams after some arrivals, told from what has come to their names. -/
structure Regulated (rule : StormRule Rat) (day : Int) (n : Network Rat)
    (done : List (String × Rat)) (s : Settlement Rat) : Prop where
  positive : ∀ a ∈ done, 0 < a.2
  plain : ∀ {name r}, n.rivers.get? name = some r → n.dams.get? name = none →
    s.rivers.get? name = some { r with volume := r.volume + (amountsTo name done).sum }
  dam : ∀ {name d r}, n.dams.get? name = some d → n.rivers.get? name = some r →
    s.dams.get? name
      = some { d with level := d.levelAfter rule (r.rainOn day) (amountsTo name done) }
  mirror : ∀ {name d r}, n.dams.get? name = some d → n.rivers.get? name = some r →
    s.rivers.get? name = some
      { r with volume := if amountsTo name done = [] then r.volume
                         else d.levelAfter rule (r.rainOn day) (amountsTo name done) }
  released : ∀ {name d r}, n.dams.get? name = some d → n.rivers.get? name = some r →
    s.released.get? name = some (d.releaseAfter rule (r.rainOn day) (amountsTo name done))
  operated : ∀ {name d}, n.dams.get? name = some d →
    (name ∈ s.operated ↔ amountsTo name done ≠ [])

/-- No less than nothing has come to any name. -/
theorem Regulated.amountsTo_pos (h : s.Regulated rule day n done) :
    ∀ x ∈ amountsTo name done, 0 ≤ x :=
  fun x hx => (h.positive (name, x) (mem_amountsTo.mp hx)).le

end Settlement

namespace Network

variable {rule : StormRule Rat} {day : Int} {n : Network Rat}

/-- Every dam of a network with sound water is within its bounds. -/
theorem Sound.regular (hn : n.Sound) (hwf : n.WellFormed) {name : String} {d : Dam Rat}
    (hd : n.dams.get? name = some d) : d.Regular :=
  ⟨hn.level hd, hwf.target hd⟩

/-- The rivers and dams after all arrivals of a day. -/
theorem regulated_settlement (hrule : rule.Admissible) (hn : n.Sound) (hwf : n.WellFormed)
    (hall : n.All (0 ≤ ·)) :
    (n.settlement rule day n.nothingReleased).Regulated rule day n n.arrivals := by
  have hpositive : ∀ a ∈ n.arrivals, 0 < a.2 := fun a ha => (hn.arrivals ha).1
  -- Only arrivals above nought count as inflows, and by then there are no others.
  have hinflows : ∀ name, inflows name n.arrivals = amountsTo name n.arrivals :=
    fun name => inflows_eq_amountsTo hpositive
  have hat : ∀ {name d r}, n.dams.get? name = some d → n.rivers.get? name = some r →
      (n.settlement rule day n.nothingReleased).RegulatedAt rule day name d r 0
        (amountsTo name n.arrivals) := by
    intro name d r hd hr
    have hnothing : n.nothingReleased.get? name = some 0 := by
      rw [nothingReleased, Table.get?_map, hd]
      rfl
    rw [← hinflows]
    exact regulatedAt_settlement hd hr
      ((hn.regular hwf hd).ready hrule (rainOn_nonneg hall hr)) hnothing
  refine ⟨hpositive, fun {name r} hr hd => ?_, fun {name d r} hd hr => (hat hd hr).dam,
    fun {name d r} hd hr => (hat hd hr).river, fun {name d r} hd hr => ?_, fun {name d} hd => ?_⟩
  · rw [← hinflows]
    exact get?_rivers_settlement_of_plain hr hd
  · rw [(hat hd hr).released, zero_add]
  · obtain ⟨r, hr⟩ := (n.rivers.mem_keys name).mp
      (hwf.river_of_dam ((n.dams.mem_keys name).mpr ⟨d, hd⟩))
    exact (hat hd hr).operated

end Network

end Catchment

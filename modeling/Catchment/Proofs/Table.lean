import Mathlib.Algebra.BigOperators.Group.Finset.Basic
import Catchment.Proofs.Exact
import Catchment.Table

/-!
# `Catchment.Proofs.Table`: tables, entry by entry and in sum

A table is its entries. Two tables with the same names in the same order are equal
when every look-up gives the same. `Table.weigh` adds up a weight of every entry.
Giving a name a new entry changes the sum by what the new entry weighs more than
the old one, and this is what every balance of the library rests on.

* `Table.ext_get?`: tables with the same names and the same look-ups are equal.
* `modify_eq_insert`: changing the entry of a known name is giving it a new one.
* `weigh_insert`: what a new entry does to a sum.
-/

set_option autoImplicit false

namespace Catchment

namespace Table

variable {β γ δ : Type}

/-- Tables with the same entries are the same: that no name occurs twice adds nothing. -/
theorem ext_entries {t u : Table β} (h : t.entries = u.entries) : t = u := by
  cases t
  cases u
  cases h
  rfl

/-- What stands in a list of entries without a name twice is what is found there. -/
private theorem find_eq_some_iff {es : List (String × β)} (h : (Entries.keys es).Nodup)
    (k : String) (v : β) : Entries.find k es = some v ↔ (k, v) ∈ es := by
  induction es with
  | nil => simp [Entries.find]
  | cons e es ih =>
    obtain ⟨j, w⟩ := e
    obtain ⟨hj, hes⟩ := List.nodup_cons.mp h
    by_cases hjk : j = k
    · subst hjk
      -- The name is not among the rest, so only the first entry can be meant.
      have hv : (j, v) ∉ es := fun hm => hj (List.mem_map.mpr ⟨(j, v), hm, rfl⟩)
      simp [Entries.find, hv, eq_comm]
    · have hne : (k, v) ≠ (j, w) := fun he => hjk (congrArg Prod.fst he).symm
      simp [Entries.find, hjk, hne, ih hes]

/-- An entry is in a table exactly if it is found under its name. This is where it counts that no
name occurs twice. -/
theorem mem_entries (t : Table β) (k : String) (v : β) :
    (k, v) ∈ t.entries ↔ t.get? k = some v :=
  (find_eq_some_iff t.nodup k v).symm

/-- A name is among those of a table exactly if something is found under it. -/
theorem mem_keys (t : Table β) (k : String) : k ∈ t.keys ↔ ∃ v, t.get? k = some v := by
  rw [← t.contains_iff k, contains, Option.isSome_iff_exists]

/-- The names after an insertion are those before and the inserted one. -/
theorem mem_keys_insert (t : Table β) (k j : String) (v : β) :
    j ∈ (t.insert k v).keys ↔ j ∈ t.keys ∨ j = k := by
  rw [keys_insert]
  split
  · rename_i hk
    exact ⟨Or.inl, fun h => h.elim id fun hj => hj ▸ hk⟩
  · rw [List.mem_append, List.mem_singleton]

/-- What holds of the new entry and of all old ones. -/
theorem of_get?_insert {P : String → β → Prop} {t : Table β} {k : String} {v : β} (hnew : P k v)
    (hold : ∀ {j w}, t.get? j = some w → P j w) {j : String} {w : β}
    (h : (t.insert k v).get? j = some w) : P j w := by
  rw [get?_insert] at h
  split at h
  · rename_i hj
    cases h
    exact hj ▸ hnew
  · exact hold h

/-- Nothing is found under a name exactly if it is not among the names. -/
theorem get?_eq_none_iff (t : Table β) (k : String) : t.get? k = none ↔ k ∉ t.keys := by
  rw [mem_keys, ← Option.not_isSome_iff_eq_none, Option.isSome_iff_exists]

/-- The entries are the names, each with what is found under it. -/
private theorem map_some_entries (t : Table β) :
    t.entries.map (fun e => (e.1, some e.2)) = t.keys.map fun k => (k, t.get? k) := by
  rw [keys, Entries.keys, List.map_map]
  refine List.map_congr_left fun e he => ?_
  simp [(t.mem_entries e.1 e.2).mp he]

/-- The entries, where it is known what is found under every name. -/
theorem entries_eq_map_keys (t : Table β) {f : String → β}
    (h : ∀ k ∈ t.keys, t.get? k = some (f k)) : t.entries = t.keys.map fun k => (k, f k) := by
  rw [keys, Entries.keys, List.map_map]
  refine (List.map_id _).symm.trans (List.map_congr_left fun e he => ?_)
  have hget : t.get? e.1 = some e.2 := (t.mem_entries e.1 e.2).mp he
  have hkey := h e.1 ((t.mem_keys e.1).mpr ⟨e.2, hget⟩)
  rw [hget, Option.some.injEq] at hkey
  exact Prod.ext rfl hkey

/-- Tables with the same names in the same order, and with the same found under each, are the
same. -/
theorem ext_get? {t u : Table β} (hk : t.keys = u.keys) (h : ∀ k, t.get? k = u.get? k) :
    t = u := by
  apply ext_entries
  have he : t.entries.map (fun e => (e.1, some e.2)) = u.entries.map fun e =>
    (e.1, some e.2) := by
    rw [map_some_entries, map_some_entries, hk]
    exact List.map_congr_left fun k _ => by rw [h k]
  refine List.map_injective_iff.mpr ?_ he
  rintro ⟨k, v⟩ ⟨j, w⟩ hjw
  simpa using hjw

/-- It is enough to look up the names that there are. -/
theorem ext_get?_of_mem {t u : Table β} (hk : t.keys = u.keys)
    (h : ∀ k ∈ t.keys, t.get? k = u.get? k) : t = u := by
  refine ext_get? hk fun k => ?_
  by_cases hmem : k ∈ t.keys
  · exact h k hmem
  · rw [(t.get?_eq_none_iff k).mpr hmem, (u.get?_eq_none_iff k).mpr (hk ▸ hmem)]

/-! ### Pointwise changes -/

/-- Two changes of all entries, one after the other, are one change. -/
theorem mapWithKey_mapWithKey (f : String → β → γ) (g : String → γ → δ) (t : Table β) :
    (t.mapWithKey f).mapWithKey g = t.mapWithKey fun k v => g k (f k v) := by
  apply ext_entries
  simp [mapWithKey]

/-- Two changes of all entries that do not look at names are one such change. -/
theorem map_map (f : β → γ) (g : γ → δ) (t : Table β) :
    (t.map f).map g = t.map fun v => g (f v) :=
  mapWithKey_mapWithKey (fun _ => f) (fun _ => g) t

/-- A change that looks at names, and then one that does not, are one change that does. -/
theorem map_mapWithKey (f : String → β → γ) (g : γ → δ) (t : Table β) :
    (t.mapWithKey f).map g = t.mapWithKey fun k v => g (f k v) :=
  mapWithKey_mapWithKey f (fun _ => g) t

/-- The change that leaves each entry as it is leaves the table as it is. -/
theorem map_id (t : Table β) : t.map id = t :=
  ext_entries (List.map_id _)

/-- A change that does not look at names, and then one that does, are one change that does. -/
theorem mapWithKey_map (f : β → γ) (g : String → γ → δ) (t : Table β) :
    (t.map f).mapWithKey g = t.mapWithKey fun k v => g k (f v) :=
  mapWithKey_mapWithKey (fun _ => f) g t

/-- Changes that agree on the entries of a table make the same of it. -/
theorem mapWithKey_congr {f g : String → β → γ} {t : Table β}
    (h : ∀ k v, t.get? k = some v → f k v = g k v) : t.mapWithKey f = t.mapWithKey g := by
  apply ext_entries
  refine List.map_congr_left fun e he => ?_
  rw [h e.1 e.2 ((t.mem_entries e.1 e.2).mp he)]

/-- A pointwise change of a table with one entry changed, where it agrees with the change of that
entry. -/
theorem map_modify {f : β → β} {f' : γ → γ} {g : β → γ} (h : ∀ v, g (f v) = f' (g v))
    (t : Table β) (k : String) : (t.modify k f).map g = (t.map g).modify k f' := by
  rw [modify, modify, map_mapWithKey, mapWithKey_map]
  refine mapWithKey_congr fun j v _ => ?_
  split
  · exact h v
  · rfl

/-- A change of all entries goes through an insertion: the inserted entry is changed as well. -/
theorem map_insert (f : β → γ) (t : Table β) (k : String) (v : β) :
    (t.insert k v).map f = (t.map f).insert k (f v) := by
  apply ext_get?
  · rw [keys_map, keys_insert, keys_insert, keys_map]
  · intro j
    rw [get?_map, get?_insert, get?_insert, get?_map]
    split <;> rfl

/-- The values after a change of all entries are the changed values, in order. -/
theorem values_map (f : β → γ) (t : Table β) : (t.map f).values = t.values.map f := by
  simp [values, map, mapWithKey]

/-- Inserting what a table has already under a name leaves the table as it is. -/
theorem insert_eq_self {t : Table β} {k : String} {v : β} (h : t.get? k = some v) :
    t.insert k v = t := by
  apply ext_get?
  · rw [keys_insert, if_pos ((t.mem_keys k).mpr ⟨v, h⟩)]
  · intro j
    rw [get?_insert]
    split
    · rename_i hj
      rw [hj, h]
    · rfl

/-- Changing the entry of a known name is giving it a new one. -/
theorem modify_eq_insert {t : Table β} {k : String} {v : β} (h : t.get? k = some v) (f : β → β) :
    t.modify k f = t.insert k (f v) := by
  apply ext_get?
  · have hk : k ∈ t.keys := (t.mem_keys k).mpr ⟨v, h⟩
    rw [keys_modify, keys_insert, if_pos hk]
  · intro j
    rw [get?_modify, get?_insert]
    by_cases hj : j = k
    · subst hj
      simp [h]
    · simp [hj]

/-! ### Tables from lists -/

/-- An entry under a new name is added at the end. -/
theorem entries_insert_of_not_mem {t : Table β} {k : String} (v : β) (h : k ∉ t.keys) :
    (t.insert k v).entries = t.entries ++ [(k, v)] := by
  have hput :
      ∀ {es : List (String × β)}, k ∉ Entries.keys es → Entries.put k v es = es ++ [(k, v)] := by
    intro es hes
    induction es with
    | nil => rfl
    | cons e es ih =>
      obtain ⟨hne, hrest⟩ := not_or.mp (List.mem_cons.not.mp hes)
      rw [Entries.put, if_neg (Ne.symm hne), ih hrest, List.cons_append]
  exact hput h

/-- A list in which no name occurs twice is the list of the entries that it builds. -/
theorem entries_ofList {es : List (String × β)} (h : (Entries.keys es).Nodup) :
    (ofList es).entries = es := by
  -- The induction is on the list, behind whatever entries there are already.
  have hfold : ∀ (es : List (String × β)) (t : Table β), (t.keys ++ Entries.keys es).Nodup →
      (es.foldl (fun t e => t.insert e.1 e.2) t).entries = t.entries ++ es := by
    intro es
    induction es with
    | nil => exact fun t _ => (List.append_nil _).symm
    | cons e es ih =>
      intro t hnodup
      have hnew : e.1 ∉ t.keys := fun hmem =>
        (List.nodup_append.mp hnodup).2.2 e.1 hmem e.1 List.mem_cons_self rfl
      have hkeys : (t.insert e.1 e.2).keys = t.keys ++ [e.1] := by rw [keys_insert, if_neg hnew]
      rw [List.foldl_cons, ih, entries_insert_of_not_mem e.2 hnew, List.append_assoc,
        List.singleton_append]
      rwa [hkeys, List.append_assoc, List.singleton_append]
  exact hfold es ∅ h

/-- Of several entries under a name the last counts. -/
theorem get?_ofList (es : List (String × β)) (k : String) :
    (ofList es).get? k = Entries.find k es.reverse := by
  induction es using List.reverseRecOn with
  | nil => rfl
  | append_singleton es e ih =>
    have hlast : ofList (es ++ [e]) = (ofList es).insert e.1 e.2 := List.foldl_concat ..
    rw [hlast, get?_insert, ih, List.reverse_concat]
    simp [Entries.find, eq_comm]

/-- A change of all entries may be made before the table is put together from a list. -/
theorem map_ofList (f : β → γ) (es : List (String × β)) :
    (ofList es).map f = ofList (es.map fun e => (e.1, f e.2)) := by
  rw [ofList, ofList, List.foldl_map]
  exact (List.foldl_hom (map f) fun t e => (t.map_insert f e.1 e.2).symm).symm

/-- If some names get an entry from their entries in a list, they stay in order. -/
theorem keys_filterMap_sublist (f : β → Option γ) (es : List (String × β)) :
    (Entries.keys (es.filterMap fun e => (f e.2).map fun v => (e.1, v))).Sublist
      (Entries.keys es) := by
  induction es with
  | nil => exact List.Sublist.refl []
  | cons e es ih =>
    cases h : f e.2 with
    | none =>
      rw [List.filterMap_cons_none (by rw [h, Option.map_none])]
      exact ih.cons _
    | some v =>
      rw [List.filterMap_cons_some (by rw [h, Option.map_some])]
      exact ih.cons_cons _

/-! ### Sums over entries -/

/-- The sum of the weights of all entries. -/
def weigh (w : String → β → Rat) (t : Table β) : Rat := (t.entries.map fun e => w e.1 e.2).sum

/-- A sum over the values of a table is a weighing that does not look at the names. -/
theorem sum_values_map (f : β → Rat) (t : Table β) :
    (t.values.map f).sum = t.weigh fun _ => f := by
  simp [values, weigh, Function.comp_def]

/-- The sum of the values of a table is the weighing of each value as itself. -/
theorem sum_values (t : Table Rat) : t.values.sum = t.weigh fun _ v => v := rfl

/-- A table without entries weighs nothing. -/
@[simp]
theorem weigh_empty (w : String → β → Rat) : (∅ : Table β).weigh w = 0 := rfl

/-- Weighing after a change of all entries is weighing each entry as it is changed. -/
theorem weigh_mapWithKey (f : String → β → γ) (w : String → γ → Rat) (t : Table β) :
    (t.mapWithKey f).weigh w = t.weigh fun k v => w k (f k v) := by
  simp [weigh, mapWithKey, Function.comp_def]

/-- Weighing after a change that does not look at names is weighing each value as it is
changed. -/
theorem weigh_map (f : β → γ) (w : String → γ → Rat) (t : Table β) :
    (t.map f).weigh w = t.weigh fun k v => w k (f v) :=
  weigh_mapWithKey (fun _ => f) w t

/-- Weights that agree on the entries of a table weigh it the same. -/
theorem weigh_congr {w w' : String → β → Rat} {t : Table β}
    (h : ∀ k v, t.get? k = some v → w k v = w' k v) : t.weigh w = t.weigh w' := by
  unfold weigh
  congr 1
  refine List.map_congr_left fun e he => ?_
  exact h e.1 e.2 ((t.mem_entries e.1 e.2).mp he)

/-- Weighing with a sum of two weights gives the sum of the two weighings. -/
theorem weigh_add (w w' : String → β → Rat) (t : Table β) :
    t.weigh (fun k v => w k v + w' k v) = t.weigh w + t.weigh w' :=
  List.sum_map_add

/-- A sum over names, taken over a larger table: the further names weigh nothing. -/
theorem weigh_eq_of_subset {t : Table β} {u : Table γ} (f : String → Rat)
    (hsub : ∀ k ∈ u.keys, k ∈ t.keys) (hzero : ∀ k, k ∉ u.keys → f k = 0) :
    (u.weigh fun k _ => f k) = t.weigh fun k _ => f k := by
  -- No name comes twice, so both are sums over sets of names.
  have hkeys : ∀ {δ : Type} (v : Table δ), (v.weigh fun k _ => f k) = v.keys.toFinset.sum f := by
    intro δ v
    have hsum : v.keys.toFinset.sum f = (v.keys.map f).sum := List.sum_toFinset f v.nodup
    rw [hsum, keys, Entries.keys, List.map_map]
    rfl
  rw [hkeys, hkeys]
  refine Finset.sum_subset (fun k hk => ?_) fun k _ hk => hzero k (fun h => hk ?_)
  · exact List.mem_toFinset.mpr (hsub k (List.mem_toFinset.mp hk))
  · exact List.mem_toFinset.mpr h

/-- What a new entry does to the sum of a list: it takes the place of the old one, if there is
any. -/
private theorem sum_put (w : String → β → Rat) (k : String) (v : β) (es : List (String × β)) :
    ((Entries.put k v es).map fun e => w e.1 e.2).sum
      = (es.map fun e => w e.1 e.2).sum + w k v - ((Entries.find k es).map (w k)).getD 0 := by
  induction es with
  | nil => simp [Entries.put, Entries.find]
  | cons e es ih =>
    obtain ⟨j, u⟩ := e
    by_cases hj : j = k
    · subst hj
      simp only [Entries.put, Entries.find, if_pos, List.map_cons, List.sum_cons, Option.map_some,
        Option.getD_some]
      ring
    · simp only [Entries.put, Entries.find, if_neg hj, List.map_cons, List.sum_cons, ih]
      ring

/-- What a new entry does to a sum: it takes the place of the old one, if there is any. -/
theorem weigh_insert (w : String → β → Rat) (t : Table β) (k : String) (v : β) :
    (t.insert k v).weigh w = t.weigh w + w k v - ((t.get? k).map (w k)).getD 0 :=
  sum_put w k v t.entries

end Table

end Catchment

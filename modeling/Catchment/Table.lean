/-!
# `Catchment.Table`: tables of named entries, in the order the names first came

Rivers, dams, capacities and waiting amounts are all kept by name, and every
answer of the library lists them in the order in which the names were first
given. `Table β` is that container. A name occurs once, which the type records.
Giving a name again replaces its entry and keeps its place.

The view of a table is its list of entries, and a look-up reads that list.

* `keys_insert`: a known name keeps its place, a new one goes to the end.
* `get?_insert`: the entry just given is found under its name, all others are as before.
* `get?_modify`, `keys_modify`: changing one entry leaves the names and all other entries alone.
* `get?_mapWithKey`: a pointwise change is seen pointwise.
-/

set_option autoImplicit false

namespace Catchment

/-! ## Lists of named entries -/

namespace Entries

variable {β γ : Type}

/-- The names of a list of entries, in order. -/
def keys (es : List (String × β)) : List String := es.map (·.1)

/-- The first entry under a name. -/
def find (k : String) : List (String × β) → Option β
  | [] => none
  | (k', v) :: es => if k' = k then some v else find k es

/-- Replaces the first entry of a name, or adds one at the end. -/
def put (k : String) (v : β) : List (String × β) → List (String × β)
  | [] => [(k, v)]
  | (k', v') :: es => if k' = k then (k, v) :: es else (k', v') :: put k v es

/-- Putting an entry keeps the names as they are if its name is among them, and else adds the name
at the end. -/
theorem keys_put (k : String) (v : β) (es : List (String × β)) :
    keys (put k v es) = if k ∈ keys es then keys es else keys es ++ [k] := by
  induction es with
  | nil => simp [keys, put]
  | cons e es ih =>
    obtain ⟨k', v'⟩ := e
    by_cases h : k' = k
    · subst h
      simp [keys, put]
    · have h' : k ≠ k' := fun hk => h hk.symm
      simp only [keys] at ih
      by_cases hm : k ∈ es.map (·.1)
      · simp_all [keys, put]
      · simp_all [keys, put]

/-- No name occurs twice after an entry is put, if none did before. -/
theorem nodup_keys_put (k : String) (v : β) {es : List (String × β)} (h : (keys es).Nodup) :
    (keys (put k v es)).Nodup := by
  rw [keys_put]
  split
  · exact h
  · rename_i hk
    refine List.nodup_append.mpr ⟨h, by simp, ?_⟩
    intro a ha b hb hab
    rw [List.mem_singleton] at hb
    exact hk (hb ▸ hab ▸ ha)

/-- The entry that is put is found under its name, and under any other name what was found
before. -/
theorem find_put (k j : String) (v : β) (es : List (String × β)) :
    find j (put k v es) = if j = k then some v else find j es := by
  induction es with
  | nil => by_cases h : k = j <;> simp [put, find, h, eq_comm]
  | cons e es ih =>
    obtain ⟨k', v'⟩ := e
    by_cases h : k' = k
    · subst h
      by_cases hj : k' = j
      · simp [put, find, hj]
      · have hj' : j ≠ k' := fun hk => hj hk.symm
        simp [put, find, hj, hj']
    · by_cases hj : k' = j
      · subst hj
        simp [put, find, h]
      · simp [put, find, h, hj, ih]

/-- Something is found under a name exactly if the name is there. -/
theorem find_isSome_iff (k : String) (es : List (String × β)) :
    (find k es).isSome ↔ k ∈ keys es := by
  induction es with
  | nil => simp [find, keys]
  | cons e es ih =>
    obtain ⟨k', v'⟩ := e
    by_cases h : k' = k
    · simp [find, keys, h]
    · have h' : k ≠ k' := fun hk => h hk.symm
      simp only [keys] at ih
      simp [find, keys, h, h', ih]

/-- What is found after all entries are changed is the change of what was found before. -/
theorem find_map (f : String → β → γ) (k : String) (es : List (String × β)) :
    find k (es.map fun e => (e.1, f e.1 e.2)) = (find k es).map (f k) := by
  induction es with
  | nil => rfl
  | cons e es ih =>
    obtain ⟨k', v'⟩ := e
    by_cases h : k' = k
    · subst h
      simp [find]
    · simp [find, h, ih]

end Entries

/-! ## Tables -/

/-- A list of named entries in which every name occurs once. -/
structure Table (β : Type) where
  /-- The entries, in the order in which their names were first given. -/
  entries : List (String × β)
  /-- No name occurs twice. -/
  nodup : (Entries.keys entries).Nodup
deriving DecidableEq

namespace Table

variable {β γ : Type}

/-- The table without entries. -/
def empty : Table β := ⟨[], List.nodup_nil⟩

instance : EmptyCollection (Table β) := ⟨empty⟩
instance : Inhabited (Table β) := ⟨empty⟩

/-- The names, in order. -/
def keys (t : Table β) : List String := Entries.keys t.entries

/-- The entries without their names, in order. -/
def values (t : Table β) : List β := t.entries.map (·.2)

/-- The entry under a name. -/
def get? (t : Table β) (k : String) : Option β := Entries.find k t.entries

/-- Whether a name has an entry. -/
def contains (t : Table β) (k : String) : Bool := (t.get? k).isSome

/-- Gives a name its entry: in place if the name is known, else at the end. -/
def insert (t : Table β) (k : String) (v : β) : Table β :=
  ⟨Entries.put k v t.entries, Entries.nodup_keys_put k v t.nodup⟩

/-- Changes every entry, told its name. -/
def mapWithKey (f : String → β → γ) (t : Table β) : Table γ :=
  ⟨t.entries.map fun e => (e.1, f e.1 e.2), by
    have h : Entries.keys (t.entries.map fun e => (e.1, f e.1 e.2)) = Entries.keys t.entries := by
      simp [Entries.keys]
    rw [h]
    exact t.nodup⟩

/-- Changes every entry. -/
def map (f : β → γ) (t : Table β) : Table γ := t.mapWithKey fun _ => f

/-- Changes the entry under one name, if there is one. -/
def modify (t : Table β) (k : String) (f : β → β) : Table β :=
  t.mapWithKey fun j v => if j = k then f v else v

/-- Takes a name and its entry out. -/
def erase (t : Table β) (k : String) : Table β :=
  ⟨t.entries.filter fun e => e.1 ≠ k, by
    have h := List.Sublist.map (·.1)
        (List.filter_sublist (p := fun e => e.1 ≠ k) (l := t.entries))
    exact h.nodup t.nodup⟩

/-- The table that giving the entries one after the other builds. -/
def ofList (es : List (String × β)) : Table β := es.foldl (fun t e => t.insert e.1 e.2) ∅

/-- A table without entries has no names. -/
@[simp]
theorem keys_empty : (∅ : Table β).keys = [] := rfl

/-- A table without entries has nothing under any name. -/
@[simp]
theorem get?_empty (k : String) : (∅ : Table β).get? k = none := rfl

/-- A table contains a name exactly if the name is among its names. -/
theorem contains_iff (t : Table β) (k : String) : t.contains k = true ↔ k ∈ t.keys :=
  Entries.find_isSome_iff k t.entries

/-- A known name keeps its place, and a new one goes to the end. -/
theorem keys_insert (t : Table β) (k : String) (v : β) :
    (t.insert k v).keys = if k ∈ t.keys then t.keys else t.keys ++ [k] :=
  Entries.keys_put k v t.entries

/-- The entry just given is found under its name, and every other name finds what it found
before. -/
theorem get?_insert (t : Table β) (k j : String) (v : β) :
    (t.insert k v).get? j = if j = k then some v else t.get? j :=
  Entries.find_put k j v t.entries

/-- A change of all entries keeps the names and their order. -/
@[simp]
theorem keys_mapWithKey (f : String → β → γ) (t : Table β) : (t.mapWithKey f).keys = t.keys := by
  simp [keys, mapWithKey, Entries.keys]

/-- A pointwise change is seen pointwise. -/
theorem get?_mapWithKey (f : String → β → γ) (t : Table β) (k : String) :
    (t.mapWithKey f).get? k = (t.get? k).map (f k) :=
  Entries.find_map f k t.entries

/-- A change of all entries that does not look at names keeps them and their order. -/
@[simp]
theorem keys_map (f : β → γ) (t : Table β) : (t.map f).keys = t.keys := keys_mapWithKey _ t

/-- A look-up after all entries are changed gives the change of what is looked up. -/
theorem get?_map (f : β → γ) (t : Table β) (k : String) :
    (t.map f).get? k = (t.get? k).map f := get?_mapWithKey _ t k

/-- A change of one entry keeps the names and their order. -/
@[simp]
theorem keys_modify (t : Table β) (k : String) (f : β → β) : (t.modify k f).keys = t.keys :=
  keys_mapWithKey _ t

/-- A change under one name leaves every other entry alone. -/
theorem get?_modify (t : Table β) (k j : String) (f : β → β) :
    (t.modify k f).get? j = if j = k then (t.get? j).map f else t.get? j := by
  rw [modify, get?_mapWithKey]
  by_cases h : j = k <;> simp [h]

end Table

end Catchment

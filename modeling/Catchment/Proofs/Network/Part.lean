import Catchment.Proofs.Network.WellFormed

/-!
# `Catchment.Proofs.Network.Part`: a network within a network

Two networks that have no name in common may be declared side by side, line by line in any
order. What comes of it is a network in which each of the two is a part: its rivers, dams
and connections are there, in their own order, and no connection leads from the part to
the rest or back.

* `Table.restrict`: the entries of some names.
* `Interleaving`: a list that is put together from two others.
* `Connection.Inside`, `Connection.Outside`: whether a connection belongs to a part.
* `Network.PartOf`: a network is an unconnected part of another.
* `Network.Interleaves`, `Interleaves.partOf`: networks side by side are parts of the whole.
-/

set_option autoImplicit false

namespace Catchment

/-! ### Some of the names of a table -/

namespace Table

variable {β γ : Type}

/-- The entries of some names, in the same order. -/
def restrict (names : List String) (t : Table β) : Table β :=
  ⟨t.entries.filter fun e => e.1 ∈ names, by
    have h : (Entries.keys (t.entries.filter fun e => e.1 ∈ names)).Sublist
        (Entries.keys t.entries) :=
      List.filter_sublist.map _
    exact h.nodup t.nodup⟩

/-- The names of a part of a table are those of the table that the part may have. -/
theorem keys_restrict (names : List String) (t : Table β) :
    (t.restrict names).keys = t.keys.filter (· ∈ names) := by
  simp only [keys, Entries.keys, restrict, List.filter_map]
  rfl

/-- Under the names of a part there is what is there in the table, and nothing under others. -/
theorem get?_restrict (names : List String) (t : Table β) (k : String) :
    (t.restrict names).get? k = if k ∈ names then t.get? k else none := by
  split
  · rename_i hk
    refine Option.ext fun v => ?_
    rw [← mem_entries, ← mem_entries, restrict, List.mem_filter]
    exact and_iff_left (decide_eq_true hk)
  · rename_i hk
    rw [get?_eq_none_iff, keys_restrict, List.mem_filter]
    exact fun h => hk (of_decide_eq_true h.2)

/-- A part of a table has no names but those it may have. -/
theorem mem_names_of_mem_keys_restrict {names : List String} {t : Table β} {k : String}
    (h : k ∈ (t.restrict names).keys) : k ∈ names := by
  rw [keys_restrict, List.mem_filter] at h
  exact of_decide_eq_true h.2

/-- A change of all entries goes through to a part. -/
theorem restrict_mapWithKey (names : List String) (f : String → β → γ) (t : Table β) :
    (t.mapWithKey f).restrict names = (t.restrict names).mapWithKey f := by
  apply ext_entries
  simp only [restrict, mapWithKey, List.filter_map]
  rfl

/-- A change of all entries that does not look at names goes through to a part. -/
theorem restrict_map (names : List String) (f : β → γ) (t : Table β) :
    (t.map f).restrict names = (t.restrict names).map f :=
  restrict_mapWithKey names (fun _ => f) t

/-- Some of the names of a table are another table, if they are its names, and their entries are
the same. -/
theorem restrict_eq_of_get? {names : List String} {t u : Table β}
    (hkeys : t.keys.filter (· ∈ names) = u.keys) (h : ∀ k ∈ names, t.get? k = u.get? k) :
    t.restrict names = u := by
  rw [← keys_restrict] at hkeys
  refine ext_get?_of_mem hkeys fun k hk => ?_
  have hname : k ∈ names := mem_names_of_mem_keys_restrict hk
  rw [get?_restrict, if_pos hname, h k hname]

end Table

/-! ### Lists that are put together from two others -/

/-- A list is put together from two others, each of which keeps its own order. -/
inductive Interleaving {ι : Type} : List ι → List ι → List ι → Prop
  | nil : Interleaving [] [] []
  | left (x : ι) {xs ys zs : List ι} : Interleaving xs ys zs → Interleaving (x :: xs) ys (x :: zs)
  | right (y : ι) {xs ys zs : List ι} : Interleaving xs ys zs →
      Interleaving xs (y :: ys) (y :: zs)

namespace Interleaving

variable {ι : Type} {xs ys zs : List ι}

/-- Whatever is in an interleaving is in one of the two rows. -/
theorem mem_or_mem (h : Interleaving xs ys zs) {z : ι} (hz : z ∈ zs) : z ∈ xs ∨ z ∈ ys := by
  induction h with
  | nil => exact Or.inl hz
  | left x _ ih =>
    rcases List.mem_cons.mp hz with rfl | hz
    · exact Or.inl List.mem_cons_self
    · exact (ih hz).imp_left (List.mem_cons_of_mem _)
  | right y _ ih =>
    rcases List.mem_cons.mp hz with rfl | hz
    · exact Or.inr List.mem_cons_self
    · exact (ih hz).imp_right (List.mem_cons_of_mem _)

/-- What tells the elements of the two lists apart takes the whole to pieces again. -/
theorem filter_eq_left (h : Interleaving xs ys zs) {p : ι → Bool} (hxs : ∀ x ∈ xs, p x = true)
    (hys : ∀ y ∈ ys, p y = false) : zs.filter p = xs := by
  induction h with
  | nil => rfl
  | left x _ ih =>
    rw [List.filter_cons, if_pos (hxs x List.mem_cons_self),
      ih (fun z hz => hxs z (List.mem_cons_of_mem _ hz)) hys]
  | right y _ ih =>
    rw [List.filter_cons, if_neg (by rw [hys y List.mem_cons_self]; exact Bool.false_ne_true),
      ih hxs fun z hz => hys z (List.mem_cons_of_mem _ hz)]

end Interleaving

/-! ### Parts of a network -/

namespace Connection

variable {α : Type}

/-- A connection that joins some of the given names, and in which nothing waits for any other. -/
structure Inside (names : List String) (c : Connection α) : Prop where
  sources : ∀ name ∈ c.sources, name ∈ names
  destinations : ∀ name ∈ c.destinations, name ∈ names
  waiting : ∀ name ∈ c.waiting.keys, name ∈ names

/-- A connection that has nothing to do with the given names. -/
structure Outside (names : List String) (c : Connection α) : Prop where
  sources_ne : c.sources ≠ []
  sources : ∀ name ∈ c.sources, name ∉ names
  destinations : ∀ name ∈ c.destinations, name ∉ names
  waiting : ∀ name ∈ c.waiting.keys, name ∉ names

/-- Whether a connection takes water from the given names only. -/
def leadsFrom (names : List String) (c : Connection α) : Bool :=
  decide (∀ name ∈ c.sources, name ∈ names)

/-- A connection inside a part takes water from the part. -/
theorem Inside.leadsFrom {names : List String} {c : Connection α} (h : c.Inside names) :
    c.leadsFrom names = true :=
  decide_eq_true h.sources

/-- A connection outside a part takes no water from the part. It has a source, and that is
elsewhere. -/
theorem Outside.leadsFrom {names : List String} {c : Connection α} (h : c.Outside names) :
    c.leadsFrom names = false := by
  obtain ⟨name, hname⟩ := List.exists_mem_of_ne_nil _ h.sources_ne
  exact decide_eq_false fun hall => h.sources name hname (hall name hname)

end Connection

namespace Network

variable {α : Type}

/-- The names of rivers, dams and capacities. -/
def names (n : Network α) : List String := n.rivers.keys ++ n.dams.keys ++ n.capacities.keys

/-- The connections that take water from the given names only. -/
def flowsFrom (names : List String) (n : Network α) : List (Connection α) :=
  n.flows.filter (·.leadsFrom names)

/-- A network is what another has under some names, and no connection of the other leads from
these names to the rest or back. -/
structure PartOf (names : List String) (n₁ n : Network α) : Prop where
  rivers : n.rivers.restrict names = n₁.rivers
  dams : n.dams.restrict names = n₁.dams
  flows : n.flowsFrom names = n₁.flows
  outflowDays : n₁.outflowDays = n.outflowDays
  apart : ∀ c ∈ n.flows, c.Inside names ∨ c.Outside names

/-- A network is put together from two others: their rivers, dams, capacities and connections are
declared side by side, each in its own order. -/
structure Interleaves (n n₁ n₂ : Network α) : Prop where
  rivers : Interleaving n₁.rivers.entries n₂.rivers.entries n.rivers.entries
  dams : Interleaving n₁.dams.entries n₂.dams.entries n.dams.entries
  capacities : Interleaving n₁.capacities.entries n₂.capacities.entries n.capacities.entries
  flows : Interleaving n₁.flows n₂.flows n.flows
  outflowDays : n₁.outflowDays = n.outflowDays ∧ n₂.outflowDays = n.outflowDays

variable {names : List String} {n n₁ n₂ : Network α}

/-- The river under a name of the part is that of the whole. -/
theorem PartOf.get?_rivers (h : n₁.PartOf names n) {name : String} (hname : name ∈ names) :
    n₁.rivers.get? name = n.rivers.get? name := by
  rw [← h.rivers, Table.get?_restrict, if_pos hname]

/-- The dam under a name of the part is that of the whole. -/
theorem PartOf.get?_dams (h : n₁.PartOf names n) {name : String} (hname : name ∈ names) :
    n₁.dams.get? name = n.dams.get? name := by
  rw [← h.dams, Table.get?_restrict, if_pos hname]

/-- The rivers of a part have names of the part. -/
theorem PartOf.mem_names (h : n₁.PartOf names n) {name : String} (hname : name ∈ n₁.rivers.keys) :
    name ∈ names :=
  Table.mem_names_of_mem_keys_restrict (h.rivers ▸ hname)

/-- The connections of a part join its own names. -/
theorem PartOf.inside (h : n₁.PartOf names n) {c : Connection α} (hc : c ∈ n₁.flows) :
    c.Inside names := by
  rw [← h.flows, flowsFrom, List.mem_filter] at hc
  rcases h.apart c hc.1 with hin | hout
  · exact hin
  · rw [hout.leadsFrom] at hc
    exact absurd hc.2 Bool.false_ne_true

/-- The name of a river is a name of the network. -/
theorem mem_names_of_mem_rivers {name : String} (h : name ∈ n.rivers.keys) : name ∈ n.names :=
  List.mem_append_left _ (List.mem_append_left _ h)

/-- The name of a dam is a name of the network. -/
theorem mem_names_of_mem_dams {name : String} (h : name ∈ n.dams.keys) : name ∈ n.names :=
  List.mem_append_left _ (List.mem_append_right _ h)

/-- A name with a capacity is a name of the network. -/
theorem mem_names_of_mem_capacities {name : String} (h : name ∈ n.capacities.keys) :
    name ∈ n.names :=
  List.mem_append_right _ h

section

variable [Amount α] (h : n.Interleaves n₁ n₂) (hnames : ∀ name ∈ n₁.names, name ∉ n₂.names)

omit [Amount α] in
/-- A table that is put together from two of different names is taken to pieces by the names. -/
theorem restrict_of_interleaving {β : Type} {t t₁ t₂ : Table β}
    (ht : Interleaving t₁.entries t₂.entries t.entries) (h₁ : ∀ name ∈ t₁.keys, name ∈ n₁.names)
    (h₂ : ∀ name ∈ t₂.keys, name ∉ n₁.names) : t.restrict n₁.names = t₁ := by
  apply Table.ext_entries
  refine ht.filter_eq_left (fun e he => ?_) fun e he => ?_
  · exact decide_eq_true (h₁ e.1 (List.mem_map_of_mem he))
  · exact decide_eq_false (h₂ e.1 (List.mem_map_of_mem he))

include h hnames

omit [Amount α] in
/-- Of two networks side by side, the capacities under the names of the first are those of the
first. -/
theorem Interleaves.capacities_restrict : n.capacities.restrict n₁.names = n₁.capacities :=
  restrict_of_interleaving h.capacities (fun _ => mem_names_of_mem_capacities)
    fun name hname hin => hnames name hin (mem_names_of_mem_capacities hname)

/-- Each of two networks that are declared side by side is a part of the whole, if they have no
name in common and nothing waits in them. -/
theorem Interleaves.partOf (hwf₁ : n₁.WellFormed) (hwf₂ : n₂.WellFormed) (hdry₁ : n₁.plan = n₁)
    (hdry₂ : n₂.plan = n₂) : n₁.PartOf n₁.names n := by
  have hother : ∀ name ∈ n₂.names, name ∉ n₁.names := fun name h₂ h₁ => hnames name h₁ h₂
  -- A connection of the first network lies within its names, and one of the second outside them,
  -- so that the part keeps the connections of the first and no others.
  have hinside : ∀ c ∈ n₁.flows, c.Inside n₁.names := by
    intro c hc
    obtain ⟨-, -, hsources, hdestinations⟩ := hwf₁.joins c hc
    refine ⟨fun name hs => mem_names_of_mem_rivers (hsources name hs),
      fun name hd => mem_names_of_mem_rivers (hdestinations name hd), fun name hw => ?_⟩
    rw [waiting_eq_empty_of_plan_eq hdry₁ hc] at hw
    cases hw
  have houtside : ∀ c ∈ n₂.flows, c.Outside n₁.names := by
    intro c hc
    obtain ⟨hne, -, hsources, hdestinations⟩ := hwf₂.joins c hc
    refine ⟨hne, fun name hs => hother name (mem_names_of_mem_rivers (hsources name hs)),
      fun name hd => hother name (mem_names_of_mem_rivers (hdestinations name hd)),
      fun name hw => ?_⟩
    rw [waiting_eq_empty_of_plan_eq hdry₂ hc] at hw
    cases hw
  refine ⟨?_, ?_, ?_, h.outflowDays.1, fun c hc => ?_⟩
  · exact restrict_of_interleaving h.rivers (fun _ => mem_names_of_mem_rivers)
      fun name hname => hother name (mem_names_of_mem_rivers hname)
  · exact restrict_of_interleaving h.dams (fun _ => mem_names_of_mem_dams)
      fun name hname => hother name (mem_names_of_mem_dams hname)
  · exact h.flows.filter_eq_left (fun c hc => (hinside c hc).leadsFrom)
      fun c hc => (houtside c hc).leadsFrom
  · exact (h.flows.mem_or_mem hc).imp (hinside c) (houtside c)

end

end Network

end Catchment

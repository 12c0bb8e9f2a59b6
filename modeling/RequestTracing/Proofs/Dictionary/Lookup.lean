import RequestTracing.Attribute
/-!
Looking up keys in dictionaries: what an operation changes under one key, it leaves under the
others.
-/
namespace RequestTracing

theorem find?_putEntry {α : Type} (key other : String) (value : α) (entries : List (String × α)) :
    ((putEntry key value entries).find? fun entry => entry.1 == other) =
      if key = other then some (key, value) else entries.find? fun entry => entry.1 == other := by
  fun_induction putEntry key value entries with
  | case1 => grind
  | case2 => grind
  | case3 => grind
  | case4 k v rest hlt hne ih => grind

theorem putEntry_putEntry {α : Type} (key : String) (value old : α)
    (entries : List (String × α)) :
    putEntry key value (putEntry key old entries) = putEntry key value entries := by
  fun_induction putEntry key old entries with
  | case1 => simp [putEntry]
  | case2 k v rest hlt => simp [putEntry, hlt]
  | case3 v rest hlt => simp [putEntry]
  | case4 k v rest hlt hne ih => simp [putEntry, hlt, hne, ih]

namespace Dictionary

variable {α : Type} (d : Dictionary α) (key other : String)

@[simp] theorem get?_empty : (empty : Dictionary α).get? key = none := rfl

theorem get?_insert (value : α) :
    (d.insert key value).get? other = if key = other then some value else d.get? other := by
  unfold get? insert
  rw [find?_putEntry]
  split <;> rfl

theorem get?_insertSome (value : Option α) :
    (d.insertSome key value).get? other = if key = other then value <|> d.get? other
      else d.get? other := by
  cases value with
  | none => simp [insertSome]
  | some value => simp [insertSome, get?_insert]

theorem insert_insert (value old : α) :
    (d.insert key old).insert key value = d.insert key value := by
  simp [insert, putEntry_putEntry]

theorem insertSome_insertSome (value old : Option α) :
    (d.insertSome key old).insertSome key value = d.insertSome key (value <|> old) := by
  cases value <;> cases old <;> simp [insertSome, insert_insert]

section Facts

variable {facts : List (String × Option α)} {key}

theorem get?_foldl_insertSome_of_ne (h : ∀ fact ∈ facts, fact.1 ≠ key) :
    (facts.foldl (fun d fact => d.insertSome fact.1 fact.2) d).get? key = d.get? key := by
  induction facts generalizing d with
  | nil => rfl
  | cons first facts ih =>
    obtain ⟨hfirst, hrest⟩ := List.forall_mem_cons.mp h
    rw [List.foldl_cons, ih _ hrest, get?_insertSome, if_neg hfirst]

theorem get?_foldl_insertSome_of_mem (hkeys : (facts.map (·.1)).Nodup) {fact : Option α}
    (h : (key, fact) ∈ facts) :
    (facts.foldl (fun d fact => d.insertSome fact.1 fact.2) d).get? key =
      (fact <|> d.get? key) := by
  induction facts generalizing d with
  | nil => cases h
  | cons first facts ih =>
    obtain ⟨hfirst, hrest⟩ := List.nodup_cons.mp hkeys
    rw [List.foldl_cons]
    rcases List.mem_cons.mp h with rfl | hmem
    · have hothers : ∀ fact ∈ facts, fact.1 ≠ key :=
        fun fact hfact heq => hfirst (List.mem_map.mpr ⟨fact, hfact, heq⟩)
      rw [get?_foldl_insertSome_of_ne _ hothers, get?_insertSome, if_pos rfl]
    · have hne : first.1 ≠ key := fun heq => hfirst (List.mem_map.mpr ⟨_, hmem, heq.symm⟩)
      rw [ih _ hrest hmem, get?_insertSome, if_neg hne]

end Facts

theorem fst_of_mem_insertAll {pairs : List (String × α)} {entry : String × α}
    (h : entry ∈ (d.insertAll pairs).entries) :
    entry ∈ d.entries ∨ ∃ pair ∈ pairs, entry.1 = pair.1 := by
  induction pairs generalizing d with
  | nil => exact .inl h
  | cons pair pairs ih =>
    rcases ih (d.insert pair.1 pair.2) h with h | ⟨other, hother, heq⟩
    · rcases fst_of_mem_putEntry h with heq | h
      · exact .inr ⟨pair, List.mem_cons_self, heq⟩
      · exact .inl h
    · exact .inr ⟨other, List.mem_cons_of_mem _ hother, heq⟩

theorem get?_insertAll (pairs : List (String × α)) :
    (d.insertAll pairs).get? key =
      ((pairs.reverse.find? fun pair => pair.1 == key).map (·.2) <|> d.get? key) := by
  induction pairs generalizing d with
  | nil => simp [insertAll]
  | cons pair pairs ih =>
    have hstep : d.insertAll (pair :: pairs) = (d.insert pair.1 pair.2).insertAll pairs := rfl
    rw [hstep, ih, get?_insert, List.reverse_cons, List.find?_append]
    cases pairs.reverse.find? fun pair => pair.1 == key with
    | some found => simp
    | none =>
      by_cases hkey : pair.1 = key <;> simp [hkey]

theorem get?_ofList (pairs : List (String × α)) :
    (ofList pairs).get? key = (pairs.reverse.find? fun pair => pair.1 == key).map (·.2) := by
  rw [ofList, get?_insertAll]
  simp

section Entries

variable {d key} {value : α}

theorem get?_eq_some_iff : d.get? key = some value ↔ (key, value) ∈ d.entries := by
  unfold get?
  refine ⟨fun h => ?_, fun h => ?_⟩
  · obtain ⟨entry, hfound, rfl⟩ := Option.map_eq_some_iff.mp h
    have hkey : entry.1 = key := by simpa using List.find?_some hfound
    exact hkey ▸ List.mem_of_find?_eq_some hfound
  · obtain ⟨before, after, hentries⟩ := List.append_of_mem h
    have hbefore : ∀ entry ∈ before, (!(entry.1 == key)) = true := by
      intro entry he
      have hless := (List.pairwise_append.mp (hentries ▸ d.ascending)).2.2 entry he (key, value)
        List.mem_cons_self
      simp [String.ne_of_lt hless]
    rw [List.find?_eq_some_iff_append.mpr ⟨by simp, before, after, hentries, hbefore⟩]
    rfl

theorem mem_keys_iff : key ∈ d.keys ↔ (d.get? key).isSome := by
  rw [Option.isSome_iff_exists]
  simp [keys, get?_eq_some_iff]

theorem ext_get? {d other : Dictionary α} (h : ∀ key, d.get? key = other.get? key) : d = other := by
  have hnodup (d : Dictionary α) : d.entries.Nodup :=
    d.ascending.imp fun hless heq => absurd (heq ▸ hless) (String.lt_irrefl _)
  have hmem : ∀ entry, entry ∈ d.entries ↔ entry ∈ other.entries := by
    rintro ⟨key, value⟩
    rw [← get?_eq_some_iff, ← get?_eq_some_iff, h]
  have hperm := (List.perm_ext_iff_of_nodup (hnodup d) (hnodup other)).mpr hmem
  have hentries : d.entries = other.entries :=
    hperm.eq_of_pairwise (fun _ _ _ _ hless hgreater => absurd hgreater (String.lt_asymm hless))
      d.ascending other.ascending
  cases d
  cases other
  congr

theorem filterMap_entries (d : Dictionary α) (key : String) :
    (d.entries.filterMap fun entry => if entry.1 = key then some entry.2 else none) =
      (d.get? key).toList := by
  cases hget : d.get? key with
  | none =>
    refine List.filterMap_eq_nil_iff.mpr fun entry hentry => if_neg fun hkey => ?_
    rw [← hkey, get?_eq_some_iff.mpr hentry] at hget
    cases hget
  | some value =>
    obtain ⟨before, after, hentries⟩ := List.append_of_mem (get?_eq_some_iff.mp hget)
    obtain ⟨_, hafter, hbefore⟩ := List.pairwise_append.mp (hentries ▸ d.ascending)
    have hfirst : (before.filterMap fun entry => if entry.1 = key then some entry.2 else none) =
        [] :=
      List.filterMap_eq_nil_iff.mpr fun entry hentry =>
        if_neg (String.ne_of_lt (hbefore entry hentry (key, value) List.mem_cons_self))
    have hlast : (after.filterMap fun entry => if entry.1 = key then some entry.2 else none) =
        [] :=
      List.filterMap_eq_nil_iff.mpr fun entry hentry =>
        if_neg (String.ne_of_lt ((List.pairwise_cons.mp hafter).1 entry hentry)).symm
    simp [hentries, hfirst, hlast]

end Entries

section MapValues

variable {β : Type} (change : String → α → β)

/-- The dictionary with each value changed in a way that may depend on its key. -/
def mapValues : Dictionary β :=
  ⟨d.entries.map fun (key, value) => (key, change key value), by
    rw [List.pairwise_map]
    exact d.ascending⟩

theorem get?_mapValues : (d.mapValues change).get? key = (d.get? key).map (change key) := by
  unfold get? mapValues
  rw [List.find?_map]
  have hkey : (fun entry : String × β => entry.1 == key) ∘
      (fun (k, value) => (k, change k value)) = fun entry : String × α => entry.1 == key := rfl
  rw [hkey]
  cases hfound : d.entries.find? fun entry => entry.1 == key with
  | none => rfl
  | some entry =>
    have heq : entry.1 = key := by simpa using List.find?_some hfound
    simp [heq]

/-- Dictionaries have the same keys if they give values to the same ones. -/
theorem keys_congr {d : Dictionary α} {other : Dictionary β}
    (h : ∀ key, (d.get? key).isSome = (other.get? key).isSome) : d.keys = other.keys := by
  have hblank : d.mapValues (fun _ _ => ()) = other.mapValues fun _ _ => () := by
    refine ext_get? fun key => ?_
    rw [get?_mapValues, get?_mapValues]
    have hkey := h key
    cases hd : d.get? key <;> cases hother : other.get? key <;> simp_all
  have hkeys := congrArg keys hblank
  simpa [keys, mapValues, Function.comp_def] using hkeys

theorem mapValues_insert (value : α) :
    (d.insert key value).mapValues change = (d.mapValues change).insert key (change key value) := by
  have hput (entries : List (String × α)) :
      (putEntry key value entries).map (fun (k, v) => (k, change k v)) =
        putEntry key (change key value) (entries.map fun (k, v) => (k, change k v)) := by
    fun_induction putEntry key value entries with
    | case1 => simp [putEntry]
    | case2 k v rest hlt => simp [putEntry, hlt]
    | case3 v rest hlt => simp [putEntry]
    | case4 k v rest hlt hne ih => simp [putEntry, hlt, hne, ih]
  simp [mapValues, insert, hput]

end MapValues

end Dictionary

namespace Attributes

variable (attributes kept : Attributes) (names : List String) (name : String)

theorem get?_foldl_insertSome :
    (names.foldl (fun kept name => kept.insertSome name (attributes.get? name)) kept).get? name =
      if name ∈ names then attributes.get? name <|> kept.get? name else kept.get? name := by
  induction names generalizing kept with
  | nil => simp
  | cons first names ih =>
    rw [List.foldl_cons, ih, Dictionary.get?_insertSome]
    by_cases hfirst : first = name
    · subst hfirst
      cases attributes.get? first <;> simp
    · have hne : ¬ name = first := fun heq => hfirst heq.symm
      simp [hfirst, hne]

theorem get?_project :
    (attributes.project names).get? name = if name ∈ names then attributes.get? name else none := by
  rw [project, get?_foldl_insertSome]
  simp

end Attributes

end RequestTracing

import Mathlib.Data.Finset.Card
import RequestTracing.Proofs.Dictionary.Listing
import RequestTracing.Proofs.Header.Response
/-!
Headers grouped by name stand for the pairs that were added, however these were added. Each name has
its values in the order in which they came, and no value is lost or comes up twice.
-/
namespace RequestTracing.HeaderSet
open scoped List

def appendAll (headers : HeaderSet) (pairs : List (String × String)) : HeaderSet :=
  pairs.foldl (fun headers pair => headers.append pair.1 pair.2) headers

theorem ofPairs_append (first rest : List (String × String)) :
    ofPairs (first ++ rest) = (ofPairs first).appendAll rest :=
  List.foldl_append

/-- Whether headers are those of some pairs, grouped by their names in lower case. -/
structure Groups (headers : HeaderSet) (pairs : List (String × String)) : Prop where
  /-- A name has the values of all pairs of that name, whatever the letter case of either. Without
  such a pair it has none, not even an empty list. -/
  values : ∀ name, headers.values? name =
    if valuesUnder (Text.lower name) pairs = [] then none
    else some (valuesUnder (Text.lower name) pairs)
  /-- There are as many headers as names that differ in more than letter case. -/
  size : headers.size = (pairs.map fun pair => Text.lower pair.1).toFinset.card
  /-- The names are listed in the order of their bytes, so no name is listed twice. -/
  ascending : headers.entries.Pairwise fun entry next => Text.bytes entry.1 < Text.bytes next.1
  /-- The names of all pairs are listed in lower case, each with its values. -/
  listing : ∀ name values, (name, values) ∈ headers.entries ↔
    (∃ pair ∈ pairs, Text.lower pair.1 = name) ∧ values = valuesUnder name pairs
  /-- Among the values of all headers each value is found as often as among the pairs. -/
  perm : (headers.entries.flatMap (·.2)).Perm (pairs.map (·.2))

theorem size_ofPairs (pairs : List (String × String)) :
    (ofPairs pairs).size = (pairs.map fun pair => Text.lower pair.1).toFinset.card := by
  have hnames : (ofPairs pairs).keys.toFinset =
      (pairs.map fun pair => Text.lower pair.1).toFinset := by
    ext name
    rw [List.mem_toFinset, List.mem_toFinset, mem_keys_ofPairs, List.mem_map]
  rw [← hnames, List.toFinset_card_of_nodup (ofPairs pairs).nodup_keys, Dictionary.keys,
    List.length_map, Dictionary.size]

theorem mem_entries_ofPairs_iff {pairs : List (String × String)} {name : String}
    {values : List String} : (name, values) ∈ (ofPairs pairs).entries ↔
      (∃ pair ∈ pairs, Text.lower pair.1 = name) ∧ values = valuesUnder name pairs := by
  rw [mem_entries_ofPairs, grouped, List.mem_map]
  constructor
  · rintro ⟨pair, hpair, hgroup⟩
    obtain ⟨rfl, rfl⟩ := Prod.mk.inj hgroup
    exact ⟨⟨pair, hpair, rfl⟩, rfl⟩
  · rintro ⟨⟨pair, hpair, rfl⟩, rfl⟩
    exact ⟨pair, hpair, rfl⟩

/-- Adding a header adds its value to those of all headers, and no other. -/
theorem perm_append (headers : HeaderSet) (name value : String) :
    ((headers.append name value).entries.flatMap (·.2)).Perm
      (headers.entries.flatMap (·.2) ++ [value]) := by
  let key := Text.lower name
  let old := (headers.get? key).getD []
  let others := (headers.erase key).entries.flatMap (·.2)
  have hbefore : (headers.entries.flatMap (·.2)).Perm (old ++ others) := by
    refine ((headers.perm_erase key).flatMap_right (·.2)).trans (.of_eq ?_)
    simp only [List.flatMap_append, old, others]
    cases headers.get? key <;> simp
  have hafter : ((headers.append name value).entries.flatMap (·.2)).Perm
      ((old ++ [value]) ++ others) :=
    (headers.perm_insert key (old ++ [value])).flatMap_right (·.2)
  calc ((headers.append name value).entries.flatMap (·.2))
    _ ~ (old ++ [value]) ++ others := hafter
    _ ~ (old ++ others) ++ [value] := by
      rw [List.append_assoc, List.append_assoc]
      exact List.perm_append_comm.append_left old
    _ ~ headers.entries.flatMap (·.2) ++ [value] := hbefore.symm.append_right [value]

theorem perm_appendAll (headers : HeaderSet) (pairs : List (String × String)) :
    ((headers.appendAll pairs).entries.flatMap (·.2)).Perm
      (headers.entries.flatMap (·.2) ++ pairs.map (·.2)) := by
  induction pairs generalizing headers with
  | nil => simp [appendAll]
  | cons pair pairs ih =>
    have hstep := (headers.perm_append pair.1 pair.2).append_right (pairs.map (·.2))
    rw [List.append_assoc] at hstep
    exact (ih (headers.append pair.1 pair.2)).trans hstep

theorem groups_ofPairs (pairs : List (String × String)) : (ofPairs pairs).Groups pairs where
  values name := get?_ofPairs pairs (Text.lower name)
  size := size_ofPairs pairs
  ascending := (ofPairs pairs).pairwise_bytes
  listing _ _ := mem_entries_ofPairs_iff
  perm := perm_appendAll .empty pairs

/-- Headers are those of all pairs that were added, whichever of them were there at the start and
whichever came one by one: a name has just the values of its pairs, in their order, and is listed
once among the names in ascending order. -/
theorem groups_added (first rest : List (String × String)) :
    ((ofPairs first).appendAll rest).Groups (first ++ rest) := by
  rw [← ofPairs_append]
  exact groups_ofPairs (first ++ rest)

example : ((ofPairs [("Via", ""), ("Set-Cookie", "b=1")]).append "set-cookie" "a=2").entries =
    [("set-cookie", ["b=1", "a=2"]), ("via", [""])] := by
  decide +kernel

end RequestTracing.HeaderSet

import RequestTracing.Proofs.Dictionary.Lookup
import RequestTracing.Proofs.Text.ByteOrder
/-!
Listings of dictionaries. The entries stand in the order of the bytes of their keys, each key once,
and an entry that is put in takes the place of the one with its key.
-/
namespace RequestTracing.Dictionary

variable {α : Type} (d : Dictionary α) (key other : String)

theorem pairwise_bytes : d.entries.Pairwise fun entry next =>
    Text.bytes entry.1 < Text.bytes next.1 :=
  d.ascending.imp Text.bytes_lt_iff.mpr

theorem nodup_keys : d.keys.Nodup :=
  List.pairwise_map.mpr (d.ascending.imp String.ne_of_lt)

theorem get?_erase : (d.erase key).get? other = if key = other then none else d.get? other := by
  unfold get? erase
  rw [List.find?_filter]
  split
  · rename_i hkey
    rw [List.find?_eq_none.mpr fun entry _ => by simp [hkey], Option.map_none]
  · rename_i hkey
    congr 2
    funext entry
    by_cases hentry : entry.1 = other
    · simp [hentry, Ne.symm hkey]
    · simp [hentry]

theorem erase_insert (value : α) : (d.insert key value).erase key = d.erase key := by
  apply ext_get?
  intro other
  rw [get?_erase, get?_erase, get?_insert]
  split <;> rfl

theorem filter_entries : (d.entries.filter fun entry => entry.1 == key) =
    (d.get? key).toList.map fun value => (key, value) := by
  rw [← filterMap_entries, List.map_filterMap, ← List.filterMap_eq_filter]
  congr 1
  funext entry
  obtain ⟨k, value⟩ := entry
  by_cases hentry : k = key <;> simp [hentry, Option.guard]

/-- The entries are the one under a key, if there is one, and those under the others. -/
theorem perm_erase : d.entries.Perm
    ((d.get? key).toList.map (fun value => (key, value)) ++ (d.erase key).entries) := by
  rw [← filter_entries]
  exact (List.filter_append_perm (fun entry => entry.1 == key) d.entries).symm

/-- After an entry was put in, the entries are that one and those under the other keys. -/
theorem perm_insert (value : α) :
    (d.insert key value).entries.Perm ((key, value) :: (d.erase key).entries) := by
  have hperm := (d.insert key value).perm_erase key
  rwa [get?_insert, if_pos rfl, erase_insert] at hperm

end RequestTracing.Dictionary

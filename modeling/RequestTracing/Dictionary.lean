/-!
Finite maps with text keys. The entries are kept in ascending order of their keys, so equal maps
have equal entries and every listing of a map is sorted.
-/
namespace RequestTracing

/-- Puts `value` under `key` in an ascending list of entries, in place of what was there. -/
def putEntry {α : Type} (key : String) (value : α) : List (String × α) → List (String × α)
  | [] => [(key, value)]
  | (k, v) :: rest =>
    if key < k then (key, value) :: (k, v) :: rest
    else if key = k then (key, value) :: rest
    else (k, v) :: putEntry key value rest

theorem fst_of_mem_putEntry {α : Type} {key : String} {value : α} {entries : List (String × α)}
    {entry : String × α} (h : entry ∈ putEntry key value entries) :
    entry.1 = key ∨ entry ∈ entries := by
  fun_induction putEntry key value entries with
  | case1 => simp_all
  | case2 => grind
  | case3 => grind
  | case4 => grind

theorem pairwise_putEntry {α : Type} (key : String) (value : α) {entries : List (String × α)}
    (h : entries.Pairwise (fun a b => a.1 < b.1)) :
    (putEntry key value entries).Pairwise (fun a b => a.1 < b.1) := by
  fun_induction putEntry key value entries with
  | case1 => simp
  | case2 k v rest hlt =>
    refine List.pairwise_cons.2 ⟨?_, h⟩
    intro e he
    rcases List.mem_cons.1 he with rfl | he
    · exact hlt
    · exact String.lt_trans hlt ((List.pairwise_cons.1 h).1 e he)
  | case3 => exact List.pairwise_cons.2 (List.pairwise_cons.1 h)
  | case4 k v rest hlt hne ih =>
    obtain ⟨h₁, h₂⟩ := List.pairwise_cons.1 h
    refine List.pairwise_cons.2 ⟨?_, ih h₂⟩
    intro e he
    rcases fst_of_mem_putEntry he with he | he
    · rw [he]
      rcases String.le_total k key with hle | hle
      · rcases Decidable.em (k < key) with hk | hk
        · exact hk
        · exact absurd (String.le_antisymm (String.not_lt.1 hk) hle) hne
      · exact absurd (String.le_antisymm hle (String.not_lt.1 hlt)) hne
    · exact h₁ e he

/-- A finite map from text keys to values. -/
structure Dictionary (α : Type) where
  /-- The entries, in ascending order of their keys. -/
  entries : List (String × α)
  ascending : entries.Pairwise (fun a b => a.1 < b.1)
  deriving DecidableEq

namespace Dictionary

variable {α : Type}

def empty : Dictionary α := ⟨[], .nil⟩

instance : EmptyCollection (Dictionary α) := ⟨empty⟩
instance : Inhabited (Dictionary α) := ⟨empty⟩

def insert (d : Dictionary α) (key : String) (value : α) : Dictionary α :=
  ⟨putEntry key value d.entries, pairwise_putEntry key value d.ascending⟩

def get? (d : Dictionary α) (key : String) : Option α :=
  (d.entries.find? (fun entry => entry.1 == key)).map (·.2)

def contains (d : Dictionary α) (key : String) : Bool :=
  (d.get? key).isSome

def size (d : Dictionary α) : Nat :=
  d.entries.length

def isEmpty (d : Dictionary α) : Bool :=
  d.entries.isEmpty

def keys (d : Dictionary α) : List String :=
  d.entries.map (·.1)

def erase (d : Dictionary α) (key : String) : Dictionary α :=
  ⟨d.entries.filter (fun entry => entry.1 != key), d.ascending.filter _⟩

/-- Inserts the pairs in order; of two with one key the later one stays. -/
def insertAll (d : Dictionary α) (pairs : List (String × α)) : Dictionary α :=
  pairs.foldl (fun d pair => d.insert pair.1 pair.2) d

def ofList (pairs : List (String × α)) : Dictionary α :=
  empty.insertAll pairs

def insertSome (d : Dictionary α) (key : String) (value : Option α) : Dictionary α :=
  match value with
  | some value => d.insert key value
  | none => d

end Dictionary

end RequestTracing

/-!
# Maps with sorted keys

Every object this library reads or writes lists its members by ascending key, and every
iteration over a map is an iteration over that list. `SortedMap` keeps the list and the fact
that it is sorted, so two maps are equal exactly when they hold the same entries, and nothing
ever depends on the order in which entries arrived.

The operations work on the plain list (`insertEntry`, `findEntry`), because the values of a
JSON object cannot carry a proof about themselves; `SortedMap` wraps them.
-/

set_option autoImplicit false

namespace ComposeCluster

section Entries

variable {κ ν : Type} [Ord κ]

/-- Entry lists whose keys ascend strictly. -/
def SortedEntries (entries : List (κ × ν)) : Prop :=
  entries.Pairwise fun a b => compare a.1 b.1 = .lt

/-- Puts an entry at its place; an entry with the same key is replaced. -/
def insertEntry (key : κ) (value : ν) : List (κ × ν) → List (κ × ν)
  | [] => [(key, value)]
  | (k, v) :: rest =>
    match compare key k with
    | .lt => (key, value) :: (k, v) :: rest
    | .eq => (key, value) :: rest
    | .gt => (k, v) :: insertEntry key value rest

/-- The value stored under a key. -/
def findEntry (key : κ) : List (κ × ν) → Option ν
  | [] => none
  | (k, v) :: rest => if compare key k = .eq then some v else findEntry key rest

/-- Entries in any order as sorted entries; of two with one key the later one stays. -/
def sortEntries (entries : List (κ × ν)) : List (κ × ν) :=
  entries.foldl (fun acc entry => insertEntry entry.1 entry.2 acc) []

/-- An entry after an insertion is the new one or was there before. -/
theorem mem_insertEntry {key : κ} {value : ν} {entry : κ × ν} :
    ∀ {entries : List (κ × ν)}, entry ∈ insertEntry key value entries →
      entry = (key, value) ∨ entry ∈ entries
  | [], h => .inl (by simpa [insertEntry] using h)
  | (k, v) :: rest, h => by
    rw [insertEntry] at h
    split at h
    · simpa using h
    · rcases List.mem_cons.1 h with h | h
      · exact .inl h
      · exact .inr (List.mem_cons_of_mem _ h)
    · rcases List.mem_cons.1 h with h | h
      · exact .inr (h ▸ List.mem_cons_self)
      · exact (mem_insertEntry h).imp id (List.mem_cons_of_mem _)

variable [Std.TransOrd κ] [Std.LawfulEqOrd κ]

/-- An insertion keeps entries sorted. -/
theorem SortedEntries.insertEntry {key : κ} {value : ν} :
    ∀ {entries : List (κ × ν)}, SortedEntries entries →
      SortedEntries (ComposeCluster.insertEntry key value entries)
  | [], _ => List.pairwise_singleton _ _
  | (k, v) :: rest, h => by
    have hall := List.pairwise_cons.1 h
    rw [ComposeCluster.insertEntry]
    split
    · rename_i hlt
      refine List.pairwise_cons.2 ⟨fun entry hmem => ?_, h⟩
      rcases List.mem_cons.1 hmem with rfl | hmem
      · exact hlt
      · exact Std.TransCmp.lt_trans hlt (hall.1 entry hmem)
    · rename_i heq
      have : key = k := Std.LawfulEqCmp.eq_of_compare heq
      exact List.pairwise_cons.2 ⟨fun entry hmem => this ▸ hall.1 entry hmem, hall.2⟩
    · rename_i hgt
      refine List.pairwise_cons.2 ⟨fun entry hmem => ?_, SortedEntries.insertEntry hall.2⟩
      rcases mem_insertEntry hmem with rfl | hmem
      · exact Std.OrientedCmp.lt_of_gt hgt
      · exact hall.1 entry hmem

/-- Many insertions one after another keep entries sorted. -/
theorem sortedEntries_foldl_insertEntry (entries : List (κ × ν)) :
    ∀ {acc : List (κ × ν)}, SortedEntries acc →
      SortedEntries (entries.foldl (fun acc entry => insertEntry entry.1 entry.2 acc) acc) := by
  induction entries with
  | nil => exact fun h => h
  | cons entry rest ih => exact fun h => ih h.insertEntry

/-- Entries are sorted once they have been sorted. -/
theorem sortedEntries_sortEntries (entries : List (κ × ν)) :
    SortedEntries (sortEntries entries) :=
  sortedEntries_foldl_insertEntry entries List.Pairwise.nil

end Entries

/-- A finite map, held as its entries by ascending key. -/
structure SortedMap (κ ν : Type) [Ord κ] where
  entries : List (κ × ν)
  sorted : SortedEntries entries
  deriving DecidableEq

namespace SortedMap

variable {κ ν : Type} [Ord κ]

/-- The map without entries. -/
def empty : SortedMap κ ν := ⟨[], List.Pairwise.nil⟩

instance : EmptyCollection (SortedMap κ ν) := ⟨empty⟩

instance : Inhabited (SortedMap κ ν) := ⟨empty⟩

/-- Maps are equal as soon as their entries are. -/
theorem ext {a b : SortedMap κ ν} (h : a.entries = b.entries) : a = b := by
  cases a; cases b; cases h; rfl

/-- The value stored under a key. -/
def get? (map : SortedMap κ ν) (key : κ) : Option ν :=
  findEntry key map.entries

/-- Whether a key has a value. -/
def contains (map : SortedMap κ ν) (key : κ) : Bool :=
  (map.get? key).isSome

/-- Whether there is no entry. -/
def isEmpty (map : SortedMap κ ν) : Bool :=
  map.entries.isEmpty

/-- The keys, ascending. -/
def keys (map : SortedMap κ ν) : List κ :=
  map.entries.map (·.1)

/-- The values, by ascending key. -/
def values (map : SortedMap κ ν) : List ν :=
  map.entries.map (·.2)

/-- The map with one entry. -/
def singleton (key : κ) (value : ν) : SortedMap κ ν :=
  ⟨[(key, value)], List.pairwise_singleton _ _⟩

/-- The entries whose values pass a test. -/
def filterValues (map : SortedMap κ ν) (test : ν → Bool) : SortedMap κ ν :=
  ⟨map.entries.filter fun entry => test entry.2, map.sorted.filter _⟩

variable [Std.TransOrd κ] [Std.LawfulEqOrd κ]

/-- Stores a value under a key, in place of any earlier one. -/
def insert (map : SortedMap κ ν) (key : κ) (value : ν) : SortedMap κ ν :=
  ⟨insertEntry key value map.entries, map.sorted.insertEntry⟩

/-- Entries in any order as a map; of two with one key the later one stays. -/
def ofList (entries : List (κ × ν)) : SortedMap κ ν :=
  ⟨sortEntries entries, sortedEntries_sortEntries entries⟩

/-- Stores every entry of `other`, in place of earlier ones. -/
def union (map other : SortedMap κ ν) : SortedMap κ ν :=
  other.entries.foldl (fun acc entry => acc.insert entry.1 entry.2) map

end SortedMap

end ComposeCluster

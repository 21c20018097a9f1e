import ComposeCluster.SortedMap

/-!
# Looking up in maps with sorted keys

What a look-up gives after each operation on a map. A map is known by its look-ups
(`SortedMap.ext_get?`), and each operation is known by what look-ups give after it
(`get?_insert`, `get?_foldl_insert`, `get?_ofList`, `get?_union`).
-/

set_option autoImplicit false

namespace ComposeCluster

/-- Where each key stands once, it still does after some entries are left out and others changed. -/
theorem nodup_keys_filterMap {κ ν μ : Type} {f : κ × ν → Option (κ × μ)} {entries : List (κ × ν)}
    (hkey : ∀ entry result, f entry = some result → result.1 = entry.1)
    (h : (entries.map (·.1)).Nodup) : ((entries.filterMap f).map (·.1)).Nodup := by
  refine List.pairwise_map.2 (List.Pairwise.filterMap f ?_ (List.pairwise_map.1 h))
  intro a b hne a' ha b' hb
  rwa [hkey a a' ha, hkey b b' hb]

section Entries

variable {κ ν : Type} [Ord κ]

/-- What is found in two lists is found in the first one or else in the second. -/
theorem findEntry_append (key : κ) (front back : List (κ × ν)) :
    findEntry key (front ++ back) = (findEntry key front).or (findEntry key back) := by
  induction front with
  | nil => simp [findEntry]
  | cons entry rest ih =>
    rw [List.cons_append, findEntry, findEntry]
    split
    · rfl
    · exact ih

section Find

variable [Std.LawfulEqOrd κ]

/-- What is stored is found, and nothing else changes. -/
theorem findEntry_insertEntry [DecidableEq κ] (key k : κ) (value : ν) :
    ∀ entries : List (κ × ν), findEntry k (insertEntry key value entries) =
      if k = key then some value else findEntry k entries
  | [] => by simp [insertEntry, findEntry]
  | (k', v) :: rest => by
    rw [insertEntry]
    split
    · simp [findEntry]
    · rename_i heq
      have : key = k' := Std.LawfulEqCmp.eq_of_compare heq
      subst this
      by_cases h : k = key <;> simp [findEntry, h]
    · rename_i hgt
      have hne : key ≠ k' := fun h => by simp [h] at hgt
      have ih := findEntry_insertEntry key k value rest
      by_cases h : k = key
      · subst h
        simp [findEntry, hne, ih]
      · simp [findEntry, ih, h]

/-- Of two values that are stored under one key only the second one is left. -/
theorem insertEntry_insertEntry (key : κ) (first second : ν) :
    ∀ entries : List (κ × ν),
      insertEntry key second (insertEntry key first entries) = insertEntry key second entries
  | [] => by simp [insertEntry]
  | (k, v) :: rest => by
    rw [insertEntry, insertEntry]
    split
    · simp [insertEntry]
    · simp [insertEntry]
    · rename_i hgt
      simp [insertEntry, hgt, insertEntry_insertEntry key first second rest]

/-- Of entries that are stored in turn the last one with a key is found, before what was there. -/
theorem findEntry_foldl_insertEntry [DecidableEq κ] (k : κ) (entries : List (κ × ν)) :
    ∀ acc : List (κ × ν),
      findEntry k (entries.foldl (fun acc entry => insertEntry entry.1 entry.2 acc) acc) =
        (findEntry k entries.reverse).or (findEntry k acc) := by
  induction entries with
  | nil => simp [findEntry]
  | cons entry rest ih =>
    intro acc
    rw [List.foldl_cons, ih, findEntry_insertEntry, List.reverse_cons, findEntry_append]
    by_cases h : k = entry.1 <;> simp [findEntry, h]

/-- What is found under a key is there. -/
theorem mem_of_findEntry {key : κ} {value : ν} {entries : List (κ × ν)}
    (h : findEntry key entries = some value) : (key, value) ∈ entries := by
  induction entries with
  | nil => cases h
  | cons entry rest ih =>
    rw [findEntry] at h
    split at h
    · rename_i heq
      cases h
      rw [Std.LawfulEqCmp.eq_of_compare heq]
      exact List.mem_cons_self
    · exact List.mem_cons_of_mem _ (ih h)

/-- Something is found under a key exactly if the key stands in the list. -/
theorem findEntry_isSome_iff {key : κ} {entries : List (κ × ν)} :
    (findEntry key entries).isSome ↔ key ∈ entries.map (·.1) := by
  induction entries with
  | nil => simp [findEntry]
  | cons entry rest ih =>
    rw [findEntry, List.map_cons, List.mem_cons, ← ih]
    by_cases h : key = entry.1 <;> simp [h]

/-- Where each key stands once, what is found is what is there. -/
theorem findEntry_eq_some {key : κ} {value : ν} :
    ∀ {entries : List (κ × ν)}, entries.Pairwise (fun a b => a.1 ≠ b.1) →
      (findEntry key entries = some value ↔ (key, value) ∈ entries)
  | [], _ => by simp [findEntry]
  | (k, v) :: rest, h => by
    have hall := List.pairwise_cons.1 h
    by_cases heq : key = k
    · subst heq
      have hrest : (key, value) ∉ rest := fun hmem => hall.1 _ hmem rfl
      simp [findEntry, hrest, eq_comm]
    · rw [findEntry, if_neg (fun h => heq (Std.LawfulEqCmp.eq_of_compare h)),
        findEntry_eq_some hall.2]
      simp [heq]

/-- In sorted entries no key stands twice. -/
theorem SortedEntries.distinct {entries : List (κ × ν)} (h : SortedEntries entries) :
    entries.Pairwise fun a b => a.1 ≠ b.1 :=
  h.imp fun hlt heq => by simp [heq] at hlt

/-- The order of entries does not matter to a look-up where each key stands once. -/
theorem findEntry_reverse {key : κ} {entries : List (κ × ν)}
    (h : entries.Pairwise fun a b => a.1 ≠ b.1) :
    findEntry key entries.reverse = findEntry key entries := by
  refine Option.ext fun value => ?_
  rw [findEntry_eq_some (List.pairwise_reverse.2 (h.imp Ne.symm)), findEntry_eq_some h,
    List.mem_reverse]

/-- From the end the last value of a key is found. -/
theorem findEntry_reverse_eq_getLast? [DecidableEq κ] (key : κ) (entries : List (κ × ν)) :
    findEntry key entries.reverse =
      ((entries.filter fun entry => entry.1 = key).map (·.2)).getLast? := by
  induction entries with
  | nil => rfl
  | cons entry rest ih =>
    rw [List.reverse_cons, findEntry_append, ih, findEntry, List.filter_cons]
    by_cases h : entry.1 = key
    · subst h
      simp [List.getLast?_cons]
    · simp [findEntry, h, Ne.symm h]

end Find

end Entries

namespace SortedMap

variable {κ ν : Type} [Ord κ]

/-- Nothing is found in the empty map. -/
@[simp] theorem get?_empty (key : κ) : (empty : SortedMap κ ν).get? key = none := rfl

/-- Only the empty map has no entries. -/
theorem isEmpty_eq_true {map : SortedMap κ ν} : map.isEmpty = true ↔ map = empty := by
  rw [isEmpty, List.isEmpty_iff]
  exact ⟨fun h => ext h, fun h => h ▸ rfl⟩

section Find

variable [Std.LawfulEqOrd κ]

/-- The entries are what look-ups give. -/
theorem get?_eq_some {map : SortedMap κ ν} {key : κ} {value : ν} :
    map.get? key = some value ↔ (key, value) ∈ map.entries :=
  findEntry_eq_some map.sorted.distinct

/-- A map with one entry gives its value under its key and nothing under others. -/
@[simp] theorem get?_singleton [DecidableEq κ] (key k : κ) (value : ν) :
    (singleton key value).get? k = if k = key then some value else none := by
  simp [get?, singleton, findEntry]

/-- The keys are those under which something is found. -/
theorem mem_keys {map : SortedMap κ ν} {key : κ} : key ∈ map.keys ↔ map.contains key = true := by
  simp [keys, contains, Option.isSome_iff_exists, get?_eq_some]

/-- Each key stands once. -/
theorem nodup_keys (map : SortedMap κ ν) : map.keys.Nodup :=
  List.pairwise_map.2 map.sorted.distinct

end Find

variable [Std.TransOrd κ] [Std.LawfulEqOrd κ]

/-- Maps are equal as soon as all look-ups are. -/
theorem ext_get? {a b : SortedMap κ ν} (h : ∀ key, a.get? key = b.get? key) : a = b := by
  have hmem : ∀ entry, entry ∈ a.entries ↔ entry ∈ b.entries := fun entry => by
    rw [← Prod.eta entry, ← get?_eq_some, ← get?_eq_some, h]
  have hnodup (map : SortedMap κ ν) : map.entries.Nodup :=
    map.sorted.distinct.imp fun hne heq => hne (congrArg Prod.fst heq)
  exact ext <| List.Perm.eq_of_pairwise
    (fun x y _ _ (hxy : compare x.1 y.1 = .lt) (hyx : compare y.1 x.1 = .lt) =>
      absurd hyx (Std.OrientedCmp.not_lt_of_lt hxy))
    a.sorted b.sorted ((List.perm_ext_iff_of_nodup (hnodup a) (hnodup b)).2 hmem)

/-- After an insertion the new value is found under its key, and under others what was found
before. -/
@[simp] theorem get?_insert [DecidableEq κ] (map : SortedMap κ ν) (key k : κ) (value : ν) :
    (map.insert key value).get? k = if k = key then some value else map.get? k :=
  findEntry_insertEntry key k value map.entries

/-- In a map made of a list the last entry with a key is found. -/
theorem get?_ofList [DecidableEq κ] (entries : List (κ × ν)) (key : κ) :
    (ofList entries).get? key = findEntry key entries.reverse := by
  simp [get?, ofList, sortEntries, findEntry_foldl_insertEntry, findEntry]

/-- Where each key stands once, look-ups give the entries of the list. -/
theorem get?_ofList_eq_some [DecidableEq κ] {entries : List (κ × ν)} {key : κ} {value : ν}
    (h : (entries.map (·.1)).Nodup) :
    (ofList entries).get? key = some value ↔ (key, value) ∈ entries := by
  have hdistinct := List.pairwise_map.1 h
  rw [get?_ofList, findEntry_reverse hdistinct, findEntry_eq_some hdistinct]

/-- Of entries that are stored in turn the last one with a key is found, before what was there. -/
theorem get?_foldl_insert [DecidableEq κ] (map : SortedMap κ ν) (entries : List (κ × ν)) (key : κ) :
    (entries.foldl (fun acc entry => acc.insert entry.1 entry.2) map).get? key =
      (findEntry key entries.reverse).or (map.get? key) := by
  have hfold : ∀ map : SortedMap κ ν,
      (entries.foldl (fun acc entry => acc.insert entry.1 entry.2) map).entries =
        entries.foldl (fun acc entry => insertEntry entry.1 entry.2 acc) map.entries := by
    induction entries with
    | nil => exact fun _ => rfl
    | cons entry rest ih => exact fun map => ih _
  rw [get?, hfold, findEntry_foldl_insertEntry]
  rfl

/-- The union finds what the other map holds, and what this one holds beside it. -/
theorem get?_union [DecidableEq κ] (map other : SortedMap κ ν) (key : κ) :
    (map.union other).get? key = (other.get? key).or (map.get? key) := by
  rw [union, get?_foldl_insert, findEntry_reverse other.sorted.distinct]
  rfl

end SortedMap

end ComposeCluster

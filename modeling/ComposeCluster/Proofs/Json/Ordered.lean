import ComposeCluster.Json.Record
import ComposeCluster.Proofs.Json.Place

/-!
# Documents with ordered objects

A document is ordered if each of its objects lists its members by ascending key, as every document
is that was read from text. The members of an ordered object are read as a map entry by entry
(`asMap?_eq_some_iff`), so that storing a member stores an entry (`asMap?_insertEntry`).
-/

set_option autoImplicit false

namespace ComposeCluster

section Entries

variable {κ ν : Type} [Ord κ] [Std.TransOrd κ] [Std.LawfulEqOrd κ] [DecidableEq κ]

omit [Std.TransOrd κ] [Std.LawfulEqOrd κ] [DecidableEq κ] in
/-- An entry after many insertions was there before or is one of those. -/
theorem mem_foldl_insertEntry {entry : κ × ν} {entries acc : List (κ × ν)}
    (h : entry ∈ entries.foldl (fun acc entry => insertEntry entry.1 entry.2 acc) acc) :
    entry ∈ acc ∨ entry ∈ entries := by
  induction entries generalizing acc with
  | nil => exact .inl h
  | cons first rest ih =>
    obtain hacc | hrest := ih h
    · obtain rfl | hacc := mem_insertEntry hacc
      · exact .inr List.mem_cons_self
      · exact .inl hacc
    · exact .inr (List.mem_cons_of_mem _ hrest)

omit [Std.TransOrd κ] [Std.LawfulEqOrd κ] [DecidableEq κ] in
/-- Sorting entries makes up no new ones. -/
theorem mem_of_mem_sortEntries {entry : κ × ν} {entries : List (κ × ν)}
    (h : entry ∈ sortEntries entries) : entry ∈ entries :=
  (mem_foldl_insertEntry h).resolve_left List.not_mem_nil

/-- Sorted entries stay as they are. -/
theorem SortedEntries.sortEntries_eq {entries : List (κ × ν)} (h : SortedEntries entries) :
    sortEntries entries = entries := by
  have hmap : SortedMap.ofList entries = ⟨entries, h⟩ :=
    SortedMap.ext_get? fun key => by
      rw [SortedMap.get?_ofList, findEntry_reverse h.distinct]
      rfl
  exact congrArg SortedMap.entries hmap

omit [Std.TransOrd κ] [Std.LawfulEqOrd κ] [DecidableEq κ] in
/-- Only the keys matter for the order. -/
theorem SortedEntries.of_keys {ν' : Type} {entries : List (κ × ν)} {others : List (κ × ν')}
    (h : SortedEntries entries) (hkeys : others.map (·.1) = entries.map (·.1)) :
    SortedEntries others := by
  have hpairs : (entries.map (·.1)).Pairwise fun a b => compare a b = .lt := List.pairwise_map.2 h
  rw [← hkeys] at hpairs
  exact List.pairwise_map.1 hpairs

end Entries

namespace Json

/-- Each object in the document lists its members by ascending key. -/
inductive Ordered : Json → Prop where
  | null : Ordered .null
  | bool (value : Bool) : Ordered (.bool value)
  | int (value : Int) : Ordered (.int value)
  | float (value : Binary64) : Ordered (.float value)
  | str (value : String) : Ordered (.str value)
  | arr (items : List Json) (hitems : ∀ item ∈ items, Ordered item) : Ordered (.arr items)
  | obj (members : List (String × Json)) (hsorted : SortedEntries members)
      (hmembers : ∀ member ∈ members, Ordered member.2) : Ordered (.obj members)

namespace Ordered

/-- The members of an ordered value are sorted. -/
theorem members_sorted {value : Json} (h : value.Ordered) : SortedEntries value.members := by
  cases h with
  | obj members hsorted hmembers => exact hsorted
  | _ => exact List.Pairwise.nil

/-- Each member of an ordered value is ordered. -/
theorem of_mem_members {value : Json} (h : value.Ordered) :
    ∀ member ∈ value.members, member.2.Ordered := by
  cases h with
  | obj members hsorted hmembers => exact hmembers
  | _ => exact fun member hmember => by cases hmember

/-- What is found in an ordered value is ordered. -/
theorem member {value : Json} (h : value.Ordered) (token : String) :
    ((findEntry token value.members).getD .null).Ordered := by
  cases hfind : findEntry token value.members with
  | none => exact .null
  | some found => exact h.of_mem_members _ (mem_of_findEntry hfind)

/-- What stands at a place of an ordered value is ordered. -/
theorem valueAt {value : Json} (h : value.Ordered) (path : Pointer) :
    (value.valueAt path).Ordered := by
  induction path generalizing value with
  | nil => exact h
  | cons token path ih => exact ih (h.member token)

end Ordered

/-- A list is ordered exactly if its items are. -/
theorem ordered_arr_iff {items : List Json} :
    (Json.arr items).Ordered ↔ ∀ item ∈ items, item.Ordered :=
  ⟨fun h => by cases h; assumption, .arr items⟩

/-- An object is ordered exactly if its members are sorted and each is ordered. -/
theorem ordered_obj_iff {members : List (String × Json)} :
    (Json.obj members).Ordered ↔
      SortedEntries members ∧ ∀ member ∈ members, member.2.Ordered :=
  ⟨fun h => ⟨h.members_sorted, h.of_mem_members⟩, fun h => .obj members h.1 h.2⟩

/-! ## Maps in ordered documents -/

variable {α : Type}

def entryOfMember? (read : Json → Option α) (member : String × Json) : Option (String × α) :=
  (read member.2).map (member.1, ·)

/-- The entries of a map have the keys of the members. -/
theorem keys_of_mapM_entryOfMember? {read : Json → Option α} {members : List (String × Json)}
    {entries : List (String × α)} (h : members.mapM (entryOfMember? read) = some entries) :
    entries.map (·.1) = members.map (·.1) := by
  induction members generalizing entries with
  | nil => cases h; rfl
  | cons member rest ih =>
    simp only [List.mapM_cons, entryOfMember?, Option.bind_eq_bind, Option.pure_def,
      Option.bind_eq_some_iff, Option.map_eq_some_iff] at h
    obtain ⟨_, ⟨value, -, rfl⟩, others, hothers, heq⟩ := h
    cases heq
    rw [List.map_cons, List.map_cons, ih hothers]

/-- A map has a key if the object that it is read from has a member of that name. -/
theorem isSome_get?_of_asMap? {read : Json → Option α} {members : List (String × Json)}
    {map : SortedMap String α} (h : asMap? read (.obj members) = some map) (key : String) :
    (map.get? key).isSome ↔ (findEntry key members).isSome := by
  obtain ⟨entries, hentries, rfl⟩ := Option.map_eq_some_iff.1 h
  have hkeys := keys_of_mapM_entryOfMember? hentries
  rw [SortedMap.get?_ofList, findEntry_isSome_iff, findEntry_isSome_iff, List.map_reverse,
    List.mem_reverse, hkeys]

/-- Members by ascending key are read as a map entry by entry. -/
theorem asMap?_eq_some_iff {read : Json → Option α} {members : List (String × Json)}
    (hsorted : SortedEntries members) {map : SortedMap String α} :
    asMap? read (.obj members) = some map ↔
      members.mapM (entryOfMember? read) = some map.entries := by
  show (members.mapM (entryOfMember? read)).map SortedMap.ofList = some map ↔ _
  rw [Option.map_eq_some_iff]
  constructor
  · rintro ⟨entries, hentries, rfl⟩
    have hsame : SortedEntries entries :=
      hsorted.of_keys (keys_of_mapM_entryOfMember? hentries)
    rw [hentries]
    exact congrArg some hsame.sortEntries_eq.symm
  · intro hentries
    exact ⟨_, hentries, SortedMap.ext map.sorted.sortEntries_eq⟩

/-- Inserting a member that can be read inserts its entry. -/
theorem mapM_insertEntry {read : Json → Option α} {key : String} {json : Json} {value : α}
    (hread : read json = some value) {members : List (String × Json)}
    {entries : List (String × α)} (h : members.mapM (entryOfMember? read) = some entries) :
    (insertEntry key json members).mapM (entryOfMember? read) =
      some (insertEntry key value entries) := by
  induction members generalizing entries with
  | nil =>
    cases h
    simp [insertEntry, entryOfMember?, hread]
  | cons member rest ih =>
    obtain ⟨name, old⟩ := member
    simp only [List.mapM_cons, Option.bind_eq_bind, Option.pure_def,
      Option.bind_eq_some_iff] at h
    obtain ⟨entry, hentry, others, hothers, heq⟩ := h
    cases heq
    obtain ⟨found, hfound, rfl⟩ := Option.map_eq_some_iff.1 hentry
    rw [insertEntry, insertEntry]
    cases hcompare : compare key name with
    | lt => simp [entryOfMember?, hread, hfound, hothers]
    | eq => simp [entryOfMember?, hread, hothers]
    | gt => simp [entryOfMember?, hfound, ih hothers]

/-- Storing a member in an ordered object stores an entry in the map that it is read as. -/
theorem asMap?_insertEntry {read : Json → Option α} {key : String} {json : Json} {value : α}
    (hread : read json = some value) {members : List (String × Json)}
    (hsorted : SortedEntries members) {map : SortedMap String α}
    (h : asMap? read (.obj members) = some map) :
    asMap? read (.obj (insertEntry key json members)) = some (map.insert key value) := by
  rw [asMap?_eq_some_iff hsorted] at h
  rw [asMap?_eq_some_iff hsorted.insertEntry]
  exact mapM_insertEntry hread h

end Json

end ComposeCluster

import ComposeCluster.Json.Parser
import ComposeCluster.Proofs.Json.Ordered

/-!
# Documents that are read from text are ordered

Members are stored at their places while an object is read, so whatever text a document is read
from, it is ordered (`ordered_of_parse?`).
-/

set_option autoImplicit false

namespace ComposeCluster.Json

/-- A number with a fraction is ordered. -/
theorem ordered_of_floatOf? {negative : Bool} {digits : Nat} {exponent : Int} {value : Json}
    (h : floatOf? negative digits exponent = some value) : value.Ordered := by
  obtain ⟨number, -, rfl⟩ := Option.map_eq_some_iff.1 h
  exact .float _

/-- A number with an exponent is ordered. -/
theorem ordered_of_withExponent? {negative : Bool} {digits : Nat} {start : Int}
    {cs rest : List Char} {value : Json}
    (h : withExponent? negative digits start cs = some (value, rest)) : value.Ordered := by
  unfold withExponent? at h
  simp only [Option.bind_eq_bind, Option.bind_eq_some_iff] at h
  obtain ⟨size, -, h⟩ := h
  split at h
  · obtain ⟨-, heq⟩ := Option.ite_none_left_eq_some.1 h
    cases heq
    exact .float _
  · simp only [Option.bind_eq_some_iff] at h
    obtain ⟨number, hnumber, h⟩ := h
    cases h
    exact ordered_of_floatOf? hnumber

/-- A number that is read to its end is ordered. -/
theorem ordered_of_finish? {negative : Bool} {digits : Nat} {exponent : Int}
    {cs rest : List Char} {value : Json}
    (h : finish? negative digits exponent cs = some (value, rest)) : value.Ordered := by
  have hfloat {cs : List Char} (h : (floatOf? negative digits exponent).map (·, cs) =
      some (value, rest)) : value.Ordered := by
    obtain ⟨number, hnumber, heq⟩ := Option.map_eq_some_iff.1 h
    cases heq
    exact ordered_of_floatOf? hnumber
  unfold finish? at h
  split at h
  · split at h
    · exact ordered_of_withExponent? h
    · exact hfloat h
  · exact hfloat h

/-- A whole number is ordered. -/
theorem ordered_of_wholeOf? {negative : Bool} {digits : Nat} {value : Json}
    (h : wholeOf? negative digits = some value) : value.Ordered := by
  unfold wholeOf? at h
  split at h
  · split at h
    · exact ordered_of_floatOf? h
    · cases h
      exact .int _
  · cases h
    exact .int _

/-- Each number is ordered. -/
theorem ordered_of_number? {cs rest : List Char} {value : Json}
    (h : number? cs = some (value, rest)) : value.Ordered := by
  have hunsigned {negative : Bool} {cs : List Char}
      (h : unsignedNumber? negative cs = some (value, rest)) : value.Ordered := by
    unfold unsignedNumber? at h
    split at h
    · cases h
    split at h
    · cases h
    simp only at h
    split at h
    · unfold fraction? at h
      split at h
      · exact ordered_of_finish? h
      · cases h
    · split at h
      · obtain ⟨number, hnumber, heq⟩ := Option.map_eq_some_iff.1 h
        cases heq
        exact ordered_of_wholeOf? hnumber
      · exact ordered_of_finish? h
  unfold number? at h
  split at h
  · exact hunsigned h
  · exact hunsigned h

/-- Storing an ordered value keeps an object ordered. -/
theorem ordered_insertEntry {members : List (String × Json)} (h : (Json.obj members).Ordered)
    (key : String) {value : Json} (hvalue : value.Ordered) :
    (Json.obj (insertEntry key value members)).Ordered := by
  refine .obj _ h.members_sorted.insertEntry fun entry hentry => ?_
  rcases mem_insertEntry hentry with rfl | hmember
  · exact hvalue
  · exact h.of_mem_members entry hmember

/-- Reading with some fuel yields ordered documents; the items and members that were read before are
part of what is read. -/
structure ReadsOrdered (fuel : Nat) : Prop where
  value : ∀ {depth : Nat} {cs rest : List Char} {value : Json},
    value? fuel depth cs = some (value, rest) → value.Ordered
  items : ∀ {depth : Nat} {acc : List Json} {cs rest : List Char} {value : Json},
    (∀ item ∈ acc, item.Ordered) → items? fuel depth acc cs = some (value, rest) → value.Ordered
  members : ∀ {depth : Nat} {acc : List (String × Json)} {cs rest : List Char} {value : Json},
    (Json.obj acc).Ordered → members? fuel depth acc cs = some (value, rest) → value.Ordered

namespace ReadsOrdered

variable {fuel depth : Nat} {cs rest : List Char} {value : Json}

/-- A value is ordered if what is read with less fuel is. -/
theorem ordered_of_value? (ih : ReadsOrdered fuel)
    (h : value? (fuel + 1) depth cs = some (value, rest)) : value.Ordered := by
  rw [value?] at h
  split at h
  · cases h
    exact .null
  · cases h
    exact .bool _
  · cases h
    exact .bool _
  · obtain ⟨text, -, heq⟩ := Option.map_eq_some_iff.1 h
    cases heq
    exact .str _
  · split at h
    · cases h
    split at h
    · cases h
      exact .arr [] (by simp)
    · exact ih.items (by simp) h
  · split at h
    · cases h
    split at h
    · cases h
      exact .obj [] .nil (by simp)
    · exact ih.members (.obj [] .nil (by simp)) h
  · exact ordered_of_number? h

/-- A list is ordered if its items so far and what is read with less fuel are. -/
theorem ordered_of_items? (ih : ReadsOrdered fuel) {acc : List Json}
    (hacc : ∀ item ∈ acc, item.Ordered)
    (h : items? (fuel + 1) depth acc cs = some (value, rest)) : value.Ordered := by
  rw [items?] at h
  split at h
  · cases h
  rename_i item _ hitem
  have hmore : ∀ other ∈ item :: acc, other.Ordered :=
    List.forall_mem_cons.2 ⟨ih.value hitem, hacc⟩
  split at h
  · exact ih.items hmore h
  · cases h
    exact .arr _ fun other hother => hmore other (List.mem_reverse.1 hother)
  · cases h

/-- An object is ordered if its members so far and what is read with less fuel are. -/
theorem ordered_of_members? (ih : ReadsOrdered fuel) {acc : List (String × Json)}
    (hacc : (Json.obj acc).Ordered)
    (h : members? (fuel + 1) depth acc cs = some (value, rest)) : value.Ordered := by
  rw [members?] at h
  split at h
  · split at h
    · cases h
    rename_i key _ _
    split at h
    · split at h
      · cases h
      rename_i member _ hmember
      have hmore := ordered_insertEntry hacc key (ih.value hmember)
      split at h
      · exact ih.members hmore h
      · cases h
        exact hmore
      · cases h
    · cases h
  · cases h

end ReadsOrdered

/-- Whatever is read is ordered, with any fuel. -/
theorem readsOrdered (fuel : Nat) : ReadsOrdered fuel := by
  induction fuel with
  | zero =>
    exact ⟨fun h => by simp [value?] at h, fun _ h => by simp [items?] at h,
      fun _ h => by simp [members?] at h⟩
  | succ fuel ih => exact ⟨ih.ordered_of_value?, ih.ordered_of_items?, ih.ordered_of_members?⟩

/-- Whatever is read from text is ordered. -/
theorem ordered_of_parse? {text : String} {value : Json} (h : parse? text = some value) :
    value.Ordered := by
  unfold parse? at h
  simp only at h
  split at h
  · rename_i read rest hread
    split at h
    · cases h
      exact (readsOrdered _).value hread
    · cases h
  · cases h

end ComposeCluster.Json

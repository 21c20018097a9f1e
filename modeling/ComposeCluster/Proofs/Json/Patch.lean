import ComposeCluster.Proofs.Json.Place

/-!
# Patches as updates

Both kinds of patches come down to updates of places. An operation that succeeds is an update of
its path (`put?_eq_update`), and it succeeds where the objects on the way are there
(`put?_append_singleton`). A merge patch with one member is an update of that member
(`merge_obj_singleton`), whatever the document.
-/

set_option autoImplicit false

namespace ComposeCluster

namespace Json

/-- The token names members of objects only, no items of lists. -/
def IsName (token : String) : Prop := token ≠ "-" ∧ index? token = none

instance (token : String) : Decidable (IsName token) :=
  inferInstanceAs (Decidable (_ ∧ _))

/-- A path of names that leads to a value leads to it through objects only. -/
theorem valueAt_of_at? {path : Pointer} {document value : Json}
    (hnames : ∀ token ∈ path, IsName token) (h : document.at? path = some value) :
    document.valueAt path = value := by
  induction path generalizing document with
  | nil => exact Option.some.inj h
  | cons token path ih =>
    have hrest : ∀ next ∈ path, IsName next := fun next hnext => hnames next (by simp [hnext])
    cases document with
    | obj members =>
      rw [at?, Option.bind_eq_some_iff] at h
      obtain ⟨member, hmember, hbelow⟩ := h
      rw [valueAt, members_obj, hmember]
      exact ih hrest hbelow
    | arr items => simp [at?, (hnames token (by simp)).2] at h
    | _ => cases h

/-- An operation on a longer path is one on the member that the path starts with. -/
theorem put?_cons {path : Pointer} (hpath : path ≠ []) (kind : PatchKind) (value : Json)
    (token : String) (entries : List (String × Json)) :
    put? kind value (token :: path) (.obj entries) =
      (findEntry token entries).bind fun member =>
        (put? kind value path member).map fun member =>
          .obj (insertEntry token member entries) := by
  cases path with
  | nil => exact absurd rfl hpath
  | cons next path => rw [put?.eq_def]

/-- An operation that succeeds on a path of names is an update of that path. -/
theorem put?_eq_update {kind : PatchKind} {value : Json} {path : Pointer} {document result : Json}
    (hnames : ∀ token ∈ path, IsName token) (h : put? kind value path document = some result) :
    result = update (fun _ => value) path document := by
  induction path generalizing document result with
  | nil => simpa [put?, eq_comm] using h
  | cons token path ih =>
    obtain ⟨hdash, hindex⟩ := hnames token (by simp)
    have hrest : ∀ next ∈ path, IsName next := fun next hnext => hnames next (by simp [hnext])
    cases document with
    | obj members =>
      by_cases hpath : path = []
      · subst hpath
        rw [put?] at h
        split at h
        · cases h
        · cases h
          rfl
      · rw [put?_cons hpath] at h
        simp only [Option.bind_eq_some_iff, Option.map_eq_some_iff] at h
        obtain ⟨member, hmember, changed, hchanged, rfl⟩ := h
        rw [update, members_obj, hmember, Option.getD_some, ← ih hrest hchanged]
    | arr items =>
      cases path with
      | nil => cases kind <;> simp [put?, addItem?, hdash, hindex] at h
      | cons next path => simp [put?, hindex] at h
    | _ => cases path <;> simp [put?] at h

/-- An operation succeeds where its path leads through objects to an object, which must have the
last member already if it is to be replaced. -/
theorem put?_append_singleton {kind : PatchKind} {front : Pointer} {token : String}
    {document : Json} {members : List (String × Json)}
    (hobj : document.valueAt front = .obj members)
    (hkind : kind = .replace → (findEntry token members).isSome) (value : Json) :
    put? kind value (front ++ [token]) document =
      some (update (fun _ => value) (front ++ [token]) document) := by
  induction front generalizing document with
  | nil =>
    obtain rfl : document = .obj members := hobj
    have hpresent : ¬ (kind = .replace ∧ (findEntry token members).isNone) := fun hmissing => by
      simpa [Option.isNone_iff_eq_none.1 hmissing.2] using hkind hmissing.1
    rw [List.nil_append, put?, if_neg hpresent]
    rfl
  | cons next front ih =>
    obtain ⟨entries, member, rfl, hmember, hbelow⟩ := valueAt_cons_eq_obj hobj
    rw [List.cons_append, put?_cons (by simp), hmember, Option.bind_some, ih hbelow, update,
      members_obj, hmember]
    rfl

/-- Operations are applied one after another, as long as each can be. -/
theorem applyAll?_cons (document : Json) (operation : PatchOperation)
    (rest : List PatchOperation) :
    document.applyAll? (operation :: rest) =
      (document.applyTo? operation).bind (applyAll? · rest) := rfl

/-- Operations in two lists are applied list after list. -/
theorem applyAll?_append (document : Json) (front back : List PatchOperation) :
    document.applyAll? (front ++ back) = (document.applyAll? front).bind (applyAll? · back) := by
  unfold applyAll?
  rw [List.foldlM_append]
  rfl

/-! ## Merge patches -/

/-- Merging a member that is not null merges it into the one with its key. -/
theorem mergeMembers_cons {key : String} {change : Json} (hchange : change ≠ .null)
    (rest members : List (String × Json)) :
    mergeMembers ((key, change) :: rest) members =
      mergeMembers rest
        (insertEntry key (merge change ((findEntry key members).getD .null)) members) := by
  rw [mergeMembers.eq_def]
  cases change <;> first | rfl | exact absurd rfl hchange

/-- A merge patch with one member updates that member. -/
theorem merge_obj_singleton {key : String} {change : Json} (hchange : change ≠ .null) :
    merge (.obj [(key, change)]) = update (merge change) [key] := by
  funext document
  rw [merge, mergeMembers_cons hchange, mergeMembers]
  rfl

/-- Merging an object with two members updates both places. -/
theorem merge_obj_pair {first second : String} {change other : Json} (hchange : change ≠ .null)
    (hother : other ≠ .null) :
    merge (.obj [(first, change), (second, other)]) =
      update (merge other) [second] ∘ update (merge change) [first] := by
  funext document
  rw [merge, mergeMembers_cons hchange, mergeMembers_cons hother, mergeMembers]
  rfl

/-- Merging a text replaces what was there. -/
theorem merge_str (text : String) : merge (.str text) = fun _ => .str text := by
  funext target
  rw [merge]
  simp

/-- Merging a list replaces what was there. -/
theorem merge_arr (items : List Json) : merge (.arr items) = fun _ => .arr items := by
  funext target
  rw [merge]
  simp

end Json

end ComposeCluster

import ComposeCluster.Json.Patch
import ComposeCluster.SortedMap.Lemmas

/-!
# Places in JSON documents

A pointer names a place in a document. `Json.at?` is what a document has there, and `Json.update`
changes what is there; objects that are missing on the way are made. Updates of one place are one
update (`update_update`), and an update changes nothing that it does not lead to
(`changedOnlyAt_update`).
-/

set_option autoImplicit false

namespace ComposeCluster

namespace Json

/-- What a document has at a place: pointers name the members of objects and the items of lists. -/
def at? : Pointer → Json → Option Json
  | [], value => some value
  | token :: path, .obj members => (findEntry token members).bind (at? path)
  | token :: path, .arr items => ((index? token).bind (items[·]?)).bind (at? path)
  | _ :: _, _ => none

/-- What a document has at a place that is reached through objects only; null if there is
nothing. -/
def valueAt : Pointer → Json → Json
  | [], value => value
  | token :: path, value => valueAt path ((findEntry token value.members).getD .null)

/-- Changes what a document has at a place that is reached through objects only. What is no object
on the way is replaced by one. -/
def update (change : Json → Json) : Pointer → Json → Json
  | [], value => change value
  | token :: path, value =>
    .obj (insertEntry token (update change path ((findEntry token value.members).getD .null))
      value.members)

/-- The value is an object, or stands for one that is missing. -/
def IsOpen (value : Json) : Prop := value = .null ∨ ∃ members, value = .obj members

/-- The members of an object are its entries. -/
@[simp] theorem members_obj (entries : List (String × Json)) :
    (Json.obj entries).members = entries :=
  rfl

/-- An update at the place of a document itself changes the document. -/
@[simp] theorem update_nil (change : Json → Json) (value : Json) :
    update change [] value = change value := rfl

/-- An update at a longer place is an update of what is at the shorter one. -/
theorem update_append (change : Json → Json) (front back : Pointer) :
    update change (front ++ back) = update (update change back) front := by
  funext value
  induction front generalizing value with
  | nil => rfl
  | cons token front ih => rw [List.cons_append, update, update, ih]

/-- Two updates of one place are one. -/
theorem update_update (second first : Json → Json) (path : Pointer) (value : Json) :
    update second path (update first path value) = update (second ∘ first) path value := by
  induction path generalizing value with
  | nil => rfl
  | cons token path ih =>
    rw [update, update, update, members_obj, findEntry_insertEntry, if_pos rfl,
      Option.getD_some, ih, insertEntry_insertEntry]

/-- Two changes that make the same of the value at a place update the document in the same way. -/
theorem update_congr {change other : Json → Json} {path : Pointer} {value : Json}
    (h : change (value.valueAt path) = other (value.valueAt path)) :
    update change path value = update other path value := by
  induction path generalizing value with
  | nil => exact h
  | cons token path ih => rw [update, update, ih h]

/-- The value at a longer place is found below the value at the shorter one. -/
theorem valueAt_append (front back : Pointer) (value : Json) :
    value.valueAt (front ++ back) = (value.valueAt front).valueAt back := by
  induction front generalizing value with
  | nil => rfl
  | cons token front ih => rw [List.cons_append, valueAt, valueAt, ih]

/-- There is nothing below null. -/
@[simp] theorem valueAt_null (path : Pointer) : Json.null.valueAt path = .null := by
  induction path with
  | nil => rfl
  | cons token path ih => exact ih

/-- An object below a value shows that the value is an object with a member on the way. -/
theorem valueAt_cons_eq_obj {token : String} {path : Pointer} {value : Json}
    {members : List (String × Json)} (h : value.valueAt (token :: path) = .obj members) :
    ∃ entries member, value = .obj entries ∧ findEntry token entries = some member ∧
      member.valueAt path = .obj members := by
  rw [valueAt] at h
  cases hmember : findEntry token value.members with
  | none => simp [hmember] at h
  | some member =>
    rw [hmember, Option.getD_some] at h
    cases value with
    | obj entries => exact ⟨entries, member, rfl, hmember, h⟩
    | _ => cases hmember

/-- What an update leaves at its place. -/
@[simp] theorem valueAt_update (change : Json → Json) (path : Pointer) (value : Json) :
    (update change path value).valueAt path = change (value.valueAt path) := by
  induction path generalizing value with
  | nil => rfl
  | cons token path ih =>
    rw [update, valueAt, members_obj, findEntry_insertEntry, if_pos rfl, Option.getD_some, ih,
      valueAt]

/-- An update changes nothing behind the point where another path branches off. -/
theorem valueAt_update_of_ne {token other : String} (h : other ≠ token) (change : Json → Json)
    (front path back : Pointer) (value : Json) :
    (update change (front ++ token :: path) value).valueAt (front ++ other :: back) =
      value.valueAt (front ++ other :: back) := by
  rw [update_append, valueAt_append, valueAt_update, valueAt_append]
  rw [valueAt, valueAt, update, members_obj, findEntry_insertEntry, if_neg h]

/-- What a document has at a longer place is found below what it has at the shorter one. -/
theorem at?_append (front back : Pointer) (value : Json) :
    value.at? (front ++ back) = (value.at? front).bind (at? back) := by
  induction front generalizing value with
  | nil => rfl
  | cons token front ih =>
    have hrest : at? (front ++ back) = fun value => (value.at? front).bind (at? back) := funext ih
    cases value with
    | obj members => simp only [List.cons_append, at?, Option.bind_assoc, hrest]
    | arr items => simp only [List.cons_append, at?, Option.bind_assoc, hrest]
    | _ => rfl

/-- At the place of an update there is the changed value. -/
@[simp] theorem at?_update (change : Json → Json) (path : Pointer) (value : Json) :
    (update change path value).at? path = some (change (value.valueAt path)) := by
  induction path generalizing value with
  | nil => rfl
  | cons token path ih =>
    rw [update, at?, findEntry_insertEntry, if_pos rfl, Option.bind_some, ih, valueAt]

/-! ## What differs between two documents -/

/-- The second document differs from the first at most at some places: each path leads into one of
them, or to the same value in both documents, or to an object on the way to a place, which may have
been missing before. -/
def ChangedOnlyAt (places : List Pointer) (before after : Json) : Prop :=
  ∀ path : Pointer,
    (∃ place ∈ places, place <+: path) ∨
    after.at? path = before.at? path ∨
    (∃ place ∈ places, path <+: place) ∧ ((before.at? path).getD .null).IsOpen ∧
      ∃ members, after.at? path = some (.obj members)

/-- A document does not differ from itself. -/
theorem ChangedOnlyAt.refl (places : List Pointer) (value : Json) :
    ChangedOnlyAt places value value :=
  fun _ => .inr (.inl rfl)

/-- More places may be allowed for a difference. -/
theorem ChangedOnlyAt.mono {places more : List Pointer} {before after : Json}
    (hsub : places ⊆ more) (h : ChangedOnlyAt places before after) :
    ChangedOnlyAt more before after := by
  intro path
  rcases h path with ⟨place, hmem, hplace⟩ | heq | ⟨⟨place, hmem, hplace⟩, hopen⟩
  · exact .inl ⟨place, hsub hmem, hplace⟩
  · exact .inr (.inl heq)
  · exact .inr (.inr ⟨⟨place, hsub hmem, hplace⟩, hopen⟩)

/-- Differences at some places add up to differences at these places. -/
theorem ChangedOnlyAt.trans {places : List Pointer} {first second third : Json}
    (h : ChangedOnlyAt places first second) (h' : ChangedOnlyAt places second third) :
    ChangedOnlyAt places first third := by
  intro path
  rcases h path with hinto | heq | ⟨hway, hopen, members, hobj⟩
  · exact .inl hinto
  · rcases h' path with hinto | heq' | ⟨hway, hopen, hobj⟩
    · exact .inl hinto
    · exact .inr (.inl (heq'.trans heq))
    · exact .inr (.inr ⟨hway, heq ▸ hopen, hobj⟩)
  · rcases h' path with hinto | heq' | ⟨-, -, hobj'⟩
    · exact .inl hinto
    · exact .inr (.inr ⟨hway, hopen, members, heq'.trans hobj⟩)
    · exact .inr (.inr ⟨hway, hopen, hobj'⟩)

/-- Each value that a path leads through is an object, or stands for one that is missing. -/
def OpenAlong : Pointer → Json → Prop
  | [], _ => True
  | token :: path, value =>
    value.IsOpen ∧ OpenAlong path ((findEntry token value.members).getD .null)

/-- A path stays open when a place is updated that it does not lead through. -/
theorem OpenAlong.update {path : Pointer} {value : Json} (h : value.OpenAlong path)
    {place : Pointer} (hplace : ¬ place <+: path) (change : Json → Json) :
    (value.update change place).OpenAlong path := by
  induction place generalizing path value with
  | nil => exact absurd List.nil_prefix hplace
  | cons token place ih =>
    cases path with
    | nil => trivial
    | cons other path =>
      refine ⟨.inr ⟨_, rfl⟩, ?_⟩
      rw [Json.update, members_obj, findEntry_insertEntry]
      by_cases hother : other = token
      · subst hother
        rw [if_pos rfl, Option.getD_some]
        exact ih h.2 fun hprefix => hplace (List.cons_prefix_cons.2 ⟨rfl, hprefix⟩)
      · rw [if_neg hother]
        exact h.2

/-- A path that leads to a member of an object is open. -/
theorem openAlong_of_valueAt_eq_obj {front : Pointer} {value : Json}
    {members : List (String × Json)} (h : value.valueAt front = .obj members) (token : String) :
    value.OpenAlong (front ++ [token]) := by
  induction front generalizing value with
  | nil => exact ⟨.inr ⟨members, h⟩, trivial⟩
  | cons next front ih =>
    obtain ⟨entries, member, rfl, hmember, hbelow⟩ := valueAt_cons_eq_obj h
    refine ⟨.inr ⟨entries, rfl⟩, ?_⟩
    rw [members_obj, hmember]
    exact ih hbelow

/-- Below an object, or nothing, a document has what its member has there. -/
theorem at?_cons_of_isOpen {value : Json} (h : value.IsOpen) (token : String) (path : Pointer) :
    value.at? (token :: path) = (findEntry token value.members).bind (at? path) := by
  rcases h with rfl | ⟨members, rfl⟩ <;> rfl

/-- What is at a place below a member, whether the member is there or stands for a missing one:
only the missing member itself can be told from null. -/
theorem at?_member (member? : Option Json) (path : Pointer) :
    (member?.getD .null).at? path = member?.bind (at? path) ∨
      member? = none ∧ path = [] := by
  cases member? with
  | some member => exact .inl rfl
  | none =>
    cases path with
    | nil => exact .inr ⟨rfl, rfl⟩
    | cons token path => exact .inl rfl

/-- An update through objects changes only its place. -/
theorem changedOnlyAt_update (change : Json → Json) {place : Pointer} {value : Json}
    (hopen : value.OpenAlong place) :
    ChangedOnlyAt [place] value (update change place value) := by
  induction place generalizing value with
  | nil => exact fun path => .inl ⟨[], by simp, List.nil_prefix⟩
  | cons token place ih =>
    obtain ⟨hvalue, hmember⟩ := hopen
    have hbelow := ih hmember
    intro path
    cases path with
    | nil => exact .inr (.inr ⟨⟨token :: place, by simp, List.nil_prefix⟩, hvalue, _, rfl⟩)
    | cons other path =>
      rw [update, at?, findEntry_insertEntry, at?_cons_of_isOpen hvalue]
      by_cases hother : other = token
      · subst hother
        rw [if_pos rfl, Option.bind_some]
        simp only [List.mem_singleton, exists_eq_left, List.cons_prefix_cons, true_and]
        rcases at?_member (findEntry other value.members) path with hsame | ⟨hnone, rfl⟩
        · rw [← hsame]
          simpa using hbelow path
        · -- the member is new: it is the place itself or an object on the way to it
          rw [hnone]
          cases place with
          | nil => exact .inl List.nil_prefix
          | cons next place => exact .inr (.inr ⟨List.nil_prefix, .inl rfl, _, rfl⟩)
      · rw [if_neg hother]
        exact .inr (.inl rfl)

end Json

end ComposeCluster

import ComposeCluster.Json.Record
import ComposeCluster.Proofs.Json.Place

/-!
# Reading members of objects

A reader asks for one member after another, and among the members of an object the order in which
it asks does not matter: `Fields.optionalIn` is what an optional field is read as, and it changes
only with the member of its name (`optionalIn_insertEntry`, `optionalIn_record`). So two objects are
read as one record if each field is read as the same in both (`Fields.SameIn`). A member that is
missing is read like an object without members by every reader that `ReadsObjects`
(`ReadsObjects.optionalIn`).
-/

set_option autoImplicit false

namespace ComposeCluster

namespace Fields

variable {α : Type}

/-- What an optional field is read as among the members of an object. -/
def optionalIn (name : String) (read : Json → Option α) (members : List (String × Json)) :
    Option (Option α) :=
  ((findEntry name members).getD .null).asOption? read

/-- A field with a default is read from the member with its name. -/
theorem run_orElse (name : String) (default : α) (read : Json → Option α)
    (members : List (String × Json)) :
    (orElse name default read).run (.named members) =
      ((findEntry name members).elim (some default) read).map (·, .named members) := by
  have htake : (modifyGet (take name) : Reader (Option Json)).run (.named members) =
      some (findEntry name members, .named members) := rfl
  unfold orElse
  rw [StateT.run_bind, htake]
  cases findEntry name members with
  | none => rfl
  | some value =>
    show (read value).bind _ = _
    rw [Option.elim_some]
    cases read value <;> rfl

/-- An optional field is read from the member with its name. -/
theorem run_optional (name : String) (read : Json → Option α) (members : List (String × Json)) :
    (optional name read).run (.named members) =
      (optionalIn name read members).map (·, .named members) := by
  rw [optional, run_orElse, optionalIn]
  cases findEntry name members <;> rfl

/-- After an insertion the new value is read for its key, and for others what was read before. -/
theorem optionalIn_insertEntry (name key : String) (read : Json → Option α) (value : Json)
    (members : List (String × Json)) :
    optionalIn name read (insertEntry key value members) =
      if name = key then value.asOption? read else optionalIn name read members := by
  rw [optionalIn, findEntry_insertEntry]
  split <;> rfl

/-! ## The same record in two objects -/

/-- Among the members of two objects a reader finds the same. -/
def SameIn (members others : List (String × Json)) (reader : Reader α) : Prop :=
  ∃ result? : Option α,
    reader.run (.named members) = result?.map (·, .named members) ∧
    reader.run (.named others) = result?.map (·, .named others)

namespace SameIn

variable {β : Type} {name : String} {members others : List (String × Json)} {reader : Reader α}

/-- A value that is taken from no members is the same. -/
theorem pure (value : α) : SameIn members others (Pure.pure value) := ⟨some value, rfl, rfl⟩

/-- The next field is looked up among the same members. -/
theorem bind {next : α → Reader β} (h : SameIn members others reader)
    (hnext : ∀ a, SameIn members others (next a)) : SameIn members others (reader >>= next) := by
  obtain ⟨result?, hmembers, hothers⟩ := h
  cases result? with
  | none =>
    refine ⟨none, ?_, ?_⟩
    · rw [StateT.run_bind, hmembers]
      rfl
    · rw [StateT.run_bind, hothers]
      rfl
  | some a =>
    obtain ⟨final?, hfinal, hother⟩ := hnext a
    refine ⟨final?, ?_, ?_⟩
    · rw [StateT.run_bind, hmembers]
      exact hfinal
    · rw [StateT.run_bind, hothers]
      exact hother

/-- A field with a default is the same where its member, or the default, is read the same. -/
theorem orElse {default : α} {read : Json → Option α}
    (h : (findEntry name members).elim (some default) read =
      (findEntry name others).elim (some default) read) :
    SameIn members others (Fields.orElse name default read) :=
  ⟨_, run_orElse name default read members, by rw [run_orElse, h]⟩

/-- Records for which a reader finds the same are read as the same. -/
theorem readRecord?_eq (h : SameIn members others reader) :
    Json.readRecord? reader (.obj members) = Json.readRecord? reader (.obj others) := by
  obtain ⟨result?, hmembers, hothers⟩ := h
  unfold Json.readRecord?
  dsimp only
  rw [hmembers, hothers]
  cases result? <;> rfl

end SameIn

end Fields

namespace Json

variable {α : Type}

/-- Null is no value. -/
@[simp] theorem asOption?_null (read : Json → Option α) : Json.null.asOption? read = some none :=
  rfl

/-- An object is read as a value. -/
@[simp] theorem asOption?_obj (read : Json → Option α) (members : List (String × Json)) :
    (Json.obj members).asOption? read = (read (.obj members)).map some := rfl

/-- A list is read as a value. -/
@[simp] theorem asOption?_arr (read : Json → Option α) (items : List Json) :
    (Json.arr items).asOption? read = (read (.arr items)).map some := rfl

/-- A text is read as a value. -/
@[simp] theorem asOption?_str (read : Json → Option α) (text : String) :
    (Json.str text).asOption? read = (read (.str text)).map some := rfl

/-- What is there when an optional value is read as present. -/
theorem asOption?_eq_some_some {read : Json → Option α} {value : Json} {a : α} :
    value.asOption? read = some (some a) ↔ value ≠ .null ∧ read value = some a := by
  cases value <;> simp [asOption?]

/-- Only null is read as absent. -/
theorem asOption?_eq_some_none {read : Json → Option α} {value : Json} :
    value.asOption? read = some none ↔ value = .null := by
  cases value <;> simp [asOption?]

/-- The reader takes objects only, and an object without members as a default. -/
structure ReadsObjects (read : Json → Option α) (default : α) : Prop where
  eq_obj : ∀ {value : Json} {a : α}, read value = some a → ∃ members, value = .obj members
  read_empty : read (.obj []) = some default

/-- An optional field that is read from an object is there as an object or stands for one without
members. -/
theorem ReadsObjects.optionalIn {read : Json → Option α} {default : α}
    (hread : ReadsObjects read default) {name : String} {members : List (String × Json)}
    {result? : Option α} (h : Fields.optionalIn name read members = some result?) :
    ((findEntry name members).getD .null).IsOpen ∧
      read (.obj ((findEntry name members).getD .null).members) =
        some (result?.getD default) := by
  rw [Fields.optionalIn] at h
  generalize (findEntry name members).getD .null = member at h ⊢
  cases result? with
  | none =>
    obtain rfl := asOption?_eq_some_none.1 h
    exact ⟨.inl rfl, hread.read_empty⟩
  | some result =>
    obtain ⟨-, hsome⟩ := asOption?_eq_some_some.1 h
    obtain ⟨entries, rfl⟩ := hread.eq_obj hsome
    exact ⟨.inr ⟨entries, rfl⟩, hsome⟩

/-- A value that was found was read from an object. -/
theorem ReadsObjects.eq_obj_of_isSome {read : Json → Option α} {default : α}
    (hread : ReadsObjects read default) {name : String} {members : List (String × Json)}
    {result? : Option α} (h : Fields.optionalIn name read members = some result?)
    (hsome : result?.isSome) :
    ∃ entries, (findEntry name members).getD .null = .obj entries := by
  obtain ⟨result, rfl⟩ := Option.isSome_iff_exists.1 hsome
  exact hread.eq_obj (asOption?_eq_some_some.1 h).2

/-! ## Records -/

/-- In a record a field is found if it was written. -/
theorem findEntry_present (name : String) {fields : List (String × Option Json)}
    (hnodup : (fields.map (·.1)).Nodup) :
    findEntry name (fields.filterMap fun field => field.2.map (field.1, ·)) =
      (findEntry name fields).join := by
  induction fields with
  | nil => rfl
  | cons field rest ih =>
    obtain ⟨key, value?⟩ := field
    rw [List.map_cons, List.nodup_cons] at hnodup
    have hrest := ih hnodup.2
    by_cases hname : name = key
    · subst hname
      cases value? with
      | some value => simp [findEntry]
      | none =>
        have hmissing : findEntry name rest = none := by
          cases hfound : findEntry name rest with
          | none => rfl
          | some other =>
            exact absurd (List.mem_map_of_mem (mem_of_findEntry hfound)) hnodup.1
        simpa [findEntry, hmissing] using hrest
    · cases value? <;> simp [findEntry, hname, hrest]

/-- A record is an object with its present fields. -/
theorem findEntry_record (name : String) {fields : List (String × Option Json)}
    (hnodup : (fields.map (·.1)).Nodup) :
    findEntry name (record fields).members = (findEntry name fields).join := by
  have hkey (field : String × Option Json) (member : String × Json)
      (h : field.2.map (field.1, ·) = some member) : member.1 = field.1 := by
    obtain ⟨_, -, rfl⟩ := Option.map_eq_some_iff.1 h
    rfl
  have hdistinct := List.pairwise_map.1 (nodup_keys_filterMap hkey hnodup)
  rw [← findEntry_present name hnodup, ← findEntry_reverse hdistinct, record, object,
    members_obj, sortEntries, findEntry_foldl_insertEntry, findEntry, Option.or_none]

/-- An optional field of a record is read from what was written for it. -/
theorem optionalIn_record (name : String) (read : Json → Option α)
    {fields : List (String × Option Json)} (hnodup : (fields.map (·.1)).Nodup) :
    Fields.optionalIn name read (record fields).members =
      (((findEntry name fields).join).getD .null).asOption? read := by
  rw [Fields.optionalIn, findEntry_record name hnodup]

end Json

end ComposeCluster

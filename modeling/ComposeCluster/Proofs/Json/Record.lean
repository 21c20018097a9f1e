import ComposeCluster.Proofs.Kube.Generated

/-!
# Records that are read back

A type is read back from what it is written as (`ReadsBack`) if each of its fields is. A reader asks
for one field after the other, and among the members of an object none of them changes what the next
one finds: `Fields.Reads` says what a reader takes from the fields of a record, and is put together
field by field (`Reads.cons`). A field that is left out is read as the default, and for each way to
leave out a field the default is the one value that is left out (`Reads.optional`, `Reads.list`,
`Reads.textMap`).
-/

set_option autoImplicit false

namespace ComposeCluster

/-- What is written is read back as it was. -/
def ReadsBack {α : Type} (write : α → Json) (read : Json → Option α) : Prop :=
  ∀ value, read (write value) = some value

/-! ## Single values -/

namespace Json

variable {α : Type}

/-- A text is read back from its JSON. -/
theorem readsBack_str : ReadsBack str asText? := fun _ => rfl

/-- A truth value is read back from its JSON. -/
theorem readsBack_bool : ReadsBack bool asBool? := fun _ => rfl

/-- A number below a bound is read back under this bound. -/
theorem asNatBelow?_nat {bound value : Nat} (h : value < bound) :
    asNatBelow? bound (nat value) = some value := by
  rw [asNatBelow?, nat, asInt?, if_pos (by simpa using h)]
  rfl

/-- A port is read back from its JSON. -/
theorem readsBack_port : ReadsBack port asPort? := fun value => by
  rw [asPort?, port, asNatBelow?_nat value.toNat_lt, Option.map_some, UInt16.ofNat_toNat]

/-- An unsigned number of 32 bits is read back from its JSON. -/
theorem readsBack_uint32 : ReadsBack (fun value => nat value.toNat) asUInt32? := fun value => by
  rw [asUInt32?, asNatBelow?_nat value.toNat_lt, Option.map_some, UInt32.ofNat_toNat]

/-- A signed number of 32 bits is read back from its JSON. -/
theorem readsBack_int32 : ReadsBack (fun value => int value.toInt) asInt32? := fun value => by
  have hfits : Text.fitsInt32 value.toInt = true := by
    have hle := value.le_toInt
    have hlt := value.toInt_lt
    simp only [Text.fitsInt32, Bool.and_eq_true, decide_eq_true_eq]
    omega
  rw [asInt32?, asInt?, if_pos hfits, Option.map_some, Int32.ofInt_toInt]

/-- A list is read back if its items are. -/
theorem readsBack_list {write : α → Json} {read : Json → Option α} (h : ReadsBack write read) :
    ReadsBack (fun items => .arr (items.map write)) (asList? read) := fun items => by
  have hread : ∀ a, read (write a) = some (id a) := h
  rw [asList?_map hread, List.map_id]

/-- A list of texts is read back. -/
theorem readsBack_texts : ReadsBack texts (asList? asText?) := readsBack_list readsBack_str

/-- A map of texts is read back. -/
theorem readsBack_textMap : ReadsBack (ofMap str) asTextMap? := asTextMap?_ofMap

end Json

/-! ## Fields -/

namespace Fields

variable {α β : Type} {name : String} {field : String × Option Json}
  {fields others : List (String × Option Json)}

/-- From an object that has these fields, and maybe others, the reader takes a value. -/
def Reads (reader : Reader α) (fields : List (String × Option Json)) (value : α) : Prop :=
  ∀ members : List (String × Json),
    (∀ field ∈ fields, findEntry field.1 members = field.2) →
      reader.run (.named members) = some (value, .named members)

namespace Reads

/-- A reader that asks for nothing reads its value from no fields. -/
theorem pure (value : α) : Reads (Pure.pure value) [] value := fun _ _ => rfl

/-- Some fields are read, and then others. -/
theorem append {reader : Reader α} {next : α → Reader β} {a : α} {b : β}
    (h : Reads reader fields a) (hnext : Reads (next a) others b) :
    Reads (reader >>= next) (fields ++ others) b := by
  intro members hmembers
  have hfirst : reader.run (.named members) = some (a, .named members) :=
    h members fun field hmem => hmembers field (List.mem_append_left _ hmem)
  rw [StateT.run_bind, hfirst]
  exact hnext members fun field hmem => hmembers field (List.mem_append_right _ hmem)

/-- One field is read, and then the others. -/
theorem cons {reader : Reader α} {next : α → Reader β} {a : α} {b : β}
    (h : Reads reader [field] a) (hnext : Reads (next a) others b) :
    Reads (reader >>= next) (field :: others) b :=
  h.append hnext

/-- Taking a field gives what is there under its name, if anything. -/
theorem take (field? : Option Json) :
    Reads (modifyGet (Fields.take name)) [(name, field?)] field? := by
  intro members hmembers
  have hfield : findEntry name members = field? := hmembers _ List.mem_cons_self
  show some (findEntry name members, Fields.named members) = _
  rw [hfield]

/-- A field that is always written is read back. -/
theorem required {write : α → Json} {read : Json → Option α} (h : ReadsBack write read) (a : α) :
    Reads (Fields.required name read) [(name, some (write a))] a := by
  refine (take _).cons fun members _ => ?_
  show (read (write a)).bind _ = _
  rw [h a]
  rfl

/-- A field with a text is read back. -/
theorem text (a : String) : Reads (Fields.text name) [(name, some (.str a))] a :=
  required Json.readsBack_str a

/-- A field with a default is read back if what is written, or the default, is the value. -/
theorem orElse {read : Json → Option α} {default a : α} {field? : Option Json}
    (hread : field?.elim (some default) read = some a) :
    Reads (Fields.orElse name default read) [(name, field?)] a := by
  refine (take _).cons fun members _ => ?_
  cases field? with
  | none =>
    cases hread
    rfl
  | some field =>
    show (read field).bind _ = _
    rw [show read field = some a from hread]
    rfl

/-- A field that is written unless there is no value is read back, if no value is written as
null. -/
theorem optional {write : α → Json} {read : Json → Option α} (h : ReadsBack write read)
    (hpresent : ∀ a, write a ≠ .null) (value? : Option α) :
    Reads (Fields.optional name read) [(name, value?.map write)] value? := by
  refine orElse ?_
  cases value? with
  | none => rfl
  | some a => exact Json.asOption?_eq_some_some.2 ⟨hpresent a, h a⟩

/-- A field with a list that is written unless it is empty is read back. -/
theorem list {write : α → Json} {read : Json → Option α} (h : ReadsBack write read)
    (items : List α) :
    Reads (Fields.list name read) [(name, Json.listUnlessEmpty write items)] items := by
  refine orElse ?_
  cases items with
  | nil => rfl
  | cons item rest => exact Json.readsBack_list h (item :: rest)

/-- A field with a map that is written unless it is empty is read back. -/
theorem textMap (map : TextMap) :
    Reads (Fields.textMap name) [(name, Json.mapUnlessEmpty map)] map := by
  refine orElse ?_
  unfold Json.mapUnlessEmpty
  split
  case isTrue hempty =>
    rw [SortedMap.isEmpty_eq_true.1 hempty]
    rfl
  case isFalse => exact Json.readsBack_textMap map

end Reads

end Fields

/-- A record is read back where its fields are, if each has its own name. -/
theorem Json.readRecord?_record {α : Type} {reader : Fields.Reader α}
    {fields : List (String × Option Json)} {value : α} (hnodup : (fields.map (·.1)).Nodup)
    (h : Fields.Reads reader fields value) : readRecord? reader (record fields) = some value := by
  have hrun : reader.run (.named (record fields).members) =
      some (value, .named (record fields).members) := by
    refine h _ fun field hmem => ?_
    rw [findEntry_record field.1 hnodup,
      (findEntry_eq_some (List.pairwise_map.1 hnodup)).2 hmem, Option.join_some]
  rw [record, object, members_obj] at hrun
  rw [record, object, readRecord?]
  dsimp only
  rw [hrun]
  rfl

end ComposeCluster

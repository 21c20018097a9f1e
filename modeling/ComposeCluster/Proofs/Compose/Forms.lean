import ComposeCluster.Compose.Document
import ComposeCluster.Proofs.Control
import ComposeCluster.Proofs.Json.Record
import ComposeCluster.Proofs.Text.Cut
import ComposeCluster.Proofs.Text.Numeral
import Mathlib.Data.List.Nodup

/-!
# Short and long forms

Ports, volumes, environments, environment files and references to configs and secrets can be
written in several forms. Each is described by what it says and has a list of forms
(`WrittenPort.forms` and so on), and its reader takes the same from every form. A document stays the
same project when forms are exchanged for each other in its services (`DocumentAlike.parse_eq`):
each field is read as the same (`sameIn_optional`, `sameIn_list`), so each service is
(`MembersAlike.ofJson?_eq`), and so is the document (`DocumentAlike.ofJson?_eq`).
-/

set_option autoImplicit false

namespace ComposeCluster.Compose

/-- A scalar in a document. -/
def Scalar.toJson : Scalar → Json
  | .text value => .str value
  | .bool value => .bool value
  | .int value => .int value
  | .float value => .float value

/-- A scalar is read from its JSON as it was. -/
theorem Scalar.readsBack : ReadsBack toJson ofJson? := fun value => by cases value <;> rfl

/-- A scalar is never null. -/
theorem Scalar.toJson_ne_null (value : Scalar) : value.toJson ≠ .null := by
  cases value <;> exact Json.noConfusion

namespace Raw

/-! ## Ports -/

/-- What a port says, with what only its short form can say: an address and a protocol. The
published port is any scalar, and the short form has its text. -/
structure WrittenPort where
  address? : Option String
  published : Scalar
  target : Port
  protocol? : Option String
  address_plain : ∀ address ∈ address?, ':' ∉ address.toList ∧ '/' ∉ address.toList
  published_plain : ':' ∉ published.toText.toList ∧ '/' ∉ published.toText.toList
  published_ne : published.toText ≠ ""

namespace WrittenPort

/-- The text `[address:]published:target`. -/
def pair (port : WrittenPort) : String :=
  port.address?.elim "" (· ++ ":") ++ port.published.toText ++ ":" ++ toString port.target.toNat

/-- The text `[address:]published:target[/protocol]`. -/
def short (port : WrittenPort) : String :=
  port.pair ++ port.protocol?.elim "" ("/" ++ ·)

/-- A text, and a record of both ports. -/
def forms (port : WrittenPort) : List Json :=
  [.str port.short,
   .record [("published", some port.published.toJson), ("target", some (.nat port.target.toNat))]]

variable (port : WrittenPort)

/-- In the pair of ports there is no slash, so the first slash begins the protocol. -/
theorem slash_notMem_pair : '/' ∉ port.pair.toList := by
  have hcolon : '/' ∉ ":".toList := by decide
  have hfront : '/' ∉ (port.address?.elim "" (· ++ ":")).toList := by
    cases haddress : port.address? with
    | none => exact List.not_mem_nil
    | some address =>
      simp only [Option.elim_some, String.toList_append, List.mem_append, not_or]
      exact ⟨(port.address_plain address haddress).2, hcolon⟩
  simp only [pair, String.toList_append, List.mem_append, not_or]
  exact ⟨⟨⟨hfront, port.published_plain.2⟩, hcolon⟩, Text.notMem_toString (by decide) _⟩

/-- The protocol is cut off. -/
theorem getD_splitOnce_short :
    ((Text.splitOnce '/' port.short).map (·.1)).getD port.short = port.pair := by
  have hslash := port.slash_notMem_pair
  unfold short
  cases port.protocol? with
  | none => rw [Option.elim_none, String.append_empty, Text.splitOnce_of_notMem hslash]; rfl
  | some protocol =>
    rw [Option.elim_some, ← String.append_assoc,
      show ("/" : String) = String.singleton '/' from rfl, Text.splitOnce_append hslash]
    rfl

/-- The pair of ports falls at its colons into the address, if there is one, and the two ports. -/
theorem splitAll_pair : Text.splitAll ':' port.pair =
    port.address?.toList ++ [port.published.toText, toString port.target.toNat] := by
  have hpublished := Text.splitAll_of_notMem port.published_plain.1
  have htarget := Text.splitAll_of_notMem (Text.notMem_toString (c := ':') (by decide)
    port.target.toNat)
  unfold pair
  rw [show (":" : String) = String.singleton ':' from rfl, Text.splitAll_append, htarget]
  cases haddress : port.address? with
  | none =>
    rw [Option.elim_none, String.empty_append, hpublished]
    rfl
  | some address =>
    rw [Option.elim_some, Text.splitAll_append, hpublished,
      Text.splitAll_of_notMem (port.address_plain address haddress).1]
    rfl

/-- Two ports that are written as texts are read as what they say. -/
theorem portParts_eq : portParts port.published.toText (toString port.target.toNat) =
    ⟨some port.published.toText, some port.target⟩ := by
  have hne : ¬ port.published.toText.isEmpty = true := by
    rw [String.isEmpty_iff]
    exact port.published_ne
  rw [portParts, if_neg hne, Text.port?_toString]

/-- The short form of a port is read as what it says, whatever address and protocol it has. -/
theorem portOfText_short :
    portOfText port.short = ⟨some port.published.toText, some port.target⟩ := by
  rw [portOfText, port.getD_splitOnce_short, port.splitAll_pair]
  cases port.address? <;> exact port.portParts_eq

/-- Each form of a port is read as what it says. -/
theorem port?_of_mem_forms : ∀ form ∈ port.forms,
    port? form = some ⟨some port.published.toText, some port.target⟩ := by
  refine List.forall_mem_cons.2
    ⟨congrArg some port.portOfText_short, List.forall_mem_singleton.2 ?_⟩
  have hlt : port.target.toNat < UInt16.size := port.target.toNat_lt
  have hnatural : natural? (.nat port.target.toNat) = some port.target.toNat :=
    Json.asNatBelow?_nat (hlt.trans (by decide))
  -- Stated by itself, since the bound of `natural?` is too large to be evaluated.
  have hpresent : (some (Json.nat port.target.toNat)).elim (some none) (Json.asOption? natural?) =
      some (some port.target.toNat) := by
    rw [Option.elim_some]
    exact Json.asOption?_eq_some_some.2 ⟨Json.noConfusion, hnatural⟩
  have htarget : Fields.Reads (Fields.optional "target" natural?)
      [("target", some (.nat port.target.toNat))] (some port.target.toNat) :=
    .orElse hpresent
  have hvalue : (⟨(some port.published.toText).filter fun text => !text.isEmpty,
      (some port.target.toNat).bind fittingPort?⟩ : PortMapping) =
        ⟨some port.published.toText, some port.target⟩ := by
    rw [Option.filter_some, if_pos (by simp [port.published_ne]), Option.bind_some, fittingPort?,
      if_pos hlt, UInt16.ofNat_toNat]
  rw [← hvalue]
  exact Json.readRecord?_record (by simp) <|
    .cons (.optional Scalar.readsBack Scalar.toJson_ne_null (some port.published)) <|
    .cons htarget <|
    .pure _

end WrittenPort

/-! ## Volumes -/

/-- What a volume says, with the mode that only its short form can give. -/
structure WrittenVolume where
  source : String
  target : String
  mode? : Option String
  source_plain : ':' ∉ source.toList
  target_plain : ':' ∉ target.toList
  mode_plain : ∀ mode ∈ mode?, ':' ∉ mode.toList

namespace WrittenVolume

/-- A path begins with a dot, a slash or a tilde. -/
def IsPath (volume : WrittenVolume) : Prop :=
  volume.source.toList.head? ∈ [some '.', some '/', some '~']

instance (volume : WrittenVolume) : Decidable volume.IsPath := by
  unfold IsPath
  infer_instance

/-- The text `source:target[:mode]`. -/
def short (volume : WrittenVolume) : String :=
  volume.source ++ ":" ++ volume.target ++ volume.mode?.elim "" (":" ++ ·)

/-- A text, and a record of the kind, the source and the target. -/
def forms (volume : WrittenVolume) : List Json :=
  [.str volume.short,
   .record
    [("type", some (.str (if volume.IsPath then "bind" else "volume"))),
     ("source", some (.str volume.source)),
     ("target", some (.str volume.target))]]

variable (volume : WrittenVolume)

/-- The short form of a volume falls at its colons into source, target and mode. -/
theorem splitAll_short : Text.splitAll ':' volume.short =
    [volume.source, volume.target] ++ volume.mode?.toList := by
  have hsource := Text.splitAll_of_notMem volume.source_plain
  have htarget := Text.splitAll_of_notMem volume.target_plain
  have hcolon : (":" : String) = String.singleton ':' := rfl
  unfold short
  rw [hcolon]
  cases hmode : volume.mode? with
  | none =>
    rw [Option.elim_none, String.append_empty, Text.splitAll_append, hsource, htarget]
    rfl
  | some mode =>
    rw [Option.elim_some, ← String.append_assoc, Text.splitAll_append, Text.splitAll_append,
      hsource, htarget, Text.splitAll_of_notMem (volume.mode_plain mode hmode)]
    rfl

/-- A source is taken for a path exactly if it is one. -/
theorem isPath_source : isPath volume.source = true ↔ volume.IsPath := by
  unfold isPath IsPath
  cases volume.source.toList.head? with
  | none => simp
  | some c => simp [or_assoc]

/-- The short form of a volume is read as what it says, whatever mode it has. -/
theorem volumeOfText_short : volumeOfText volume.short =
    ⟨if volume.IsPath then .bind else .named, volume.source, volume.target⟩ := by
  have hkind : (if isPath volume.source = true then VolumeKind.bind else .named) =
      if volume.IsPath then .bind else .named :=
    if_congr volume.isPath_source rfl rfl
  rw [volumeOfText, volume.splitAll_short, ← hkind]
  cases volume.mode? <;> rfl

/-- Each form of a volume is read as what it says. -/
theorem volume?_of_mem_forms : ∀ form ∈ volume.forms,
    volume? form =
      some ⟨if volume.IsPath then .bind else .named, volume.source, volume.target⟩ := by
  refine List.forall_mem_cons.2
    ⟨congrArg some volume.volumeOfText_short, List.forall_mem_singleton.2 ?_⟩
  have hkind : volumeKind (some (if volume.IsPath then "bind" else "volume")) =
      if volume.IsPath then .bind else .named := by
    split <;> rfl
  rw [← hkind]
  exact Json.readRecord?_record (by simp) <|
    .cons (.optional Json.readsBack_str nofun (some _)) <|
    .cons (.optional Json.readsBack_str nofun (some volume.source)) <|
    .cons (.optional Json.readsBack_str nofun (some volume.target)) <|
    .pure _

end WrittenVolume

/-! ## Environments -/

/-- What an environment says: settings of keys, some without values, in the order of a list, and
the members of a mapping that gives the same values to the same keys. -/
structure WrittenEnvironment where
  settings : List (String × Option String)
  members : List (String × Option String)
  key_plain : ∀ setting ∈ settings, '=' ∉ setting.1.toList
  nodup_keys : (members.map (·.1)).Nodup
  same_values : ∀ key value, (key, some value) ∈ members ↔ (key, some value) ∈ settings

namespace WrittenEnvironment

/-- The text `key=value`, or the key alone. -/
def settingText (setting : String × Option String) : String :=
  setting.1 ++ setting.2.elim "" ("=" ++ ·)

/-- A member with a text, or with null for no value. -/
def memberJson (member : String × Option String) : String × Json :=
  (member.1, .orNull .str member.2)

/-- A list of texts, and a mapping. -/
def forms (environment : WrittenEnvironment) : List Json :=
  [.texts (environment.settings.map settingText),
   .obj (environment.members.map memberJson)]

/-- The keys that have values. -/
def values (environment : WrittenEnvironment) : Variables :=
  .ofList (environment.settings.filterMap fun setting => setting.2.map (setting.1, ·))

variable (environment : WrittenEnvironment)

/-- A key has a value in the environment if it has one in its settings. -/
theorem get?_values {key value : String} :
    environment.values.get? key = some value ↔ (key, some value) ∈ environment.settings := by
  have hmem {key value : String} :
      (key, value) ∈ environment.settings.filterMap (fun setting => setting.2.map (setting.1, ·)) ↔
        (key, some value) ∈ environment.settings := by
    simp only [List.mem_filterMap, Option.map_eq_some_iff, Prod.exists, Prod.mk.injEq]
    constructor
    · rintro ⟨_, _, hsetting, _, rfl, rfl, rfl⟩
      exact hsetting
    · intro hsetting
      exact ⟨key, some value, hsetting, value, rfl, rfl, rfl⟩
  rw [values, SortedMap.get?_ofList]
  constructor
  · intro hfind
    exact hmem.1 (List.mem_reverse.1 (mem_of_findEntry hfind))
  · intro hsetting
    have hsome := findEntry_isSome_iff.2 (List.mem_map_of_mem (f := (·.1))
      (List.mem_reverse.2 (hmem.2 hsetting)))
    obtain ⟨other, hfind⟩ := Option.isSome_iff_exists.1 hsome
    have hother := hmem.1 (List.mem_reverse.1 (mem_of_findEntry hfind))
    -- Both values are those of one member.
    have hsame := List.inj_on_of_nodup_map environment.nodup_keys
      ((environment.same_values key value).2 hsetting)
      ((environment.same_values key other).2 hother) rfl
    cases hsame
    exact hfind

/-- A setting is cut at its equals sign, and not at all if it has no value. -/
theorem splitOnce_settingText : ∀ setting ∈ environment.settings,
    Text.splitOnce '=' (settingText setting) = setting.2.map (setting.1, ·) := by
  rintro ⟨key, value?⟩ hsetting
  have hkey := environment.key_plain _ hsetting
  cases value? with
  | none => exact Text.splitOnce_of_notMem (by simpa [settingText] using hkey)
  | some value =>
    have htext : settingText (key, some value) = key ++ String.singleton '=' ++ value :=
      (String.append_assoc ..).symm
    rw [htext, Text.splitOnce_append hkey]
    rfl

/-- The list of an environment is read as its values. -/
theorem environment?_texts :
    environment? (.texts (environment.settings.map settingText)) = some environment.values := by
  have hsplit : (environment.settings.map settingText).filterMap (Text.splitOnce '=') =
      environment.settings.filterMap fun setting => setting.2.map (setting.1, ·) := by
    rw [List.filterMap_map]
    exact List.filterMap_congr environment.splitOnce_settingText
  show ((Json.texts _).asList? Json.asText?).map _ = _
  rw [Json.readsBack_texts, Option.map_some, hsplit]
  rfl

/-- What the members of the mapping are read as. -/
theorem asMap?_members :
    (Json.obj (environment.members.map memberJson)).asMap? (Json.asOption? Scalar.ofJson?) =
      some (.ofList (environment.members.map fun member =>
        (member.1, member.2.map Scalar.text))) := by
  have hmapM : (environment.members.map memberJson).mapM
      (fun member => (member.2.asOption? Scalar.ofJson?).map (member.1, ·)) =
        some (environment.members.map fun member => (member.1, member.2.map Scalar.text)) := by
    apply Json.mapM_map_of_read
    rintro ⟨key, value?⟩
    cases value? <;> rfl
  rw [Json.asMap?, hmapM, Option.map_some]

/-- The members of an environment are those of its settings, with values as texts. -/
theorem mem_entries_members {key : String} {scalar? : Option Scalar} :
    (key, scalar?) ∈ (SortedMap.ofList (environment.members.map fun member =>
      (member.1, member.2.map Scalar.text))).entries ↔
        ∃ value?, (key, value?) ∈ environment.members ∧ value?.map Scalar.text = scalar? := by
  have hnodup : ((environment.members.map fun member =>
      (member.1, member.2.map Scalar.text)).map (·.1)).Nodup := by
    rw [List.map_map]
    exact environment.nodup_keys
  rw [← SortedMap.get?_eq_some, SortedMap.get?_ofList_eq_some hnodup]
  simp

/-- The mapping of an environment is read as its values. -/
theorem environment?_members :
    environment? (.obj (environment.members.map memberJson)) = some environment.values := by
  rw [environment?, asMap?_members, Option.map_some, Option.some_inj]
  refine SortedMap.ext_get? fun key => Option.ext fun value => ?_
  rw [environment.get?_values, ← environment.same_values, SortedMap.get?_ofList_eq_some]
  · constructor
    · intro hmem
      obtain ⟨⟨key', scalar?⟩, hentry, hvalue⟩ := List.mem_filterMap.1 hmem
      obtain ⟨scalar, rfl, heq⟩ := Option.map_eq_some_iff.1 hvalue
      cases heq
      obtain ⟨value?, hmember, hscalar⟩ := environment.mem_entries_members.1 hentry
      obtain ⟨value, rfl, rfl⟩ := Option.map_eq_some_iff.1 hscalar
      exact hmember
    · intro hmember
      exact List.mem_filterMap.2 ⟨(key, some (.text value)),
        environment.mem_entries_members.2 ⟨some value, hmember, rfl⟩, rfl⟩
  · refine nodup_keys_filterMap (fun entry result hresult => ?_) (SortedMap.nodup_keys _)
    obtain ⟨_, -, rfl⟩ := Option.map_eq_some_iff.1 hresult
    rfl

/-- Each form of an environment is read as its values. -/
theorem environment?_of_mem_forms : ∀ form ∈ environment.forms,
    environment? form = some environment.values :=
  List.forall_mem_cons.2
    ⟨environment.environment?_texts, List.forall_mem_singleton.2 environment.environment?_members⟩

end WrittenEnvironment

/-! ## Environment files and references -/

/-- A path, a list of it, and a list of a record of it. -/
def envFileForms (path : String) : List Json :=
  [.str path, .arr [.str path], .arr [.obj [("path", .str path)]]]

/-- Each form of an environment file is read as one required file. -/
theorem envFiles?_of_mem_forms (path : String) :
    ∀ form ∈ envFileForms path, envFiles? form = some [⟨path, true⟩] :=
  List.forall_mem_cons.2 ⟨rfl, List.forall_mem_cons.2 ⟨rfl, List.forall_mem_singleton.2 rfl⟩⟩

/-- A name, and a record of it. -/
def fileRefForms (name : String) : List Json :=
  [.str name, .obj [("source", .str name)]]

/-- Each form of a reference is read as its name. -/
theorem fileRef?_of_mem_forms (name : String) :
    ∀ form ∈ fileRefForms name, FileRef.ofJson? form = some ⟨name, none, none⟩ :=
  List.forall_mem_cons.2 ⟨rfl, List.forall_mem_singleton.2 rfl⟩

/-! ## Exchanging forms -/

/-- Two values are the same, or forms of one thing. -/
def Alike {ι : Type} (forms : ι → List Json) (value other : Json) : Prop :=
  value = other ∨ ∃ thing, value ∈ forms thing ∧ other ∈ forms thing

/-- Two values are the same, or lists of values that are alike. -/
def ListAlike {ι : Type} (forms : ι → List Json) (value other : Json) : Prop :=
  value = other ∨ ∃ items others, value = .arr items ∧ other = .arr others ∧
    List.Forall₂ (Alike forms) items others

/-- The members of two services differ in the forms that are used, if at all. -/
structure MembersAlike (members others : List (String × Json)) : Prop where
  environment : Option.Rel (Alike WrittenEnvironment.forms)
    (findEntry "environment" members) (findEntry "environment" others)
  envFiles : Option.Rel (Alike envFileForms)
    (findEntry "env_file" members) (findEntry "env_file" others)
  ports : Option.Rel (ListAlike WrittenPort.forms)
    (findEntry "ports" members) (findEntry "ports" others)
  volumes : Option.Rel (ListAlike WrittenVolume.forms)
    (findEntry "volumes" members) (findEntry "volumes" others)
  configs : Option.Rel (ListAlike fileRefForms)
    (findEntry "configs" members) (findEntry "configs" others)
  secrets : Option.Rel (ListAlike fileRefForms)
    (findEntry "secrets" members) (findEntry "secrets" others)
  rest : ∀ name ∈ ["image", "entrypoint", "command", "x-kompox"],
    findEntry name members = findEntry name others

/-- Two values are the same, or services with members that are alike. -/
def ServiceAlike (value other : Json) : Prop :=
  value = other ∨ ∃ members others, value = .obj members ∧ other = .obj others ∧
    MembersAlike members others

/-- Two values are the same, or hold services that are alike under the same names. -/
def ServicesAlike (value other : Json) : Prop :=
  value = other ∨ ∃ services others, value = .obj services ∧ other = .obj others ∧
    List.Forall₂ (fun service other => service.1 = other.1 ∧ ServiceAlike service.2 other.2)
      services others

/-- Two documents differ in the forms that their services use, if at all. -/
structure DocumentAlike (members others : List (String × Json)) : Prop where
  services : Option.Rel ServicesAlike
    (findEntry "services" members) (findEntry "services" others)
  rest : ∀ name ∈ ["version", "configs", "secrets"],
    findEntry name members = findEntry name others

section Reading

variable {ι α : Type} {forms : ι → List Json} {read : Json → Option α} {result : ι → α}
  {value other : Json}

/-- Values that are alike are read as the same, if each form is. -/
theorem Alike.read_eq (hread : ∀ thing, ∀ form ∈ forms thing, read form = some (result thing))
    (h : Alike forms value other) : read value = read other := by
  rcases h with rfl | ⟨thing, hvalue, hother⟩
  · rfl
  · rw [hread thing _ hvalue, hread thing _ hother]

/-- Values that are alike, or both missing, are read as the same, if each form is. -/
theorem Alike.asOption?_eq (hread : ∀ thing, ∀ form ∈ forms thing, read form = some (result thing))
    (hnull : read .null = none) (h : Alike forms value other) :
    value.asOption? read = other.asOption? read := by
  have hform : ∀ thing, ∀ form ∈ forms thing, form.asOption? read = some (some (result thing)) := by
    intro thing form hform
    refine Json.asOption?_eq_some_some.2 ⟨?_, hread thing form hform⟩
    rintro rfl
    rw [hread thing _ hform] at hnull
    cases hnull
  exact h.read_eq hform

/-- Lists of values that are alike are read as the same, if each form is. -/
theorem ListAlike.asList?_eq
    (hread : ∀ thing, ∀ form ∈ forms thing, read form = some (result thing))
    (h : ListAlike forms value other) : value.asList? read = other.asList? read := by
  rcases h with rfl | ⟨items, others, rfl, rfl, hitems⟩
  · rfl
  · exact mapM_eq_of_forall₂ (hitems.imp fun _ _ halike => halike.read_eq hread)

variable {name : String} {members others : List (String × Json)}

/-- A field is read as the same from values that are related. -/
theorem sameIn_orElse {default : α} {related : Json → Json → Prop}
    (hread : ∀ value other, related value other → read value = read other)
    (h : Option.Rel related (findEntry name members) (findEntry name others)) :
    Fields.SameIn members others (Fields.orElse name default read) := by
  apply Fields.SameIn.orElse
  generalize findEntry name members = value? at h
  generalize findEntry name others = other? at h
  cases h with
  | none => rfl
  | some hrelated => exact hread _ _ hrelated

/-- A field is read as the same in members that have the same value for it. -/
theorem sameIn_of_eq {default : α} (h : findEntry name members = findEntry name others) :
    Fields.SameIn members others (Fields.orElse name default read) :=
  .orElse (by rw [h])

/-- An optional field is read as the same in members whose values for it are alike. -/
theorem sameIn_optional (hread : ∀ thing, ∀ form ∈ forms thing, read form = some (result thing))
    (hnull : read .null = none)
    (h : Option.Rel (Alike forms) (findEntry name members) (findEntry name others)) :
    Fields.SameIn members others (Fields.optional name read) :=
  sameIn_orElse (fun _ _ halike => halike.asOption?_eq hread hnull) h

/-- A field with a list is read as the same in members whose lists for it are alike. -/
theorem sameIn_list (hread : ∀ thing, ∀ form ∈ forms thing, read form = some (result thing))
    (h : Option.Rel (ListAlike forms) (findEntry name members) (findEntry name others)) :
    Fields.SameIn members others (Fields.list name read) :=
  sameIn_orElse (fun _ _ halike => halike.asList?_eq hread) h

end Reading

variable {value other : Json} {members others : List (String × Json)}

/-- Members of services that are alike are read as the same service. -/
theorem MembersAlike.ofJson?_eq (h : MembersAlike members others) :
    Service.ofJson? (.obj members) = Service.ofJson? (.obj others) := by
  refine Fields.SameIn.readRecord?_eq ?_
  refine (sameIn_of_eq (h.rest "image" (by decide))).bind fun _ => ?_
  refine (sameIn_of_eq (h.rest "entrypoint" (by decide))).bind fun _ => ?_
  refine (sameIn_of_eq (h.rest "command" (by decide))).bind fun _ => ?_
  refine (sameIn_optional WrittenEnvironment.environment?_of_mem_forms rfl
    h.environment).bind fun _ => ?_
  refine (sameIn_optional envFiles?_of_mem_forms rfl h.envFiles).bind fun _ => ?_
  refine (sameIn_list WrittenPort.port?_of_mem_forms h.ports).bind fun _ => ?_
  refine (sameIn_list WrittenVolume.volume?_of_mem_forms h.volumes).bind fun _ => ?_
  refine (sameIn_list fileRef?_of_mem_forms h.configs).bind fun _ => ?_
  refine (sameIn_list fileRef?_of_mem_forms h.secrets).bind fun _ => ?_
  refine (sameIn_of_eq (h.rest "x-kompox" (by decide))).bind fun _ => ?_
  exact .pure _

/-- Services that are alike, or both missing, are read as the same. -/
theorem ServiceAlike.asOption?_eq (h : ServiceAlike value other) :
    value.asOption? Service.ofJson? = other.asOption? Service.ofJson? := by
  rcases h with rfl | ⟨members, others, rfl, rfl, hmembers⟩
  · rfl
  · rw [Json.asOption?_obj, Json.asOption?_obj, hmembers.ofJson?_eq]

/-- Services that are alike under the same names are read as the same services. -/
theorem ServicesAlike.asMap?_eq (h : ServicesAlike value other) :
    value.asMap? (Json.asOption? Service.ofJson?) =
      other.asMap? (Json.asOption? Service.ofJson?) := by
  rcases h with rfl | ⟨services, others, rfl, rfl, hservices⟩
  · rfl
  · refine congrArg (Option.map SortedMap.ofList) (mapM_eq_of_forall₂ (hservices.imp ?_))
    rintro ⟨name, service⟩ ⟨_, other⟩ ⟨rfl, halike⟩
    dsimp only
    rw [halike.asOption?_eq]

/-- Documents that are alike are read as the same. -/
theorem DocumentAlike.ofJson?_eq (h : DocumentAlike members others) :
    Document.ofJson? (.obj members) = Document.ofJson? (.obj others) := by
  refine Fields.SameIn.readRecord?_eq ?_
  refine (sameIn_orElse (fun _ _ halike => halike.asMap?_eq) h.services).bind fun _ => ?_
  refine (sameIn_of_eq (h.rest "configs" (by decide))).bind fun _ => ?_
  refine (sameIn_of_eq (h.rest "secrets" (by decide))).bind fun _ => ?_
  exact .pure _

/-- Texts of documents that differ in the forms that their services use are the same project. -/
theorem DocumentAlike.parse_eq {text otherText : String} (h : DocumentAlike members others)
    (hmembers : Yaml.parseMapping text = .ok members)
    (hothers : Yaml.parseMapping otherText = .ok others) :
    Project.parse text = Project.parse otherText := by
  unfold Project.parse
  rw [hmembers, hothers]
  dsimp only
  rw [h.ofJson?_eq, h.rest "version" (by decide)]

/-- Every form of a port, a volume, an environment, an environment file and a reference is read as
what it says. Exchanging forms in the services of a document changes neither what the document says
nor the project that its text is. -/
theorem forms_read_alike :
    (∀ port : WrittenPort, ∀ form ∈ port.forms,
      port? form = some ⟨some port.published.toText, some port.target⟩) ∧
    (∀ volume : WrittenVolume, ∀ form ∈ volume.forms, volume? form =
      some ⟨if volume.IsPath then .bind else .named, volume.source, volume.target⟩) ∧
    (∀ environment : WrittenEnvironment, ∃ values : Variables,
      (∀ form ∈ environment.forms, environment? form = some values) ∧
      ∀ key value, values.get? key = some value ↔ (key, some value) ∈ environment.settings) ∧
    (∀ path, ∀ form ∈ envFileForms path, envFiles? form = some [⟨path, true⟩]) ∧
    (∀ name, ∀ form ∈ fileRefForms name, FileRef.ofJson? form = some ⟨name, none, none⟩) ∧
    ∀ members others, DocumentAlike members others →
      Document.ofJson? (.obj members) = Document.ofJson? (.obj others) ∧
      ∀ text otherText, Yaml.parseMapping text = .ok members →
        Yaml.parseMapping otherText = .ok others →
          Project.parse text = Project.parse otherText := by
  refine ⟨WrittenPort.port?_of_mem_forms, WrittenVolume.volume?_of_mem_forms, ?_,
    envFiles?_of_mem_forms, fileRef?_of_mem_forms, ?_⟩
  · intro environment
    exact ⟨environment.values, environment.environment?_of_mem_forms,
      fun _ _ => environment.get?_values⟩
  · intro members others halike
    exact ⟨halike.ofJson?_eq, fun _ _ => halike.parse_eq⟩

/-- The port 80 for the number 8080 of one address. -/
def webPort : WrittenPort where
  address? := some "127.0.0.1"
  published := .int 8080
  target := 80
  protocol? := some "tcp"
  address_plain := by decide
  published_plain := by decide
  published_ne := by decide

/-- A directory beside the document. -/
def webVolume : WrittenVolume where
  source := "./data"
  target := "/data"
  mode? := some "ro"
  source_plain := by decide
  target_plain := by decide
  mode_plain := by decide

/-- A key with a value and one without. -/
def webEnvironment : WrittenEnvironment where
  settings := [("TITLE", some "a=b"), ("HOME", none)]
  members := [("HOME", none), ("TITLE", some "a=b")]
  key_plain := by decide
  nodup_keys := by decide
  same_values := by simp

/-- The document of a service whose ports, volumes, environment, environment files and configs are
given. -/
def webDocument (port volume environment envFiles config : Json) : List (String × Json) :=
  [("services", .obj [("web", .obj
    [("configs", .arr [config]), ("env_file", envFiles), ("environment", environment),
     ("image", .str "nginx"), ("ports", .arr [port]), ("volumes", .arr [volume])])])]

/-- The short and the long forms of the service make the same project. -/
theorem forms_read_alike_for_web :
    let short := webDocument (.str "127.0.0.1:8080:80/tcp") (.str "./data:/data:ro")
      (.texts ["TITLE=a=b", "HOME"]) (.str "web.env") (.str "site")
    let long := webDocument (.obj [("published", .int 8080), ("target", .int 80)])
      (.obj [("source", .str "./data"), ("target", .str "/data"), ("type", .str "bind")])
      (.obj [("HOME", .null), ("TITLE", .str "a=b")]) (.arr [.obj [("path", .str "web.env")]])
      (.obj [("source", .str "site")])
    (Document.ofJson? (.obj short)).isSome ∧
      Document.ofJson? (.obj short) = Document.ofJson? (.obj long) := by
  intro short long
  have hport : Alike WrittenPort.forms (.str "127.0.0.1:8080:80/tcp")
      (.obj [("published", .int 8080), ("target", .int 80)]) :=
    .inr ⟨webPort, .head _, .tail _ (.head _)⟩
  have hvolume : Alike WrittenVolume.forms (.str "./data:/data:ro")
      (.obj [("source", .str "./data"), ("target", .str "/data"), ("type", .str "bind")]) :=
    .inr ⟨webVolume, .head _, .tail _ (.head _)⟩
  have henvironment : Alike WrittenEnvironment.forms (.texts ["TITLE=a=b", "HOME"])
      (.obj [("HOME", .null), ("TITLE", .str "a=b")]) :=
    .inr ⟨webEnvironment, .head _, .tail _ (.head _)⟩
  have henvFiles : Alike envFileForms (.str "web.env") (.arr [.obj [("path", .str "web.env")]]) :=
    .inr ⟨"web.env", .head _, .tail _ (.tail _ (.head _))⟩
  have hconfig : Alike fileRefForms (.str "site") (.obj [("source", .str "site")]) :=
    .inr ⟨"site", .head _, .tail _ (.head _)⟩
  have hmembers : DocumentAlike short long :=
    { services := .some (.inr ⟨_, _, rfl, rfl, .cons ⟨rfl, .inr ⟨_, _, rfl, rfl,
        { environment := .some henvironment
          envFiles := .some henvFiles
          ports := .some (.inr ⟨_, _, rfl, rfl, .cons hport .nil⟩)
          volumes := .some (.inr ⟨_, _, rfl, rfl, .cons hvolume .nil⟩)
          configs := .some (.inr ⟨_, _, rfl, rfl, .cons hconfig .nil⟩)
          secrets := .none
          rest := by simp [findEntry] }⟩⟩ .nil⟩)
      rest := by simp [short, long, webDocument, findEntry] }
  obtain ⟨-, -, -, -, -, hdocuments⟩ := forms_read_alike
  exact ⟨rfl, (hdocuments _ _ hmembers).1⟩

end Raw

end ComposeCluster.Compose

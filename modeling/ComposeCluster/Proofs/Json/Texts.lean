import ComposeCluster.Json.Basic
import ComposeCluster.Text.Numeral

/-!
# Strings and numbers in a document

Two properties of a document as a whole: each number in it is whole and fits 64 bits (`Json.Whole`),
and each string in it has a property that may differ for keys and values (`Json.EveryText`).
-/

set_option autoImplicit false

namespace ComposeCluster.Json

/-- Each number in the value is whole and fits 64 bits with a sign. -/
inductive Whole : Json → Prop where
  | null : Whole .null
  | bool (value : Bool) : Whole (.bool value)
  | int (value : Int) (h : Text.fitsInt64 value = true) : Whole (.int value)
  | str (text : String) : Whole (.str text)
  | arr (items : List Json) (hitems : ∀ item ∈ items, Whole item) : Whole (.arr items)
  | obj (members : List (String × Json)) (hmembers : ∀ member ∈ members, Whole member.2) :
    Whole (.obj members)

/-- A condition on the strings that occur in a value, as keys or as values. -/
inductive EveryText (onKey onValue : String → Prop) : Json → Prop where
  | null : EveryText onKey onValue .null
  | bool (value : Bool) : EveryText onKey onValue (.bool value)
  | int (value : Int) : EveryText onKey onValue (.int value)
  | float (value : Binary64) : EveryText onKey onValue (.float value)
  | str (text : String) (h : onValue text) : EveryText onKey onValue (.str text)
  | arr (items : List Json) (hitems : ∀ item ∈ items, EveryText onKey onValue item) :
    EveryText onKey onValue (.arr items)
  | obj (members : List (String × Json)) (hkeys : ∀ member ∈ members, onKey member.1)
      (hmembers : ∀ member ∈ members, EveryText onKey onValue member.2) :
    EveryText onKey onValue (.obj members)

variable {onKey onValue : String → Prop}

/-- A condition on texts holds in a string if it holds of the string. -/
theorem everyText_str_iff {text : String} :
    (Json.str text).EveryText onKey onValue ↔ onValue text :=
  ⟨fun h => by cases h; assumption, .str text⟩

/-- A condition on texts holds in a list if it does in each item. -/
theorem everyText_arr_iff {items : List Json} :
    (Json.arr items).EveryText onKey onValue ↔ ∀ item ∈ items, item.EveryText onKey onValue :=
  ⟨fun h => by cases h; assumption, .arr items⟩

/-- A condition on texts holds in an object if it holds of each key and in each value. -/
theorem everyText_obj_iff {members : List (String × Json)} :
    (Json.obj members).EveryText onKey onValue ↔
      ∀ member ∈ members, onKey member.1 ∧ member.2.EveryText onKey onValue := by
  constructor
  · rintro (_ | _ | _ | _ | _ | _ | ⟨_, hkeys, hmembers⟩) member hmember
    exact ⟨hkeys member hmember, hmembers member hmember⟩
  · exact fun h => .obj members (fun member hmember => (h member hmember).1)
      fun member hmember => (h member hmember).2

namespace EveryText

variable {onKey' onValue' : String → Prop} {value : Json}

/-- A condition on texts may be replaced with a weaker one. -/
theorem mono (h : value.EveryText onKey onValue) (hkey : ∀ key, onKey key → onKey' key)
    (hvalue : ∀ text, onValue text → onValue' text) : value.EveryText onKey' onValue' := by
  induction h with
  | null => exact .null
  | bool value => exact .bool value
  | int value => exact .int value
  | float value => exact .float value
  | str text h => exact .str text (hvalue text h)
  | arr items _ ih => exact .arr items ih
  | obj members hkeys _ ih =>
    exact .obj members (fun member hmember => hkey _ (hkeys member hmember)) ih

/-- Two conditions on texts hold together. -/
theorem and (h : value.EveryText onKey onValue) (h' : value.EveryText onKey' onValue') :
    value.EveryText (fun key => onKey key ∧ onKey' key)
      fun text => onValue text ∧ onValue' text := by
  induction h with
  | null => exact .null
  | bool value => exact .bool value
  | int value => exact .int value
  | float value => exact .float value
  | str text h => exact .str text ⟨h, everyText_str_iff.1 h'⟩
  | arr items _ ih =>
    exact .arr items fun item hitem => ih item hitem (everyText_arr_iff.1 h' item hitem)
  | obj members hkeys _ ih =>
    have hmembers := everyText_obj_iff.1 h'
    exact .obj members (fun member hmember => ⟨hkeys member hmember, (hmembers member hmember).1⟩)
      fun member hmember => ih member hmember (hmembers member hmember).2

end EveryText

end ComposeCluster.Json

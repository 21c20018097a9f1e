import ComposeCluster.Json.Basic
import ComposeCluster.Text.Numeral

/-!
# Records as JSON

A record is written as an object with one member per field, less the fields that have nothing to
say (`Json.record`). It is read from such an object, or from a list that gives the fields in the
order of their declaration; unknown members do no harm, further items do (`Json.readRecord?`).
A reader never takes a value of one kind for another: a number is not text and a floating-point
number is not a whole one.

Each reader in `Fields` asks for the next field of the declaration: `Fields.required`,
`Fields.orElse` with a default, and `Fields.optional`, where null says that there is none.
-/

set_option autoImplicit false

namespace ComposeCluster

namespace Json

/-- The object with those of the given members that are present. -/
def record (fields : List (String × Option Json)) : Json :=
  object (fields.filterMap fun field => field.2.map (field.1, ·))

/-- A list as a field, left out when it is empty. -/
def listUnlessEmpty {α : Type} (write : α → Json) (items : List α) : Option Json :=
  if items.isEmpty then none else some (.arr (items.map write))

/-- A map of texts as a field, left out when it is empty. -/
def mapUnlessEmpty (map : SortedMap String String) : Option Json :=
  if map.isEmpty then none else some (ofMap .str map)

/-- A list of texts. -/
def texts (items : List String) : Json :=
  .arr (items.map .str)

/-- A value that may be null. -/
def orNull {α : Type} (write : α → Json) : Option α → Json
  | none => .null
  | some value => write value

/-- A natural number. -/
def nat (value : Nat) : Json :=
  .int (Int.ofNat value)

/-- A port number. -/
def port (value : Port) : Json :=
  nat value.toNat

/-- A text. -/
def asText? : Json → Option String
  | .str text => some text
  | _ => none

/-- A truth value. -/
def asBool? : Json → Option Bool
  | .bool value => some value
  | _ => none

/-- A whole number with a property. -/
def asInt? (fits : Int → Bool) : Json → Option Int
  | .int value => if fits value then some value else none
  | _ => none

/-- A natural number below a bound. -/
def asNatBelow? (bound : Nat) (value : Json) : Option Nat :=
  (value.asInt? fun n => decide (0 ≤ n ∧ n < bound)).map Int.toNat

/-- A signed number of 64 bits. -/
def asInt64? (value : Json) : Option Int64 := (value.asInt? Text.fitsInt64).map Int64.ofInt

/-- A signed number of 32 bits. -/
def asInt32? (value : Json) : Option Int32 := (value.asInt? Text.fitsInt32).map Int32.ofInt

/-- An unsigned number of 32 bits. -/
def asUInt32? (value : Json) : Option UInt32 := (value.asNatBelow? UInt32.size).map UInt32.ofNat

/-- A port number. -/
def asPort? (value : Json) : Option Port := (value.asNatBelow? UInt16.size).map UInt16.ofNat

/-- A list. -/
def asList? {α : Type} (read : Json → Option α) : Json → Option (List α)
  | .arr items => items.mapM read
  | _ => none

/-- A map from texts. -/
def asMap? {α : Type} (read : Json → Option α) : Json → Option (SortedMap String α)
  | .obj members => (members.mapM fun member => (read member.2).map (member.1, ·)).map .ofList
  | _ => none

/-- A map of texts. -/
def asTextMap? (value : Json) : Option (SortedMap String String) := value.asMap? asText?

/-- A value that may be null. -/
def asOption? {α : Type} (read : Json → Option α) : Json → Option (Option α)
  | .null => some none
  | value => (read value).map some

end Json

/-- The fields of a record that are still to be read: the members of an object, or the remaining
items of a list. -/
inductive Fields where
  | named (members : List (String × Json))
  | listed (items : List Json)

namespace Fields

/-- A reader of fields. -/
abbrev Reader := StateT Fields Option

/-- The next field, if it is there. -/
def take (name : String) : Fields → Option Json × Fields
  | .named members => (findEntry name members, .named members)
  | .listed [] => (none, .listed [])
  | .listed (item :: rest) => (some item, .listed rest)

/-- Whether fields are left over that nobody asked for. -/
def isDone : Fields → Bool
  | .named _ => true
  | .listed items => items.isEmpty

/-- A field with a default. -/
def orElse {α : Type} (name : String) (default : α) (read : Json → Option α) : Reader α := do
  match ← modifyGet (take name) with
  | none => return default
  | some value => read value

/-- A field that must be there. -/
def required {α : Type} (name : String) (read : Json → Option α) : Reader α := do
  match ← modifyGet (take name) with
  | none => failure
  | some value => read value

/-- A field that may be missing or null. -/
def optional {α : Type} (name : String) (read : Json → Option α) : Reader (Option α) :=
  orElse name none (Json.asOption? read)

/-- A list that may be missing. -/
def list {α : Type} (name : String) (read : Json → Option α) : Reader (List α) :=
  orElse name [] (Json.asList? read)

/-- A text that must be there. -/
def text (name : String) : Reader String :=
  required name Json.asText?

/-- A map of texts that may be missing. -/
def textMap (name : String) : Reader (SortedMap String String) :=
  orElse name .empty Json.asTextMap?

end Fields

namespace Json

/-- Reads a record. -/
def readRecord? {α : Type} (fields : Fields.Reader α) (value : Json) : Option α :=
  let run (start : Fields) : Option α :=
    match fields.run start with
    | some (result, rest) => if rest.isDone then some result else none
    | none => none
  match value with
  | .obj members => run (.named members)
  | .arr items => run (.listed items)
  | _ => none

end Json

end ComposeCluster

import ComposeCluster.Json.Basic
import ComposeCluster.Decimal.Notation

/-!
# Writing JSON text

The compact form: no blanks, members by ascending key, and in strings only the escapes that JSON
asks for. `numberText` is also the form in which numbers of data files become settings.
-/

set_option autoImplicit false

namespace ComposeCluster.Json

/-- A character inside a JSON string. -/
def stringChar (c : Char) : List Char :=
  match c with
  | '"' => ['\\', '"']
  | '\\' => ['\\', '\\']
  | '\x08' => ['\\', 'b']
  | '\x0c' => ['\\', 'f']
  | '\n' => ['\\', 'n']
  | '\r' => ['\\', 'r']
  | '\t' => ['\\', 't']
  | c =>
    if c.toNat < 0x20 then
      ['\\', 'u', '0', '0', Nat.digitChar (c.toNat / 16), Nat.digitChar (c.toNat % 16)]
    else [c]

/-- A JSON string. -/
def stringText (text : String) : String :=
  String.ofList ('"' :: text.toList.flatMap stringChar ++ ['"'])

/-- A floating-point number in JSON. -/
def floatText (value : Binary64) : String :=
  Layout.json.write value

mutual

/-- A value as compact JSON text. -/
def render : Json → String
  | .null => "null"
  | .bool true => "true"
  | .bool false => "false"
  | .int value => toString value
  | .float value => floatText value
  | .str value => stringText value
  | .arr items => "[" ++ renderItems "" items ++ "]"
  | .obj members => "\x7b" ++ renderMembers "" members ++ "\x7d"

/-- Items, each after a comma but the first. -/
def renderItems (before : String) : List Json → String
  | [] => ""
  | item :: rest => before ++ render item ++ renderItems "," rest

/-- Members, each after a comma but the first. -/
def renderMembers (before : String) : List (String × Json) → String
  | [] => ""
  | (key, value) :: rest =>
    before ++ stringText key ++ ":" ++ render value ++ renderMembers "," rest

end

end ComposeCluster.Json

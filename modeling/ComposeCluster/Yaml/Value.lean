import ComposeCluster.Json.Basic
import ComposeCluster.Yaml.Document
import ComposeCluster.Fault

/-!
# YAML texts as JSON values

`Yaml.parse` gives the first document of a text as a JSON value, and `Yaml.parseMapping` insists on
a mapping. Keys become text; of two that become the same text the later one stays. A number that
no finite value stands for keeps its text, except for the words that only YAML knows.
-/

set_option autoImplicit false

namespace ComposeCluster.Yaml

namespace Node

/-- A key as text. -/
def keyText : Node → Except Fault String
  | .str text => .ok text
  | .int value => .ok (toString value)
  | .real text => .ok text
  | .bool value => .ok (if value then "true" else "false")
  | .null => .ok "null"
  | _ => .error (.malformed "unsupported YAML key type")

/-- A number that is not whole. -/
def realValue (text : String) : Except Fault Json :=
  match FloatReading.read? text with
  | some (.finite value) => .ok (.float value)
  | some .unbounded => .ok (.str text)
  | none => .error (.malformed "invalid float literal")

mutual

/-- A node as a JSON value. -/
def toJson : Node → Except Fault Json
  | .null => .ok .null
  | .bool value => .ok (.bool value)
  | .int value => .ok (.int value)
  | .real text => realValue text
  | .str text => .ok (.str text)
  | .seq items => (itemsToJson items).map .arr
  | .map entries => (entriesToJson entries).map Json.object
  | .bad => .error (.malformed "bad YAML value")

/-- The items of a sequence as JSON values. -/
def itemsToJson : List Node → Except Fault (List Json)
  | [] => .ok []
  | item :: rest => do
    let value ← item.toJson
    return value :: (← itemsToJson rest)

/-- The entries of a mapping as members. -/
def entriesToJson : List (Node × Node) → Except Fault (List (String × Json))
  | [] => .ok []
  | (key, node) :: rest => do
    let key ← key.keyText
    let value ← node.toJson
    return (key, value) :: (← entriesToJson rest)

end

end Node

/-- The first document of a text; null if there is none. All of the text has to be YAML. -/
def parse (text : String) : Except Fault Json :=
  match documents? text with
  | none => .error (.malformed Fault.yamlSyntax)
  | some [] => .ok .null
  | some (root :: _) => root.toJson

/-- The members of the mapping that a text holds; an empty text holds an empty one. -/
def parseMapping (text : String) : Except Fault (List (String × Json)) :=
  match parse text with
  | .error fault => .error (.malformed fault.message)
  | .ok (.obj members) => .ok members
  | .ok .null => .ok []
  | .ok other =>
    .error (.malformed ("expected a mapping at the top level, got " ++ other.kind))

end ComposeCluster.Yaml

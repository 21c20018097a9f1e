import ComposeCluster.Json.Printer
import ComposeCluster.Yaml.Node

/-!
# Writing YAML

A JSON value as a YAML document in block style: two blanks per level, an item that is a collection
begins on the line of its dash, and a collection under a key on the next line. A string is quoted
exactly when, bare, it could be taken for something else (`needsQuotes`).
-/

set_option autoImplicit false

namespace ComposeCluster.Yaml

/-- The words that some reader of YAML takes for something other than text. -/
def reservedWords : List String :=
  ["yes", "Yes", "YES", "no", "No", "NO", "True", "TRUE", "true", "False", "FALSE", "false",
   "on", "On", "ON", "off", "Off", "OFF", "null", "Null", "NULL", "~"]

/-- The characters that a bare string must not begin with. -/
def leadingMarks : List Char := "&*?|-<>=!%@.".toList

/-- The characters that a bare string must not hold, control characters apart. -/
def innerMarks : List Char := ":\x7b\x7d[],#\x60\"'\\\t\n\r".toList

/-- Control characters that a bare string must not hold. -/
def isQuotedControl (c : Char) : Bool :=
  let code := c.toNat
  code ≤ 0x6 || (0xE ≤ code && code ≤ 0x1A) || (0x1C ≤ code && code ≤ 0x1F)

/-- Whether a text reads as a number. -/
def readsAsNumber (text : String) : Bool :=
  (Text.int64? 10 text.toList).isSome || (FloatReading.read? text).isSome

/-- Whether a string has to be quoted. -/
def needsQuotes (text : String) : Bool :=
  let cs := text.toList
  cs.isEmpty || cs.head? == some ' ' || cs.getLast? == some ' ' ||
    cs.head?.any leadingMarks.contains ||
    cs.any (fun c => innerMarks.contains c || isQuotedControl c) ||
    reservedWords.contains text || Text.startsWith "0x" text || readsAsNumber text

/-- A character inside double quotes. -/
def quotedChar (c : Char) : List Char :=
  match c with
  | '"' => ['\\', '"']
  | '\\' => ['\\', '\\']
  | '\x08' => ['\\', 'b']
  | '\t' => ['\\', 't']
  | '\n' => ['\\', 'n']
  | '\x0c' => ['\\', 'f']
  | '\r' => ['\\', 'r']
  | c =>
    if c.toNat < 0x20 ∨ c.toNat = 0x7F then
      ['\\', 'u', '0', '0', Nat.digitChar (c.toNat / 16), Nat.digitChar (c.toNat % 16)]
    else [c]

/-- A string, quoted if it has to be. -/
def stringText (text : String) : String :=
  if needsQuotes text then String.ofList ('"' :: text.toList.flatMap quotedChar ++ ['"'])
  else text

/-- The line break and the indentation before an entry at a level. -/
def freshLine (level : Nat) : String :=
  "\n" ++ String.ofList (List.replicate (2 * level) ' ')

mutual

/-- A value whose text begins on the current line; a collection stands at the level. -/
def inlineText (level : Nat) : Json → String
  | .null => "~"
  | .bool value => if value then "true" else "false"
  | .int value => toString value
  | .float value => Json.floatText value
  | .str text => stringText text
  | .arr [] => "[]"
  | .arr (first :: rest) => "- " ++ inlineText (level + 1) first ++ itemsText level rest
  | .obj [] => "\x7b\x7d"
  | .obj ((key, value) :: rest) =>
    stringText key ++ ":" ++ memberText level value ++ membersText level rest

/-- The items of a sequence after the first, each on a line of its own. -/
def itemsText (level : Nat) : List Json → String
  | [] => ""
  | item :: rest =>
    freshLine level ++ "- " ++ inlineText (level + 1) item ++ itemsText level rest

/-- The members of a mapping after the first, each on a line of its own. -/
def membersText (level : Nat) : List (String × Json) → String
  | [] => ""
  | (key, value) :: rest =>
    freshLine level ++ stringText key ++ ":" ++ memberText level value ++ membersText level rest

/-- The value under a key of a mapping at the level: on the line of the key, unless it is a
collection with content. -/
def memberText (level : Nat) : Json → String
  | .arr (first :: rest) =>
    freshLine (level + 1) ++ "- " ++ inlineText (level + 2) first ++ itemsText (level + 1) rest
  | .obj ((key, value) :: rest) =>
    freshLine (level + 1) ++ stringText key ++ ":" ++ memberText (level + 1) value ++
      membersText (level + 1) rest
  | value => " " ++ inlineText level value

end

/-- A document, without the line break after it. -/
def documentText (value : Json) : String :=
  "---\n" ++ inlineText 0 value

/-- Documents one after another. -/
def render (values : List Json) : String :=
  String.join (values.map fun value => documentText value ++ "\n")

end ComposeCluster.Yaml

import ComposeCluster.SortedMap
import ComposeCluster.Source.Tree
import ComposeCluster.Text.Blank
import ComposeCluster.Text.Quoted
import ComposeCluster.Text.Lowercase
import ComposeCluster.Json.Parser
import ComposeCluster.Json.Printer
import ComposeCluster.Yaml.Value

/-!
# Environment files

An environment file gives values to keys. It is a YAML mapping or a JSON object of scalars, by the
extension of its name, or else a list of lines `KEY=value` (`parseLines`): double quotes allow
escapes, single quotes allow nothing special, and a bare value loses one blank in front. A line is
read without regard to the others, so of two lines with one key the later one counts.
-/

set_option autoImplicit false

namespace ComposeCluster

/-- Values by their keys. -/
abbrev Variables := SortedMap String String

/-- What is wrong with the text of an environment file. Lines count from one. -/
inductive EnvTextError where
  | malformed (reason : String)
  | notObject (kind : String)
  | nullValue (key : String) (extension : String)
  | compoundValue (key : String) (kind : String)
  | noEquals (line : Nat)
  | badKey (key : String) (line : Nat)
  | openDoubleQuote (line : Nat)
  | openSingleQuote (line : Nat)
  | badEscape (c : Char) (line : Nat)
  | danglingEscape (line : Nat)
  deriving DecidableEq

namespace EnvTextError

def message : EnvTextError → String
  | .malformed reason => reason
  | .notObject kind => "expected a JSON object, got " ++ kind
  | .nullValue key extension =>
    "key " ++ key ++ " has null value (" ++ extension ++ " not allowed)"
  | .compoundValue key kind => "key " ++ key ++ " has unsupported value type " ++ kind
  | .noEquals line => ".env line " ++ toString line ++ " missing '='"
  | .badKey key line => "invalid env key " ++ Text.quoted key ++ " at line " ++ toString line
  | .openDoubleQuote line => "unterminated double quote line " ++ toString line
  | .openSingleQuote line => "unterminated single quote line " ++ toString line
  | .badEscape c line =>
    "unsupported escape \\" ++ String.singleton c ++ " line " ++ toString line
  | .danglingEscape line => "dangling escape line " ++ toString line

end EnvTextError

namespace Env

/-- Whether characters are a key: a letter or an underscore, then letters, digits and
underscores. -/
def isKeyText : List Char → Bool
  | [] => false
  | c :: rest =>
    (c.isAlpha || c == '_') && rest.all fun c => c.isAlphanum || c == '_'

/-- Whether a text is a key. -/
def isKey (text : String) : Bool :=
  isKeyText text.toList

/-- The characters between double quotes, with escapes read; `acc` holds those done, last first. -/
def unescape (line : Nat) (acc : List Char) : List Char → Except EnvTextError (List Char)
  | [] => .ok acc.reverse
  | '\\' :: [] => .error (.danglingEscape line)
  | '\\' :: c :: rest =>
    match c with
    | '\\' => unescape line ('\\' :: acc) rest
    | '"' => unescape line ('"' :: acc) rest
    | 'n' => unescape line ('\n' :: acc) rest
    | 'r' => unescape line ('\r' :: acc) rest
    | 't' => unescape line ('\t' :: acc) rest
    | other => .error (.badEscape other line)
  | c :: rest => unescape line (c :: acc) rest

/-- Characters without a last one that has to be `c`. -/
def dropLast? (c : Char) (cs : List Char) : Option (List Char) :=
  if cs.getLast? = some c then some cs.dropLast else none

/-- The value of what follows the equals sign on a line. -/
def readValue (line : Nat) : List Char → Except EnvTextError (List Char)
  | '"' :: body =>
    match dropLast? '"' body with
    | some body => unescape line [] body
    | none => .error (.openDoubleQuote line)
  | '\'' :: body =>
    match dropLast? '\'' body with
    | some body => .ok body
    | none => .error (.openSingleQuote line)
  | ' ' :: rest => .ok rest
  | cs => .ok cs

/-- What may stand in front of a key. -/
def exportWord : List Char := "export ".toList

/-- A line without the word in front of its key. -/
def dropExport (cs : List Char) : List Char :=
  if exportWord.isPrefixOf cs then cs.drop exportWord.length else cs

/-- Whether nothing is to be read from a line. -/
def isIdle (cs : List Char) : Bool :=
  cs.isEmpty || cs.head? == some '#'

/-- The key and the value on a line, if it has any. -/
def readLine (line : Nat) (cs : List Char) : Except EnvTextError (Option (String × String)) :=
  if isIdle cs then .ok none
  else
    match Text.splitOnceChars '=' (dropExport cs) with
    | none => .error (.noEquals line)
    | some (key, value) =>
      let key := Text.trimChars key
      if isKeyText key then
        (readValue line value).map fun value =>
          some (String.ofList key, String.ofList value)
      else .error (.badKey (String.ofList key) line)

/-- Reads lines from one that has a number, into what the lines before it gave. -/
def readLines (map : Variables) (line : Nat) : List (List Char) → Except EnvTextError Variables
  | [] => .ok map
  | cs :: rest =>
    match readLine line cs with
    | .error error => .error error
    | .ok none => readLines map (line + 1) rest
    | .ok (some (key, value)) => readLines (map.insert key value) (line + 1) rest

/-- Reads a text of lines `KEY=value`. -/
def parseLines (text : String) : Except EnvTextError Variables :=
  readLines .empty 1 (Text.lines text.toList)

/-- A scalar of a data file as the value of a key. -/
def scalarValue (extension key : String) : Json → Except EnvTextError String
  | .null => .error (.nullValue key extension)
  | .str text => .ok text
  | .bool value => .ok (if value then "true" else "false")
  | .int value => .ok (toString value)
  | .float value => .ok (Json.floatText value)
  | other => .error (.compoundValue key other.kind)

/-- The members of a data file as keys and values. -/
def ofMembers (extension : String) (members : List (String × Json)) :
    Except EnvTextError Variables := do
  let entries ← members.mapM fun member => do
    return (member.1, ← scalarValue extension member.1 member.2)
  return .ofList entries

/-- The extension of a path, with its dot and in small letters. -/
def extensionOf (path : String) : String :=
  match pathExtension? path with
  | some extension => "." ++ Text.lowercase extension
  | none => ""

/-- Reads the text of the environment file at a path. -/
def parse (text path : String) : Except EnvTextError Variables :=
  let extension := extensionOf path
  if extension = ".yml" ∨ extension = ".yaml" then
    match Yaml.parseMapping text with
    | .error fault => .error (.malformed fault.message)
    | .ok members => ofMembers extension members
  else if extension = ".json" then
    match Json.parse? text with
    | none => .error (.malformed Fault.jsonSyntax)
    | some (.obj members) => ofMembers extension members
    | some .null => .ok .empty
    | some other => .error (.notObject other.kind)
  else parseLines text

end Env

end ComposeCluster

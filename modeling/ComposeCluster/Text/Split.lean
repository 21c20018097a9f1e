/-!
# Cutting text at a character

The few ways in which this library cuts and joins text, each over the list of its characters.
`splitOnce` cuts at the first separator only; `splitAll` at every one, so that a text without
separators is one piece; `lines` follows the convention that a line break ends a line, so that no
empty line follows the last one.
-/

set_option autoImplicit false

namespace ComposeCluster.Text

/-- What stands before and after the first `sep`. -/
def splitOnceChars (sep : Char) (cs : List Char) : Option (List Char × List Char) :=
  match cs.dropWhile (· != sep) with
  | [] => none
  | _ :: rest => some (cs.takeWhile (· != sep), rest)

/-- What stands before and after the first `sep`. -/
def splitOnce (sep : Char) (text : String) : Option (String × String) :=
  (splitOnceChars sep text.toList).map fun (before, after) =>
    (String.ofList before, String.ofList after)

/-- The pieces between the separators. -/
def splitAll (sep : Char) (text : String) : List String :=
  (text.toList.splitOn sep).map String.ofList

/-- Texts with a separator between each two. -/
def join (sep : String) (parts : List String) : String :=
  String.ofList (List.intercalate sep.toList (parts.map String.toList))

/-- Whether `text` begins with `start`. -/
def startsWith (start text : String) : Bool :=
  start.toList.isPrefixOf text.toList

/-- Whether `text` ends with `ending`. -/
def endsWith (ending text : String) : Bool :=
  ending.toList.isSuffixOf text.toList

/-- A text ends with what was put at its end. -/
theorem endsWith_append (front ending : String) : endsWith ending (front ++ ending) = true := by
  rw [endsWith, String.toList_append, List.isSuffixOf_iff_suffix]
  exact List.suffix_append _ _

/-- Whether a character occurs. -/
def containsChar (c : Char) (text : String) : Bool :=
  text.toList.contains c

/-- A line without the carriage return that ends it. -/
def dropReturn (line : List Char) : List Char :=
  if line.getLast? = some '\r' then line.dropLast else line

/-- The lines of a text: each ends at a line feed or at a carriage return and a line feed; the
last one may lack the line feed, and then keeps its carriage return. -/
def lines (cs : List Char) : List (List Char) :=
  let pieces := cs.splitOn '\n'
  pieces.dropLast.map dropReturn ++ (pieces.getLast?.toList.filter fun last => !last.isEmpty)

/-- A copy with every ASCII capital made small; other characters stay. -/
def asciiLower (text : String) : String :=
  String.ofList (text.toList.map Char.toLower)

/-- Small letters are put in place part by part. -/
theorem asciiLower_append (front back : String) :
    asciiLower (front ++ back) = asciiLower front ++ asciiLower back := by
  rw [asciiLower, String.toList_append, List.map_append, String.ofList_append]
  rfl

end ComposeCluster.Text

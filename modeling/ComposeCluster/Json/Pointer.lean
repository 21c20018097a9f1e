import ComposeCluster.Text.Split

/-!
# Pointers into JSON values

A pointer is the list of member names and indices on the way to a value. Written as text each
begins with a slash, so slashes inside a token are escaped, and so is the tilde that escapes
(`Pointer.escape`). `Pointer.unescape` undoes it.
-/

set_option autoImplicit false

namespace ComposeCluster

/-- The tokens on the way to a value. -/
abbrev Pointer := List String

namespace Pointer

/-- The characters for a character of a token. -/
def escapeChar (c : Char) : List Char :=
  if c = '~' then ['~', '0'] else if c = '/' then ['~', '1'] else [c]

/-- A token as it is written. -/
def escape (token : String) : String :=
  String.ofList (token.toList.flatMap escapeChar)

/-- The characters of a token that is written; a tilde that escapes nothing stays. -/
def unescapeChars : List Char → List Char
  | '~' :: '0' :: rest => '~' :: unescapeChars rest
  | '~' :: '1' :: rest => '/' :: unescapeChars rest
  | c :: rest => c :: unescapeChars rest
  | [] => []

/-- The token that is written. -/
def unescape (text : String) : String :=
  String.ofList (unescapeChars text.toList)

/-- A pointer as text. -/
def render (pointer : Pointer) : String :=
  String.join (pointer.map fun token => "/" ++ escape token)

/-- The pointer that a text writes: nothing, or tokens that each follow a slash. -/
def ofText? (text : String) : Option Pointer :=
  match Text.splitAll '/' text with
  | "" :: tokens => some (tokens.map unescape)
  | _ => none

end Pointer

end ComposeCluster

import ComposeCluster.Json.Number

/-!
# Reading JSON text

`Json.parse?` reads one value with blanks around it. Strings hold no bare control characters and
escape surrogates only in pairs; of two members with one key the later one stays; values nest at
most `maxDepth` deep. Anything else is not JSON, and the reader does not say why.
-/

set_option autoImplicit false

namespace ComposeCluster.Json

/-- How many lists and objects may be open at once. -/
def maxDepth : Nat := 127

/-- Blanks between tokens. -/
def isSpace (c : Char) : Bool :=
  c == ' ' || c == '\n' || c == '\t' || c == '\r'

/-- The text after its leading blanks. -/
def skipSpace (cs : List Char) : List Char :=
  cs.dropWhile isSpace

/-- The code unit of four hexadecimal digits. -/
def codeUnit? (a b c d : Char) : Option Nat :=
  [a, b, c, d].foldlM (fun acc c => (Text.digitValue? 16 c).map (acc * 16 + ·)) 0

/-- The character for a letter after a backslash. -/
def escaped? : Char → Option Char
  | '"' => some '"'
  | '\\' => some '\\'
  | '/' => some '/'
  | 'b' => some '\x08'
  | 'f' => some '\x0c'
  | 'n' => some '\n'
  | 'r' => some '\r'
  | 't' => some '\t'
  | _ => none

/-- The characters of a string up to its closing quote; `acc` holds those read, last first. -/
def stringBody? (acc : List Char) : List Char → Option (String × List Char)
  | '"' :: rest => some (String.ofList acc.reverse, rest)
  | '\\' :: 'u' :: a :: b :: c :: d :: rest =>
    match codeUnit? a b c d with
    | none => none
    | some unit =>
      if 0xDC00 ≤ unit ∧ unit < 0xE000 then none
      else if 0xD800 ≤ unit ∧ unit < 0xDC00 then
        match rest with
        | '\\' :: 'u' :: e :: f :: g :: h :: rest =>
          match codeUnit? e f g h with
          | none => none
          | some low =>
            if 0xDC00 ≤ low ∧ low < 0xE000 then
              stringBody? (Char.ofNat (0x10000 + (unit - 0xD800) * 1024 + (low - 0xDC00)) :: acc)
                rest
            else none
        | _ => none
      else stringBody? (Char.ofNat unit :: acc) rest
  | '\\' :: c :: rest =>
    match escaped? c with
    | some c => stringBody? (c :: acc) rest
    | none => none
  | c :: rest => if c.toNat < 0x20 then none else stringBody? (c :: acc) rest
  | [] => none

mutual

/-- A value at the head of a text, blanks before it skipped. -/
def value? (fuel depth : Nat) (cs : List Char) : Option (Json × List Char) :=
  match fuel with
  | 0 => none
  | fuel + 1 =>
    match skipSpace cs with
    | 'n' :: 'u' :: 'l' :: 'l' :: rest => some (.null, rest)
    | 't' :: 'r' :: 'u' :: 'e' :: rest => some (.bool true, rest)
    | 'f' :: 'a' :: 'l' :: 's' :: 'e' :: rest => some (.bool false, rest)
    | '"' :: rest => (stringBody? [] rest).map fun (text, rest) => (.str text, rest)
    | '[' :: rest =>
      match depth with
      | 0 => none
      | depth + 1 =>
        match skipSpace rest with
        | ']' :: rest => some (.arr [], rest)
        | rest => items? fuel depth [] rest
    | '\x7b' :: rest =>
      match depth with
      | 0 => none
      | depth + 1 =>
        match skipSpace rest with
        | '\x7d' :: rest => some (.obj [], rest)
        | rest => members? fuel depth [] rest
    | cs => number? cs

/-- The items of a list and its closing bracket; `acc` holds those read, last first. -/
def items? (fuel depth : Nat) (acc : List Json) (cs : List Char) : Option (Json × List Char) :=
  match fuel with
  | 0 => none
  | fuel + 1 =>
    match value? fuel depth cs with
    | none => none
    | some (item, rest) =>
      match skipSpace rest with
      | ',' :: rest => items? fuel depth (item :: acc) rest
      | ']' :: rest => some (.arr (item :: acc).reverse, rest)
      | _ => none

/-- The members of an object and its closing brace. -/
def members? (fuel depth : Nat) (acc : List (String × Json)) (cs : List Char) :
    Option (Json × List Char) :=
  match fuel with
  | 0 => none
  | fuel + 1 =>
    match skipSpace cs with
    | '"' :: rest =>
      match stringBody? [] rest with
      | none => none
      | some (key, rest) =>
        match skipSpace rest with
        | ':' :: rest =>
          match value? fuel depth rest with
          | none => none
          | some (value, rest) =>
            match skipSpace rest with
            | ',' :: rest => members? fuel depth (insertEntry key value acc) rest
            | '\x7d' :: rest => some (.obj (insertEntry key value acc), rest)
            | _ => none
        | _ => none
    | _ => none

end

/-- The value of a JSON text. -/
def parse? (text : String) : Option Json :=
  let cs := text.toList
  match value? (2 * cs.length + 2) maxDepth cs with
  | some (value, rest) => if (skipSpace rest).isEmpty then some value else none
  | none => none

end ComposeCluster.Json

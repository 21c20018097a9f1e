import ComposeCluster.Yaml.Cursor
import ComposeCluster.Text.Numeral

/-!
# Tags and directives

A tag is written `!suffix`, `!!suffix`, `!handle!suffix` or `!<uri>`; directives before a document
say what a handle stands for. Characters beyond the plain ones of a URI are written as bytes after
percent signs.
-/

set_option autoImplicit false

namespace ComposeCluster.Yaml

/-- Characters of a URI, the percent sign among them. -/
def isUriChar (c : Char) : Bool :=
  c.isAlphanum || c == '-' || "#;/?:@&=+$,_.!~*'()[]%".toList.contains c

/-- Characters of a tag's suffix. -/
def isTagChar (c : Char) : Bool :=
  isUriChar c && !isFlow c && c != '!'

/-- Characters of an anchor's name. -/
def isAnchorChar (c : Char) : Bool :=
  !isGap c && !isFlow c && c != '\uFEFF'

/-- How many bytes an encoded character has, by its first one. -/
def encodedLength? (byte : Nat) : Option Nat :=
  if byte < 0x80 then some 1
  else if byte < 0xC0 then none
  else if byte < 0xE0 then some 2
  else if byte < 0xF0 then some 3
  else if byte < 0xF8 then some 4
  else none

/-- Reads characters that satisfy `ok`, with those written as bytes. The bytes of one character
are strung together to its number; `pending` is how many are missing and `code` the number so
far. `acc` holds the characters read, last first, and `count` how many were consumed. -/
def scanUri (ok : Char → Bool) (acc : List Char) (count pending code : Nat) :
    List Char → Option (List Char × Nat)
  | '%' :: a :: b :: rest =>
    if ok '%' || pending != 0 then
      match Text.digitValue? 16 a, Text.digitValue? 16 b with
      | some high, some low =>
        let byte := high * 16 + low
        if pending = 0 then
          match encodedLength? byte with
          | none => none
          | some 1 => scanUri ok (Char.ofNat byte :: acc) (count + 3) 0 0 rest
          | some length => scanUri ok acc (count + 3) (length - 1) byte rest
        else if byte / 64 ≠ 2 then none
        else
          let code := code * 256 + byte
          if pending = 1 then
            if code.isValidChar then scanUri ok (Char.ofNat code :: acc) (count + 3) 0 0 rest
            else none
          else scanUri ok acc (count + 3) (pending - 1) code rest
      | _, _ => none
    else some (acc.reverse, count)
  | c :: rest =>
    if pending ≠ 0 then none
    else if c = '%' ∧ ok c then none
    else if ok c then scanUri ok (c :: acc) (count + 1) 0 0 rest
    else some (acc.reverse, count)
  | [] => if pending ≠ 0 then none else some (acc.reverse, count)

namespace Cursor

/-- The URI characters at a cursor, with what follows them. -/
def readUri? (c : Cursor) (ok : Char → Bool) : Option (String × Cursor) :=
  (scanUri ok [] 0 0 0 c.rest).map fun (cs, count) => (String.ofList cs, c.advance count)

/-- The handle at a cursor: an exclamation mark, a word, and another mark if one follows. -/
def readHandle? (c : Cursor) : Option (String × Cursor) :=
  match c.rest with
  | '!' :: _ =>
    let (word, after) := (c.advance 1).takeWhile isWord
    if after.rest.head? = some '!' then
      some (String.ofList ('!' :: word ++ ['!']), after.advance 1)
    else some (String.ofList ('!' :: word), after)
  | _ => none

end Cursor

/-- A tag as it is written: the handle, and what follows it. -/
structure RawTag where
  handle : String
  suffix : String
  deriving DecidableEq

/-- Whether a handle is closed by an exclamation mark. -/
def isClosedHandle (handle : String) : Bool :=
  let cs := handle.toList
  2 ≤ cs.length && cs.head? == some '!' && cs.getLast? == some '!'

/-- The tag at a cursor, before anything is said about what may follow it. -/
def readRawTag? (c : Cursor) : Option (RawTag × Cursor) :=
  if (c.rest.drop 1).head? = some '<' then
    match (c.advance 2).readUri? isUriChar with
    | some (uri, after) =>
      if after.rest.head? = some '>' then some (⟨"", uri⟩, after.advance 1) else none
    | none => none
  else
    match c.readHandle? with
    | none => none
    | some (handle, after) =>
      match after.readUri? isTagChar with
      | none => none
      | some (suffix, after) =>
        if isClosedHandle handle then
          if suffix.isEmpty then none else some (⟨handle, suffix⟩, after)
        else
          let suffix := String.ofList (handle.toList.drop 1) ++ suffix
          if suffix.isEmpty then some (⟨"", "!"⟩, after) else some (⟨"!", suffix⟩, after)

/-- The tag at a cursor. A gap must follow it, or in a flow collection what structures it. -/
def readTag? (inFlow : Bool) (c : Cursor) : Option (RawTag × Cursor) :=
  match readRawTag? c with
  | some (tag, after) =>
    if gapAhead after.rest || (inFlow && after.rest.head?.any isFlow) then some (tag, after)
    else none
  | none => none

/-- A directive: the version, or what a tag handle stands for. -/
inductive Directive where
  | version
  | handle (name : String) (expansion : String)
  deriving DecidableEq

/-- The digits of a version number, nine at most. -/
def readVersionNumber? (c : Cursor) : Option Cursor :=
  let (digits, after) := c.takeWhile Char.isDigit
  if digits.isEmpty ∨ 9 < digits.length then none else some after

/-- The version after its name. -/
def readVersion? (c : Cursor) : Option (Directive × Cursor) := do
  let dot ← readVersionNumber? c.skipBlanks
  if dot.rest.head? = some '.' then
    let after ← readVersionNumber? (dot.advance 1)
    some (.version, after)
  else none

/-- The expansion of a handle: a mark or a first character of a tag, then characters of a URI. -/
def readExpansion? (c : Cursor) : Option (String × Cursor) :=
  match c.rest.head? with
  | some '!' =>
    ((c.advance 1).readUri? isUriChar).map fun (text, after) => ("!" ++ text, after)
  | some first => if isTagChar first then c.readUri? isUriChar else none
  | none => none

/-- The handle and its expansion after the name. -/
def readHandleDirective? (c : Cursor) : Option (Directive × Cursor) := do
  let (handle, after) ← c.skipBlanks.readHandle?
  if handle = "!" ∨ isClosedHandle handle then
    let (expansion, after) ← readExpansion? after.skipBlanks
    if gapAhead after.rest then some (.handle handle expansion, after) else none
  else none

/-- The directive at a cursor, with its line. A directive of another name counts as one that gives
the empty handle no meaning. -/
def readDirective? (c : Cursor) : Option (Directive × Cursor) := do
  let (name, after) := (c.advance 1).takeWhile isWord
  if name.isEmpty ∨ !gapAhead after.rest then none
  else
    let (directive, after) ←
      if name = "YAML".toList then readVersion? after
      else if name = "TAG".toList then readHandleDirective? after
      else some (.handle "" "", (after.takeWhile (· != '\n')).2)
    let lineEnd ← after.toLineEnd?
    if lineEndAhead lineEnd.rest then some (directive, lineEnd.skipBreak) else none

end ComposeCluster.Yaml

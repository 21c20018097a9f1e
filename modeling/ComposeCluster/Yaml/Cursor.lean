/-!
# A place in a YAML text

Reading a YAML text means walking its characters while keeping account of the place: the column
decides the structure, and the line and the index decide how far a key may lie behind its colon.
Line breaks are made uniform first (`uniformBreaks`), so a break is one character everywhere else.
-/

set_option autoImplicit false

namespace ComposeCluster.Yaml

/-- A place: how many characters lie before it in the text and on its line, the number of the
line, and whether only blanks precede it there. -/
structure Place where
  index : Nat
  line : Nat
  col : Nat
  fresh : Bool
  deriving DecidableEq

namespace Place

/-- The beginning of a text. -/
def start : Place := ⟨0, 0, 0, true⟩

/-- The place after a blank. -/
def blank (p : Place) : Place := { p with index := p.index + 1, col := p.col + 1 }

/-- The place after so many characters that are not all blank. -/
def step (p : Place) (count : Nat) : Place :=
  { p with index := p.index + count, col := p.col + count, fresh := false }

/-- The place after a line break. -/
def nextLine (p : Place) : Place := ⟨p.index + 1, p.line + 1, 0, true⟩

end Place

/-- A place and the characters from there on. -/
structure Cursor where
  rest : List Char
  place : Place

/-- A blank: a space or a tab. -/
def isBlank (c : Char) : Bool := c == ' ' || c == '\t'

/-- A blank or a line break. -/
def isGap (c : Char) : Bool := c == ' ' || c == '\t' || c == '\n'

/-- The characters that structure a flow collection. -/
def isFlow (c : Char) : Bool := c == ',' || c == '[' || c == ']' || c == '\x7b' || c == '\x7d'

/-- Letters, digits, `_` and `-` of ASCII. -/
def isWord (c : Char) : Bool := c.isAlphanum || c == '_' || c == '-'

/-- Hexadecimal digits. -/
def isHex (c : Char) : Bool :=
  c.isDigit || ('a' ≤ c && c ≤ 'f') || ('A' ≤ c && c ≤ 'F')

/-- Whether the text ends here or a blank or a break follows. -/
def gapAhead : List Char → Bool
  | [] => true
  | c :: _ => isGap c

/-- Whether the text or the line ends here. -/
def lineEndAhead : List Char → Bool
  | [] => true
  | c :: _ => c == '\n'

/-- Whether the marker that opens a document stands here. -/
def documentStartAhead : List Char → Bool
  | '-' :: '-' :: '-' :: rest => gapAhead rest
  | _ => false

/-- Whether the marker that closes a document stands here. -/
def documentEndAhead : List Char → Bool
  | '.' :: '.' :: '.' :: rest => gapAhead rest
  | _ => false

/-- Whether a document marker stands here. -/
def markerAhead (cs : List Char) : Bool :=
  documentStartAhead cs || documentEndAhead cs

/-- Line breaks as line feeds, and the text cut at the first NUL, which ends it; `acc` holds the
characters done, last first. -/
def uniformBreaks (acc : List Char) : List Char → List Char
  | [] => acc.reverse
  | '\x00' :: _ => acc.reverse
  | '\r' :: '\n' :: rest => uniformBreaks ('\n' :: acc) rest
  | '\r' :: rest => uniformBreaks ('\n' :: acc) rest
  | c :: rest => uniformBreaks (c :: acc) rest

namespace Cursor

/-- The beginning of a text. -/
def ofText (text : String) : Cursor := ⟨uniformBreaks [] text.toList, Place.start⟩

/-- Past so many characters on the line. -/
def advance (c : Cursor) (count : Nat) : Cursor := ⟨c.rest.drop count, c.place.step count⟩

/-- Past a line break, if one stands here. -/
def skipBreak (c : Cursor) : Cursor :=
  match c.rest with
  | '\n' :: rest => ⟨rest, c.place.nextLine⟩
  | _ => c

/-- The characters from here on that satisfy `p`, and what follows them. -/
def takeWhile (c : Cursor) (p : Char → Bool) : List Char × Cursor :=
  let taken := c.rest.takeWhile p
  (taken, c.advance taken.length)

/-- Past the blanks of the line. -/
def skipBlanks (c : Cursor) : Cursor :=
  let count := (c.rest.takeWhile isBlank).length
  ⟨c.rest.drop count, { c.place with index := c.place.index + count, col := c.place.col + count }⟩

end Cursor

/-- What was skipped on the way to the end of a line. -/
structure Skipped where
  cursor : Cursor
  tab : Bool
  space : Bool

/-- Past blanks and a comment towards the end of the line; a comment must follow a blank.
`tabs` tells whether a tab counts as a blank. -/
def skipToLineEnd (tabs tab space : Bool) : List Char → Place → Option Skipped
  | [], p => some ⟨⟨[], p⟩, tab, space⟩
  | c :: rest, p =>
    if c = ' ' then skipToLineEnd tabs tab true rest p.blank
    else if c = '\t' ∧ tabs then skipToLineEnd tabs true space rest p.blank
    else if c = '#' then
      if tab || space then some ⟨(Cursor.takeWhile ⟨c :: rest, p⟩ (· != '\n')).2, tab, space⟩
      else none
    else some ⟨⟨c :: rest, p⟩, tab, space⟩

namespace Cursor

/-- Past blanks, tabs among them, and a comment towards the end of the line. -/
def toLineEnd? (c : Cursor) : Option Cursor :=
  (skipToLineEnd true false false c.rest c.place).map (·.cursor)

end Cursor

/-- What counts between two tokens: the column that block content must reach, whether a block is
open, and whether a flow collection is. -/
structure Surroundings where
  indent : Int
  inBlock : Bool
  inFlow : Bool

/-- What the line has shown between two tokens: blanks, a tab where the indentation should be, or
a comment. -/
inductive Gap where
  | blanks
  | afterTab
  | comment
  deriving DecidableEq

/-- Past blanks, comments and line breaks to the next token; `allowed` tells whether a key may
start there, which every line break of block context permits. A tab in the indentation is refused
if the line has content. -/
def skipGap (around : Surroundings) (gap : Gap) (allowed : Bool) :
    List Char → Place → Option (Cursor × Bool)
  | [], p => some (⟨[], p⟩, allowed)
  | c :: rest, p =>
    if c = '\n' then skipGap around .blanks (allowed || !around.inFlow) rest p.nextLine
    else if gap = .comment then skipGap around .comment allowed rest (p.step 1)
    else if c = '#' then skipGap around .comment allowed rest (p.step 1)
    else if isBlank c then
      let indenting :=
        c == '\t' && around.inBlock && p.fresh && decide ((p.col : Int) < around.indent)
      skipGap around (if indenting then .afterTab else gap) allowed rest p.blank
    else if gap = .afterTab then none
    else some (⟨c :: rest, p⟩, allowed)

/-- The blanks and breaks that must follow the mark of an explicit key; comments may stand among
them, tabs may not. -/
def skipKeyGap (comment found allowed inFlow : Bool) : List Char → Place → Option (Cursor × Bool)
  | [], p => if found then some (⟨[], p⟩, allowed) else none
  | c :: rest, p =>
    if c = '\n' then skipKeyGap false true (allowed || !inFlow) inFlow rest p.nextLine
    else if comment then skipKeyGap true found allowed inFlow rest (p.step 1)
    else if c = ' ' then skipKeyGap false true allowed inFlow rest p.blank
    else if c = '#' then skipKeyGap true found allowed inFlow rest (p.step 1)
    else if found then some (⟨c :: rest, p⟩, allowed) else none

end ComposeCluster.Yaml

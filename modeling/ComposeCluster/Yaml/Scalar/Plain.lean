import ComposeCluster.Yaml.Cursor

/-!
# Plain scalars

A plain scalar is text without quotes. It runs over words and the blanks between them, on one line
or several: a single break between two lines reads as a space, and of several breaks all but the
first are kept. It ends before a comment, a document marker, a colon that a gap follows, a line
that is not indented far enough, and inside a flow collection before the characters that
structure it.
-/

set_option autoImplicit false

namespace ComposeCluster.Yaml

/-- What was read of a scalar that may go on: its text and the gap since the last word, both last
character first, whether the gap has a break, and how many breaks follow that one. -/
structure Folding where
  text : List Char
  gap : List Char
  broken : Bool
  breaks : Nat

namespace Folding

/-- Nothing read yet. -/
def start : Folding := ⟨[], [], false, 0⟩

/-- Adds line feeds. -/
def addBreaks (text : List Char) (count : Nat) : List Char :=
  List.replicate count '\n' ++ text

/-- Adds the gap to the text, folded if `newLine`. -/
def join (f : Folding) (newLine : Bool) : Folding :=
  if newLine then
    if f.broken ∧ f.breaks = 0 then ⟨' ' :: f.text, f.gap, false, 0⟩
    else ⟨addBreaks f.text f.breaks, f.gap, false, 0⟩
  else ⟨f.gap ++ f.text, [], f.broken, f.breaks⟩

/-- Adds a character of a word. -/
def push (f : Folding) (c : Char) : Folding := { f with text := c :: f.text }

/-- The text read, in order. -/
def result (f : Folding) : String := String.ofList f.text.reverse

end Folding

namespace Plain

/-- Whether `c`, with `next` after it, can stand in a plain scalar. -/
def canStand (inFlow : Bool) (c : Char) (next : List Char) : Bool :=
  if c = ':' ∧ (gapAhead next || (inFlow && next.head?.any isFlow)) then false
  else !(inFlow && isFlow c)

/-- Where the scan stands: before a word, in one, between two, after a tab that stands in the
indentation, or in a comment after such a tab. -/
inductive Mode where
  | before
  | word
  | between
  | afterTab
  | comment
  deriving DecidableEq

/-- Whether a word can begin at `c`: `none` if nothing may stand there, `some false` if the scalar
ends. -/
def beginsWord (inFlow : Bool) (p : Place) (c : Char) (next : List Char) : Option Bool :=
  if (p.fresh && markerAhead (c :: next)) || c == '#' then some false
  else if inFlow && c == '-' && next.head?.any isFlow then none
  else some (canStand inFlow c next)

/-- Reads on to the end of a plain scalar whose further lines must reach the column `indent`. -/
def scan (inFlow : Bool) (indent : Int) (mode : Mode) (f : Folding) :
    List Char → Place → Option (Folding × Cursor)
  | [], p => some (f, ⟨[], p⟩)
  | c :: rest, p =>
    match mode with
    | .comment =>
      if c = '\n' then
        scan inFlow indent .between { f with gap := [], broken := true } rest p.nextLine
      else scan inFlow indent .comment f rest (p.step 1)
    | .afterTab =>
      if c = '\n' then scan inFlow indent .between { f with breaks := f.breaks + 1 } rest p.nextLine
      else if c = '#' then scan inFlow indent .comment f rest (p.step 1)
      else if isBlank c then scan inFlow indent .afterTab f rest p.blank
      else none
    | mode =>
      if mode ≠ .before ∧ c = '\n' then
        if p.fresh then
          scan inFlow indent .between { f with breaks := f.breaks + 1 } rest p.nextLine
        else scan inFlow indent .between { f with gap := [], broken := true } rest p.nextLine
      else if mode ≠ .before ∧ isBlank c then
        if !p.fresh then scan inFlow indent .between { f with gap := c :: f.gap } rest p.blank
        else if c = '\t' ∧ (p.col : Int) < indent then scan inFlow indent .afterTab f rest p.blank
        else scan inFlow indent .between f rest p.blank
      else if mode = .word then
        if canStand inFlow c rest then scan inFlow indent .word (f.push c) rest (p.step 1)
        else some (f, ⟨c :: rest, p⟩)
      else if mode = .between ∧ !inFlow ∧ (p.col : Int) < indent then some (f, ⟨c :: rest, p⟩)
      else match beginsWord inFlow p c rest with
        | none => none
        | some false => some (f, ⟨c :: rest, p⟩)
        | some true => scan inFlow indent .word ((f.join p.fresh).push c) rest (p.step 1)

/-- The plain scalar at a cursor, with what follows it. A scalar without text is refused. -/
def read? (inFlow : Bool) (indent : Int) (c : Cursor) : Option (String × Cursor) :=
  if inFlow ∧ (c.place.col : Int) < indent then none
  else match scan inFlow indent .before Folding.start c.rest c.place with
    | some (f, after) => if f.text.isEmpty then none else some (f.result, after)
    | none => none

end Plain

end ComposeCluster.Yaml

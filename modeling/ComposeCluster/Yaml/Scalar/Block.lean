import ComposeCluster.Yaml.Cursor

/-!
# Block scalars

A block scalar is a run of indented lines after `|` or `>`. The first keeps every line break; the
second folds a break between two lines that begin with text into a space. The header may fix the
indentation and says what becomes of the breaks at the end: one is kept, none, or all.
-/

set_option autoImplicit false

namespace ComposeCluster.Yaml.Block

/-- What becomes of the breaks at the end. -/
inductive Chomping where
  | clip
  | strip
  | keep
  deriving DecidableEq

/-- The header of a block scalar: the asked indentation, if any, and the chomping. -/
structure Header where
  increment : Option Nat
  chomping : Chomping

/-- The chomping that a character asks for. -/
def chomping? : Char → Option Chomping
  | '+' => some .keep
  | '-' => some .strip
  | _ => none

/-- The indentation that a character asks for; zero is refused. -/
def increment? (c : Char) : Option (Option Nat) :=
  if c = '0' then none
  else if c.isDigit then some (some (c.toNat - '0'.toNat)) else some none

/-- The indicators after the `|` or `>`, in either order, and how many characters they take. -/
def header? (cs : List Char) : Option (Header × Nat) :=
  match cs with
  | [] => some (⟨none, .clip⟩, 0)
  | c :: rest =>
    match chomping? c with
    | some chomping =>
      match rest with
      | [] => some (⟨none, chomping⟩, 1)
      | d :: _ => (increment? d).map fun n => (⟨n, chomping⟩, if n.isSome then 2 else 1)
    | none =>
      match increment? c with
      | none => none
      | some none => some (⟨none, .clip⟩, 0)
      | some (some n) =>
        match rest.head?.bind chomping? with
        | some chomping => some (⟨some n, chomping⟩, 2)
        | none => some (⟨some n, .clip⟩, 1)

/-- Past empty lines and at most `limit` spaces of the line after them: the cursor there, how many
breaks were passed, and the widest of the indentations. -/
def skipIndent (limit : Option Nat) (breaks widest : Nat) :
    List Char → Place → Cursor × Nat × Nat
  | [], p => (⟨[], p⟩, breaks, max widest p.col)
  | c :: rest, p =>
    if c = ' ' ∧ limit.all (p.col < ·) then skipIndent limit breaks widest rest p.blank
    else if c = '\n' then skipIndent limit (breaks + 1) (max widest p.col) rest p.nextLine
    else (⟨c :: rest, p⟩, breaks, max widest p.col)

/-- What was read of a block scalar: its text, last character first; whether a break is pending
after it and how many more follow that one; and whether the last line began with a blank. -/
structure Lines where
  text : List Char
  broken : Bool
  breaks : Nat
  blankFirst : Bool

/-- Begins a line with the character `c`, after the pending breaks. -/
def Lines.beginLine (folded : Bool) (l : Lines) (c : Char) : Lines :=
  let text :=
    if folded ∧ l.broken ∧ !l.blankFirst ∧ !isBlank c then
      if l.breaks = 0 then ' ' :: l.text else List.replicate l.breaks '\n' ++ l.text
    else
      List.replicate l.breaks '\n' ++ if l.broken then '\n' :: l.text else l.text
  ⟨c :: text, false, 0, isBlank c⟩

/-- Reads lines that begin at the column `indent`; `inLine` tells whether one is open. -/
def scanLines (folded : Bool) (indent : Nat) (inLine : Bool) (l : Lines) :
    List Char → Place → Lines × Cursor
  | [], p => (l, ⟨[], p⟩)
  | c :: rest, p =>
    if inLine then
      if c = '\n' then scanLines folded indent false { l with broken := true } rest p.nextLine
      else scanLines folded indent true { l with text := c :: l.text } rest p.blank
    else if c = ' ' ∧ p.col < indent then scanLines folded indent false l rest p.blank
    else if c = '\n' then
      scanLines folded indent false { l with breaks := l.breaks + 1 } rest p.nextLine
    else if p.col ≠ indent ∨ (indent = 0 ∧ documentEndAhead (c :: rest)) then (l, ⟨c :: rest, p⟩)
    else scanLines folded indent true (l.beginLine folded c) rest p.blank

/-- The text with the breaks at its end that the chomping keeps. A last line that the text ends
without a break, or an indentation that it ends in, counts as a line of its own. -/
def Lines.finish (l : Lines) (chomping : Chomping) (indent : Nat) (after : Cursor) : String :=
  let text :=
    if chomping = .strip then l.text
    else
      let text := if l.broken then '\n' :: l.text else l.text
      if after.rest.isEmpty ∧ max indent 1 ≤ after.place.col then '\n' :: text else text
  let text := if chomping = .keep then List.replicate l.breaks '\n' ++ text else text
  String.ofList text.reverse

/-- The value of a scalar whose text ends before any content; `line` is where it began. -/
def emptyText (chomping : Chomping) (line breaks : Nat) (headerBroken : Bool) (after : Cursor) :
    String :=
  let headerBreak := if headerBroken then "\n" else ""
  match chomping with
  | .strip => ""
  | .clip => if after.place.line = line then "" else headerBreak
  | .keep =>
    if after.place.line = line then ""
    else if breaks = 0 then headerBreak else String.ofList (List.replicate breaks '\n')

/-- The block scalar at a cursor in a block of the given indentation, with what follows it. -/
def read? (folded : Bool) (outer : Int) (c : Cursor) : Option (String × Cursor) := do
  let (header, count) ← header? (c.rest.drop 1)
  let lineEnd ← (c.advance (1 + count)).toLineEnd?
  if !lineEndAhead lineEnd.rest then none
  else
    let headerBroken := !lineEnd.rest.isEmpty
    let body := lineEnd.skipBreak
    if body.rest.head? = some '\t' then none
    else
      let fixed := header.increment.map fun n => if 0 ≤ outer then outer.toNat + n else n
      let (content, breaks, widest) := skipIndent fixed 0 0 body.rest body.place
      let indent := fixed.getD (max widest (outer + 1).toNat)
      if content.rest.isEmpty then
        some (emptyText header.chomping c.place.line breaks headerBroken content, content)
      else if content.place.col < indent ∧ outer < content.place.col then none
      else
        let (lines, after) :=
          scanLines folded indent false ⟨[], false, breaks, false⟩ content.rest content.place
        some (lines.finish header.chomping indent after, after)

end ComposeCluster.Yaml.Block

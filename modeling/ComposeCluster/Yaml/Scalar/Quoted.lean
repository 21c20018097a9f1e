import ComposeCluster.Yaml.Scalar.Plain
import ComposeCluster.Text.Numeral

/-!
# Quoted scalars

Between single quotes every character stands for itself and a quote is written twice. Between
double quotes a backslash begins an escape, and one before a break joins the two lines. Blanks
around a break fold as in plain scalars. A quoted scalar may not run into a document marker nor
out of its block's indentation.
-/

set_option autoImplicit false

namespace ComposeCluster.Yaml.Quoted

/-- The character for a letter after a backslash. -/
def escaped? : Char → Option Char
  | '0' => some '\x00'
  | 'a' => some '\x07'
  | 'b' => some '\x08'
  | 't' => some '\t'
  | '\t' => some '\t'
  | 'n' => some '\n'
  | 'v' => some '\x0b'
  | 'f' => some '\x0c'
  | 'r' => some '\r'
  | 'e' => some '\x1b'
  | ' ' => some ' '
  | '"' => some '"'
  | '/' => some '/'
  | '\\' => some '\\'
  | 'N' => some '\u0085'
  | '_' => some '\u00a0'
  | 'L' => some '\u2028'
  | 'P' => some '\u2029'
  | _ => none

/-- How many hexadecimal digits follow a letter after a backslash. -/
def codeLength? : Char → Option Nat
  | 'x' => some 2
  | 'u' => some 4
  | 'U' => some 8
  | _ => none

/-- The character of a code point, unless it is a surrogate or too large. -/
def character? (code : Nat) : Option Char :=
  if h : code.isValidChar then some (Char.ofNatAux code h) else none

/-- Where the scan stands: in text; after a backslash; in the digits of an escape; after a quote
that ends the scalar unless it is doubled; right after a joined break; in a gap. -/
inductive Mode where
  | text
  | escape
  | code (digits value : Nat)
  | joined
  | gap (newLine : Bool)
  deriving DecidableEq

/-- Whether the text may go on at this place. -/
def mayGoOn (indent : Int) (cs : List Char) (p : Place) : Bool :=
  !(p.col == 0 && markerAhead cs) && !decide ((p.col : Int) < indent)

/-- Reads on to the closing quote; the cursor stands after it. -/
def scan (single : Bool) (indent : Int) (mode : Mode) (f : Folding) :
    List Char → Place → Option (Folding × Cursor)
  | [], _ => none
  | [c], p =>
    match mode with
    | .escape => none
    | .code _ _ => none
    | .gap newLine =>
      if mayGoOn indent [c] p && c == (if single then '\'' else '"') then
        some (f.join newLine, ⟨[], p.step 1⟩)
      else none
    | _ => if c = (if single then '\'' else '"') then some (f, ⟨[], p.step 1⟩) else none
  | c :: next :: rest, p =>
    let quote := if single then '\'' else '"'
    let inText (f : Folding) : Option (Folding × Cursor) :=
      if single ∧ c = '\'' ∧ next = '\'' then
        scan single indent .text (f.push '\'') rest (p.step 2)
      else if c = quote then some (f, ⟨next :: rest, p.step 1⟩)
      else if !single && c == '\\' then scan single indent .escape f (next :: rest) (p.step 1)
      else scan single indent .text (f.push c) (next :: rest) (p.step 1)
    let inGap (newLine : Bool) : Option (Folding × Cursor) :=
      if c = '\n' then
        if newLine then
          scan single indent (.gap true) { f with breaks := f.breaks + 1 } (next :: rest) p.nextLine
        else
          scan single indent (.gap true) { f with gap := [], broken := true } (next :: rest)
            p.nextLine
      else if newLine then
        if c = '\t' ∧ (p.col : Int) < indent then none
        else scan single indent (.gap true) f (next :: rest) p.blank
      else scan single indent (.gap false) { f with gap := c :: f.gap } (next :: rest) p.blank
    match mode with
    | .text => if isGap c then inGap false else inText f
    | .joined =>
      if c = quote then some (f, ⟨next :: rest, p.step 1⟩)
      else if isGap c then inGap true
      else if mayGoOn indent (c :: next :: rest) p then inText (f.join true)
      else none
    | .gap newLine =>
      if isGap c then inGap newLine
      else if mayGoOn indent (c :: next :: rest) p then inText (f.join newLine)
      else none
    | .escape =>
      if c = '\n' then scan single indent .joined f (next :: rest) p.nextLine
      else match escaped? c, codeLength? c with
        | some c, _ => scan single indent .text (f.push c) (next :: rest) (p.step 1)
        | none, some digits => scan single indent (.code digits 0) f (next :: rest) (p.step 1)
        | none, none => none
    | .code digits value =>
      match digits, Text.digitValue? 16 c with
      | digits + 1, some digit =>
        let value := value * 16 + digit
        if digits = 0 then
          match character? value with
          | some c => scan single indent .text (f.push c) (next :: rest) (p.step 1)
          | none => none
        else scan single indent (.code digits value) f (next :: rest) (p.step 1)
      | _, _ => none

/-- What may follow the closing quote, after blanks and a comment: the end of the line; in a flow
collection what structures it; and a colon, if outside of one the scalar is on one line. -/
def mayFollow (inFlow oneLine : Bool) : List Char → Bool
  | [] => true
  | c :: _ =>
    c == '\n' || (inFlow && (c == ',' || c == '\x7d' || c == ']')) ||
      (c == ':' && (inFlow || oneLine))

/-- The quoted scalar at a cursor, with what follows it on its line. -/
def read? (single inFlow : Bool) (indent : Int) (c : Cursor) : Option (String × Cursor) :=
  let opened := c.advance 1
  if mayGoOn indent opened.rest opened.place then
    match scan single indent .text Folding.start opened.rest opened.place with
    | some (f, closed) =>
      match closed.toLineEnd? with
      | some after =>
        if mayFollow inFlow (c.place.line == after.place.line) after.rest then
          some (f.result, after)
        else none
      | none => none
    | none => none
  else none

end ComposeCluster.Yaml.Quoted

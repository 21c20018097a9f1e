import ComposeCluster.Yaml.Tag
import ComposeCluster.Yaml.Scalar.Plain
import ComposeCluster.Yaml.Scalar.Quoted
import ComposeCluster.Yaml.Scalar.Block

/-!
# Tokens of a YAML text

`Token.ofText?` turns a text into tokens in which the structure is explicit: block collections are
opened and closed by tokens of their own wherever the indentation says so, and a key is announced
by `key` although only the colon behind it tells that it is one. Such keys are remembered as
candidates (`KeyCandidate`) until the colon comes, the line ends, or the flow collection moves on.

The scanner goes forward one token at a time (`Scanner.step?`); every step passes at least one
character, so as many steps as there are characters reach the end.
-/

set_option autoImplicit false

namespace ComposeCluster.Yaml

/-- A token. Scalars tell whether they are plain, since only plain ones can be other than text. -/
inductive Token where
  | version
  | tagHandle (name : String) (expansion : String)
  | documentStart
  | documentEnd
  | blockSequence
  | blockMapping
  | blockEnd
  | flowSequence
  | flowSequenceEnd
  | flowMapping
  | flowMappingEnd
  | blockEntry
  | flowEntry
  | key
  | value
  | alias (name : String)
  | anchor (name : String)
  | tag (tag : RawTag)
  | scalar (plain : Bool) (text : String)
  deriving DecidableEq

/-- A place where a key may have begun: how many tokens precede it, where it is, whether it is
still one, and whether the text is wrong if it is none. -/
structure KeyCandidate where
  possible : Bool
  required : Bool
  tokenCount : Nat
  place : Place

namespace KeyCandidate

/-- No candidate. -/
def none : KeyCandidate := ⟨false, false, 0, Place.start⟩

end KeyCandidate

/-- An enclosing indentation to return to, and whether a block ends on the way back. -/
structure Indent where
  column : Int
  endsBlock : Bool

/-- The state of the scan. Tokens are held last first. The stacks list what is innermost first:
`keys` has one candidate for the blocks and one for each open flow collection, `pairs` tells for
each open flow sequence whether a pair stands in it without braces. -/
structure Scanner where
  cursor : Cursor
  tokens : List Token
  tokenCount : Nat
  keyAllowed : Bool
  keys : List KeyCandidate
  indent : Int
  indents : List Indent
  flowDepth : Nat
  inFlowMapping : Bool
  pairs : List Bool
  adjacentValueAt : Nat

namespace Scanner

/-- Before the first token. -/
def ofText (text : String) : Scanner where
  cursor := Cursor.ofText text
  tokens := []
  tokenCount := 0
  keyAllowed := true
  keys := [KeyCandidate.none]
  indent := -1
  indents := []
  flowDepth := 0
  inFlowMapping := false
  pairs := []
  adjacentValueAt := 0

/-- How deep flow collections may nest. -/
def maxFlowDepth : Nat := 255

/-- Whether the scan is in a flow collection. -/
def inFlow (s : Scanner) : Bool := s.flowDepth != 0

/-- The place of the scan. -/
def place (s : Scanner) : Place := s.cursor.place

/-- The characters ahead. -/
def rest (s : Scanner) : List Char := s.cursor.rest

/-- Adds a token. -/
def push (s : Scanner) (token : Token) : Scanner :=
  { s with tokens := token :: s.tokens, tokenCount := s.tokenCount + 1 }

/-- Adds a token where `count` tokens precede it. -/
def insertAt (s : Scanner) (count : Nat) (token : Token) : Scanner :=
  { s with
    tokens := s.tokens.insertIdx (s.tokenCount - count) token
    tokenCount := s.tokenCount + 1 }

/-- Moves on. -/
def goTo (s : Scanner) (cursor : Cursor) : Scanner := { s with cursor }

/-- Opens a block at a column that lies deeper than the current one; an indentation that no block
needed is given up first. `count` tells where the opening token goes. -/
def openBlock (s : Scanner) (column : Nat) (count : Nat) (token : Token) : Scanner :=
  if s.inFlow then s
  else
    let s :=
      match s.indents with
      | top :: below =>
        if s.indent ≤ (column : Int) ∧ !top.endsBlock then
          { s with indent := top.column, indents := below }
        else s
      | [] => s
    if s.indent < (column : Int) then
      let indents := ⟨s.indent, true⟩ :: s.indents
      { s with indents, indent := column }.insertAt count token
    else s

/-- Closes the blocks and gives up the indentations that lie deeper than a column. -/
def closeBlocks (column : Int) : List Indent → Scanner → Scanner
  | [], s => s
  | top :: below, s =>
    if column < s.indent then
      let s := { s with indent := top.column, indents := below }
      closeBlocks column below (if top.endsBlock then s.push .blockEnd else s)
    else s

/-- Closes the blocks that lie deeper than a column, outside of flow collections. -/
def unwind (s : Scanner) (column : Int) : Scanner :=
  if s.inFlow then s else closeBlocks column s.indents s

/-- Asks that content lie one column deeper than the block it belongs to. -/
def indentOne (s : Scanner) : Scanner :=
  if !s.inFlow ∧ s.indents.head?.any (·.endsBlock) then
    { s with indents := ⟨s.indent, false⟩ :: s.indents, indent := s.indent + 1 }
  else s

/-- Gives up the indentations that no block needed. -/
def giveUpIndents : List Indent → Scanner → Scanner
  | [], s => s
  | top :: below, s =>
    if top.endsBlock then s
    else giveUpIndents below { s with indent := top.column, indents := below }

/-- Notes that a key may begin here. -/
def noteKey (s : Scanner) : Scanner :=
  if s.keyAllowed then
    let required := !s.inFlow && s.indent == s.place.col && s.indents.head?.any (·.endsBlock)
    { s with keys := ⟨true, required, s.tokenCount, s.place⟩ :: s.keys.drop 1 }
  else s

/-- Drops the innermost candidate; a required one is missed. -/
def dropKey? (s : Scanner) : Option Scanner :=
  match s.keys with
  | top :: below =>
    if top.possible ∧ top.required then none
    else some { s with keys := { top with possible := false } :: below }
  | [] => some s

/-- Whether a candidate lies too far back: on an earlier line or more than 1024 characters. -/
def isStale (s : Scanner) (key : KeyCandidate) : Bool :=
  key.possible && !s.inFlow &&
    (key.place.line < s.place.line || key.place.index + 1024 < s.place.index)

/-- Drops the candidates that lie too far back; a required one is missed. -/
def dropStaleKeys? (s : Scanner) : Option Scanner :=
  if s.keys.any fun key => s.isStale key && key.required then none
  else some { s with
    keys := s.keys.map fun key => { key with possible := key.possible && !s.isStale key } }

/-- Past the gap before the next token. -/
def skipGap? (s : Scanner) : Option Scanner :=
  let around : Surroundings := ⟨s.indent, !s.indents.isEmpty, s.inFlow⟩
  (skipGap around .blanks s.keyAllowed s.rest s.place).map fun (cursor, keyAllowed) =>
    { s with cursor, keyAllowed }

/-- Past blanks and a comment to the end of the line. -/
def toLineEnd? (s : Scanner) : Option Scanner :=
  s.cursor.toLineEnd?.map s.goTo

/-- Past so many characters. -/
def advance (s : Scanner) (count : Nat) : Scanner := s.goTo (s.cursor.advance count)

/-- Ends all blocks before a directive or a document marker. -/
def leaveBlocks? (s : Scanner) : Option Scanner := do
  let s ← (s.unwind (-1)).dropKey?
  some { s with keyAllowed := false }

/-- Ends the pair without braces in the innermost flow sequence, if there is one. -/
def endPair (s : Scanner) : Scanner :=
  match s.pairs with
  | true :: below => { s with inFlowMapping := false, pairs := false :: below }.push .flowMappingEnd
  | _ => s

/-- The tokens of the whole text, once its end is reached; no required key may be missed then. -/
def finish? (s : Scanner) : Option (List Token) :=
  if s.keys.any fun key => key.required && key.possible then none
  else some (s.unwind (-1)).tokens.reverse

/-- A directive. -/
def directive? (s : Scanner) : Option Scanner := do
  let s ← s.leaveBlocks?
  let (directive, after) ← readDirective? s.cursor
  let token : Token :=
    match directive with
    | .version => .version
    | .handle name expansion => .tagHandle name expansion
  some ((s.goTo after).push token)

/-- The marker that opens a document. -/
def documentStart? (s : Scanner) : Option Scanner := do
  let s ← s.leaveBlocks?
  some ((s.advance 3).push .documentStart)

/-- The marker that closes a document; nothing else may stand on its line. -/
def documentEnd? (s : Scanner) : Option Scanner := do
  let s ← s.leaveBlocks?
  let s ← ((s.advance 3).push .documentEnd).toLineEnd?
  if lineEndAhead s.rest then some s else none

/-- The opening of a flow collection. -/
def openFlow? (mapping : Bool) (s : Scanner) : Option Scanner := do
  let s := s.noteKey.indentOne
  if s.flowDepth = maxFlowDepth then none
  else
    let s := { s with
      keys := KeyCandidate.none :: s.keys, flowDepth := s.flowDepth + 1, keyAllowed := true }
    let s := if mapping then { s with inFlowMapping := true }
      else { s with pairs := false :: s.pairs }
    let s ← (s.advance 1).toLineEnd?
    some (s.push (if mapping then .flowMapping else .flowSequence))

/-- The closing of a flow collection. -/
def closeFlow? (mapping : Bool) (s : Scanner) : Option Scanner := do
  let s ← s.dropKey?
  let s := if s.inFlow then { s with flowDepth := s.flowDepth - 1, keys := s.keys.drop 1 } else s
  let s := { s with keyAllowed := false }
  let s := if mapping then s else
    let s := s.endPair
    { s with pairs := s.pairs.drop 1 }
  let s ← (s.advance 1).toLineEnd?
  let s := if s.inFlow then { s with adjacentValueAt := s.place.index } else s
  some (s.push (if mapping then .flowMappingEnd else .flowSequenceEnd))

/-- The comma of a flow collection. -/
def flowEntry? (s : Scanner) : Option Scanner := do
  let s ← s.dropKey?
  let s := { s with keyAllowed := true }.endPair
  let s ← (s.advance 1).toLineEnd?
  some (s.push .flowEntry)

/-- The dash of a block sequence. A tab may follow it only if no other dash does. -/
def blockEntry? (s : Scanner) : Option Scanner := do
  if s.inFlow ∨ !s.keyAllowed then none
  else
    let column := s.place.col
    let s := s.advance 1
    let s := s.openBlock column s.tokenCount .blockSequence
    let skipped ← skipToLineEnd true false false s.rest s.place
    let s := s.goTo skipped.cursor
    if skipped.tab ∧ s.rest.head? = some '-' ∧ gapAhead (s.rest.drop 1) then none
    else
      let skipped ← skipToLineEnd false false false s.rest s.place
      let s := s.goTo skipped.cursor
      let s := if s.rest.head?.any fun c => c == '\n' || isFlow c then s.indentOne else s
      let s ← s.dropKey?
      some ({ s with keyAllowed := true }.push .blockEntry)

/-- The question mark of an explicit key. -/
def explicitKey? (s : Scanner) : Option Scanner := do
  if !s.inFlow ∧ !s.keyAllowed then none
  else
    let s := if s.inFlow then { s with inFlowMapping := true }
      else s.openBlock s.place.col s.tokenCount .blockMapping
    let s ← s.dropKey?
    let s := { s with keyAllowed := !s.inFlow }.advance 1
    let (cursor, keyAllowed) ← skipKeyGap false false s.keyAllowed s.inFlow s.rest s.place
    if cursor.rest.head? = some '\t' then none
    else some ({ s with cursor, keyAllowed }.push .key)

/-- Past the tabs after a colon. Without a space among them no word may follow. -/
def skipValueTabs? (s : Scanner) : Option Scanner :=
  if s.rest.head? = some '\t' then
    match skipToLineEnd true false false s.rest s.place with
    | none => none
    | some skipped =>
      if !skipped.space ∧ skipped.cursor.rest.head?.any isWord then none
      else some (s.goTo skipped.cursor)
  else some s

/-- The colon of a pair. If a candidate lies before it, the candidate is the key: its token and
those that open its mapping go to where the candidate was noted. -/
def value? (s : Scanner) : Option Scanner := do
  let start := s.place
  let pair := !s.pairs.isEmpty && !s.inFlowMapping
  let s := if pair then { s with pairs := true :: s.pairs.drop 1 } else s
  let s ← (s.advance 1).skipValueTabs?
  let key := s.keys.headD KeyCandidate.none
  if key.possible then
    if pair ∧ key.place.line < start.line then none
    else
      let s := s.insertAt key.tokenCount .key
      let s := if pair then s.insertAt key.tokenCount .flowMapping else s
      let s := (s.openBlock key.place.col key.tokenCount .blockMapping).indentOne
      let s := { s with
        keys := { key with possible := false } :: s.keys.drop 1, keyAllowed := false }
      some (s.push .value)
  else
    let s := if pair then s.push .flowMapping else s
    if !s.inFlow ∧ !s.keyAllowed then none
    else
      let s := (s.openBlock start.col s.tokenCount .blockMapping).indentOne
      some ({ s with keyAllowed := !s.inFlow }.push .value)

/-- An anchor or an alias. -/
def anchor? (isAlias : Bool) (s : Scanner) : Option Scanner :=
  let s := { s.noteKey with keyAllowed := false }
  let (name, after) := (s.cursor.advance 1).takeWhile isAnchorChar
  if name.isEmpty then none
  else
    let name := String.ofList name
    some ((s.goTo after).push (if isAlias then .alias name else .anchor name))

/-- A tag. -/
def tag? (s : Scanner) : Option Scanner :=
  let s := { s.noteKey with keyAllowed := false }
  (readTag? s.inFlow s.cursor).map fun (tag, after) => (s.goTo after).push (.tag tag)

/-- A block scalar. -/
def blockScalar? (folded : Bool) (s : Scanner) : Option Scanner :=
  let s := { s.noteKey with keyAllowed := true }
  let s := giveUpIndents s.indents s
  (Block.read? folded s.indent s.cursor).map fun (text, after) =>
    (s.goTo after).push (.scalar false text)

/-- A quoted scalar. The gap after it is skipped too: in a flow collection a colon may touch it. -/
def quotedScalar? (single : Bool) (s : Scanner) : Option Scanner := do
  let s := { s.noteKey with keyAllowed := false }
  let (text, after) ← Quoted.read? single s.inFlow s.indent s.cursor
  let s ← (s.goTo after).skipGap?
  some ({ s with adjacentValueAt := s.place.index }.push (.scalar false text))

/-- A plain scalar. If a line break ends it, a key may follow. -/
def plainScalar? (s : Scanner) : Option Scanner :=
  let s := { s.noteKey with keyAllowed := false }
  let s := giveUpIndents s.indents s
  (Plain.read? s.inFlow (s.indent + 1) s.cursor).map fun (text, after) =>
    let s := if after.place.fresh then { s with keyAllowed := true } else s
    (s.goTo after).push (.scalar true text)

/-- The token that a character begins, with `next` after it. -/
def dispatch? (s : Scanner) (c : Char) (next : List Char) : Option Scanner :=
  let gap := gapAhead next
  match c with
  | '[' => s.openFlow? false
  | '\x7b' => s.openFlow? true
  | ']' => s.closeFlow? false
  | '\x7d' => s.closeFlow? true
  | ',' => s.flowEntry?
  | '*' => s.anchor? true
  | '&' => s.anchor? false
  | '!' => s.tag?
  | '\'' => s.quotedScalar? true
  | '"' => s.quotedScalar? false
  | '-' => if gap then s.blockEntry? else s.plainScalar?
  | '?' => if gap then s.explicitKey? else s.plainScalar?
  | ':' =>
    if gap || (s.inFlow && (next.head?.any isFlow || s.place.index == s.adjacentValueAt)) then
      s.value?
    else s.plainScalar?
  | '|' => if s.inFlow then s.plainScalar? else s.blockScalar? false
  | '>' => if s.inFlow then s.plainScalar? else s.blockScalar? true
  | '%' => none
  | '@' => none
  | '\x60' => none
  | _ => s.plainScalar?

/-- What one step of the scan gives. -/
inductive Progress where
  | more (s : Scanner)
  | done (tokens : List Token)

/-- Scans the next token, with the tokens that the indentation asks for before it. -/
def step? (s : Scanner) : Option Progress := do
  let s ← s.skipGap?
  let s ← s.dropStaleKeys?
  let s := s.unwind s.place.col
  match s.rest with
  | [] => s.finish?.map .done
  | c :: next =>
    if (s.place.col : Int) < s.indent then none
    else if s.place.col = 0 ∧ c = '%' then s.directive?.map .more
    else if s.place.col = 0 ∧ documentStartAhead s.rest then s.documentStart?.map .more
    else if s.place.col = 0 ∧ documentEndAhead s.rest then s.documentEnd?.map .more
    else (s.dispatch? c next).map .more

/-- Scans to the end of the text. -/
def run? : Nat → Scanner → Option (List Token)
  | 0, _ => none
  | fuel + 1, s =>
    match s.step? with
    | none => none
    | some (.done tokens) => some tokens
    | some (.more s) => run? fuel s

end Scanner

/-- The tokens of a text. -/
def Token.ofText? (text : String) : Option (List Token) :=
  let s := Scanner.ofText text
  s.run? (s.rest.length + 2)

end ComposeCluster.Yaml

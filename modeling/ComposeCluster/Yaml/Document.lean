import ComposeCluster.Yaml.Token
import ComposeCluster.Yaml.Node

/-!
# Documents of a YAML text

`documents?` arranges the tokens of a text into nodes, one per document. Each function below reads
one construct: a node with its properties, and the collections of block and flow style, where a
missing key, value or item counts as null. A node may be given a name, under which it stands again
later in the document (`Composition.anchors`); while it is still being read, its name means a bad
node.

Every construct takes a token at least once in every few calls, so the fuel that `documents?`
derives from their number never runs out.
-/

set_option autoImplicit false

namespace ComposeCluster.Yaml

/-- How far the composition of documents has come: the tokens ahead, the handles of tags that the
document declares, and its named nodes in the order of their names, each once it is complete. -/
structure Composition where
  tokens : List Token
  handles : List (String × String)
  anchors : List (String × Option Node)

/-- A reader of tokens that may refuse them. -/
abbrev Composer := StateT Composition Option

namespace Composer

/-- The next token. -/
def peek : Composer (Option Token) := do
  return (← get).tokens.head?

/-- Past the next token. -/
def skip : Composer Unit :=
  modify fun c => { c with tokens := c.tokens.drop 1 }

/-- The node with a name: the latest one of that name. -/
def named (name : String) : Composer Node := do
  match (← get).anchors.reverse.lookup name with
  | none => failure
  | some node => return node.getD .bad

/-- Announces a name; its number is given back. -/
def announce (name : String) : Composer Nat := do
  let count := (← get).anchors.length
  modify fun c => { c with anchors := c.anchors ++ [(name, none)] }
  return count

/-- Completes the node of an announced name. -/
def complete (number : Option Nat) (node : Node) : Composer Unit :=
  match number with
  | none => pure ()
  | some number => modify fun c =>
    { c with anchors := c.anchors.modify number fun anchor => (anchor.1, some node) }

/-- What a tag means under the declared handles. -/
def meaning (tag : RawTag) : Composer ScalarTag := do
  tag.meaning? (← get).handles

/-- The name and the tag of a node, in either order. -/
def properties : Composer (Option Nat × Option ScalarTag) := do
  match ← peek with
  | some (.anchor name) =>
    skip
    let number ← announce name
    match ← peek with
    | some (.tag tag) =>
      skip
      return (some number, some (← meaning tag))
    | _ => return (some number, none)
  | some (.tag tag) =>
    skip
    let meaning ← meaning tag
    match ← peek with
    | some (.anchor name) =>
      skip
      return (some (← announce name), some meaning)
    | _ => return (none, some meaning)
  | _ => return (none, none)

/-- The mapping of keys and values that were read in turn, last first. -/
def mapping (reversed : List Node) : Composer Node := do
  return .map (← Node.pairUp? [] reversed.reverse)

/-- Whether a node is missing before this token, where `ends` are the tokens that may follow. -/
def isMissing (ends : List Token) (token : Option Token) : Bool :=
  ends.any fun other => token == some other

mutual

/-- A node. `block` permits collections of block style, `indentless` a sequence of block style
without indentation. -/
def node (block indentless : Bool) : Nat → Composer Node
  | 0 => failure
  | fuel + 1 => do
    match ← peek with
    | some (.alias name) =>
      skip
      named name
    | _ =>
      let (number, tag) ← properties
      let node ← content block indentless (number.isSome || tag.isSome) tag fuel
      complete number node
      return node

/-- A node without its properties; `described` tells whether it has any, and then it may be
empty. -/
def content (block indentless described : Bool) (tag : Option ScalarTag) : Nat → Composer Node
  | 0 => failure
  | fuel + 1 => do
    match ← peek with
    | some (.scalar plain text) =>
      skip
      return .ofScalar plain tag text
    | some .flowSequence =>
      skip
      flowItems true [] fuel
    | some .flowMapping =>
      skip
      flowEntries true [] fuel
    | token =>
      if token = some .blockEntry ∧ indentless then indentlessItems [] fuel
      else if token = some .blockSequence ∧ block then
        skip
        blockItems [] fuel
      else if token = some .blockMapping ∧ block then
        skip
        blockEntries [] fuel
      else if described then return .ofScalar true tag ""
      else failure

/-- A node of block style, or null if one of `ends` follows. -/
def blockNode (indentless : Bool) (ends : List Token) : Nat → Composer Node
  | 0 => failure
  | fuel + 1 => do
    if isMissing ends (← peek) then return .null else node true indentless fuel

/-- A node of flow style, or null if one of `ends` follows. -/
def flowNode (ends : List Token) : Nat → Composer Node
  | 0 => failure
  | fuel + 1 => do
    if isMissing ends (← peek) then return .null else node false false fuel

/-- The items of a block sequence. -/
def blockItems (done : List Node) : Nat → Composer Node
  | 0 => failure
  | fuel + 1 => do
    match ← peek with
    | some .blockEnd =>
      skip
      return .seq done.reverse
    | some .blockEntry =>
      skip
      let item ← blockNode false [.blockEntry, .blockEnd] fuel
      blockItems (item :: done) fuel
    | _ => failure

/-- The items of a block sequence that is not indented; it ends where no item follows. -/
def indentlessItems (done : List Node) : Nat → Composer Node
  | 0 => failure
  | fuel + 1 => do
    match ← peek with
    | some .blockEntry =>
      skip
      let item ← blockNode false [.blockEntry, .key, .value, .blockEnd] fuel
      indentlessItems (item :: done) fuel
    | _ => return .seq done.reverse

/-- The keys and values of a block mapping. -/
def blockEntries (done : List Node) : Nat → Composer Node
  | 0 => failure
  | fuel + 1 => do
    match ← peek with
    | some .blockEnd =>
      skip
      mapping done
    | some .key =>
      skip
      let key ← blockNode true [.key, .value, .blockEnd] fuel
      blockValue (key :: done) fuel
    | some .value => blockValue (.null :: done) fuel
    | _ => failure

/-- The value of a block mapping's last key, and what follows. -/
def blockValue (done : List Node) : Nat → Composer Node
  | 0 => failure
  | fuel + 1 => do
    match ← peek with
    | some .value =>
      skip
      let value ← blockNode true [.key, .value, .blockEnd] fuel
      blockEntries (value :: done) fuel
    | _ => blockEntries (.null :: done) fuel

/-- The keys and values of a flow mapping; `first` tells that none was read yet. -/
def flowEntries (first : Bool) (done : List Node) : Nat → Composer Node
  | 0 => failure
  | fuel + 1 => do
    match ← peek with
    | some .flowMappingEnd =>
      skip
      mapping done
    | token =>
      if !first then
        if token = some .flowEntry then skip else failure
      match ← peek with
      | some .key =>
        skip
        let key ← flowNode [.value, .flowEntry, .flowMappingEnd] fuel
        flowValue (key :: done) fuel
      | some .value => flowValue (.null :: done) fuel
      | some .flowMappingEnd =>
        skip
        mapping done
      | _ =>
        let key ← node false false fuel
        flowEntries false (.null :: key :: done) fuel

/-- The value of a flow mapping's last key, and what follows. -/
def flowValue (done : List Node) : Nat → Composer Node
  | 0 => failure
  | fuel + 1 => do
    match ← peek with
    | some .value =>
      skip
      let value ← flowNode [.flowEntry, .flowMappingEnd] fuel
      flowEntries false (value :: done) fuel
    | _ => flowEntries false (.null :: done) fuel

/-- The items of a flow sequence; `first` tells that none was read yet. -/
def flowItems (first : Bool) (done : List Node) : Nat → Composer Node
  | 0 => failure
  | fuel + 1 => do
    match ← peek with
    | some .flowSequenceEnd =>
      skip
      return .seq done.reverse
    | token =>
      if !first then
        if token = some .flowEntry then skip else failure
      match ← peek with
      | some .flowSequenceEnd =>
        skip
        return .seq done.reverse
      | some .key =>
        skip
        let pair ← flowPair fuel
        flowItems false (pair :: done) fuel
      | _ =>
        let item ← node false false fuel
        flowItems false (item :: done) fuel

/-- A pair without braces in a flow sequence. What stands in place of its key is passed over. -/
def flowPair : Nat → Composer Node
  | 0 => failure
  | fuel + 1 => do
    let ends := [.value, .flowEntry, .flowSequenceEnd]
    let missing := isMissing ends (← peek)
    let key ← flowNode ends fuel
    if missing then skip
    match ← peek with
    | some .value =>
      skip
      let value ← flowNode [.flowEntry, .flowSequenceEnd] fuel
      mapping [value, key]
    | _ => mapping [.null, key]

end

/-- The directives before a document; the last one alone counts. -/
def directives (seen : Bool) (handles : List (String × String)) : List Token →
    Option (List (String × String) × List Token)
  | .version :: rest => if seen then none else directives true [] rest
  | .tagHandle name expansion :: rest => directives seen [(name, expansion)] rest
  | tokens => some (handles, tokens)

/-- Whether a token is a directive. -/
def isDirective : Option Token → Bool
  | some .version => true
  | some (.tagHandle _ _) => true
  | _ => false

/-- The content of a document, null if there is none. -/
def documentContent (fuel : Nat) : Composer Node := do
  let token ← peek
  if token = none ∨ isDirective token ∨ isMissing [.documentStart, .documentEnd] token then
    return .null
  else node true false fuel

/-- The documents that the tokens hold. `bare` tells whether the next one may lack the marker that
opens it. -/
def documents (fuel : Nat) (bare : Bool) (done : List Node) : Nat → List Token → Option (List Node)
  | 0, _ => none
  | count + 1, tokens =>
    match tokens.dropWhile (· == .documentEnd) with
    | [] => some done.reverse
    | tokens => do
      let opened := isDirective tokens.head? || tokens.head? == some .documentStart || !bare
      let (handles, tokens) ← directives false [] tokens
      let (root, after) ←
        if opened then
          if tokens.head? = some .documentStart then
            (documentContent fuel).run ⟨tokens.drop 1, handles, []⟩
          else none
        else (node true false fuel).run ⟨tokens, handles, []⟩
      match after.tokens with
      | .documentEnd :: rest => documents fuel true (root :: done) count rest
      | rest =>
        if isDirective rest.head? then none
        else documents fuel false (root :: done) count rest

end Composer

/-- The documents of a text, if all of it is YAML. -/
def documents? (text : String) : Option (List Node) := do
  let tokens ← Token.ofText? text
  Composer.documents (4 * tokens.length + 8) true [] (tokens.length + 1) tokens

end ComposeCluster.Yaml

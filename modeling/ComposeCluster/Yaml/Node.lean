import ComposeCluster.Yaml.Tag
import ComposeCluster.Decimal.Notation

/-!
# Nodes of a YAML document

A node is a scalar, a sequence or a mapping. Quoted and block scalars are text; what a plain one
means is read off its characters (`Node.ofPlain`) unless a tag says how to take it
(`Node.ofTagged`). A scalar that does not fit its tag, and an alias that stands inside what it
names, is a node of its own (`bad`): it does no harm until something asks for its value.

Mappings arrive as the list of their keys and values in turn; `Node.pairUp?` makes pairs of them
and refuses a key that occurs twice.
-/

set_option autoImplicit false

namespace ComposeCluster.Yaml

/-- A node. A number that is not whole keeps its text. -/
inductive Node where
  | null
  | bool (value : Bool)
  | int (value : Int)
  | real (text : String)
  | str (text : String)
  | seq (items : List Node)
  | map (entries : List (Node × Node))
  | bad
  deriving Inhabited

/-- What a tag asks of a plain scalar. -/
inductive ScalarTag where
  | bool
  | int
  | float
  | null
  | text
  deriving DecidableEq

/-- The handle of the tags for the kinds of scalars. -/
def coreHandle : String := "tag:yaml.org,2002:"

namespace RawTag

/-- A tag by its full handle. -/
def expanded (handle suffix : String) : ScalarTag :=
  if handle = coreHandle then
    match suffix with
    | "bool" => .bool
    | "int" => .int
    | "float" => .float
    | "null" => .null
    | _ => .text
  else .text

/-- What a tag means under the handles that the directives of a document declare. A closed
handle other than the common one has to be declared. -/
def meaning? (handles : List (String × String)) (tag : RawTag) : Option ScalarTag :=
  if tag.handle = "!!" then
    some (expanded ((handles.lookup "!!").getD coreHandle) tag.suffix)
  else if tag.handle.isEmpty ∧ tag.suffix = "!" then
    some (expanded ((handles.lookup "").getD "") tag.suffix)
  else
    match handles.lookup tag.handle with
    | some handle => some (expanded handle tag.suffix)
    | none => if isClosedHandle tag.handle then none else some (expanded tag.handle tag.suffix)

end RawTag

namespace Node

/-- The words for infinities and for the value that is no number. -/
def floatWords : List String :=
  [".inf", ".Inf", ".INF", "+.inf", "+.Inf", "+.INF", "-.inf", "-.Inf", "-.INF",
   ".nan", "NaN", ".NAN"]

/-- Whether a text is a number that need not be whole. -/
def isReal (text : String) : Bool :=
  floatWords.contains text || (FloatReading.read? text).isSome

/-- A whole number in one of the forms that ordinary digits do not cover: after a mark for its
base, or after a plus sign, behind which a further sign may stand. -/
def markedInt? (text : String) : Option Int :=
  match text.toList with
  | '0' :: 'x' :: digits => Text.int64? 16 digits
  | '0' :: 'o' :: digits => Text.int64? 8 digits
  | '+' :: digits => Text.int64? 10 digits
  | _ => none

/-- The meaning of an untagged plain scalar. -/
def ofPlain (text : String) : Node :=
  match markedInt? text with
  | some value => .int value
  | none =>
    if text = "" ∨ text = "~" ∨ text = "null" then .null
    else if text = "true" then .bool true
    else if text = "false" then .bool false
    else
      match Text.int64? 10 text.toList with
      | some value => .int value
      | none => if isReal text then .real text else .str text

/-- The meaning of a tagged plain scalar. -/
def ofTagged (text : String) : ScalarTag → Node
  | .bool => if text = "true" then .bool true else if text = "false" then .bool false else .bad
  | .int => ((Text.int64? 10 text.toList).map Node.int).getD .bad
  | .float => if isReal text then .real text else .bad
  | .null => if text = "~" ∨ text = "null" then .null else .bad
  | .text => .str text

/-- The meaning of a scalar; only a plain one can be other than text. -/
def ofScalar (plain : Bool) (tag : Option ScalarTag) (text : String) : Node :=
  if plain then
    match tag with
    | some tag => ofTagged text tag
    | none => ofPlain text
  else .str text

mutual

/-- Whether two nodes are the same. The order of a mapping matters. -/
def same : Node → Node → Bool
  | .null, .null => true
  | .bool a, .bool b => a == b
  | .int a, .int b => a == b
  | .real a, .real b => a == b
  | .str a, .str b => a == b
  | .seq a, .seq b => sameItems a b
  | .map a, .map b => sameEntries a b
  | .bad, .bad => true
  | _, _ => false

/-- Whether two lists of nodes are the same. -/
def sameItems : List Node → List Node → Bool
  | [], [] => true
  | a :: as, b :: bs => same a b && sameItems as bs
  | _, _ => false

/-- Whether two lists of entries are the same. -/
def sameEntries : List (Node × Node) → List (Node × Node) → Bool
  | [], [] => true
  | (ak, av) :: as, (bk, bv) :: bs => same ak bk && same av bv && sameEntries as bs
  | _, _ => false

end

/-- Whether a node is the bad one. -/
def isBad : Node → Bool
  | .bad => true
  | _ => false

/-- Pairs of keys and values from the nodes of a mapping in turn; `done` holds the pairs so far,
last first. A bad key is passed over, so the node after it becomes the key; a key without a value
is dropped. -/
def pairUp? (done : List (Node × Node)) : List Node → Option (List (Node × Node))
  | [] => some done.reverse
  | [_] => some done.reverse
  | key :: value :: rest =>
    if key.isBad then pairUp? done (value :: rest)
    else if done.any fun entry => same key entry.1 then none
    else pairUp? ((key, value) :: done) rest

end Node

end ComposeCluster.Yaml

import ComposeCluster.Json.Basic
import ComposeCluster.Json.Pointer
import ComposeCluster.Text.Numeral

/-!
# Patches of JSON values

Two ways to say what changes in a document. A list of operations names each place and what is put
there, and fails if the place is not there (`Json.applyAll?`). A merge patch is a document of the
same shape with only the changed members, where null removes one; it always applies
(`Json.merge`).
-/

set_option autoImplicit false

namespace ComposeCluster

/-- What an operation does: `add` may create the last member of its path, `replace` may not. -/
inductive PatchKind where
  | add
  | replace
  deriving DecidableEq

namespace PatchKind

/-- The word for an operation. -/
def word : PatchKind → String
  | .add => "add"
  | .replace => "replace"

end PatchKind

/-- An operation on a document. -/
structure PatchOperation where
  kind : PatchKind
  path : Pointer
  value : Json

namespace PatchOperation

def toJson (operation : PatchOperation) : Json :=
  .object
    [("op", .str operation.kind.word),
     ("path", .str operation.path.render),
     ("value", operation.value)]

end PatchOperation

namespace Json

/-- The index that a token names: digits without leading zeros. -/
def index? (token : String) : Option Nat :=
  let digits := token.toList
  if digits.all Char.isDigit ∧ (digits.length = 1 ∨ digits.head? ≠ some '0') then
    Text.natural? 10 digits
  else none

/-- Adds an item to a list; a dash stands for its end. -/
def addItem? (token : String) (value : Json) (items : List Json) : Option (List Json) :=
  if token = "-" then some (items ++ [value])
  else
    (index? token).bind fun index =>
      if index ≤ items.length then some (items.insertIdx index value) else none

/-- The value with another one at the end of a path. -/
def put? (kind : PatchKind) (value : Json) : Pointer → Json → Option Json
  | [], _ => some value
  | [token], .obj members =>
    if kind = .replace ∧ (findEntry token members).isNone then none
    else some (.obj (insertEntry token value members))
  | [token], .arr items =>
    match kind with
    | .add => (addItem? token value items).map .arr
    | .replace =>
      (index? token).bind fun index =>
        if index < items.length then some (.arr (items.set index value)) else none
  | token :: path, .obj members =>
    (findEntry token members).bind fun member =>
      (put? kind value path member).map fun member => .obj (insertEntry token member members)
  | token :: path, .arr items =>
    (index? token).bind fun index =>
      (items[index]?).bind fun item =>
        (put? kind value path item).map fun item => .arr (items.set index item)
  | _, _ => none

/-- A document after an operation. -/
def applyTo? (document : Json) (operation : PatchOperation) : Option Json :=
  put? operation.kind operation.value operation.path document

/-- A document after operations in order; none if one of them fails. -/
def applyAll? (document : Json) (operations : List PatchOperation) : Option Json :=
  operations.foldlM applyTo? document

/-- The members of a value; one that is no object has none. -/
def members : Json → List (String × Json)
  | .obj members => members
  | _ => []

mutual

/-- A value after a merge patch. -/
def merge : (patch : Json) → (target : Json) → Json
  | .obj changes, target => .obj (mergeMembers changes target.members)
  | patch, _ => patch

/-- Members after the changes of a merge patch. -/
def mergeMembers : List (String × Json) → List (String × Json) → List (String × Json)
  | [], members => members
  | (key, .null) :: rest, members => mergeMembers rest (members.filter (·.1 != key))
  | (key, change) :: rest, members =>
    mergeMembers rest
      (insertEntry key (merge change ((findEntry key members).getD .null)) members)

end

end Json

end ComposeCluster

import ComposeCluster.Source.Tree
import ComposeCluster.Text.Quoted

/-!
# Configs and secrets of a compose document

A definition says where the content of a config or a secret comes from: a file below the base
directory, a text in the document itself, or an object that already exists, for which nothing is
generated. Content becomes one entry of an object, under the name of the file or of the
definition (`Definition.key`). A config has to be text; neither may be larger than a mebibyte.
-/

set_option autoImplicit false

namespace ComposeCluster

/-- Whether content is public or secret. -/
inductive SourceKind where
  | config
  | secret
  deriving DecidableEq

namespace SourceKind

/-- The word for a kind. -/
def word : SourceKind → String
  | .config => "config"
  | .secret => "secret"

end SourceKind

/-- Where the content of a config or a secret comes from. -/
structure Definition where
  file? : Option String
  content? : Option String
  name? : Option String
  isExternal : Bool
  deriving DecidableEq

/-- Content and the key under which it is stored. -/
structure Content where
  key : String
  bytes : Bytes
  deriving DecidableEq

/-- The largest content in bytes. -/
def maxContentSize : Nat := 1048576

/-- Why the content of a file cannot be used. -/
inductive FileContentError where
  | path (error : PathError)
  | tooLarge (size : Nat)
  | notText
  deriving DecidableEq

namespace FileContentError

def message (path : String) : FileContentError → String
  | .path .absolute => "absolute path not allowed: " ++ path
  | .path .upward => "path traversal not allowed: " ++ path
  | .path (.link link) => "symlink not allowed: " ++ link
  | .path (.file error) => "stat failed: " ++ error.message
  | .path .directory => "directory not allowed: " ++ path
  | .path (.unreadable error) => "read file: " ++ error
  | .tooLarge size =>
    "file size " ++ toString size ++ " exceeds limit " ++ toString maxContentSize ++
      " (1 MiB): " ++ path
  | .notText => "ConfigMap requires UTF-8 without BOM and no NUL bytes: " ++ path

end FileContentError

/-- Why the content of a definition cannot be used. -/
inductive SourceError where
  | file (path : String) (error : FileContentError)
  | tooLarge (size : Nat)
  | notText
  | unspecified (name : String)
  deriving DecidableEq

namespace SourceError

def message : SourceError → String
  | .file path error => error.message path
  | .tooLarge size =>
    "inline content size " ++ toString size ++ " exceeds limit " ++ toString maxContentSize ++
      " (1 MiB)"
  | .notText => "ConfigMap inline content requires UTF-8 without BOM and no NUL bytes"
  | .unspecified name =>
    "config/secret " ++ Text.quoted name ++ " must specify file, content, or name/external"

end SourceError

/-- Whether bytes are text that a config can hold: UTF-8 without a byte order mark in front and
without NUL. -/
def isConfigText (bytes : Bytes) : Bool :=
  (Text.ofUtf8? bytes).isSome && !([0xEF, 0xBB, 0xBF] : Bytes).isPrefixOf bytes &&
    !bytes.contains 0

/-- The content of the file at a path. -/
def SourceTree.readContent (tree : SourceTree) (path : String) (kind : SourceKind) :
    Except FileContentError Bytes :=
  match tree.read path with
  | .error error => .error (.path error)
  | .ok bytes =>
    if maxContentSize < bytes.length then .error (.tooLarge bytes.length)
    else if kind = .config ∧ !isConfigText bytes then .error .notText
    else .ok bytes

namespace Definition

/-- A definition that says nothing. -/
def blank : Definition := ⟨none, none, none, false⟩

/-- Whether the object already exists: it is said to be external, or it has only a name. -/
def isExisting (definition : Definition) : Bool :=
  definition.isExternal ||
    (definition.name?.isSome && definition.file?.isNone && definition.content?.isNone)

/-- The key under which the content of a definition is stored. -/
def key (definition : Definition) (name : String) : String :=
  match definition.file? with
  | some file => pathBaseName file
  | none => name

/-- The content of a text in the document. -/
def inlineContent (text : String) (kind : SourceKind) : Except SourceError Bytes :=
  let bytes := Text.utf8 text
  if maxContentSize < bytes.length then .error (.tooLarge bytes.length)
  else if kind = .config ∧ !isConfigText bytes then .error .notText
  else .ok bytes

/-- The content of a definition and its key; none if the object already exists. -/
def resolve (definition : Definition) (tree : SourceTree) (name : String) (kind : SourceKind) :
    Except SourceError (Option Content) :=
  if definition.isExisting then .ok none
  else
    match definition.content?, definition.file? with
    | some text, _ => (inlineContent text kind).map fun bytes => some ⟨name, bytes⟩
    | none, some file =>
      match tree.readContent file kind with
      | .error error => .error (.file file error)
      | .ok bytes => .ok (some ⟨pathBaseName file, bytes⟩)
    | none, none => .error (.unspecified name)

end Definition

end ComposeCluster

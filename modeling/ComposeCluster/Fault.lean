/-!
# Faults

What goes wrong while names, settings and data files are read, independent of what they are for:
something is invalid, a text cannot be read as data, a setting makes no sense, or a file cannot be
had. Each fault says what it concerns, so its message stands on its own.
-/

set_option autoImplicit false

namespace ComposeCluster

/-- A fault, with the reason in words. -/
inductive Fault where
  | invalid (subject : String) (field : Option String) (reason : String)
  | malformed (reason : String)
  | setting (reason : String)
  | file (path : String) (reason : String)
  deriving DecidableEq

namespace Fault

/-- The subject of a fault about something that nobody named. -/
def unnamed : String := "unknown"

/-- A fault in something that nobody named. -/
def anonymous (reason : String) : Fault := .invalid unnamed none reason

/-- A fault in a named thing as a whole. -/
def of (subject reason : String) : Fault := .invalid subject none reason

def message : Fault → String
  | .invalid subject _ reason => "validation error for " ++ subject ++ ": " ++ reason
  | .malformed reason => "serialization error: " ++ reason
  | .setting reason => "configuration error: " ++ reason
  | .file path reason => "io error for " ++ path ++ ": " ++ reason

/-- What a fault concerns, if it says so. -/
def subject? : Fault → Option String
  | .invalid subject _ _ => some subject
  | .file path _ => some path
  | _ => none

/-- The part of its subject in which a fault lies, if it says so. -/
def field? : Fault → Option String
  | .invalid _ field _ => field
  | _ => none

/-- The reason given for a text that is not YAML. -/
def yamlSyntax : String := "<yaml>"

/-- The reason given for a text that is not JSON. -/
def jsonSyntax : String := "<json>"

/-- The reason given for data of the wrong shape. -/
def wrongShape : String := "<schema>"

end Fault

end ComposeCluster

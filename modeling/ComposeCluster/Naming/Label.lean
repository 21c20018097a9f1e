import ComposeCluster.Fault
import ComposeCluster.Text.Quoted

/-!
# Names that the cluster accepts

Names of volumes, configs and secrets become parts of object names, so they have to be labels of
the domain name system: small letters, digits and hyphens, beginning and ending with a letter or a
digit, and of limited length.
-/

set_option autoImplicit false

namespace ComposeCluster.Naming

/-- Whether a character is a small letter or a digit. -/
def isLowerOrDigit (c : Char) : Bool :=
  ('a' ≤ c && c ≤ 'z') || ('0' ≤ c && c ≤ '9')

/-- The longest label. -/
def maxLabelLength : Nat := 63

/-- The longest name of a volume. -/
def maxVolumeNameLength : Nat := 16

/-- Whether characters form a label, whatever their number. -/
def isLabelText (cs : List Char) : Bool :=
  cs.all (fun c => isLowerOrDigit c || c == '-') &&
    cs.head?.any isLowerOrDigit && cs.getLast?.any isLowerOrDigit

/-- Checks that a name is a label of at most so many bytes; `kind` says what it is the name of. -/
def checkLabel (name : String) (maxLength : Nat) (kind : String) : Except Fault Unit :=
  if name.isEmpty then .error (.of kind (kind ++ " name must not be empty"))
  else if maxLength < name.utf8ByteSize then
    .error (.of kind
      (kind ++ " name " ++ Text.quoted name ++ " exceeds " ++ toString maxLength ++ " characters"))
  else if isLabelText name.toList then .ok ()
  else
    .error (.of kind
      ("invalid " ++ kind ++ " name " ++ Text.quoted name ++
        ": must consist of lower case alphanumeric characters or '-', and start and end with " ++
        "an alphanumeric character"))

/-- Checks the name of a volume. -/
def checkVolumeName (name : String) : Except Fault Unit :=
  checkLabel name maxVolumeNameLength "volume"

/-- Checks the name of a config or a secret. -/
def checkSourceName (name : String) : Except Fault Unit :=
  checkLabel name maxLabelLength "config/secret"

end ComposeCluster.Naming

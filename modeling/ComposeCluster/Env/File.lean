import ComposeCluster.Env.Text

/-!
# Merging environment files

A service may have several environment files. They are read one after another, a later value
replacing an earlier one (`EnvMerge.addFiles`), and the replaced values are kept for a warning. What
results becomes the data of a secret, so it has to be text without control characters and of
limited size (`Env.checkData`).
-/

set_option autoImplicit false

namespace ComposeCluster

/-- An environment file of a service; a missing one counts as empty unless it is required. -/
structure EnvFile where
  path : String
  required : Bool
  deriving DecidableEq

/-- Why an environment file cannot be used. -/
inductive EnvFileError where
  | path (error : PathError)
  | notUtf8
  | text (error : EnvTextError)
  deriving DecidableEq

namespace EnvFileError

def message (path : String) : EnvFileError → String
  | .path .absolute => "env_file must be relative: " ++ path
  | .path .upward => "env_file path must not contain '..': " ++ path
  | .path (.link link) => "env_file symlink not allowed: " ++ link
  | .path (.file error) => "env_file stat failed: " ++ error.message
  | .path .directory => "env_file is directory: " ++ path
  | .path (.unreadable error) => "env_file read failed: " ++ error
  | .notUtf8 => "env_file read failed: stream did not contain valid UTF-8"
  | .text error => error.message

end EnvFileError

/-- Why keys and values cannot be the data of a secret. -/
inductive EnvDataError where
  | badKey (key : String)
  | nul (key : String)
  | control (key : String) (code : Nat)
  | tooLarge
  deriving DecidableEq

namespace Env

/-- The largest size of all keys and values in bytes. -/
def maxDataSize : Nat := 1000000

end Env

namespace EnvDataError

/-- A byte in hexadecimal capitals. -/
def byteText (code : Nat) : String :=
  let digit (n : Nat) : Char := (Nat.digitChar n).toUpper
  String.ofList [digit (code / 16), digit (code % 16)]

def message : EnvDataError → String
  | .badKey key => "invalid env key " ++ key
  | .nul key => "value for " ++ key ++ ": contains NUL byte"
  | .control key code => "value for " ++ key ++ ": contains control char 0x" ++ byteText code
  | .tooLarge => "secret data exceeds " ++ toString Env.maxDataSize ++ " bytes"

end EnvDataError

namespace Env

/-- Whether a character is a control character that text does not need: all but the tab and the
line breaks. -/
def isForbidden (c : Char) : Bool :=
  let code := c.toNat
  code ≤ 0x8 || code == 0xB || code == 0xC || (0xE ≤ code && code ≤ 0x1F) || code == 0x7F

/-- Checks the characters of a value. -/
def checkValue (key value : String) : Except EnvDataError Unit :=
  match value.toList.find? isForbidden with
  | none => .ok ()
  | some c => if c = '\x00' then .error (.nul key) else .error (.control key c.toNat)

/-- Checks keys and values after some whose size is `total`. -/
def checkEntries (total : Nat) : List (String × String) → Except EnvDataError Unit
  | [] => .ok ()
  | (key, value) :: rest =>
    if !isKey key then .error (.badKey key)
    else
      match checkValue key value with
      | .error error => .error error
      | .ok () =>
        let total := total + key.utf8ByteSize + value.utf8ByteSize
        if maxDataSize < total then .error .tooLarge else checkEntries total rest

/-- Checks that keys and values can be the data of a secret. -/
def checkData (data : Variables) : Except EnvDataError Unit :=
  checkEntries 0 data.entries

/-- Reads the environment file at a path. -/
def load (tree : SourceTree) (path : String) (required : Bool) : Except EnvFileError Variables :=
  match tree.read path with
  | .error error =>
    if error = .file .missing ∧ !required then .ok .empty else .error (.path error)
  | .ok content =>
    match Text.ofUtf8? content with
    | none => .error .notUtf8
    | some text =>
      match parse text path with
      | .error error => .error (.text error)
      | .ok data => .ok data

end Env

/-- Environment files read so far: their keys and values, and under each key that a later file
changed the value it had before the last change. -/
structure EnvMerge where
  data : Variables
  overridden : Variables
  deriving DecidableEq

namespace EnvMerge

/-- No file was read. -/
def empty : EnvMerge := ⟨.empty, .empty⟩

/-- Sets the value of a key. -/
def set (merged : EnvMerge) (key value : String) : EnvMerge where
  data := merged.data.insert key value
  overridden :=
    match merged.data.get? key with
    | some previous =>
      if previous = value then merged.overridden else merged.overridden.insert key previous
    | none => merged.overridden

/-- Adds the keys and values of a file. -/
def add (merged : EnvMerge) (data : Variables) : EnvMerge :=
  data.entries.foldl (fun merged entry => merged.set entry.1 entry.2) merged

/-- Adds files; the path of the one that cannot be used goes with the reason. A file without a
path is passed over. -/
def addFiles (tree : SourceTree) (merged : EnvMerge) :
    List EnvFile → Except (String × EnvFileError) EnvMerge
  | [] => .ok merged
  | file :: rest =>
    let path := Text.trim file.path
    if path.isEmpty then merged.addFiles tree rest
    else
      match Env.load tree path file.required with
      | .error error => .error (path, error)
      | .ok data => (merged.add data).addFiles tree rest

end EnvMerge

end ComposeCluster

import ComposeCluster.Compose.Quantity
import ComposeCluster.Refusal

/-!
# Reading compose documents

`Project.parse` reads a compose document. Most fields have a short and a long form; a reader tries
the forms in order, so a value that fits none makes the whole document unreadable, before anything
else is said about it (`Raw`). What then remains is to spell the short forms out (`Project.ofRaw`).
-/

set_option autoImplicit false

namespace ComposeCluster.Compose

/-- A scalar where the document allows text, numbers and truth values. -/
inductive Scalar where
  | text (value : String)
  | bool (value : Bool)
  | int (value : Int)
  | float (value : Binary64)

namespace Scalar

def ofJson? : Json → Option Scalar
  | .str value => some (.text value)
  | .bool value => some (.bool value)
  | .int value => some (.int value)
  | .float value => some (.float value)
  | _ => none

/-- A scalar as text; numbers never have an exponent. -/
def toText : Scalar → String
  | .text value => value
  | .bool value => if value then "true" else "false"
  | .int value => toString value
  | .float value => Layout.plain.write value

/-- The mode of a file: a number as it is, or octal digits as text, with or without the mark for
octal numbers. -/
def mode? : Scalar → Option Int32
  | .int value => if Text.fitsInt32 value then some (Int32.ofInt value) else none
  | .text value => (Text.int32? 8 (dropOctalMarks value.toList)).map Int32.ofInt
  | _ => none
where
  /-- Digits without the marks for octal numbers in front. -/
  dropOctalMarks : List Char → List Char
    | '0' :: 'o' :: rest => dropOctalMarks rest
    | cs => cs

end Scalar

-- The forms of a document as they are written.
namespace Raw

/-- A command: a line or its words. -/
inductive Command where
  | line (text : String)
  | words (words : List String)

/-- Reads a command. -/
def Command.ofJson? : Json → Option Command
  | .str text => some (.line text)
  | value => (value.asList? Json.asText?).map .words

/-- Reads an environment: keys with values or without, or a list of settings. -/
def environment? : Json → Option Variables
  | .obj members =>
    ((Json.obj members).asMap? (Json.asOption? Scalar.ofJson?)).map fun map =>
      .ofList (map.entries.filterMap fun entry => entry.2.map fun value =>
        (entry.1, value.toText))
  | value => (value.asList? Json.asText?).map fun settings =>
    .ofList (settings.filterMap (Text.splitOnce '='))

/-- Reads an environment file: a path, or a record of the path and whether it is required. -/
def envFile? : Json → Option EnvFile
  | .str path => some ⟨path, true⟩
  | value => value.readRecord? do
    let path ← Fields.text "path"
    let required ← Fields.orElse "required" true Json.asBool?
    return { path, required }

/-- Reads environment files: one or several. -/
def envFiles? : Json → Option (List EnvFile)
  | .str path => some [⟨path, true⟩]
  | value => value.asList? envFile?

/-- A port that fits its width. -/
def fittingPort? (value : Nat) : Option Port :=
  if value < UInt16.size then some (UInt16.ofNat value) else none

/-- A port mapping from its two parts; an empty part is missing. -/
def portParts (published target : String) : PortMapping :=
  ⟨if published.isEmpty then none else some published, Text.port? target⟩

/-- The mapping of the short form `[[address:]published:]target[/protocol]`. -/
def portOfText (text : String) : PortMapping :=
  match Text.splitAll ':' (((Text.splitOnce '/' text).map (·.1)).getD text) with
  | [target] => portParts "" target
  | [published, target] => portParts published target
  | [_, published, target] => portParts published target
  | _ => ⟨none, none⟩

/-- A whole number of 64 bits without a sign. -/
def natural? (value : Json) : Option Nat := value.asNatBelow? UInt64.size

/-- Reads a port mapping: a text, a container port, or a record of both ports. -/
def port? : Json → Option PortMapping
  | .str text => some (portOfText text)
  | .int value => (natural? (.int value)).map fun target => ⟨none, fittingPort? target⟩
  | value => value.readRecord? do
    let published ← Fields.optional "published" Scalar.ofJson?
    let target ← Fields.optional "target" natural?
    return {
      published? := (published.map Scalar.toText).filter fun text => !text.isEmpty
      target? := target.bind fittingPort? }

/-- Whether a source is a path and not a name. -/
def isPath (source : String) : Bool :=
  source.toList.head?.any fun c => c == '.' || c == '/' || c == '~'

/-- The volume of the short form `[source:]target[:mode]`; colons beyond these belong to the
source. -/
def volumeOfText (text : String) : ServiceVolume :=
  let (source, target) : String × String :=
    match Text.splitAll ':' text with
    | [] => ("", "")
    | [target] => ("", target)
    | [source, target] => (source, target)
    | [source, target, _] => (source, target)
    | parts => (Text.join ":" (parts.take (parts.length - 2)), parts.dropLast.getLastD "")
  ⟨if isPath source then .bind else .named, source, target⟩

/-- The kind of volume that a word names. -/
def volumeKind : Option String → VolumeKind
  | none => .named
  | some kind =>
    if kind = "volume" then .named else if kind = "bind" then .bind else .other kind

/-- Reads a volume: a text, or a record of its kind, source and target. -/
def volume? : Json → Option ServiceVolume
  | .str text => some (volumeOfText text)
  | value => value.readRecord? do
    let kind ← Fields.optional "type" Json.asText?
    let source ← Fields.optional "source" Json.asText?
    let target ← Fields.optional "target" Json.asText?
    return ⟨volumeKind kind, source.getD "", target.getD ""⟩

/-- A reference to a config or a secret, with the mode as it is written. -/
structure FileRef where
  source : String
  target? : Option String
  mode? : Option Scalar

/-- Reads a reference: a name, or a record of the name, the target and the mode. -/
def FileRef.ofJson? : Json → Option FileRef
  | .str source => some ⟨source, none, none⟩
  | value => value.readRecord? do
    let source ← Fields.text "source"
    let target? ← Fields.optional "target" Json.asText?
    let mode? ← Fields.optional "mode" Scalar.ofJson?
    return { source, target?, mode? }

/-- A text that is not empty. -/
def nonEmpty? (text : Option String) : Option String :=
  text.filter fun text => !text.isEmpty

/-- Whether a definition is marked as external: by a truth value, or by a record that names the
object. -/
def isExternal : Option Json → Bool
  | some (.bool value) => value
  | some (.obj _) => true
  | _ => false

/-- Reads a definition of a config or a secret. -/
def definition? : Json → Option Definition :=
  Json.readRecord? do
    let file ← Fields.optional "file" Json.asText?
    let content ← Fields.optional "content" Json.asText?
    let name ← Fields.optional "name" Json.asText?
    let external ← Fields.optional "external" some
    return {
      file? := nonEmpty? file
      content? := nonEmpty? content
      name? := nonEmpty? name
      isExternal := isExternal external }

/-- A quantity that can be used. -/
def quantity? (value : Option Scalar) : Option String :=
  (value.map Scalar.toText).filter isQuantity

/-- Reads amounts; what is no quantity is missing. -/
def quantities? : Json → Option Quantities :=
  Json.readRecord? do
    let cpu ← Fields.optional "cpu" Scalar.ofJson?
    let memory ← Fields.optional "memory" Scalar.ofJson?
    return { cpu? := quantity? cpu, memory? := quantity? memory }

/-- Reads what a service asks for and what it may use; amounts that say nothing are left out, and
so is the whole if nothing is left or if it is not a record of this kind. -/
def resources? (value : Json) : Option Resources :=
  let read : Option Resources :=
    value.readRecord? do
      let requests ← Fields.optional "resources" quantities?
      let limits ← Fields.optional "limits" quantities?
      return {
        requests? := requests.filter fun amounts => !amounts.isEmpty
        limits? := limits.filter fun amounts => !amounts.isEmpty }
  read.filter fun resources => resources.requests?.isSome || resources.limits?.isSome

/-- A service. -/
structure Service where
  image? : Option String
  entrypoint? : Option Command
  command? : Option Command
  environment? : Option Variables
  envFiles? : Option (List EnvFile)
  ports : List PortMapping
  volumes : List ServiceVolume
  configs : List FileRef
  secrets : List FileRef
  extension? : Option Json

namespace Service

/-- A service that says nothing. -/
def blank : Service where
  image? := none
  entrypoint? := none
  command? := none
  environment? := none
  envFiles? := none
  ports := []
  volumes := []
  configs := []
  secrets := []
  extension? := none

def ofJson? : Json → Option Service :=
  Json.readRecord? do
    let image? ← Fields.optional "image" Json.asText?
    let entrypoint? ← Fields.optional "entrypoint" Command.ofJson?
    let command? ← Fields.optional "command" Command.ofJson?
    let environment? ← Fields.optional "environment" Raw.environment?
    let envFiles? ← Fields.optional "env_file" Raw.envFiles?
    let ports ← Fields.list "ports" port?
    let volumes ← Fields.list "volumes" volume?
    let configs ← Fields.list "configs" FileRef.ofJson?
    let secrets ← Fields.list "secrets" FileRef.ofJson?
    let extension? ← Fields.optional "x-kompox" some
    return {
      image?, entrypoint?, command?, environment?, envFiles?, ports, volumes, configs, secrets,
      extension? }

end Service

/-- A document; an entry without a value says nothing. -/
structure Document where
  services : SortedMap String (Option Service)
  configs : SortedMap String (Option Definition)
  secrets : SortedMap String (Option Definition)

/-- Reads a document. -/
def Document.ofJson? : Json → Option Document :=
  Json.readRecord? do
    let services ← Fields.orElse "services" .empty (Json.asMap? (Json.asOption? Service.ofJson?))
    let configs ← Fields.orElse "configs" .empty (Json.asMap? (Json.asOption? definition?))
    let secrets ← Fields.orElse "secrets" .empty (Json.asMap? (Json.asOption? definition?))
    return { services, configs, secrets }

end Raw

/-- The words of a command of a service. -/
def wordsOf (service field : String) :
    Option Raw.Command → Except DocumentError (List String)
  | none => .ok []
  | some (.words words) => .ok words
  | some (.line text) =>
    match shellWords text with
    | .ok words => .ok words
    | .error error => .error (.command service field error)

/-- A reference with its mode read. -/
def FileRef.ofRaw (service : String) (ref : Raw.FileRef) : Except DocumentError FileRef :=
  let target? := Raw.nonEmpty? ref.target?
  match ref.mode? with
  | none => .ok ⟨ref.source, target?, none⟩
  | some mode =>
    match mode.mode? with
    | some mode => .ok ⟨ref.source, target?, some mode⟩
    | none => .error (.mode service ref.source)

/-- A service with its name. It has to have an image. -/
def Service.ofRaw (name : String) (raw : Raw.Service) : Except DocumentError Service := do
  match raw.image?.filter fun image => !Text.isBlankText image with
  | none => .error (.noImage name)
  | some image =>
    let entrypoint ← wordsOf name "entrypoint" raw.entrypoint?
    let command ← wordsOf name "command" raw.command?
    let configs ← raw.configs.mapM (FileRef.ofRaw name)
    let secrets ← raw.secrets.mapM (FileRef.ofRaw name)
    return {
      name
      image
      entrypoint
      command
      environment := raw.environment?.getD .empty
      envFiles := raw.envFiles?.getD []
      ports := raw.ports
      volumes := raw.volumes
      configs
      secrets
      resources? := raw.extension?.bind Raw.resources? }

namespace Project

/-- The warning about a key that documents no longer need. -/
def versionWarning : String := "compose: \x60version\x60 is obsolete"

/-- Definitions, where one without a value says nothing. -/
def definitionsOfRaw (raw : SortedMap String (Option Definition)) :
    SortedMap String Definition :=
  .ofList (raw.entries.map fun entry => (entry.1, entry.2.getD .blank))

/-- The project of a document with every short form spelled out. -/
def ofRaw (raw : Raw.Document) (warnings : List String) : Except DocumentError Project := do
  let services ← raw.services.entries.mapM fun entry =>
    Service.ofRaw entry.1 (entry.2.getD .blank)
  return {
    services
    configs := definitionsOfRaw raw.configs
    secrets := definitionsOfRaw raw.secrets
    warnings }

/-- Reads a compose document. -/
def parse (text : String) : Except Refusal Project :=
  match Yaml.parseMapping text with
  | .error fault => .error (.fault fault)
  | .ok members =>
    let warnings := if (findEntry "version" members).isSome then [versionWarning] else []
    match Raw.Document.ofJson? (.obj members) with
    | none => .error (.document .shape)
    | some raw =>
      match ofRaw raw warnings with
      | .error error => .error (.document error)
      | .ok project => .ok project

end Project

end ComposeCluster.Compose

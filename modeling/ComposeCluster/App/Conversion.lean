import ComposeCluster.App.Manifest
import ComposeCluster.App.Provider
import ComposeCluster.App.Settings
import ComposeCluster.Compose.Document

/-!
# Converting an app

An app becomes objects in three phases: its compose document is read and checked (`convert`), its
volumes are bound to disks (`bind`), and the objects are put together (`build`). `Progress` says how
far a conversion has come. A phase that fails leaves the progress where it was, so that it can be
tried again; a phase that is run out of turn fails with an error of its own and does nothing.

What a warning says is true of the files as they were read, so every attempt to convert starts with
no warnings; the later phases add none. Those about the document are recorded as soon as it has been
read, so that they are there when the check fails.
-/

set_option autoImplicit false

namespace ComposeCluster

/-- An app and where it runs: the workspace, the provider with its driver, and the cluster. -/
structure Target where
  workspace : String
  provider : String
  driver : String
  cluster : Cluster
  app : App
  deriving DecidableEq

namespace Target

/-- The names of the app and of where it runs. -/
def placement (target : Target) : Placement :=
  ⟨target.workspace, target.provider, target.cluster.name, target.app.name⟩

end Target

/-- What stays the same throughout a conversion. -/
structure Job where
  target : Target
  settings : Settings
  resolver : ClassResolver
  credentials? : Option String

/-- Why a phase fails. -/
inductive ConversionError where
  | notConverted
  | notBound
  | alreadyConverted
  | alreadyBound
  | alreadyBuilt
  | volumeClass (volume : String) (error : ProviderError)
  | refused (refusal : Refusal)
  deriving DecidableEq

namespace ConversionError

def message : ConversionError → String
  | .notConverted => "convert has not been run"
  | .notBound => "volumes have not been bound"
  | .alreadyConverted => "already converted"
  | .alreadyBound => "volumes already bound"
  | .alreadyBuilt => "manifests already built"
  | .volumeClass volume error => "volume class for " ++ volume ++ ": " ++ error.message
  | .refused refusal => refusal.message

/-- Whether a phase was run out of turn. -/
def isOutOfTurn : ConversionError → Bool
  | .notConverted | .notBound | .alreadyConverted | .alreadyBound | .alreadyBuilt => true
  | .volumeClass _ _ | .refused _ => false

end ConversionError

/-- An app after its compose document has been read and checked. The warnings of the project are
not kept here but in the progress. -/
structure Conversion where
  project : Compose.Normal
  routes : List Route
  deriving DecidableEq

/-- How far a conversion has come. -/
inductive Phase where
  | created
  | converted (conversion : Conversion)
  | bound (conversion : Conversion) (volumes : List BoundVolume)
  | built
  deriving DecidableEq

/-- The phase of a conversion, and the warnings so far. -/
structure Progress where
  phase : Phase
  warnings : List String
  deriving DecidableEq

/-- What a finished conversion gives. -/
structure Delivery where
  manifests : ManifestSet
  warnings : List String
  deriving DecidableEq

namespace Job

/-- The name of the component that an app consists of. -/
def componentName : String := "app"

/-- The component that the app consists of. -/
def component (job : Job) : Component := ⟨job.target.app.name, componentName⟩

/-- The identity of the app. -/
def identity (job : Job) : Identity :=
  .of job.target.placement job.settings.hashLength

/-- Where the objects of the app are. -/
def scope (job : Job) : AppScope :=
  ⟨job.component, job.identity, job.identity.nameSpace⟩

/-- What the objects for bindings have in common. -/
def bindingScope (job : Job) : BindingScope :=
  ⟨job.identity, job.identity.nameSpace, job.scope.baseLabels⟩

/-- Looks at a project in the context of the app. -/
def normalize (job : Job) (tree : SourceTree) (project : Compose.Project) :
    Except Refusal Compose.Normal :=
  Compose.Normal.ofProject ⟨job.component, tree, job.target.app.volumes⟩ project

/-- Checks a project, its rules and the credentials; the warnings are given back beside it. -/
def check (job : Job) (tree : SourceTree) (project : Compose.Project) :
    Except Refusal (Conversion × List String) := do
  let normal ← job.normalize tree project
  checkNoneReserved job.target.app.name normal.serviceNames
  let routes ←
    Route.resolve normal.ports job.target.cluster.ingressDomain? job.target.app.ingress.rules
  job.credentials?.toList.forM Content.checkCredentials
  return (⟨{ normal with warnings := [] }, routes⟩, normal.warnings)

/-- Binds the volume of a binding to its disk. -/
def bindOne (job : Job) (binding : VolumeBinding) : Except ConversionError BoundVolume := do
  let volumes := job.target.app.volumes
  let volume ← (binding.volumeIn volumes).mapError ConversionError.refused
  let volumeClass ← (job.resolver job.target.cluster job.target.app volume).mapError
    (ConversionError.volumeClass volume.name)
  (BoundVolume.ofBinding job.bindingScope volumes binding volumeClass).mapError
    ConversionError.refused

/-- Binds all volumes to their disks. -/
def bindAll (job : Job) (bindings : List VolumeBinding) :
    Except ConversionError (List BoundVolume) := do
  (checkOneEach job.target.app.volumes bindings).mapError ConversionError.refused
  bindings.mapM job.bindOne

/-- The policies, if the settings ask for them. -/
def policies? (job : Job) : Option AppPolicies :=
  if job.settings.accessObjects then
    some (.of
      { app := job.target.app.name
        nameSpace := job.identity.nameSpace
        ingressNameSpace := job.target.cluster.ingressNameSpace
        labels := job.scope.baseLabels }
      job.target.app.admissions)
  else none

/-- What the content objects have in common. -/
def contentScope (job : Job) : Content.Scope :=
  ⟨job.component, job.identity.nameSpace, job.scope.labels⟩

/-- Where the pod runs, and what prepares its volumes. -/
def podSetting (job : Job) : HashedPod.Setting where
  initImage := job.settings.initImage
  nodeSelector :=
    nodeSelector ((nonBlank? job.target.app.nodes.pool?).getD job.settings.defaultPool)
      job.target.app.nodes.zone?

/-- How the app is to be reached. -/
def ingressSetting (job : Job) : IngressSetting where
  className := job.settings.ingressClass
  hostStart := job.target.app.name ++ "-" ++ job.identity.appId
  domain? := job.target.cluster.ingressDomain?
  certResolver? :=
    (nonBlank? job.target.app.ingress.certResolver?).or
      (nonBlank? job.target.cluster.ingress.certResolver?)

/-- The ingresses of the app; none without a service that they could lead to. -/
def ingresses (job : Job) (service? : Option Service) (routes : List Route) :
    Except Refusal AppIngresses :=
  match service? with
  | none => .ok .none
  | some _ => AppIngresses.ofRoutes job.scope job.ingressSetting routes

/-- Puts the objects together. -/
def assemble (job : Job) (conversion : Conversion) (bound : List BoundVolume) :
    Except Refusal ManifestSet := do
  let project := conversion.project
  let content ← Content.Objects.ofNormal job.contentScope project job.credentials?
  let service? := job.scope.service? conversion.routes project.ports
  let ingresses ← job.ingresses service? conversion.routes
  return {
    nameSpace := job.scope.nameSpaceObject job.target.placement job.target.driver
    policies? := job.policies?
    bound
    content
    deployment := job.scope.deployment (.of project content bound job.podSetting)
    service?
    headlessServices :=
      if job.settings.headlessServices then
        project.serviceNames.map job.scope.headlessService
      else []
    ingresses }

end Job

namespace Progress

/-- Nothing has been done yet. -/
def start : Progress := ⟨.created, []⟩

/-- The checked project, between its conversion and the end. -/
def project? (progress : Progress) : Option Compose.Normal :=
  match progress.phase with
  | .converted conversion => some conversion.project
  | .bound conversion _ => some conversion.project
  | .created | .built => none

/-- The bound volumes, between their binding and the end. -/
def bound? (progress : Progress) : Option (List BoundVolume) :=
  match progress.phase with
  | .bound _ volumes => some volumes
  | .created | .converted _ | .built => none

/-- Adds warnings to those so far. -/
def record (warnings : List String) (progress : Progress) : Progress :=
  { progress with warnings := progress.warnings ++ warnings }

/-- Reads and checks the compose document and its files. Of the warnings that the check gives back,
those about the document come first and have been recorded by then. -/
def convert (job : Job) (tree : SourceTree) (progress : Progress) :
    Progress × Except ConversionError Unit :=
  match progress.phase with
  | .converted _ | .bound _ _ => (progress, .error .alreadyConverted)
  | .built => (progress, .error .alreadyBuilt)
  | .created =>
    let cleared := { progress with warnings := [] }
    match Compose.Project.parse job.target.app.compose with
    | .error refusal => (cleared, .error (.refused refusal))
    | .ok project =>
      let loaded := cleared.record project.warnings
      match job.check tree project with
      | .error refusal => (loaded, .error (.refused refusal))
      | .ok (conversion, warnings) =>
        let checked := loaded.record (warnings.drop project.warnings.length)
        ({ checked with phase := .converted conversion }, .ok ())

/-- Binds the volumes of the app to disks. -/
def bind (job : Job) (bindings : List VolumeBinding) (progress : Progress) :
    Progress × Except ConversionError Unit :=
  match progress.phase with
  | .created => (progress, .error .notConverted)
  | .bound _ _ => (progress, .error .alreadyBound)
  | .built => (progress, .error .alreadyBuilt)
  | .converted conversion =>
    match job.bindAll bindings with
    | .error error => (progress, .error error)
    | .ok volumes => ({ progress with phase := .bound conversion volumes }, .ok ())

/-- Puts the objects together. -/
def build (job : Job) (progress : Progress) : Progress × Except ConversionError Delivery :=
  match progress.phase with
  | .created => (progress, .error .notConverted)
  | .converted _ => (progress, .error .notBound)
  | .built => (progress, .error .alreadyBuilt)
  | .bound conversion volumes =>
    match job.assemble conversion volumes with
    | .error refusal => (progress, .error (.refused refusal))
    | .ok manifests =>
      ({ progress with phase := .built }, .ok ⟨manifests, progress.warnings⟩)

end Progress

namespace Job

/-- All three phases, up to the first error. -/
def run (job : Job) (tree : SourceTree) (bindings : List VolumeBinding) :
    Except ConversionError Delivery := do
  let (progress, converted) := Progress.start.convert job tree
  converted
  let (progress, bound) := progress.bind job bindings
  bound
  (progress.build job).2

end Job

end ComposeCluster

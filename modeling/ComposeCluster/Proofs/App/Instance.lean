import ComposeCluster.Proofs.App.Confidential

/-!
# Objects without the instance of their app

What tells the instances of an app on several clusters apart are the values of two labels, on
objects and on pods, and where the namespace says it comes from: `Manifest.hideInstance` takes out
just that. Each object is generated from a scope in which the labels, or the identity behind them,
stand for the instance. The lemmas below change that one part of a scope and leave the hash of the
app as it is (`Component.hideInstance_baseLabels`), so that nothing else of an object can change.
-/

set_option autoImplicit false

namespace ComposeCluster

/-! ## Labels -/

/-- Hiding the value of a key leaves the key there, and all other entries as they are. -/
theorem get?_hideValue (key asked : String) (map : TextMap) :
    (hideValue key map).get? asked =
      if asked = key then (map.get? asked).map fun _ => "" else map.get? asked := by
  unfold hideValue SortedMap.contains
  by_cases h : asked = key
  · subst h
    cases hvalue : map.get? asked <;> simp [hvalue]
  · split <;> simp [h]

/-- Labels without the values that tell the instances of an app apart. -/
def hideInstance (labels : TextMap) : TextMap :=
  hideValue Key.instanceName (hideValue Key.appInstanceHash labels)

/-- Hiding the instance leaves both of its keys there, and all other labels as they are. -/
theorem get?_hideInstance (labels : TextMap) (key : String) :
    (hideInstance labels).get? key =
      if key = Key.instanceName ∨ key = Key.appInstanceHash then
        (labels.get? key).map fun _ => ""
      else labels.get? key := by
  have hne : Key.instanceName ≠ Key.appInstanceHash := by decide
  rw [hideInstance, get?_hideValue, get?_hideValue]
  by_cases hname : key = Key.instanceName
  · simp [hname, hne]
  · simp [hname]

/-- Unions of labels that differ in the instance only do so as well. -/
theorem hideInstance_union {map other labels found : TextMap}
    (hmap : hideInstance map = hideInstance other) (h : hideInstance labels = hideInstance found) :
    hideInstance (map.union labels) = hideInstance (other.union found) := by
  apply SortedMap.ext_get?
  intro key
  have hmap := congrArg (·.get? key) hmap
  have h := congrArg (·.get? key) h
  simp only [get?_hideInstance, SortedMap.get?_union] at hmap h ⊢
  by_cases hhidden : key = Key.instanceName ∨ key = Key.appInstanceHash
  · simp only [if_pos hhidden] at hmap h ⊢
    rw [Option.map_or, Option.map_or, h, hmap]
  · simp only [if_neg hhidden] at hmap h ⊢
    rw [h, hmap]

/-- An entry may be added to labels that differ in the instance only. -/
theorem hideInstance_insert {labels found : TextMap} (h : hideInstance labels = hideInstance found)
    (key value : String) :
    hideInstance (labels.insert key value) = hideInstance (found.insert key value) := by
  apply SortedMap.ext_get?
  intro asked
  have h := congrArg (·.get? asked) h
  simp only [get?_hideInstance, SortedMap.get?_insert] at h ⊢
  by_cases hkey : asked = key
  · simp only [if_pos hkey]
  · simp only [if_neg hkey]
    exact h

namespace Component

variable (c : Component) {id other : Identity}

/-- Of an identity that keeps the hash of the app, labels show nothing but the instance. -/
theorem hideInstance_baseLabels (h : id.appId = other.appId) :
    hideInstance (c.baseLabels id) = hideInstance (c.baseLabels other) := by
  apply SortedMap.ext_get?
  intro key
  rw [get?_hideInstance, get?_hideInstance, baseLabels, baseLabels, SortedMap.get?_ofList,
    SortedMap.get?_ofList, h]
  by_cases hname : key = Key.instanceName
  · subst hname
    rfl
  · by_cases hhash : key = Key.appInstanceHash
    · subst hhash
      rfl
    · simp [findEntry, hname, hhash]

/-- The labels of a component on two clusters differ in the instance only. -/
theorem hideInstance_labels (h : id.appId = other.appId) :
    hideInstance (c.labels id) = hideInstance (c.labels other) :=
  hideInstance_insert (hideInstance_union (c.hideInstance_baseLabels h) rfl) _ _

/-- The labels of its service without an address on two clusters differ in the instance only. -/
theorem hideInstance_headlessLabels (h : id.appId = other.appId) :
    hideInstance (c.headlessLabels id) = hideInstance (c.headlessLabels other) :=
  hideInstance_insert (c.hideInstance_labels h) _ _

end Component

/-! ## Objects without their instance -/

def Meta.hideInstance (data : Meta) : Meta :=
  { data with labels := ComposeCluster.hideInstance data.labels }

def Header.hideInstance (header : Header) : Header :=
  { header with metadata := header.metadata.hideInstance }

namespace Manifest

/-- An object with another header. -/
def mapHeader (f : Header → Header) : Manifest → Manifest
  | .nameSpace object => .nameSpace { object with toHeader := f object.toHeader }
  | .serviceAccount object => .serviceAccount { object with toHeader := f object.toHeader }
  | .role object => .role { object with toHeader := f object.toHeader }
  | .roleBinding object => .roleBinding { object with toHeader := f object.toHeader }
  | .networkPolicy object => .networkPolicy { object with toHeader := f object.toHeader }
  | .persistentVolume object => .persistentVolume { object with toHeader := f object.toHeader }
  | .persistentVolumeClaim object =>
    .persistentVolumeClaim { object with toHeader := f object.toHeader }
  | .secret object => .secret { object with toHeader := f object.toHeader }
  | .configMap object => .configMap { object with toHeader := f object.toHeader }
  | .deployment object => .deployment { object with toHeader := f object.toHeader }
  | .service object => .service { object with toHeader := f object.toHeader }
  | .ingress object => .ingress { object with toHeader := f object.toHeader }

/-- An object without what tells the instances of an app apart: two labels, also on the pods of a
deployment, and where a namespace says it comes from. -/
def hideInstance (manifest : Manifest) : Manifest :=
  match manifest.mapHeader Header.hideInstance with
  | .nameSpace object =>
    .nameSpace
      { object with metadata.annotations := hideValue Key.app object.metadata.annotations }
  | .deployment object =>
    .deployment
      { object with
        spec.template.metadata.labels :=
          ComposeCluster.hideInstance object.spec.template.metadata.labels }
  | shown => shown

/-- By what an object selects pods, if it does. -/
def selector? : Manifest → Option LabelSelector
  | .networkPolicy object => some object.spec.pods
  | .deployment object => some object.spec.selector
  | .service object => some (.ofLabels object.spec.selector)
  | _ => none

/-- The hash of the content that the pods of a deployment use. -/
def podHash? : Manifest → Option String
  | .deployment object => object.contentHash?
  | _ => none

/-- The hosts that an object routes. -/
def hosts : Manifest → List String
  | .ingress object => object.hosts
  | _ => []

/-- What does not show the instance is the same where objects are the same without it. -/
theorem map_eq_of_hidden {α : Type} {view : Manifest → α} {objects others : List Manifest}
    (hview : ∀ object : Manifest, view object.hideInstance = view object)
    (h : objects.map hideInstance = others.map hideInstance) :
    objects.map view = others.map view :=
  map_eq_of_keys (fun object other hsame => by rw [← hview, hsame, hview]) h

end Manifest

/-! ## Metadata -/

namespace Meta

variable {data found : Meta}

/-- Labels on metadata that differ in the instance only make metadata that does so. -/
theorem hideInstance_withLabels (data : Meta) {labels others : TextMap}
    (h : ComposeCluster.hideInstance labels = ComposeCluster.hideInstance others) :
    (data.withLabels labels).hideInstance = (data.withLabels others).hideInstance := by
  rw [hideInstance, hideInstance, withLabels, withLabels, hideInstance_union rfl h]

/-- An annotation may be added to metadata that differs in the instance only. -/
theorem hideInstance_annotate (h : data.hideInstance = found.hideInstance) (key value : String) :
    (data.annotate key value).hideInstance = (found.annotate key value).hideInstance :=
  congrArg (·.annotate key value) h

end Meta

/-- Headers of one kind differ in the instance only if their metadata does. -/
theorem Header.hideInstance_of {data found : Meta} (h : data.hideInstance = found.hideInstance)
    (kind : ObjectKind) :
    (Header.of kind data).hideInstance = (Header.of kind found).hideInstance :=
  congrArg (Header.of kind) h

/-! ## Policies -/

/-- Policies show the instance only in the labels of their objects. -/
theorem AppPolicies.hideInstance_of (scope : PolicySetting) {labels : TextMap}
    (h : hideInstance labels = hideInstance scope.labels) (admissions : List AppAdmission) :
    (ManifestSet.policyObjects (.of { scope with labels } admissions)).map Manifest.hideInstance =
      (ManifestSet.policyObjects (.of scope admissions)).map Manifest.hideInstance := by
  have hheader (kind : ObjectKind) (name : String) :
      (Header.of kind (metadata { scope with labels } name)).hideInstance =
        (Header.of kind (metadata scope name)).hideInstance :=
    Header.hideInstance_of (Meta.hideInstance_withLabels _ h) kind
  simp only [ManifestSet.policyObjects, of, serviceAccount, accessRole, roleBinding, networkPolicy,
    roleName, List.map_cons, List.map_nil, Manifest.hideInstance, Manifest.mapHeader, hheader]
  rfl

/-! ## Content objects -/

namespace Content

/-- The digest entry of an object is its name and its digest, whatever its labels are. -/
theorem secretEntry?_congr {object other : Secret}
    (hname : object.metadata.name = other.metadata.name)
    (hannotations : object.metadata.annotations = other.metadata.annotations) :
    secretEntry? object = secretEntry? other := by
  unfold secretEntry? Secret.contentHash? Meta.annotation?
  rw [hname, hannotations]

/-- The digest entry of a config map is its name and its digest as well. -/
theorem configMapEntry?_congr {object other : ConfigMap}
    (hname : object.metadata.name = other.metadata.name)
    (hannotations : object.metadata.annotations = other.metadata.annotations) :
    configMapEntry? object = configMapEntry? other := by
  unfold configMapEntry? ConfigMap.contentHash? Meta.annotation?
  rw [hname, hannotations]

end Content

namespace Content.Scope

variable (scope : Scope) (labels : TextMap)

/-- Other labels in the scope leave the digest entry of a secret as it is. -/
theorem secretEntry?_secret (name type : String) (entries : List (String × Bytes)) :
    secretEntry? (({ scope with labels } : Scope).secret name type entries) =
      secretEntry? (scope.secret name type entries) :=
  secretEntry?_congr rfl rfl

/-- Other labels in the scope leave the digest entry of an environment as it is. -/
theorem secretEntry?_envSecret (env : Compose.EnvData) :
    secretEntry? (({ scope with labels } : Scope).envSecret env) =
      secretEntry? (scope.envSecret env) :=
  secretEntry?_congr rfl rfl

/-- Other labels in the scope leave the digest entry of a config map as it is. -/
theorem configMapEntry?_configMap (config : Compose.ConfigText) :
    configMapEntry? (({ scope with labels } : Scope).configMap config) =
      configMapEntry? (scope.configMap config) :=
  configMapEntry?_congr rfl rfl

variable {labels} (h : hideInstance labels = hideInstance scope.labels)
include h

/-- Metadata of content differs in the instance only if the labels of the scope do. -/
theorem hideInstance_metadata (name digest : String) :
    (({ scope with labels } : Scope).metadata name digest).hideInstance =
      (scope.metadata name digest).hideInstance :=
  Meta.hideInstance_annotate (Meta.hideInstance_withLabels _ h) _ _

/-- Secrets of two scopes differ in the instance only if the labels of the scopes do. -/
theorem hideInstance_secret (name type : String) (entries : List (String × Bytes)) :
    (Manifest.secret (({ scope with labels } : Scope).secret name type entries)).hideInstance =
      (Manifest.secret (scope.secret name type entries)).hideInstance := by
  simp only [Manifest.hideInstance, Manifest.mapHeader, secret,
    Header.hideInstance_of (scope.hideInstance_metadata h _ _)]

/-- Environments of two scopes differ in the instance only if the labels of the scopes do. -/
theorem hideInstance_envSecret (env : Compose.EnvData) :
    (Manifest.secret (({ scope with labels } : Scope).envSecret env)).hideInstance =
      (Manifest.secret (scope.envSecret env)).hideInstance := by
  have hmetadata (name digest : String) := Meta.hideInstance_annotate
    (scope.hideInstance_metadata h name digest) Key.secretHash (Content.digest (envEntries env))
  simp only [Manifest.hideInstance, Manifest.mapHeader, envSecret, secret, Header.hideInstance,
    Header.of, hmetadata]

/-- Config maps of two scopes differ in the instance only if the labels of the scopes do. -/
theorem hideInstance_configMap (config : Compose.ConfigText) :
    (Manifest.configMap (({ scope with labels } : Scope).configMap config)).hideInstance =
      (Manifest.configMap (scope.configMap config)).hideInstance := by
  have hheader := Header.hideInstance_of (scope.hideInstance_metadata h
    (scope.component.configMap config.name) (textDigest [(config.key, config.text)])) .configMap
  simp only [Manifest.hideInstance, Manifest.mapHeader, configMap]
  rw [hheader]

end Content.Scope

namespace Content.Objects

variable {scope : Scope} {labels : TextMap} {normal : Compose.Normal}
  {credentials? : Option String} {objects others : Objects}
  (h : ofNormal scope normal credentials? = .ok objects)
  (hother : ofNormal { scope with labels } normal credentials? = .ok others)
include h hother

/-- The digests of all objects, whatever the labels are. -/
theorem indexObjects_eq_of_labels :
    indexObjects others.secrets others.configMaps =
      indexObjects objects.secrets objects.configMaps := by
  obtain ⟨hpull, hconfigMaps, hconfigSecrets, henvSecrets⟩ := of_ofNormal h
  obtain ⟨hpull', hconfigMaps', hconfigSecrets', henvSecrets'⟩ := of_ofNormal hother
  rw [indexObjects, indexObjects, secrets, secrets, hpull, hconfigMaps, hconfigSecrets,
    henvSecrets, hpull', hconfigMaps', hconfigSecrets', henvSecrets']
  simp only [List.filterMap_append, List.filterMap_map, Option.toList_map]
  refine congrArg₂ index (congrArg₂ (· ++ ·) (congrArg₂ (· ++ ·) ?pull ?config) ?env) ?configMap
  case pull =>
    exact List.filterMap_congr fun credentials _ => scope.secretEntry?_secret labels _ _ _
  case config => exact List.filterMap_congr fun content _ => scope.secretEntry?_secret labels _ _ _
  case env => exact List.filterMap_congr fun env _ => scope.secretEntry?_envSecret labels env
  case configMap =>
    exact List.filterMap_congr fun config _ => scope.configMapEntry?_configMap labels config

/-- All content objects of two scopes differ in the instance only if the labels of the scopes do. -/
theorem hideInstance_contentObjects (hlabels : hideInstance labels = hideInstance scope.labels) :
    (ManifestSet.contentObjects others).map Manifest.hideInstance =
      (ManifestSet.contentObjects objects).map Manifest.hideInstance := by
  obtain ⟨hpull, hconfigMaps, hconfigSecrets, henvSecrets⟩ := of_ofNormal h
  obtain ⟨hpull', hconfigMaps', hconfigSecrets', henvSecrets'⟩ := of_ofNormal hother
  rw [ManifestSet.contentObjects, ManifestSet.contentObjects, hpull, hconfigMaps, hconfigSecrets,
    henvSecrets, hpull', hconfigMaps', hconfigSecrets', henvSecrets']
  simp only [List.map_append, List.map_map, Option.toList_map]
  refine congrArg₂ (· ++ ·) (congrArg₂ (· ++ ·) (congrArg₂ (· ++ ·) ?pull ?configMap) ?config) ?env
  case pull =>
    exact List.map_congr_left fun credentials _ => scope.hideInstance_secret hlabels _ _ _
  case configMap =>
    exact List.map_congr_left fun config _ => scope.hideInstance_configMap hlabels config
  case config => exact List.map_congr_left fun content _ => scope.hideInstance_secret hlabels _ _ _
  case env => exact List.map_congr_left fun env _ => scope.hideInstance_envSecret hlabels env

end Content.Objects

/-! ## Objects around the pod -/

namespace AppScope

/-- The same component and namespace under another identity. -/
def withIdentity (scope : AppScope) (id : Identity) : AppScope := { scope with identity := id }

variable (scope : AppScope) {id : Identity} (happ : id.appId = scope.identity.appId)
include happ

/-- On another cluster the labels of an app have another instance and are otherwise the same. -/
theorem hideInstance_baseLabels :
    hideInstance (scope.withIdentity id).baseLabels = hideInstance scope.baseLabels :=
  scope.component.hideInstance_baseLabels happ

/-- On another cluster the labels of a component have another instance and are otherwise the
same. -/
theorem hideInstance_labels :
    hideInstance (scope.withIdentity id).labels = hideInstance scope.labels :=
  scope.component.hideInstance_labels happ

/-- On another cluster metadata has another instance and is otherwise the same. -/
theorem hideInstance_metadata (name : String) :
    ((scope.withIdentity id).metadata name).hideInstance = (scope.metadata name).hideInstance :=
  Meta.hideInstance_withLabels (Meta.namespaced name scope.nameSpace)
    (scope.hideInstance_labels happ)

/-- On two clusters with one name for the namespace, the namespaces differ only in the instance and
in where they say they come from. -/
theorem hideInstance_nameSpaceObject (hnameSpace : id.nameSpace = scope.identity.nameSpace)
    (placement other : Placement) (driver : String) :
    (Manifest.nameSpace ((scope.withIdentity id).nameSpaceObject placement driver)).hideInstance =
      (Manifest.nameSpace (scope.nameSpaceObject other driver)).hideInstance := by
  have hname : (scope.withIdentity id).identity.nameSpace = scope.identity.nameSpace := hnameSpace
  have hne : Key.app ≠ Key.providerDriver := by decide
  simp only [Manifest.hideInstance, Manifest.mapHeader, Header.hideInstance, Meta.hideInstance,
    nameSpaceObject, Header.of, Meta.annotate, Meta.withLabels, hideValue_insert_of_ne hne,
    hideValue_insert, hname, hideInstance_union rfl (scope.hideInstance_baseLabels happ)]

/-- The deployments for two clusters differ in the instance only. -/
theorem hideInstance_deployment (pod : HashedPod) :
    (Manifest.deployment ((scope.withIdentity id).deployment pod)).hideInstance =
      (Manifest.deployment (scope.deployment pod)).hideInstance := by
  have hcomponent : (scope.withIdentity id).component = scope.component := rfl
  simp only [Manifest.hideInstance, Manifest.mapHeader, deployment, hcomponent,
    Header.hideInstance_of (scope.hideInstance_metadata happ _), scope.hideInstance_labels happ]

/-- The services for two clusters differ in the instance only, and there are as many. -/
theorem hideInstance_service? (routes : List Route) (ports : Compose.PublishedPorts) :
    (((scope.withIdentity id).service? routes ports).map Manifest.service).map
        Manifest.hideInstance =
      ((scope.service? routes ports).map Manifest.service).map Manifest.hideInstance := by
  have hcomponent : (scope.withIdentity id).component = scope.component := rfl
  have hheader := Header.hideInstance_of
    (scope.hideInstance_metadata happ scope.component.resource) .service
  unfold service?
  dsimp only
  split
  · rfl
  · simp only [Option.map_some, Manifest.hideInstance, Manifest.mapHeader, hcomponent, hheader]

/-- The services without an address for two clusters differ in the instance only. -/
theorem hideInstance_headlessService (name : String) :
    (Manifest.service ((scope.withIdentity id).headlessService name)).hideInstance =
      (Manifest.service (scope.headlessService name)).hideInstance := by
  have hheader := Header.hideInstance_of (Meta.hideInstance_withLabels
    (Meta.namespaced name scope.nameSpace) (scope.component.hideInstance_headlessLabels happ))
      .service
  exact congrArg (fun header => Manifest.service
    { toHeader := header, spec := ⟨some noAddress, scope.component.selector, []⟩ }) hheader

end AppScope

namespace AppIngresses

variable {scope : AppScope} {id : Identity} (happ : id.appId = scope.identity.appId)
  {setting : IngressSetting} {routes : List Route}
include happ

/-- The metadata of an ingress for two clusters differs in the instance only. -/
theorem hideInstance_metadata (ending : String) :
    (metadata (scope.withIdentity id) ending).hideInstance = (metadata scope ending).hideInstance :=
  Meta.hideInstance_annotate
    (Meta.hideInstance_annotate (scope.hideInstance_metadata happ _) _ _) _ _

/-- The custom ingresses for two clusters differ in the instance only, and there are as many. -/
theorem hideInstance_customIngress? :
    ((customIngress? (scope.withIdentity id) setting routes).map Manifest.ingress).map
        Manifest.hideInstance =
      ((customIngress? scope setting routes).map Manifest.ingress).map Manifest.hideInstance := by
  have hrules : customRules (scope.withIdentity id) routes = customRules scope routes := rfl
  have hmetadata : (customMetadata (scope.withIdentity id) setting.certResolver?).hideInstance =
      (customMetadata scope setting.certResolver?).hideInstance := by
    unfold customMetadata
    split
    · exact Meta.hideInstance_annotate (hideInstance_metadata happ _) _ _
    · exact hideInstance_metadata happ _
  unfold customIngress?
  rw [hrules]
  dsimp only
  split
  · rfl
  · simp only [Option.map_some, Manifest.hideInstance, Manifest.mapHeader,
      Header.hideInstance_of hmetadata]

/-- The default ingresses for two clusters differ in the instance only, where both can be built. -/
theorem hideInstance_defaultIngress {domain : String} {object other : Ingress}
    (h : defaultIngress scope setting routes domain = .ok object)
    (hother : defaultIngress (scope.withIdentity id) setting routes domain = .ok other) :
    (Manifest.ingress other).hideInstance = (Manifest.ingress object).hideInstance := by
  obtain ⟨rules, hrules, h⟩ := Except.bind_eq_ok.1 h
  obtain ⟨rules', hrules', hother⟩ := Except.bind_eq_ok.1 hother
  obtain rfl : rules' = rules := Except.ok.inj (hrules'.symm.trans hrules)
  cases h
  cases hother
  simp only [Manifest.hideInstance, Manifest.mapHeader,
    Header.hideInstance_of (hideInstance_metadata happ _)]

/-- All ingresses for two clusters differ in the instance only, where both can be built. -/
theorem hideInstance_ofRoutes {ingresses others : AppIngresses}
    (h : ofRoutes scope setting routes = .ok ingresses)
    (hother : ofRoutes (scope.withIdentity id) setting routes = .ok others) :
    (others.toList.map Manifest.ingress).map Manifest.hideInstance =
      (ingresses.toList.map Manifest.ingress).map Manifest.hideInstance := by
  unfold ofRoutes at h hother
  split at h
  case isTrue hnone =>
    rw [if_pos hnone] at hother
    cases h
    cases hother
    rfl
  case isFalse hsome =>
    rw [if_neg hsome] at hother
    obtain ⟨default?, hdefault, h⟩ := Except.bind_eq_ok.1 h
    obtain ⟨default'?, hdefault', hother⟩ := Except.bind_eq_ok.1 hother
    cases h
    cases hother
    have hdefaults : (default'?.map Manifest.ingress).map Manifest.hideInstance =
        (default?.map Manifest.ingress).map Manifest.hideInstance := by
      cases hdomain : setting.domain? with
      | none =>
        rw [hdomain] at hdefault hdefault'
        cases hdefault
        cases hdefault'
        rfl
      | some domain =>
        rw [hdomain] at hdefault hdefault'
        obtain ⟨object, hobject, hdefault⟩ := Except.map_eq_ok.1 hdefault
        obtain ⟨other, hother, hdefault'⟩ := Except.map_eq_ok.1 hdefault'
        simp only [← hdefault, ← hdefault', Option.map_some,
          hideInstance_defaultIngress happ hobject hother]
    simp only [toList, List.map_append, ← Option.toList_map, hdefaults,
      hideInstance_customIngress? happ]

end AppIngresses

end ComposeCluster

import ComposeCluster.Kube.Access
import ComposeCluster.Kube.Data
import ComposeCluster.Kube.Ingress
import ComposeCluster.Kube.Storage
import ComposeCluster.Kube.Workload
import ComposeCluster.Proofs.Json.Record

/-!
# Objects are read back

Every object is read back from its JSON as it was, with all that it is made of. Each proof follows
the reader of its type from field to field and names the way in which the field is written: always,
unless there is no value, or unless it is empty. What is left to `simp` is that the fields of a type
have different names.
-/

set_option autoImplicit false

namespace ComposeCluster

/-! ## Metadata -/

/-- Metadata is read back. A namespace that is not set and empty maps are not written. -/
theorem Meta.readsBack : ReadsBack toJson ofJson? := fun data =>
  Json.readRecord?_record (by simp) <|
    .cons (.text data.name) <|
    .cons (.optional Json.readsBack_str nofun data.nameSpace?) <|
    .cons (.textMap data.labels) <|
    .cons (.textMap data.annotations) <|
    .pure data

/-- A requirement on labels is read back, with an empty list of values left out. -/
theorem LabelRequirement.readsBack : ReadsBack toJson ofJson? := fun requirement =>
  Json.readRecord?_record (by simp) <|
    .cons (.text requirement.key) <|
    .cons (.text requirement.operator) <|
    .cons (.list Json.readsBack_str requirement.values) <|
    .pure requirement

/-- A selector is read back, with either of its empty parts left out. -/
theorem LabelSelector.readsBack : ReadsBack toJson ofJson? := fun selector =>
  Json.readRecord?_record (by simp) <|
    .cons (.textMap selector.matchLabels) <|
    .cons (.list LabelRequirement.readsBack selector.matchExpressions) <|
    .pure selector

namespace Header

/-- The members that each object starts with. -/
@[simp]
theorem map_fst_fields (header : Header) :
    header.fields.map (·.1) = ["apiVersion", "kind", "metadata"] := rfl

/-- A header is read back by the reader of any kind, as it is written with its own kind. -/
theorem reads {kind : ObjectKind} (header : Header) :
    Fields.Reads (read kind) header.fields header :=
  .cons (.orElse rfl) <|
  .cons (.orElse rfl) <|
  .cons (.required Meta.readsBack header.metadata) <|
  .pure header

end Header

/-! ## Pods -/

/-- A reference to an object with variables is read back, with a flag left out if not set. -/
theorem EnvSourceRef.readsBack : ReadsBack toJson ofJson? := fun ref =>
  Json.readRecord?_record (by simp) <|
    .cons (.text ref.name) <|
    .cons (.optional Json.readsBack_bool nofun ref.optional?) <|
    .pure ref

/-- A source of environment is read back, whichever of the two references it holds. -/
theorem EnvSource.readsBack : ReadsBack toJson ofJson? := fun source =>
  Json.readRecord?_record (by simp) <|
    .cons (.optional EnvSourceRef.readsBack nofun source.configMap?) <|
    .cons (.optional EnvSourceRef.readsBack nofun source.secret?) <|
    .pure source

/-- An entry of an environment is read back. -/
theorem EnvVar.readsBack : ReadsBack toJson ofJson? := fun entry =>
  Json.readRecord?_record (by simp) <|
    .cons (.text entry.name) <|
    .cons (.text entry.value) <|
    .pure entry

/-- Quantities are read back, with those that are not set left out. -/
theorem Quantities.readsBack : ReadsBack toJson ofJson? := fun quantities =>
  Json.readRecord?_record (by simp) <|
    .cons (.optional Json.readsBack_str nofun quantities.cpu?) <|
    .cons (.optional Json.readsBack_str nofun quantities.memory?) <|
    .pure quantities

/-- Requests and limits are read back. Ones that are set and empty differ from ones not set. -/
theorem Resources.readsBack : ReadsBack toJson ofJson? := fun resources =>
  Json.readRecord?_record (by simp) <|
    .cons (.optional Quantities.readsBack nofun resources.requests?) <|
    .cons (.optional Quantities.readsBack nofun resources.limits?) <|
    .pure resources

/-- A mount is read back, with a sub-path or a flag that is not set left out. -/
theorem VolumeMount.readsBack : ReadsBack toJson ofJson? := fun mount =>
  Json.readRecord?_record (by simp) <|
    .cons (.text mount.volume) <|
    .cons (.text mount.path) <|
    .cons (.optional Json.readsBack_str nofun mount.subPath?) <|
    .cons (.optional Json.readsBack_bool nofun mount.readOnly?) <|
    .pure mount

namespace Container

/-- A port of a container is read back from the object it is wrapped in. -/
theorem readsBack_port : ReadsBack portToJson portOfJson? := fun port =>
  Json.readRecord?_record (by simp) (.required Json.readsBack_port port)

/-- A container is read back. A command that is empty is written, unlike empty lists of parts. -/
theorem readsBack : ReadsBack toJson ofJson? := fun container =>
  Json.readRecord?_record (by simp) <|
    .cons (.text container.name) <|
    .cons (.text container.image) <|
    .cons (.optional Json.readsBack_texts nofun container.command?) <|
    .cons (.optional Json.readsBack_texts nofun container.args?) <|
    .cons (.list EnvVar.readsBack container.env) <|
    .cons (.list EnvSource.readsBack container.envFrom) <|
    .cons (.list readsBack_port container.ports) <|
    .cons (.optional Resources.readsBack nofun container.resources?) <|
    .cons (.list VolumeMount.readsBack container.mounts) <|
    .pure container

end Container

/-- A projected file is read back, whether or not it has a mode. -/
theorem ProjectedFile.readsBack : ReadsBack toJson ofJson? := fun file =>
  Json.readRecord?_record (by simp) <|
    .cons (.text file.key) <|
    .cons (.text file.path) <|
    .cons (.optional Json.readsBack_int32 nofun file.mode?) <|
    .pure file

/-- The member that names the object may be called anything but what the files are called. -/
theorem DataSource.readsBack {label : String} (h : label ≠ "items") :
    ReadsBack (toJson label) (ofJson? label) := fun source =>
  Json.readRecord?_record (by simp [h]) <|
    .cons (.text source.object) <|
    .cons (.list ProjectedFile.readsBack source.files) <|
    .pure source

namespace Volume

/-- The name of a claim is read back from the object it is wrapped in. -/
theorem readsBack_claim : ReadsBack claimToJson claimOfJson? := fun claim =>
  Json.readRecord?_record (by simp) (.text claim)

/-- A volume is read back, whichever of the three sources it has. -/
theorem readsBack : ReadsBack toJson ofJson? := fun volume =>
  Json.readRecord?_record (by simp) <|
    .cons (.text volume.name) <|
    .cons (.optional (DataSource.readsBack (by simp)) nofun volume.configMap?) <|
    .cons (.optional (DataSource.readsBack (by simp)) nofun volume.secret?) <|
    .cons (.optional readsBack_claim nofun volume.claim?) <|
    .pure volume

end Volume

namespace PodSpec

/-- The name of a secret for images is read back from the object it is wrapped in. -/
theorem readsBack_reference : ReadsBack referenceToJson referenceOfJson? := fun name =>
  Json.readRecord?_record (by simp) (.text name)

/-- A pod is read back. Its containers are written even if there are none. -/
theorem readsBack : ReadsBack toJson ofJson? := fun spec =>
  Json.readRecord?_record (by simp) <|
    .cons (.list readsBack_reference spec.pullSecrets) <|
    .cons (.list Container.readsBack spec.initContainers) <|
    .cons (.required (Json.readsBack_list Container.readsBack) spec.containers) <|
    .cons (.list Volume.readsBack spec.volumes) <|
    .cons (.textMap spec.nodeSelector) <|
    .pure spec

end PodSpec

/-! ## Workloads -/

/-- A namespace is read back. It is its header and nothing else. -/
theorem NameSpace.readsBack : ReadsBack toJson ofJson? := fun object => by
  rw [toJson, ← List.append_nil object.fields]
  exact Json.readRecord?_record (by simp) (.append object.reads (.pure object))

/-- The metadata of pods is read back. Labels are written even if there are none. -/
theorem PodMeta.readsBack : ReadsBack toJson ofJson? := fun data =>
  Json.readRecord?_record (by simp) <|
    .cons (.required Json.readsBack_textMap data.labels) <|
    .cons (.textMap data.annotations) <|
    .pure data

/-- A template is read back, with the metadata and the pod in it. -/
theorem PodTemplate.readsBack : ReadsBack toJson ofJson? := fun template =>
  Json.readRecord?_record (by simp) <|
    .cons (.required PodMeta.readsBack template.metadata) <|
    .cons (.required PodSpec.readsBack template.spec) <|
    .pure template

namespace DeploymentSpec

/-- A strategy is read back from the object it is wrapped in. -/
theorem readsBack_strategy : ReadsBack strategyToJson strategyOfJson? := fun strategy =>
  Json.readRecord?_record (by simp) (.text strategy)

/-- The inner part of a deployment is read back, with its selector and its template. -/
theorem readsBack : ReadsBack toJson ofJson? := fun spec =>
  Json.readRecord?_record (by simp) <|
    .cons (.required Json.readsBack_uint32 spec.replicas) <|
    .cons (.required readsBack_strategy spec.strategy) <|
    .cons (.required LabelSelector.readsBack spec.selector) <|
    .cons (.required PodTemplate.readsBack spec.template) <|
    .pure spec

end DeploymentSpec

/-- A deployment is read back. -/
theorem Deployment.readsBack : ReadsBack toJson ofJson? := fun object =>
  Json.readRecord?_record (by simp) <|
    .append object.reads <|
    .cons (.required DeploymentSpec.readsBack object.spec) <|
    .pure object

/-- A port of a service is read back. -/
theorem ServicePort.readsBack : ReadsBack toJson ofJson? := fun port =>
  Json.readRecord?_record (by simp) <|
    .cons (.text port.name) <|
    .cons (.required Json.readsBack_port port.port) <|
    .cons (.required Json.readsBack_port port.targetPort) <|
    .pure port

/-- The inner part of a service is read back. Its selector is written even if it is empty. -/
theorem ServiceSpec.readsBack : ReadsBack toJson ofJson? := fun spec =>
  Json.readRecord?_record (by simp) <|
    .cons (.optional Json.readsBack_str nofun spec.clusterIp?) <|
    .cons (.required Json.readsBack_textMap spec.selector) <|
    .cons (.list ServicePort.readsBack spec.ports) <|
    .pure spec

/-- A service is read back. -/
theorem Service.readsBack : ReadsBack toJson ofJson? := fun object =>
  Json.readRecord?_record (by simp) <|
    .append object.reads <|
    .cons (.required ServiceSpec.readsBack object.spec) <|
    .pure object

/-! ## Data -/

/-- A config map is read back, with empty data left out. -/
theorem ConfigMap.readsBack : ReadsBack toJson ofJson? := fun object =>
  Json.readRecord?_record (by simp) <|
    .append object.reads <|
    .cons (.textMap object.data) <|
    .pure object

/-- A secret is read back, with empty data and a type that is not set left out. -/
theorem Secret.readsBack : ReadsBack toJson ofJson? := fun object =>
  Json.readRecord?_record (by simp) <|
    .append object.reads <|
    .cons (.textMap object.data) <|
    .cons (.optional Json.readsBack_str nofun object.type?) <|
    .pure object

/-! ## Storage -/

/-- A disk is read back, with attributes left out if there are none. -/
theorem DiskSource.readsBack : ReadsBack toJson ofJson? := fun source =>
  Json.readRecord?_record (by simp) <|
    .cons (.text source.driver) <|
    .cons (.text source.handle) <|
    .cons (.textMap source.attributes) <|
    .pure source

/-- The inner part of a volume in the cluster is read back, with or without a storage class. -/
theorem PersistentVolumeSpec.readsBack : ReadsBack toJson ofJson? := fun spec =>
  Json.readRecord?_record (by simp) <|
    .cons (.required Json.readsBack_textMap spec.capacity) <|
    .cons (.required Json.readsBack_texts spec.accessModes) <|
    .cons (.text spec.reclaimPolicy) <|
    .cons (.text spec.volumeMode) <|
    .cons (.optional Json.readsBack_str nofun spec.storageClass?) <|
    .cons (.required DiskSource.readsBack spec.source) <|
    .pure spec

/-- A volume in the cluster is read back. -/
theorem PersistentVolume.readsBack : ReadsBack toJson ofJson? := fun object =>
  Json.readRecord?_record (by simp) <|
    .append object.reads <|
    .cons (.required PersistentVolumeSpec.readsBack object.spec) <|
    .pure object

namespace ClaimSpec

/-- What a claim requests is read back from the object it is wrapped in. -/
theorem readsBack_requests : ReadsBack requestsToJson requestsOfJson? := fun requests =>
  Json.readRecord?_record (by simp) (.required Json.readsBack_textMap requests)

/-- The inner part of a claim is read back, with or without a storage class. -/
theorem readsBack : ReadsBack toJson ofJson? := fun spec =>
  Json.readRecord?_record (by simp) <|
    .cons (.required Json.readsBack_texts spec.accessModes) <|
    .cons (.required readsBack_requests spec.requests) <|
    .cons (.text spec.volume) <|
    .cons (.text spec.volumeMode) <|
    .cons (.optional Json.readsBack_str nofun spec.storageClass?) <|
    .pure spec

end ClaimSpec

/-- A claim is read back. -/
theorem PersistentVolumeClaim.readsBack : ReadsBack toJson ofJson? := fun object =>
  Json.readRecord?_record (by simp) <|
    .append object.reads <|
    .cons (.required ClaimSpec.readsBack object.spec) <|
    .pure object

/-! ## Access -/

/-- A port in a policy is read back. -/
theorem PolicyPort.readsBack : ReadsBack toJson ofJson? := fun port =>
  Json.readRecord?_record (by simp) <|
    .cons (.text port.protocol) <|
    .cons (.required Json.readsBack_port port.port) <|
    .pure port

/-- A peer is read back. A selector of all pods differs from none, as an empty one is written. -/
theorem PolicyPeer.readsBack : ReadsBack toJson ofJson? := fun peer =>
  Json.readRecord?_record (by simp) <|
    .cons (.optional LabelSelector.readsBack nofun peer.pods?) <|
    .cons (.optional LabelSelector.readsBack nofun peer.nameSpaces?) <|
    .pure peer

/-- A rule of a policy is read back, with empty lists of peers and ports left out. -/
theorem PolicyIngress.readsBack : ReadsBack toJson ofJson? := fun ingress =>
  Json.readRecord?_record (by simp) <|
    .cons (.list PolicyPeer.readsBack ingress.peers) <|
    .cons (.list PolicyPort.readsBack ingress.ports) <|
    .pure ingress

/-- The inner part of a policy is read back. Its rules are written even if there are none. -/
theorem NetworkPolicySpec.readsBack : ReadsBack toJson ofJson? := fun spec =>
  Json.readRecord?_record (by simp) <|
    .cons (.required LabelSelector.readsBack spec.pods) <|
    .cons (.required Json.readsBack_texts spec.policyTypes) <|
    .cons (.required (Json.readsBack_list PolicyIngress.readsBack) spec.ingress) <|
    .pure spec

/-- A policy is read back. -/
theorem NetworkPolicy.readsBack : ReadsBack toJson ofJson? := fun object =>
  Json.readRecord?_record (by simp) <|
    .append object.reads <|
    .cons (.required NetworkPolicySpec.readsBack object.spec) <|
    .pure object

/-- A service account is read back. It is its header and nothing else. -/
theorem ServiceAccount.readsBack : ReadsBack toJson ofJson? := fun object => by
  rw [toJson, ← List.append_nil object.fields]
  exact Json.readRecord?_record (by simp) (.append object.reads (.pure object))

/-- A rule of access is read back, with all three lists written. -/
theorem AccessRule.readsBack : ReadsBack toJson ofJson? := fun rule =>
  Json.readRecord?_record (by simp) <|
    .cons (.required Json.readsBack_texts rule.groups) <|
    .cons (.required Json.readsBack_texts rule.resources) <|
    .cons (.required Json.readsBack_texts rule.verbs) <|
    .pure rule

/-- A role is read back. -/
theorem Role.readsBack : ReadsBack toJson ofJson? := fun object =>
  Json.readRecord?_record (by simp) <|
    .append object.reads <|
    .cons (.required (Json.readsBack_list AccessRule.readsBack) object.rules) <|
    .pure object

/-- The subject of a binding is read back. -/
theorem Subject.readsBack : ReadsBack toJson ofJson? := fun subject =>
  Json.readRecord?_record (by simp) <|
    .cons (.text subject.kind) <|
    .cons (.text subject.name) <|
    .cons (.text subject.nameSpace) <|
    .pure subject

/-- A reference to a role is read back. -/
theorem RoleRef.readsBack : ReadsBack toJson ofJson? := fun ref =>
  Json.readRecord?_record (by simp) <|
    .cons (.text ref.group) <|
    .cons (.text ref.kind) <|
    .cons (.text ref.name) <|
    .pure ref

/-- A binding of a role is read back, with its subjects and the role. -/
theorem RoleBinding.readsBack : ReadsBack toJson ofJson? := fun object =>
  Json.readRecord?_record (by simp) <|
    .append object.reads <|
    .cons (.required (Json.readsBack_list Subject.readsBack) object.subjects) <|
    .cons (.required RoleRef.readsBack object.role) <|
    .pure object

/-! ## Ingresses -/

namespace IngressBackend

/-- The name of a port is read back from the object it is wrapped in. -/
theorem readsBack_name : ReadsBack nameToJson nameOfJson? := fun name =>
  Json.readRecord?_record (by simp) (.text name)

/-- A service and its port are read back. -/
theorem readsBack_service : ReadsBack serviceToJson serviceOfJson? := fun backend =>
  Json.readRecord?_record (by simp) <|
    .cons (.text backend.service) <|
    .cons (.required readsBack_name backend.port) <|
    .pure backend

/-- A backend is read back through the two objects it is wrapped in. -/
theorem readsBack : ReadsBack toJson ofJson? := fun backend =>
  Json.readRecord?_record (by simp) (.required readsBack_service backend)

end IngressBackend

/-- A path is read back, with the backend behind it. -/
theorem IngressPath.readsBack : ReadsBack toJson ofJson? := fun path =>
  Json.readRecord?_record (by simp) <|
    .cons (.text path.path) <|
    .cons (.text path.pathType) <|
    .cons (.required IngressBackend.readsBack path.backend) <|
    .pure path

namespace IngressRule

/-- The paths of a host are read back from the object they are wrapped in. -/
theorem readsBack_paths : ReadsBack pathsToJson pathsOfJson? := fun paths =>
  Json.readRecord?_record (by simp) (.required (Json.readsBack_list IngressPath.readsBack) paths)

/-- A rule for a host is read back. -/
theorem readsBack : ReadsBack toJson ofJson? := fun rule =>
  Json.readRecord?_record (by simp) <|
    .cons (.text rule.host) <|
    .cons (.required readsBack_paths rule.paths) <|
    .pure rule

end IngressRule

/-- The inner part of an ingress is read back, with its class and its rules. -/
theorem IngressSpec.readsBack : ReadsBack toJson ofJson? := fun spec =>
  Json.readRecord?_record (by simp) <|
    .cons (.text spec.className) <|
    .cons (.required (Json.readsBack_list IngressRule.readsBack) spec.rules) <|
    .pure spec

/-- An ingress is read back. -/
theorem Ingress.readsBack : ReadsBack toJson ofJson? := fun object =>
  Json.readRecord?_record (by simp) <|
    .append object.reads <|
    .cons (.required IngressSpec.readsBack object.spec) <|
    .pure object

/-! ## All of them -/

/-- Reading back for metadata and selectors. -/
structure MetaReadsBack : Prop where
  metadata : ReadsBack Meta.toJson Meta.ofJson?
  requirement : ReadsBack LabelRequirement.toJson LabelRequirement.ofJson?
  selector : ReadsBack LabelSelector.toJson LabelSelector.ofJson?

/-- Reading back for pods. -/
structure PodReadsBack : Prop where
  envSourceRef : ReadsBack EnvSourceRef.toJson EnvSourceRef.ofJson?
  envSource : ReadsBack EnvSource.toJson EnvSource.ofJson?
  envVar : ReadsBack EnvVar.toJson EnvVar.ofJson?
  quantities : ReadsBack Quantities.toJson Quantities.ofJson?
  resources : ReadsBack Resources.toJson Resources.ofJson?
  mount : ReadsBack VolumeMount.toJson VolumeMount.ofJson?
  port : ReadsBack Container.portToJson Container.portOfJson?
  container : ReadsBack Container.toJson Container.ofJson?
  file : ReadsBack ProjectedFile.toJson ProjectedFile.ofJson?
  configMapSource : ReadsBack (DataSource.toJson "name") (DataSource.ofJson? "name")
  secretSource : ReadsBack (DataSource.toJson "secretName") (DataSource.ofJson? "secretName")
  claim : ReadsBack Volume.claimToJson Volume.claimOfJson?
  volume : ReadsBack Volume.toJson Volume.ofJson?
  reference : ReadsBack PodSpec.referenceToJson PodSpec.referenceOfJson?
  spec : ReadsBack PodSpec.toJson PodSpec.ofJson?

/-- Reading back for namespaces, deployments and services. -/
structure WorkloadReadsBack : Prop where
  nameSpace : ReadsBack NameSpace.toJson NameSpace.ofJson?
  podMeta : ReadsBack PodMeta.toJson PodMeta.ofJson?
  template : ReadsBack PodTemplate.toJson PodTemplate.ofJson?
  strategy : ReadsBack DeploymentSpec.strategyToJson DeploymentSpec.strategyOfJson?
  deploymentSpec : ReadsBack DeploymentSpec.toJson DeploymentSpec.ofJson?
  deployment : ReadsBack Deployment.toJson Deployment.ofJson?
  servicePort : ReadsBack ServicePort.toJson ServicePort.ofJson?
  serviceSpec : ReadsBack ServiceSpec.toJson ServiceSpec.ofJson?
  service : ReadsBack Service.toJson Service.ofJson?

/-- Reading back for config maps and secrets. -/
structure DataReadsBack : Prop where
  configMap : ReadsBack ConfigMap.toJson ConfigMap.ofJson?
  secret : ReadsBack Secret.toJson Secret.ofJson?

/-- Reading back for volumes in the cluster and claims. -/
structure StorageReadsBack : Prop where
  source : ReadsBack DiskSource.toJson DiskSource.ofJson?
  volumeSpec : ReadsBack PersistentVolumeSpec.toJson PersistentVolumeSpec.ofJson?
  volume : ReadsBack PersistentVolume.toJson PersistentVolume.ofJson?
  requests : ReadsBack ClaimSpec.requestsToJson ClaimSpec.requestsOfJson?
  claimSpec : ReadsBack ClaimSpec.toJson ClaimSpec.ofJson?
  claim : ReadsBack PersistentVolumeClaim.toJson PersistentVolumeClaim.ofJson?

/-- Reading back for policies, service accounts and roles. -/
structure AccessReadsBack : Prop where
  port : ReadsBack PolicyPort.toJson PolicyPort.ofJson?
  peer : ReadsBack PolicyPeer.toJson PolicyPeer.ofJson?
  ingress : ReadsBack PolicyIngress.toJson PolicyIngress.ofJson?
  policySpec : ReadsBack NetworkPolicySpec.toJson NetworkPolicySpec.ofJson?
  policy : ReadsBack NetworkPolicy.toJson NetworkPolicy.ofJson?
  serviceAccount : ReadsBack ServiceAccount.toJson ServiceAccount.ofJson?
  rule : ReadsBack AccessRule.toJson AccessRule.ofJson?
  role : ReadsBack Role.toJson Role.ofJson?
  subject : ReadsBack Subject.toJson Subject.ofJson?
  roleRef : ReadsBack RoleRef.toJson RoleRef.ofJson?
  roleBinding : ReadsBack RoleBinding.toJson RoleBinding.ofJson?

/-- Reading back for ingresses. -/
structure IngressReadsBack : Prop where
  portName : ReadsBack IngressBackend.nameToJson IngressBackend.nameOfJson?
  service : ReadsBack IngressBackend.serviceToJson IngressBackend.serviceOfJson?
  backend : ReadsBack IngressBackend.toJson IngressBackend.ofJson?
  path : ReadsBack IngressPath.toJson IngressPath.ofJson?
  paths : ReadsBack IngressRule.pathsToJson IngressRule.pathsOfJson?
  rule : ReadsBack IngressRule.toJson IngressRule.ofJson?
  spec : ReadsBack IngressSpec.toJson IngressSpec.ofJson?
  ingress : ReadsBack Ingress.toJson Ingress.ofJson?

/-- Every object is read back from its JSON as it was, and so is all that an object is made of. -/
theorem objects_and_parts_read_back :
    MetaReadsBack ∧ PodReadsBack ∧ WorkloadReadsBack ∧ DataReadsBack ∧ StorageReadsBack ∧
      AccessReadsBack ∧ IngressReadsBack := by
  refine ⟨?metadata, ?pods, ?workloads, ?data, ?storage, ?access, ?ingresses⟩
  case metadata =>
    exact ⟨Meta.readsBack, LabelRequirement.readsBack, LabelSelector.readsBack⟩
  case pods =>
    exact {
      envSourceRef := EnvSourceRef.readsBack
      envSource := EnvSource.readsBack
      envVar := EnvVar.readsBack
      quantities := Quantities.readsBack
      resources := Resources.readsBack
      mount := VolumeMount.readsBack
      port := Container.readsBack_port
      container := Container.readsBack
      file := ProjectedFile.readsBack
      configMapSource := DataSource.readsBack (by simp)
      secretSource := DataSource.readsBack (by simp)
      claim := Volume.readsBack_claim
      volume := Volume.readsBack
      reference := PodSpec.readsBack_reference
      spec := PodSpec.readsBack }
  case workloads =>
    exact {
      nameSpace := NameSpace.readsBack
      podMeta := PodMeta.readsBack
      template := PodTemplate.readsBack
      strategy := DeploymentSpec.readsBack_strategy
      deploymentSpec := DeploymentSpec.readsBack
      deployment := Deployment.readsBack
      servicePort := ServicePort.readsBack
      serviceSpec := ServiceSpec.readsBack
      service := Service.readsBack }
  case data =>
    exact ⟨ConfigMap.readsBack, Secret.readsBack⟩
  case storage =>
    exact {
      source := DiskSource.readsBack
      volumeSpec := PersistentVolumeSpec.readsBack
      volume := PersistentVolume.readsBack
      requests := ClaimSpec.readsBack_requests
      claimSpec := ClaimSpec.readsBack
      claim := PersistentVolumeClaim.readsBack }
  case access =>
    exact {
      port := PolicyPort.readsBack
      peer := PolicyPeer.readsBack
      ingress := PolicyIngress.readsBack
      policySpec := NetworkPolicySpec.readsBack
      policy := NetworkPolicy.readsBack
      serviceAccount := ServiceAccount.readsBack
      rule := AccessRule.readsBack
      role := Role.readsBack
      subject := Subject.readsBack
      roleRef := RoleRef.readsBack
      roleBinding := RoleBinding.readsBack }
  case ingresses =>
    exact {
      portName := IngressBackend.readsBack_name
      service := IngressBackend.readsBack_service
      backend := IngressBackend.readsBack
      path := IngressPath.readsBack
      paths := IngressRule.readsBack_paths
      rule := IngressRule.readsBack
      spec := IngressSpec.readsBack
      ingress := Ingress.readsBack }

end ComposeCluster

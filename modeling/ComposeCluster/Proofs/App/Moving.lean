import ComposeCluster.Proofs.App.BuildSucceeds
import ComposeCluster.Proofs.App.Instance

/-!
# Moving an app

An app that moves to another cluster keeps everything but its instance. The name of the cluster
enters the identity of the app only (`Job.identity_movedTo`), and of what a cluster tells otherwise,
how it is reached, nothing changes. So the app can be built on the one cluster if it can be built on
the other, and the objects are the same without their instance (`Job.moving_changes_instance`).
-/

set_option autoImplicit false

namespace ComposeCluster

/-! ## Bound volumes -/

namespace BoundVolume

/-- What is left of a bound volume without the instance of the app. -/
def hideInstance (bound : BoundVolume) : VolumeBinding × Manifest × Manifest :=
  (bound.binding, (Manifest.persistentVolume bound.volume).hideInstance,
    (Manifest.persistentVolumeClaim bound.claim).hideInstance)

/-- Bound volumes that differ in the instance only are the same to the pod. -/
theorem podVolume_congr {bound copy : BoundVolume} (h : bound.hideInstance = copy.hideInstance) :
    bound.podVolume = copy.podVolume := by
  have hbinding : bound.binding = copy.binding := congrArg Prod.fst h
  have hname : bound.objectName = copy.objectName := congrArg (fun view => view.2.2.name) h
  rw [podVolume, podVolume, hbinding, hname]

/-- A binding on the other cluster succeeds as well, and the two results differ in the instance
only. -/
theorem hideInstance_ofBinding {id other : Identity} {nameSpace : String} {labels found : TextMap}
    {volumes : List AppVolume} {binding : VolumeBinding} {c : VolumeClass} {bound : BoundVolume}
    (hname : binding.objectName other = binding.objectName id)
    (hlabels : ComposeCluster.hideInstance found = ComposeCluster.hideInstance labels)
    (h : ofBinding ⟨id, nameSpace, labels⟩ volumes binding c = .ok bound) :
    ∃ copy, ofBinding ⟨other, nameSpace, found⟩ volumes binding c = .ok copy ∧
      bound.hideInstance = copy.hideInstance := by
  obtain ⟨volume, hvolume, hdriver, rfl⟩ := ofBinding_eq_ok.1 h
  refine ⟨_, ofBinding_eq_ok.2 ⟨volume, hvolume, hdriver, rfl⟩, ?_⟩
  have hheader (kind : ObjectKind) (data : Meta) :
      (Header.of kind (data.withLabels found)).hideInstance =
        (Header.of kind (data.withLabels labels)).hideInstance :=
    Header.hideInstance_of (Meta.hideInstance_withLabels data hlabels) kind
  simp only [hideInstance, Manifest.hideInstance, Manifest.mapHeader, volumeOf, claimOf, hname,
    hheader]

end BoundVolume

/-! ## A job on another cluster -/

namespace Job

/-- The same app on another cluster. -/
def movedTo (job : Job) (cluster : Cluster) : Job :=
  { job with target := { job.target with cluster } }

/-- For what a driver says about the volumes of the app it makes no difference whether they are on
this cluster or on the other. -/
def SameClasses (job : Job) (cluster : Cluster) : Prop :=
  ∀ volume ∈ job.target.app.volumes,
    (job.resolver cluster job.target.app volume).toOption =
      (job.resolver job.target.cluster job.target.app volume).toOption

/-- Of the identity of the app only its instance and its cluster change. -/
theorem identity_movedTo (job : Job) (cluster : Cluster) :
    (job.movedTo cluster).identity =
      { job.identity with
        cluster := (job.movedTo cluster).identity.cluster
        appInstance := (job.movedTo cluster).identity.appInstance } :=
  rfl

variable {job : Job} {cluster : Cluster}

/-- On the other cluster the app has the same namespace. -/
theorem nameSpace_movedTo :
    (job.movedTo cluster).identity.nameSpace = job.identity.nameSpace := by
  rw [identity_movedTo]

/-- On the other cluster the app has the same hash of its own. -/
theorem appId_movedTo : (job.movedTo cluster).identity.appId = job.identity.appId := by
  rw [identity_movedTo]

/-- On the other cluster the objects of a binding have the same name. -/
theorem objectName_movedTo (binding : VolumeBinding) :
    binding.objectName (job.movedTo cluster).identity = binding.objectName job.identity := by
  rw [identity_movedTo, VolumeBinding.objectName, VolumeBinding.objectName,
    Identity.volumeResource, Identity.volumeResource, Identity.hash, Identity.hash]

/-- On the other cluster the scope has another identity and is otherwise the same. -/
theorem scope_movedTo :
    (job.movedTo cluster).scope = job.scope.withIdentity (job.movedTo cluster).identity := by
  rw [scope, nameSpace_movedTo]
  rfl

/-- On the other cluster volumes are bound in the same namespace, with other labels. -/
theorem bindingScope_movedTo :
    (job.movedTo cluster).bindingScope = ⟨(job.movedTo cluster).identity, job.identity.nameSpace,
      (job.scope.withIdentity (job.movedTo cluster).identity).baseLabels⟩ := by
  rw [bindingScope, nameSpace_movedTo, scope_movedTo]

/-- On the other cluster content has other labels and is otherwise scoped the same. -/
theorem contentScope_movedTo :
    (job.movedTo cluster).contentScope = { job.contentScope with
      labels := (job.scope.withIdentity (job.movedTo cluster).identity).labels } := by
  rw [contentScope, nameSpace_movedTo, scope_movedTo]
  rfl

/-- Clusters that are reached alike have the same domain. -/
theorem ingressDomain?_movedTo (hingress : cluster.ingress = job.target.cluster.ingress) :
    (job.movedTo cluster).target.cluster.ingressDomain? = job.target.cluster.ingressDomain? :=
  congrArg (fun ingress : ClusterIngress => nonBlank? ingress.domain?) hingress

/-- Clusters that are reached alike have the same setting for ingresses. -/
theorem ingressSetting_movedTo (hingress : cluster.ingress = job.target.cluster.ingress) :
    (job.movedTo cluster).ingressSetting = job.ingressSetting := by
  have hresolver : (job.movedTo cluster).target.cluster.ingress = job.target.cluster.ingress :=
    hingress
  rw [ingressSetting, appId_movedTo, ingressDomain?_movedTo hingress, hresolver]
  rfl

/-- Clusters that are reached alike refuse and accept the same projects. -/
theorem check_movedTo (hingress : cluster.ingress = job.target.cluster.ingress)
    (tree : SourceTree) (project : Compose.Project) :
    (job.movedTo cluster).check tree project = job.check tree project := by
  unfold check
  rw [ingressDomain?_movedTo hingress]
  rfl

/-- Policies for clusters that are reached alike differ in the instance only. -/
theorem hideInstance_policies (hingress : cluster.ingress = job.target.cluster.ingress) :
    ((job.movedTo cluster).policies?.toList.flatMap ManifestSet.policyObjects).map
        Manifest.hideInstance =
      (job.policies?.toList.flatMap ManifestSet.policyObjects).map Manifest.hideInstance := by
  have hnameSpace : (job.movedTo cluster).target.cluster.ingressNameSpace =
      job.target.cluster.ingressNameSpace :=
    congrArg (fun ingress : ClusterIngress => (nonBlank? ingress.nameSpace?).getD "default")
      hingress
  have hsettings : (job.movedTo cluster).settings = job.settings := rfl
  rw [policies?, policies?, hsettings, hnameSpace, nameSpace_movedTo, scope_movedTo]
  split
  · simp only [Option.toList_some, List.flatMap_singleton]
    exact AppPolicies.hideInstance_of ⟨job.target.app.name, job.identity.nameSpace,
      job.target.cluster.ingressNameSpace, job.scope.baseLabels⟩
      (job.scope.hideInstance_baseLabels appId_movedTo) _
  · rfl

/-! ## Bindings -/

/-- What is bound on one cluster is bound on the other, and differs in the instance only. -/
theorem exists_bindOne_movedTo (hclasses : job.SameClasses cluster) {binding : VolumeBinding}
    {bound : BoundVolume} (h : job.bindOne binding = .ok bound) :
    ∃ copy, (job.movedTo cluster).bindOne binding = .ok copy ∧
      bound.hideInstance = copy.hideInstance := by
  obtain ⟨volume, hvolume, h⟩ := Except.bind_eq_ok.1 h
  obtain ⟨volumeClass, hclass, h⟩ := Except.bind_eq_ok.1 h
  have hmem := mem_of_volumeIn (Except.mapError_eq_ok.1 hvolume)
  have hclass : job.resolver cluster job.target.app volume = .ok volumeClass := by
    rw [← Except.toOption_eq_some, hclasses volume hmem, Except.toOption_eq_some]
    exact Except.mapError_eq_ok.1 hclass
  rw [bindingScope] at h
  obtain ⟨copy, hcopy, hsame⟩ := BoundVolume.hideInstance_ofBinding (objectName_movedTo binding)
    (job.scope.hideInstance_baseLabels appId_movedTo) (Except.mapError_eq_ok.1 h)
  rw [← bindingScope_movedTo] at hcopy
  exact ⟨copy, Except.bind_eq_ok.2 ⟨volume, hvolume, Except.bind_eq_ok.2 ⟨volumeClass,
    Except.mapError_eq_ok.2 hclass, Except.mapError_eq_ok.2 hcopy⟩⟩, hsame⟩

/-- All volumes can be bound on the other cluster if they can on this one. -/
theorem exists_bindAll_movedTo (hclasses : job.SameClasses cluster) {bindings : List VolumeBinding}
    {volumes : List BoundVolume} (h : job.bindAll bindings = .ok volumes) :
    ∃ copies, (job.movedTo cluster).bindAll bindings = .ok copies ∧
      volumes.map BoundVolume.hideInstance = copies.map BoundVolume.hideInstance := by
  obtain ⟨⟨⟩, hcheck, hall⟩ := Except.bind_eq_ok.1 h
  have hboth := (Except.mapM_eq_ok.1 hall).imp fun binding bound hbound =>
    exists_bindOne_movedTo hclasses hbound
  suffices ∃ copies, bindings.mapM (job.movedTo cluster).bindOne = .ok copies ∧
      volumes.map BoundVolume.hideInstance = copies.map BoundVolume.hideInstance by
    obtain ⟨copies, hcopies, hsame⟩ := this
    exact ⟨copies, Except.bind_eq_ok.2 ⟨(), hcheck, hcopies⟩, hsame⟩
  clear h hcheck hall
  induction hboth with
  | nil => exact ⟨[], rfl, rfl⟩
  | cons hfirst _ ih =>
    obtain ⟨copy, hcopy, hsame⟩ := hfirst
    obtain ⟨copies, hcopies, hrest⟩ := ih
    refine ⟨copy :: copies, ?_, ?_⟩
    · rw [List.mapM_cons, hcopy, hcopies]
      rfl
    · rw [List.map_cons, List.map_cons, hsame, hrest]

/-! ## The objects -/

/-- What is made of one project on two clusters that are reached alike. -/
structure Moves (job : Job) (cluster : Cluster) (tree : SourceTree) (bindings : List VolumeBinding)
    (project : Compose.Project) (conversion : Conversion) (manifests copies : ManifestSet) :
    Prop where
  ingress : cluster.ingress = job.target.cluster.ingress
  first : job.Assembles tree bindings project conversion manifests
  second : (job.movedTo cluster).Assembles tree bindings project conversion copies
  bound : manifests.bound.map BoundVolume.hideInstance = copies.bound.map BoundVolume.hideInstance

namespace Moves

variable {tree : SourceTree} {bindings : List VolumeBinding} {project : Compose.Project}
  {conversion : Conversion} {manifests copies : ManifestSet}
  (h : job.Moves cluster tree bindings project conversion manifests copies)
include h

/-- The content for both clusters is made of the same project, with labels that differ in the
instance. -/
theorem content : ∃ labels, hideInstance labels = hideInstance job.contentScope.labels ∧
    Content.Objects.ofNormal { job.contentScope with labels } conversion.project
      job.credentials? = .ok copies.content := by
  have hcontent := h.second.content
  rw [contentScope_movedTo] at hcontent
  exact ⟨_, job.scope.hideInstance_labels appId_movedTo, hcontent⟩

/-- The pods for both clusters are the same before they are hashed. -/
theorem spec_eq :
    HashedPod.specOf conversion.project copies.content copies.bound job.podSetting =
      HashedPod.specOf conversion.project manifests.content manifests.bound job.podSetting := by
  obtain ⟨labels, -, hsecond⟩ := h.content
  have hpull : (copies.content.pullSecret?.toList.map fun secret => secret.metadata.name) =
      manifests.content.pullSecret?.toList.map fun secret => secret.metadata.name := by
    rw [(Content.Objects.of_ofNormal h.first.content).1, (Content.Objects.of_ofNormal hsecond).1,
      Option.toList_map, Option.toList_map, List.map_map, List.map_map]
    rfl
  have hbound : copies.bound.map BoundVolume.podVolume =
      manifests.bound.map BoundVolume.podVolume :=
    map_eq_of_keys (fun _ _ => BoundVolume.podVolume_congr) h.bound.symm
  rw [HashedPod.specOf, HashedPod.specOf, hpull, hbound,
    Content.Objects.volumes_of_ofNormal h.first.content,
    Content.Objects.volumes_of_ofNormal hsecond]

/-- The pods for both clusters are the same, hash included. -/
theorem pod_eq :
    HashedPod.of conversion.project copies.content copies.bound job.podSetting =
      HashedPod.of conversion.project manifests.content manifests.bound job.podSetting := by
  obtain ⟨labels, -, hsecond⟩ := h.content
  have hindex := Content.Objects.indexObjects_eq_of_labels h.first.content hsecond
  simp only [HashedPod.of, h.spec_eq, Content.podHash?, hindex]

/-- The content objects for both clusters differ in the instance only. -/
theorem hideInstance_content :
    (ManifestSet.contentObjects copies.content).map Manifest.hideInstance =
      (ManifestSet.contentObjects manifests.content).map Manifest.hideInstance := by
  obtain ⟨labels, hlabels, hsecond⟩ := h.content
  exact Content.Objects.hideInstance_contentObjects h.first.content hsecond hlabels

/-- Both deployments are for the same pod. -/
theorem deployments :
    manifests.deployment = job.scope.deployment
        (.of conversion.project manifests.content manifests.bound job.podSetting) ∧
      copies.deployment = (job.scope.withIdentity (job.movedTo cluster).identity).deployment
        (.of conversion.project manifests.content manifests.bound job.podSetting) := by
  have hsecond := h.second.deployment
  have hsetting : (job.movedTo cluster).podSetting = job.podSetting := rfl
  rw [scope_movedTo, hsetting, h.pod_eq] at hsecond
  exact ⟨h.first.deployment, hsecond⟩

/-- Both services are for the same routes and ports. -/
theorem services :
    manifests.service? = job.scope.service? conversion.routes conversion.project.ports ∧
      copies.service? = (job.scope.withIdentity (job.movedTo cluster).identity).service?
        conversion.routes conversion.project.ports := by
  have hsecond := h.second.service
  rw [scope_movedTo] at hsecond
  exact ⟨h.first.service, hsecond⟩

/-- The services without an address for both clusters differ in the instance only. -/
theorem hideInstance_headless :
    (copies.headlessServices.map Manifest.service).map Manifest.hideInstance =
      (manifests.headlessServices.map Manifest.service).map Manifest.hideInstance := by
  have hsettings : (job.movedTo cluster).settings = job.settings := rfl
  rw [h.first.headless, h.second.headless, hsettings, scope_movedTo]
  split
  · rw [List.map_map, List.map_map, List.map_map, List.map_map]
    exact List.map_congr_left fun name _ =>
      job.scope.hideInstance_headlessService appId_movedTo name
  · rfl

/-- The ingresses for both clusters differ in the instance only. -/
theorem hideInstance_ingresses :
    (copies.ingresses.toList.map Manifest.ingress).map Manifest.hideInstance =
      (manifests.ingresses.toList.map Manifest.ingress).map Manifest.hideInstance := by
  have hfirst := h.first.ingresses
  have hsecond := h.second.ingresses
  have happ : (job.movedTo cluster).identity.appId = job.identity.appId := appId_movedTo
  have hsome := congrArg Option.isSome
    (job.scope.hideInstance_service? happ conversion.routes conversion.project.ports)
  simp only [Option.isSome_map, ← h.services.1, ← h.services.2] at hsome
  unfold ingresses at hfirst hsecond
  rw [scope_movedTo, ingressSetting_movedTo h.ingress] at hsecond
  cases hservice : manifests.service? with
  | none =>
    rw [hservice] at hfirst hsome
    rw [Option.not_isSome_iff_eq_none.1 (Bool.eq_false_iff.1 hsome)] at hsecond
    rw [← Except.ok.inj hfirst, ← Except.ok.inj hsecond]
  | some service =>
    rw [hservice] at hfirst hsome
    obtain ⟨copy, hcopy⟩ := Option.isSome_iff_exists.1 hsome
    rw [hcopy] at hsecond
    exact AppIngresses.hideInstance_ofRoutes appId_movedTo hfirst hsecond

/-- After their instance is taken out the objects are the same. -/
theorem hideInstance_objects :
    manifests.objects.map Manifest.hideInstance = copies.objects.map Manifest.hideInstance := by
  have hnameSpace : (Manifest.nameSpace copies.nameSpace).hideInstance =
      (Manifest.nameSpace manifests.nameSpace).hideInstance := by
    rw [h.first.nameSpace, h.second.nameSpace, scope_movedTo]
    exact job.scope.hideInstance_nameSpaceObject appId_movedTo nameSpace_movedTo _ _ _
  have hpolicies := hideInstance_policies h.ingress
  rw [← h.first.policies, ← h.second.policies] at hpolicies
  have hvolumes := congrArg (List.map fun view => view.2.1) h.bound
  have hclaims := congrArg (List.map fun view => view.2.2) h.bound
  simp only [List.map_map, Function.comp_def, BoundVolume.hideInstance] at hvolumes hclaims
  have hdeployment : (Manifest.deployment copies.deployment).hideInstance =
      (Manifest.deployment manifests.deployment).hideInstance := by
    rw [h.deployments.1, h.deployments.2]
    exact job.scope.hideInstance_deployment appId_movedTo _
  have hservice : (copies.service?.map Manifest.service).map Manifest.hideInstance =
      (manifests.service?.map Manifest.service).map Manifest.hideInstance := by
    rw [h.services.1, h.services.2]
    exact job.scope.hideInstance_service? appId_movedTo _ _
  have hheadless := h.hideInstance_headless
  have hingresses := h.hideInstance_ingresses
  simp only [List.map_map, Function.comp_def, Option.map_map] at hservice hheadless hingresses
  simp only [ManifestSet.objects, List.map_append, List.map_cons, List.map_nil, List.map_map,
    Function.comp_def, ← Option.toList_map, Option.map_map, hnameSpace, hpolicies, hvolumes,
    hclaims, h.hideInstance_content, hdeployment, hservice, hheadless, hingresses]

end Moves

/-- An app that is built on one cluster is built on the other, with the same warnings. -/
theorem exists_moves_of_run (hingress : cluster.ingress = job.target.cluster.ingress)
    (hclasses : job.SameClasses cluster) {tree : SourceTree} {bindings : List VolumeBinding}
    {delivery : Delivery} (h : job.run tree bindings = .ok delivery) :
    ∃ copy, (job.movedTo cluster).run tree bindings = .ok copy ∧
      copy.warnings = delivery.warnings ∧ ∃ project conversion,
        job.Moves cluster tree bindings project conversion delivery.manifests copy.manifests := by
  obtain ⟨project, conversion, volumes, hparse, hcheck, hbind, hassemble⟩ := run_eq_ok.1 h
  obtain ⟨copies, hcopies, hsame⟩ := exists_bindAll_movedTo hclasses hbind
  have hcheck' := (check_movedTo hingress tree project).trans hcheck
  obtain ⟨manifests, hmanifests⟩ := exists_assemble hcheck' copies
  have hrun : (job.movedTo cluster).run tree bindings = .ok ⟨manifests, delivery.warnings⟩ :=
    run_eq_ok.2 ⟨project, conversion, copies, hparse, hcheck', hcopies, hmanifests⟩
  refine ⟨_, hrun, rfl, project, conversion, hingress,
    assembles_of_assemble hcheck hbind hassemble,
    assembles_of_assemble hcheck' hcopies hmanifests, ?_⟩
  rw [bound_of_assemble hassemble, bound_of_assemble hmanifests, hsame]

/-- An app that moves to a cluster that is reached alike can be built there if it can be built here,
and its objects are the same but for its instance: they have the same names, in the same namespaces,
and select the same pods, which carry the same hash and are reached under the same hosts. -/
theorem moving_changes_instance (job : Job) (cluster : Cluster)
    (hingress : cluster.ingress = job.target.cluster.ingress)
    (hclasses : job.SameClasses cluster) (tree : SourceTree) (bindings : List VolumeBinding) :
    ((∃ delivery, job.run tree bindings = .ok delivery) ↔
      ∃ copy, (job.movedTo cluster).run tree bindings = .ok copy) ∧
    ∀ delivery copy, job.run tree bindings = .ok delivery →
      (job.movedTo cluster).run tree bindings = .ok copy →
        delivery.warnings = copy.warnings ∧
        delivery.manifests.objects.map Manifest.hideInstance =
          copy.manifests.objects.map Manifest.hideInstance ∧
        delivery.manifests.objects.map Manifest.name = copy.manifests.objects.map Manifest.name ∧
        delivery.manifests.objects.map Manifest.nameSpace? =
          copy.manifests.objects.map Manifest.nameSpace? ∧
        delivery.manifests.objects.map Manifest.selector? =
          copy.manifests.objects.map Manifest.selector? ∧
        delivery.manifests.objects.map Manifest.podHash? =
          copy.manifests.objects.map Manifest.podHash? ∧
        delivery.manifests.objects.map Manifest.hosts =
          copy.manifests.objects.map Manifest.hosts := by
  constructor
  · constructor
    · rintro ⟨delivery, hrun⟩
      obtain ⟨copy, hcopy, -⟩ := exists_moves_of_run hingress hclasses hrun
      exact ⟨copy, hcopy⟩
    · rintro ⟨copy, hrun⟩
      have hback : (job.movedTo cluster).SameClasses job.target.cluster :=
        fun volume hmem => (hclasses volume hmem).symm
      obtain ⟨delivery, hdelivery, -⟩ := exists_moves_of_run hingress.symm hback hrun
      exact ⟨delivery, hdelivery⟩
  · intro delivery copy hdelivery hcopy
    obtain ⟨found, hfound, hwarnings, project, conversion, hmoves⟩ :=
      exists_moves_of_run hingress hclasses hdelivery
    obtain rfl : copy = found := Except.ok.inj (hcopy.symm.trans hfound)
    have hobjects := hmoves.hideInstance_objects
    refine ⟨hwarnings.symm, hobjects, ?_, ?_, ?_, ?_, ?_⟩
    all_goals exact Manifest.map_eq_of_hidden (fun object => by cases object <;> rfl) hobjects

/-- An app with a volume, configs, secrets and ingresses that moves to a cluster of another name. -/
theorem moving_changes_instance_of_store :
    ∃ delivery copy,
      Progress.storeJob.run (shopTree "A=1\n") [⟨"data", ⟨"disk-1", 0⟩, none⟩] = .ok delivery ∧
      (Progress.storeJob.movedTo ⟨"west", Progress.storeJob.target.cluster.ingress⟩).run
        (shopTree "A=1\n") [⟨"data", ⟨"disk-1", 0⟩, none⟩] = .ok copy ∧
      delivery.manifests.objects.map Manifest.hideInstance =
        copy.manifests.objects.map Manifest.hideInstance ∧
      delivery.manifests.objects.map Manifest.name = copy.manifests.objects.map Manifest.name := by
  obtain ⟨hbuilds, hsame⟩ := moving_changes_instance Progress.storeJob
    ⟨"west", Progress.storeJob.target.cluster.ingress⟩ rfl (fun _ _ => rfl) (shopTree "A=1\n")
    [⟨"data", ⟨"disk-1", 0⟩, none⟩]
  have hok : (Progress.storeJob.run (shopTree "A=1\n")
      [⟨"data", ⟨"disk-1", 0⟩, none⟩]).toOption.isSome = true := by
    decide +kernel
  obtain ⟨delivery, hdelivery⟩ := Option.isSome_iff_exists.1 hok
  have hrun := Except.toOption_eq_some.1 hdelivery
  obtain ⟨copy, hcopy⟩ := hbuilds.1 ⟨delivery, hrun⟩
  obtain ⟨-, hobjects, hnames, -⟩ := hsame delivery copy hrun hcopy
  exact ⟨delivery, copy, hrun, hcopy, hobjects, hnames⟩

end Job

end ComposeCluster

import ComposeCluster.Proofs.App.CreationOrder
import ComposeCluster.Proofs.App.DistinctObjects
import ComposeCluster.Proofs.App.ServicePort
import ComposeCluster.Proofs.Compose.Port

/-!
# Where traffic goes

A port of the service leads to a port of the pod, and there to the container that listens on it. The
compose service behind this container is the one that published the port: the rules of an app and
the containers of its pod both go back to one table of published ports.
-/

set_option autoImplicit false

namespace ComposeCluster

namespace Job

variable {job : Job} {tree : SourceTree} {bindings : List VolumeBinding}
  {project : Compose.Project} {conversion : Conversion} {warnings : List String}
  {manifests : ManifestSet} {container : Container} {target : Port}

/-- A check that is passed found the ports of the services and the routes for the rules. -/
theorem hasPortsOf_of_check (h : job.check tree project = .ok (conversion, warnings)) :
    conversion.project.HasPortsOf project ∧
      Route.resolve conversion.project.ports job.target.cluster.ingressDomain?
        job.target.app.ingress.rules = .ok conversion.routes := by
  obtain ⟨normal, hnormal, -, hroutes, -, hproject, -⟩ := of_check h
  obtain ⟨htable, hcontainers⟩ := Compose.Normal.hasPortsOf_ofProject hnormal
  rw [hproject]
  exact ⟨⟨htable, hcontainers⟩, hroutes⟩

namespace Assembles

/-- The ports of the pod are those of the containers of its services. -/
theorem ports_of_pod (h : job.Assembles tree bindings project conversion manifests) :
    let pod := manifests.deployment.spec.template.spec
    (pod.initContainers ++ pod.containers).flatMap (·.ports) =
      conversion.project.containers.flatMap (·.ports) := by
  have hinit : manifests.deployment.spec.template.spec.initContainers.flatMap (·.ports) = [] := by
    rw [List.flatMap_eq_nil_iff, h.pod_eq]
    exact fun _ hinit => (Compose.DirectoryPlan.of_initContainer? hinit).2.1
  dsimp only
  rw [List.flatMap_append, hinit, List.nil_append, h.pod_eq]
  rfl

end Assembles

end Job

namespace Progress

open Turn (successes)

/-- The ports of the service have different numbers. What comes in on one of them reaches a single
container, which lists the target once, and the service of the compose document that this container
is for is the only one that publishes the number. -/
theorem traffic_reaches_publisher {job : Job} {calls : List Call} {turn : Turn}
    {delivery : Delivery} {service : Service} (hturn : turn ∈ turns job calls start)
    (hreply : turn.reply = .ok (some delivery))
    (hservice : delivery.manifests.service? = some service) :
    (service.spec.ports.map (·.port)).Nodup ∧
    ∃ tree bindings project,
      successes (turns job calls start) = [.convert tree, .bind bindings, .build] ∧
      Compose.Project.parse job.target.app.compose = .ok project ∧
      ∀ port ∈ service.spec.ports,
        let pod := delivery.manifests.deployment.spec.template.spec
        ((pod.initContainers ++ pod.containers).flatMap (·.ports)).count port.targetPort = 1 ∧
        ∃ publisher ∈ project.services, publisher.Publishes port.port port.targetPort ∧
          (∀ other ∈ project.services, ∀ target, other.Publishes port.port target →
            other = publisher) ∧
          ∃ container ∈ pod.containers, container.name = publisher.name ∧
            port.targetPort ∈ container.ports := by
  obtain ⟨tree, bindings, ⟨project, conversion, warnings, volumes, hparse, hcheck, hbind,
    hassemble⟩, hsuccesses⟩ := makes_of_delivered hturn hreply
  have h := Job.assembles_of_assemble hcheck hbind hassemble
  obtain ⟨hports, hroutes⟩ := Job.hasPortsOf_of_check hcheck
  have hnames := Compose.Project.nodup_names_of_parse hparse
  rw [h.service] at hservice
  have hlisted := AppScope.ports_of_service? hservice
  rw [hlisted]
  refine ⟨AppScope.nodup_ports_servicePorts hroutes, tree, bindings, project, hsuccesses, hparse,
    fun port hport => ?_⟩
  have htarget := AppScope.targetOf?_of_mem_servicePorts hroutes hport
  obtain ⟨publisher, hpublisher, hpublishes⟩ := hports.targetOf?_eq_some.1 htarget
  obtain ⟨container, hcontainer, hlists⟩ :=
    exists_right_of_forall₂ hports.containers hpublisher
  have hmem : port.targetPort ∈ container.ports :=
    (hlists.mem_iff port.targetPort).2 ⟨port.port, hpublishes⟩
  refine ⟨?_, publisher, hpublisher, hpublishes, ?_, container, ?_, hlists.name_eq, hmem⟩
  · rw [h.ports_of_pod]
    exact List.count_eq_one_of_mem (hports.nodup_ports hnames)
      (List.mem_flatMap.2 ⟨container, hcontainer, hmem⟩)
  · intro other hother target hasked
    exact hports.publisher_unique hnames hpublisher hother hpublishes hasked
  · rw [h.pod_eq]
    exact hcontainer

/-- In the store each port of the service leads to a container of the service that publishes it. -/
theorem traffic_reaches_publisher_in_store :
    ∃ turn ∈ turns storeJob storeCalls start, ∃ delivery service,
      turn.reply = .ok (some delivery) ∧ delivery.manifests.service? = some service ∧
        service.spec.ports ≠ [] ∧
        ∃ project, Compose.Project.parse storeJob.target.app.compose = .ok project ∧
          ∀ port ∈ service.spec.ports, ∃ publisher ∈ project.services,
            publisher.Publishes port.port port.targetPort := by
  have hok : ((turns storeJob storeCalls start).any fun turn => turn.delivery?.any fun delivery =>
      delivery.manifests.service?.any fun service => !service.spec.ports.isEmpty) = true := by
    decide +kernel
  obtain ⟨turn, hturn, delivery, hreply, hany⟩ := Turn.exists_delivered hok
  obtain ⟨service, hservice, hports⟩ := (Option.any_eq_true _ _).1 hany
  obtain ⟨-, -, -, project, -, hparse, hall⟩ := traffic_reaches_publisher hturn hreply hservice
  refine ⟨turn, hturn, delivery, service, hreply, hservice, by simpa using hports, project, hparse,
    fun port hport => ?_⟩
  obtain ⟨-, publisher, hpublisher, hpublishes, -⟩ := hall port hport
  exact ⟨publisher, hpublisher, hpublishes⟩

end Progress

end ComposeCluster

import ComposeCluster.Refusal

/-!
# Published ports

Which ports of a node lead to which ports of the pod. All services share one pod, so a container
port belongs to one service, and a host port leads to one container port. `PublishedPorts.publish`
records a mapping or says what it conflicts with; it changes nothing in the second case.
-/

set_option autoImplicit false

namespace ComposeCluster.Compose

/-- The container port for each host port, and the service for each container port. -/
structure PublishedPorts where
  hosts : SortedMap Port Port
  owners : SortedMap Port String
  deriving DecidableEq

namespace PublishedPorts

/-- Nothing is published. -/
def empty : PublishedPorts := ⟨.empty, .empty⟩

/-- The two ports of a mapping, host port first. Both have to be there, and neither may be zero. -/
def portsOf (service : String) (mapping : PortMapping) : Except Refusal (Port × Port) :=
  match mapping.published?, mapping.target? with
  | some published, some target =>
    if target = 0 then .error (.portForm service)
    else
      match (Text.port? published).filter (· != 0) with
      | some host => .ok (host, target)
      | none => .error (.hostPort published)
  | _, _ => .error (.portForm service)

/-- Records a mapping of a service; its container port is given back. -/
def publish (table : PublishedPorts) (service : String) (mapping : PortMapping) :
    Except Refusal (Port × PublishedPorts) :=
  match portsOf service mapping with
  | .error refusal => .error refusal
  | .ok (host, target) =>
    match (table.owners.get? target).filter (· != service) with
    | some owner => .error (.containerPortTaken target owner service)
    | none =>
      match (table.hosts.get? host).filter (· != target) with
      | some previous => .error (.hostPortTaken host previous target)
      | none =>
        .ok (target, ⟨table.hosts.insert host target, table.owners.insert target service⟩)

/-- The container port for a host port. -/
def targetOf? (table : PublishedPorts) (host : Port) : Option Port :=
  table.hosts.get? host

/-- Host ports and container ports, by ascending host port. -/
def mappings (table : PublishedPorts) : List (Port × Port) :=
  table.hosts.entries

/-- Whether nothing is published. -/
def isEmpty (table : PublishedPorts) : Bool :=
  table.hosts.isEmpty

end PublishedPorts

/-- A port more in a list, unless it is there. -/
def addPort (ports : List Port) (port : Port) : List Port :=
  if ports.contains port then ports else ports ++ [port]

/-- Records the mappings of a service; the container ports are given back, each once. -/
def publishAll (service : String) (table : PublishedPorts) (ports : List Port) :
    List PortMapping → Except Refusal (List Port × PublishedPorts)
  | [] => .ok (ports, table)
  | mapping :: rest =>
    match table.publish service mapping with
    | .error refusal => .error refusal
    | .ok (port, table) => publishAll service table (addPort ports port) rest

end ComposeCluster.Compose

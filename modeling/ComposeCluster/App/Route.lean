import ComposeCluster.App.Basic
import ComposeCluster.Compose.Port
import ComposeCluster.Text.Blank

/-!
# Routes

A rule of an app names a published port that is to be reached from outside. A route is a rule that
has been checked against the ports that are really published and against the other rules
(`Route.resolve`): it knows the container port behind it. The name of a rule becomes the name of a
port of the service, so rules that lead to one container port have to agree on it; the hosts of an
app are its own, so none may be below the domain of the cluster, where hosts are generated.
-/

set_option autoImplicit false

namespace ComposeCluster

/-- A checked rule: the published port, the container port behind it, and the hosts that lead
there. -/
structure Route where
  name : String
  port : Port
  targetPort : Port
  hosts : List String
  deriving DecidableEq

namespace Route

/-- The longest name of a port. -/
def maxNameLength : Nat := 15

/-- Whether a character is a small letter. -/
def isLower (c : Char) : Bool := 'a' ≤ c && c ≤ 'z'

/-- Whether a character may occur in the name of a port. -/
def isNameChar (c : Char) : Bool :=
  isLower c || ('0' ≤ c && c ≤ '9') || c == '-'

/-- Whether a text is the name of a port: small letters, digits and hyphens, the first of them a
letter. -/
def isName (name : String) : Bool :=
  name.utf8ByteSize ≤ maxNameLength && name.toList.head?.any isLower &&
    name.toList.all isNameChar

/-- Checks the name of a rule. -/
def checkName (name : String) : Except Refusal Unit :=
  if isName name then .ok () else .error (.ruleName name)

/-- Whether a host is a domain or below it, in capitals or not. -/
def isUnder (domain host : String) : Bool :=
  let domain := Text.asciiLower domain
  let host := Text.asciiLower host
  host == domain || Text.endsWith ("." ++ domain) host

/-- The route among several that a host leads to. -/
def ofHost? (routes : List Route) (host : String) : Option Route :=
  routes.find? (·.hosts.contains host)

/-- Adds a host to a route, unless it is below the domain or leads to this route or an earlier
one already. -/
def addHost (domain? : Option String) (earlier : List Route) (route : Route) (host : String) :
    Except Refusal Route :=
  match domain?.filter (isUnder · host) with
  | some domain => .error (.hostUnderDomain host domain)
  | none =>
    match ofHost? (earlier ++ [route]) host with
    | some owner => .error (.hostTwice host owner.name route.name)
    | none => .ok { route with hosts := route.hosts ++ [host] }

/-- The hosts of a rule without blanks around them, as far as anything is left. -/
def hostsOf (rule : AppRule) : List String :=
  (rule.hosts.map Text.trim).filter fun host => !host.isEmpty

/-- Checks a rule after earlier ones, without its hosts. -/
def withoutHosts (ports : Compose.PublishedPorts) (earlier : List Route) (rule : AppRule) :
    Except Refusal Route := do
  checkName rule.name
  if earlier.any (·.port == rule.port) then .error (.rulePortTwice rule.port)
  match ports.targetOf? rule.port with
  | none => .error (.rulePortUnknown rule.port)
  | some targetPort =>
    match (earlier.find? (·.targetPort == targetPort)).filter (·.name != rule.name) with
    | some first => .error (.rulePortNames targetPort first.name rule.name)
    | none => return ⟨rule.name, rule.port, targetPort, []⟩

/-- The route for a rule after earlier ones. -/
def ofRule (ports : Compose.PublishedPorts) (domain? : Option String) (earlier : List Route)
    (rule : AppRule) : Except Refusal Route := do
  (hostsOf rule).foldlM (addHost domain? earlier) (← withoutHosts ports earlier rule)

/-- The routes for rules, in their order. -/
def resolve (ports : Compose.PublishedPorts) (domain? : Option String) (rules : List AppRule) :
    Except Refusal (List Route) :=
  rules.foldlM (fun earlier rule => return earlier ++ [← ofRule ports domain? earlier rule]) []

end Route

end ComposeCluster

import ClusterWait.Cluster.Objects
import ClusterWait.Platform
import ClusterWait.Text.Quoted
import ClusterWait.Url

/-! # What the cluster says about its infrastructure

The one infrastructure object of a cluster names its platform, its unique name and the address of
its interface. Each is read afresh from the object; what is missing or malformed in it is an
`InfrastructureError`.

* `Infrastructure.platform`, `Infrastructure.uniqueName`, `hostAndPort`: what an object says.
* `resolvePlatform`, `infrastructureName`, `controlPlaneAddress`: what the cluster says. -/

namespace ClusterWait

/-- **Why the infrastructure does not tell** what is asked. -/
inductive InfrastructureError where
  | request (cause : RequestError)
  | missingPlatformStatus
  | missingName
  | invalidUrl (url : String) (cause : UrlError)
  | missingHost (url : String)
  | missingPort (url host : String)
deriving DecidableEq

def InfrastructureError.message : InfrastructureError → String
  | .request e => e.message
  | .missingPlatformStatus => "platform status is not populated in infrastructure object"
  | .missingName => "infrastructure name is empty in infrastructure status"
  | .invalidUrl url e =>
    "failed to parse the API server URL " ++ Text.quoted url ++ ": " ++ e.message
  | .missingHost url => "API server URL " ++ Text.quoted url ++ " has no host"
  | .missingPort url host =>
    "API server URL " ++ Text.quoted url ++ " has no port (host " ++ host ++ ")"

namespace Infrastructure

def globalName : String := "cluster"

/-- **The platform** that an object reports. -/
def platform (x : Infrastructure) : Except InfrastructureError Platform :=
  match x.status.bind (·.platformStatus) with
  | none => .error .missingPlatformStatus
  | some p => .ok (.ofName p.type)

/-- **The name** that an object reports, which is not empty. -/
def uniqueName (x : Infrastructure) : Except InfrastructureError String :=
  match (x.status.map (·.infrastructureName)).filter (· ≠ "") with
  | none => .error .missingName
  | some name => .ok name

end Infrastructure

/-- **The host and the port of an address.** -/
def hostAndPort (url : String) : Except InfrastructureError (String × Nat) :=
  match Url.read url with
  | .error e => .error (.invalidUrl url e)
  | .ok u => match u.host with
    | none => .error (.missingHost url)
    | some host => match u.port with
      | none => .error (.missingPort url host)
      | some port => .ok (host, port)

/-- The host and the port of the cluster's interface, by an object. -/
def Infrastructure.address (x : Infrastructure) : Except InfrastructureError (String × Nat) :=
  hostAndPort ((x.status.map (·.apiServerURL)).getD "")

variable {τ : Type}

def getInfrastructure (service : Service τ) :
    Act (Traffic τ) (Except InfrastructureError Infrastructure) := do
  pure ((← Infrastructure.api.get service Infrastructure.globalName).mapError .request)

/-- **The platform** of the cluster. -/
def resolvePlatform (service : Service τ) :
    Act (Traffic τ) (Except InfrastructureError Platform) := do
  pure ((← getInfrastructure service).bind Infrastructure.platform)

/-- **The unique name** of the cluster. -/
def infrastructureName (service : Service τ) :
    Act (Traffic τ) (Except InfrastructureError String) := do
  pure ((← getInfrastructure service).bind Infrastructure.uniqueName)

/-- **The host and the port** of the cluster's interface. -/
def controlPlaneAddress (service : Service τ) :
    Act (Traffic τ) (Except InfrastructureError (String × Nat)) := do
  pure ((← getInfrastructure service).bind Infrastructure.address)

end ClusterWait

import ClusterWait.Dictionary
import ClusterWait.Text.Decimal

/-! # Settings: what the environment says

* `Timeouts`: how often and how long the waits try, in milliseconds.
* `Settings.ofEnvironment`: the settings of an environment. A variable that is set counts, even when
  it is empty; one that is not set has a default. Of several variables that cannot be read the first
  in the order of the settings is told.
* `Settings.variableNames`: the names of the variables.
* `Settings.outputDirectory`: where results are put. -/

namespace ClusterWait

/-- **How often and how long the waits try,** in milliseconds. -/
structure Timeouts where
  retryShort : Nat := 1000
  retryMedium : Nat := 5000
  waitShort : Nat := 60000
  waitMedium : Nat := 180000
  waitOverMedium : Nat := 300000
  waitLong : Nat := 900000
  waitOverLong : Nat := 1800000
  nodesReady : Nat := 600000
deriving Repr, DecidableEq

/-- **The settings of a run.** Times are in seconds. -/
structure Settings where
  machineNamespace : String := "openshift-machine-api"
  clusterNamespace : String := "openshift-cluster-api"
  retryShort : Nat := 1
  retryMedium : Nat := 5
  waitShort : Nat := 60
  waitMedium : Nat := 180
  waitOverMedium : Nat := 300
  waitLong : Nat := 900
  waitOverLong : Nat := 1800
  nodesReady : Nat := 600
  openshiftCI : String := ""
  artifactDirectory : Option String := none
deriving Repr, DecidableEq

structure SettingsError where
  name : String
deriving Repr, DecidableEq

def SettingsError.message (e : SettingsError) : String :=
  "Failed to parse environment variable " ++ e.name

namespace Settings

/-- The variables that are read, in the order of the settings. -/
def variableNames : List String := [
  "E2E_MACHINE_API_NAMESPACE", "E2E_CLUSTER_API_NAMESPACE", "E2E_RETRY_SHORT_SECS",
  "E2E_RETRY_MEDIUM_SECS", "E2E_WAIT_SHORT_SECS", "E2E_WAIT_MEDIUM_SECS",
  "E2E_WAIT_OVER_MEDIUM_SECS", "E2E_WAIT_LONG_SECS", "E2E_WAIT_OVER_LONG_SECS",
  "E2E_NODES_READY_SECS", "OPENSHIFT_CI", "ARTIFACT_DIR"]

def text (env : Dictionary String) (name default : String) : String := (env.get? name).getD default

def number (env : Dictionary String) (name : String) (default : Nat) : Except SettingsError Nat :=
  match env.get? name with
  | none => .ok default
  | some s => match Text.Decimal.read? (Nat.pow 2 64) s with
    | none => .error ⟨name⟩
    | some n => .ok n

/-- **The settings of an environment.** -/
def ofEnvironment (env : Dictionary String) : Except SettingsError Settings := do
  let retryShort ← number env "E2E_RETRY_SHORT_SECS" 1
  let retryMedium ← number env "E2E_RETRY_MEDIUM_SECS" 5
  let waitShort ← number env "E2E_WAIT_SHORT_SECS" 60
  let waitMedium ← number env "E2E_WAIT_MEDIUM_SECS" 180
  let waitOverMedium ← number env "E2E_WAIT_OVER_MEDIUM_SECS" 300
  let waitLong ← number env "E2E_WAIT_LONG_SECS" 900
  let waitOverLong ← number env "E2E_WAIT_OVER_LONG_SECS" 1800
  let nodesReady ← number env "E2E_NODES_READY_SECS" 600
  pure {
    machineNamespace := text env "E2E_MACHINE_API_NAMESPACE" "openshift-machine-api"
    clusterNamespace := text env "E2E_CLUSTER_API_NAMESPACE" "openshift-cluster-api"
    retryShort, retryMedium, waitShort, waitMedium, waitOverMedium, waitLong, waitOverLong
    nodesReady
    openshiftCI := text env "OPENSHIFT_CI" ""
    artifactDirectory := env.get? "ARTIFACT_DIR" }

def timeouts (s : Settings) : Timeouts where
  retryShort := 1000 * s.retryShort
  retryMedium := 1000 * s.retryMedium
  waitShort := 1000 * s.waitShort
  waitMedium := 1000 * s.waitMedium
  waitOverMedium := 1000 * s.waitOverMedium
  waitLong := 1000 * s.waitLong
  waitOverLong := 1000 * s.waitOverLong
  nodesReady := 1000 * s.nodesReady

/-- The run is one of the integration service's: its variable says so and there is a directory for
the results. -/
def isOpenshiftCI (s : Settings) : Bool :=
  s.openshiftCI == "true" && s.artifactDirectory.any (· ≠ "")

def join (directory component : String) : String :=
  if directory.toList.getLast? = some '/' then directory ++ component
  else directory ++ "/" ++ component

/-- **Where results are put:** a directory of their own among the integration service's, else one in
the working directory. -/
def outputDirectory (s : Settings) (workingDirectory : String) : String :=
  match s.artifactDirectory with
  | some d => if s.isOpenshiftCI then join d "machine-api-e2e-suite" else join workingDirectory "_out"
  | none => join workingDirectory "_out"

end Settings

end ClusterWait

import ClusterWait.Api.Script
import ClusterWait.Cluster.Preflight
import ClusterWait.Json.Parser

/-! # The preflight as a program

The script of a cluster is read from the standard input and the settings from the environment. The
program tells how the preflight of that cluster ends; its exit code is 0 if the cluster is fit. -/

namespace ClusterWait

/-- What is told about the provider of a suite. -/
def Suite.remark (suite : Suite) : String :=
  match suite.provider with
  | .ok p => "provider-specific checks available provider=" ++ Text.quoted p.name
  | .error e => "no provider-specific checks for this platform error=" ++ e.message

/-- The lines that are told, or the failure. -/
def Script.preflight (settings : Settings) (script : Json) : Except String (List String) :=
  let (c, time) := Timeline.start.background
  match ClusterWait.preflight service settings c (opening (ofJson script) time) with
  | none => .error "Error: the script does not let the preflight end"
  | some (.error e, _) => .error e.report
  | some (.ok (suite, count), _) => .ok [suite.remark,
      "preflight passed machine_sets=" ++ Text.Decimal.render count]

def Script.program (environment : Dictionary String) (input : String) :
    Except String (List String) :=
  match Settings.ofEnvironment environment, Json.parse? input with
  | .error e, _ => .error
      ("Error: reading suite configuration\n\nCaused by:\n    " ++ e.message)
  | .ok _, none => .error "Error: the script is not a document"
  | .ok settings, some script => Script.preflight settings script

end ClusterWait

open ClusterWait in
def main : IO UInt32 := do
  let found ← Settings.variableNames.filterMapM fun name => do
    pure ((← IO.getEnv name).map fun value => (name, value))
  let input ← (← IO.getStdin).readToEnd
  match Script.program (.ofList found) input with
  | .ok lines =>
    lines.forM fun line => IO.println line
    pure 0
  | .error text =>
    IO.eprintln text
    pure 1

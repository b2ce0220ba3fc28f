import ClusterWait.Api.Service
import ClusterWait.Json.Printer

/-! # Scripted services

A *script* lists the answers of each route. They are given in order, the last again and again; a
route without answers does not exist.

* `Script.service`: the service of a script, whose states are the answers that are still to come.
* `Script.ofJson`: the script in a document, an object of routes with lists of answers.
* `Script.opening`: the run that a script begins. -/

namespace ClusterWait

/-- **The answer in a document:** a connection that fails with the text `fail`, else an answer of the
code `status` with the text `raw`, else one with the document `body`. -/
def Reply.ofJson (document : Json) : Reply :=
  let delay := ((document.get? "delay_ms").bind Json.nat?).getD 0
  let status := ((document.get? "status").bind Json.nat?).getD 200
  match document.get? "fail", document.get? "raw" with
  | some (.str text), _ => ⟨delay, .failure text⟩
  | _, some (.str text) => ⟨delay, .response status (.ofText text)⟩
  | _, _ =>
    let body := (document.get? "body").getD .null
    ⟨delay, .response status (.ofText body.render)⟩

namespace Script

/-- The answers that are still to come, by route. -/
abbrev Routes := Dictionary (List Reply)

def ofJson : Json → Routes
  | .obj fields => .ofList (fields.map fun f => (f.1, match f.2 with
      | .arr replies => replies.map Reply.ofJson
      | _ => []))
  | _ => .empty

/-- The answer to a request that nothing was scripted for. -/
def noRoute : Reply := ⟨0, .response 404 (.ofText (Json.render (.obj [
  ("apiVersion", .str "v1"), ("code", .ofNat 404), ("kind", .str "Status"),
  ("message", .str "no such route"), ("metadata", .obj []), ("reason", .str "NotFound"),
  ("status", .str "Failure")])))⟩

/-- **The service of a script.** -/
def service : Service Routes where
  reply request routes :=
    match routes.get? request.route with
    | none | some [] => (noRoute, routes)
    | some [last] => (last, routes)
    | some (next :: rest) => (next, routes.insert request.route rest)

/-- **The run that a script begins.** An endless wait is granted an attempt for each answer and two
more: by then every route gives its last answer. -/
def opening (routes : Routes) (time : Timeline) : Run (Traffic Routes) :=
  ⟨time, routes.entries.foldl (fun n route => n + route.2.length) 2, ⟨routes, []⟩⟩

end Script

end ClusterWait

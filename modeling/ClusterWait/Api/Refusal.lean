import ClusterWait.Json.Parser
import ClusterWait.Resource.Shape
import ClusterWait.Text.Quoted

/-! # Answers of the cluster's interface

* `Body`: the text of an answer with the draft that it is, if it is one.
* `Refusal`: a request that the interface turned down, with a code and a reason.
* `Refusal.isNotFound`: what was asked for does not exist. The reason tells; a code without it does
  not.
* `Reply`: an answer with the time it took. -/

namespace ClusterWait

/-- **The text of an answer** with the draft of the document that it is. -/
structure Body where
  text : String
  draft : Option Json

def Body.ofText (text : String) : Body := ⟨text, (Json.draft text).toOption⟩

structure ListMeta where
  cont : Option String := none
  remainingItemCount : Option Int := none
  resourceVersion : Option String := none
  selfLink : Option String := none
deriving DecidableEq

namespace ListMeta

/-- The record in a document, a lenient one. -/
def decode : Decoder ListMeta := Decoder.object fun fs => do
  let cont ← Decoder.text.lenient "continue" fs
  let remainingItemCount ← (Decoder.int 64).lenient "remainingItemCount" fs
  let resourceVersion ← Decoder.text.lenient "resourceVersion" fs
  let selfLink ← Decoder.text.lenient "selfLink" fs
  pure { cont, remainingItemCount, resourceVersion, selfLink }

def shown (m : ListMeta) : String :=
  let text (s : Option String) := Text.optional (s.map Text.quoted)
  let count := Text.optional (m.remainingItemCount.map toString)
  "ListMeta \x7b continue_: " ++ text m.cont ++ ", remaining_item_count: " ++ count
    ++ ", resource_version: " ++ text m.resourceVersion ++ ", self_link: " ++ text m.selfLink
    ++ " \x7d"

end ListMeta

structure RefusalCause where
  reason : String := ""
  message : String := ""
  field : String := ""
deriving DecidableEq

namespace RefusalCause

def decode : Decoder RefusalCause := fun j => do
  let m ← Members.of? ["reason", "message", "field"] j
  let reason ← m.withDefault "reason" "" Decoder.text
  let message ← m.withDefault "message" "" Decoder.text
  let field ← m.withDefault "field" "" Decoder.text
  pure { reason, message, field }

def shown (c : RefusalCause) : String :=
  "StatusCause \x7b reason: " ++ Text.quoted c.reason ++ ", message: " ++ Text.quoted c.message
    ++ ", field: " ++ Text.quoted c.field ++ " \x7d"

end RefusalCause

structure RefusalDetails where
  name : String := ""
  group : String := ""
  kind : String := ""
  uid : String := ""
  causes : List RefusalCause := []
  retryAfterSeconds : Nat := 0
deriving DecidableEq

namespace RefusalDetails

def decode : Decoder RefusalDetails := fun j => do
  let m ← Members.of? ["name", "group", "kind", "uid", "causes", "retryAfterSeconds"] j
  let name ← m.withDefault "name" "" Decoder.text
  let group ← m.withDefault "group" "" Decoder.text
  let kind ← m.withDefault "kind" "" Decoder.text
  let uid ← m.withDefault "uid" "" Decoder.text
  let causes ← m.withDefault "causes" [] RefusalCause.decode.list
  let retryAfterSeconds ← m.withDefault "retryAfterSeconds" 0 (Decoder.unsigned 32)
  pure { name, group, kind, uid, causes, retryAfterSeconds }

def shown (d : RefusalDetails) : String :=
  "StatusDetails \x7b name: " ++ Text.quoted d.name ++ ", group: " ++ Text.quoted d.group
    ++ ", kind: " ++ Text.quoted d.kind ++ ", uid: " ++ Text.quoted d.uid
    ++ ", causes: [" ++ ", ".intercalate (d.causes.map RefusalCause.shown)
    ++ "], retry_after_seconds: " ++ Text.Decimal.render d.retryAfterSeconds ++ " \x7d"

end RefusalDetails

inductive Summary where
  | success
  | failure
deriving Repr, DecidableEq

namespace Summary

def name : Summary → String
  | .success => "Success"
  | .failure => "Failure"

def decode : Decoder Summary := fun j => j.choice?.bind fun word =>
  [Summary.success, .failure].find? (·.name = word)

end Summary

/-- **A request that was turned down.** -/
structure Refusal where
  status : Option Summary := none
  code : Nat := 0
  message : String := ""
  metadata : Option ListMeta := none
  reason : String := ""
  details : Option RefusalDetails := none
deriving DecidableEq

namespace Refusal

def decode : Decoder Refusal := fun j => do
  let m ← Members.of? ["status", "code", "message", "metadata", "reason", "details"] j
  let status ← m.orAbsent "status" Summary.decode
  let code ← m.withDefault "code" 0 (Decoder.unsigned 16)
  let message ← m.withDefault "message" "" Decoder.text
  let metadata ← m.orAbsent "metadata" ListMeta.decode
  let reason ← m.withDefault "reason" "" Decoder.text
  let details ← m.orAbsent "details" RefusalDetails.decode
  pure { status, code, message, metadata, reason, details }

def shape : Shape :=
  let cause : Shape := .strict 0 [("reason", .text), ("message", .text), ("field", .text)]
  let details : Shape := .strict 0 [("name", .text), ("group", .text), ("kind", .text),
    ("uid", .text), ("causes", .list cause), ("retryAfterSeconds", .unsigned 32)]
  .strict 0 [("status", .nullable (.choice ["Success", "Failure"])), ("code", .unsigned 16),
    ("message", .text), ("metadata", .nullable .listMeta), ("reason", .text),
    ("details", .nullable details)]

/-- **The refusal of an answer with an error code.** A body that is no refusal is taken for the
message. -/
def ofBody (status : Nat) (body : Body) : Refusal :=
  (body.draft.bind decode).getD {
    status := some .failure
    code := status
    message := body.text
    reason := "Failed to parse error data" }

/-- **What was asked for does not exist:** the reason tells, whatever the code. -/
def isNotFound (r : Refusal) : Bool := r.reason == "NotFound"

/-- The refusal in a message, all of it. -/
def shown (r : Refusal) : String :=
  "Status \x7b status: " ++ Text.optional (r.status.map Summary.name)
    ++ ", code: " ++ Text.Decimal.render r.code ++ ", message: " ++ Text.quoted r.message
    ++ ", metadata: " ++ Text.optional (r.metadata.map ListMeta.shown)
    ++ ", reason: " ++ Text.quoted r.reason
    ++ ", details: " ++ Text.optional (r.details.map RefusalDetails.shown) ++ " \x7d"

def text (r : Refusal) : String :=
  "ApiError: " ++ r.message ++ ": " ++ r.reason ++ " (" ++ r.shown ++ ")"

end Refusal

/-- An answer: a code with a body, or the failure of the connection. -/
inductive Answer where
  | response (code : Nat) (body : Body)
  | failure (text : String)

/-- **An answer with the time it took.** -/
structure Reply where
  delay : Nat
  answer : Answer

end ClusterWait

import ClusterWait.Api.Refusal
import ClusterWait.Api.Request
import ClusterWait.Wait.Poll

/-! # The cluster's interface as a service

A *service* answers requests and may change with every one of them; nothing else is assumed. A run
keeps the state of the service and the requests that were sent, the last first.

* `Service.send`: sends a request that can be sent, and lets the time pass that the answer takes.
* `Api`: the objects of one kind in one place, with `list`, `get`, `find`, `create`, `delete`.
* `RequestError`: how a request fails. -/

namespace ClusterWait

/-- **A service,** with the states that it goes through. -/
structure Service (τ : Type) where
  reply : Request → τ → Reply × τ

/-- A request and the instant at which it was sent. -/
structure Sent where
  instant : Nat
  request : Request
deriving DecidableEq

/-- The state of a service and the requests that it was sent, the last first. -/
structure Traffic (τ : Type) where
  state : τ
  sent : List Sent

/-- **How a request fails:** it is turned down, the connection fails, the answer cannot be read, or
the request cannot be sent. -/
inductive RequestError where
  | refused (refusal : Refusal)
  | transport (text : String)
  | unreadable
  | unsendable (cause : BuildError)
deriving DecidableEq

def RequestError.message : RequestError → String
  | .refused r => r.text
  | .transport text => "ServiceError: " ++ text
  | .unreadable => "Error deserializing response"
  | .unsendable e => "Failed to build request: " ++ e.message

namespace Service

variable {τ : Type}

/-- **Sends a request** and waits for its answer. -/
def send (service : Service τ) (request : Request) : Act (Traffic τ) Answer := fun r =>
  let (reply, state) := service.reply request r.world.state
  (reply.answer, { r with
    time := r.time.advance reply.delay
    world := { state, sent := ⟨r.time.now, request⟩ :: r.world.sent } })

/-- What a request comes to, when its answer is read by a decoder. -/
def readAnswer {α : Type} (decode : Decoder α) : Answer → Except RequestError α
  | .failure text => .error (.transport text)
  | .response code body =>
    if 400 ≤ code ∧ code < 600 then .error (.refused (.ofBody code body))
    else match body.draft.bind decode with
      | some v => .ok v
      | none => .error .unreadable

/-- Sends a request if it can be sent, and reads the answer. -/
def ask {α : Type} (service : Service τ) (request : Request) (decode : Decoder α) :
    Act (Traffic τ) (Except RequestError α) :=
  match request.check with
  | some e => pure (.error (.unsendable e))
  | none => do
    let answer ← service.send request
    pure (readAnswer decode answer)

end Service

/-- **The objects of one kind in one place,** with the way in which they are read. -/
structure Api (α : Type) where
  collection : Collection
  decode : Decoder α

structure Listing (α : Type) where
  metadata : ListMeta
  items : List α

/-- The list in a document; no items are none. What a list says besides has to be sound, as it is kept
until the kind of the list is known. -/
def Listing.decode {α : Type} (item : Decoder α) : Decoder (Listing α) := Decoder.object fun fs => do
  let m ← Members.of? ["metadata", "items"] (.obj fs)
  guard (fs.all fun f => f.1 == "metadata" || f.1 == "items" || f.2.isSound)
  let metadata ← m.withDefault "metadata" {} ListMeta.decode
  let items ← m.required "items" item.list.orNull
  pure { metadata, items := items.getD [] }

/-- What a deletion is answered with: a success on its own, or the object that goes. Which of them it
is can only be told of a document. -/
def decodeDeletion {α : Type} (object : Decoder α) : Decoder Unit := fun draft => do
  let document ← draft.settled?
  if document.get? "kind" = some (.str "Status") then (Refusal.decode draft).map fun _ => ()
  else (object draft).map fun _ => ()

namespace Api

variable {τ α : Type}

/-- The objects that a selector chooses, all when there is none or it says nothing. -/
def list (api : Api α) (service : Service τ) (selector : Option String) :
    Act (Traffic τ) (Except RequestError (List α)) := do
  let listing ← service.ask (.list api.collection (selector.filter (· ≠ "")))
    (Listing.decode api.decode)
  pure (listing.map (·.items))

def get (api : Api α) (service : Service τ) (name : String) :
    Act (Traffic τ) (Except RequestError α) :=
  service.ask (.get api.collection name) api.decode

/-- An object that does not exist is absent, which is no failure. -/
def presence : Except RequestError α → Except RequestError (Option α)
  | .ok v => .ok (some v)
  | .error (.refused r) => if r.isNotFound then .ok none else .error (.refused r)
  | .error e => .error e

/-- The object of a name, if it exists. -/
def find (api : Api α) (service : Service τ) (name : String) :
    Act (Traffic τ) (Except RequestError (Option α)) := do
  pure (presence (← api.get service name))

def create (api : Api α) (service : Service τ) (body : Json) :
    Act (Traffic τ) (Except RequestError α) :=
  service.ask (.create api.collection body) api.decode

def delete (api : Api α) (service : Service τ) (name : String) :
    Act (Traffic τ) (Except RequestError Unit) :=
  service.ask (.delete api.collection name) (decodeDeletion api.decode)

end Api

end ClusterWait

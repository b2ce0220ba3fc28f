import ClusterWait.Api.Refusal
import ClusterWait.Resource.Event
import ClusterWait.Text.Search

/-! # Lines: what an open answer tells, one document at a time

The cluster tells each change of its events by one line: a document with a tag and an object, written
as an object with these two members or as an array of both. The tag says what the object is: an event
that was added, modified or deleted, a bookmark of where the feed stands, or an error.

A line that ends too early tells nothing, and is passed over in silence as long as nothing before its
end is against what its tag demands. Any other line that is no such document is a failure.

* `Change`: the tag of a line. `Change.read`: what its object tells.
* `Line.Parts`: what the members of a line have said so far, in the order of the line.
* `Notice.read`: what a line tells. -/

namespace ClusterWait

/-- **What a line tells.** An event without a version, and an error that says that the feed's place is
forgotten, make the feed list anew. -/
inductive Notice where
  | applied (event : Event)
  | deleted (event : Event)
  | bookmark
  | lost
  | failure
  | silence
deriving DecidableEq

/-! ### Bookmarks -/

/-- **A bookmark:** where a feed stands. -/
structure Bookmark where
  resourceVersion : String
  annotations : Dictionary String
deriving DecidableEq

namespace Bookmark

def metadataShape : Shape :=
  .strict 1 [("resourceVersion", .text), ("annotations", .dictionary .text)]

def ofMetadata : Decoder Bookmark := fun j => do
  let m ← Members.of? ["resourceVersion", "annotations"] j
  let resourceVersion ← m.required "resourceVersion" Decoder.text
  let annotations ← m.withDefault "annotations" .empty Decoder.text.dictionary
  pure { resourceVersion, annotations }

/-- The bookmark in a document, which names its kind and version. What it says besides its metadata
has to be sound. -/
def decode : Decoder Bookmark := Decoder.object fun fs => do
  let m ← Members.of? ["metadata", "apiVersion", "kind"] (.obj fs)
  guard (fs.all fun f => f.1 == "metadata" || f.2.isSound)
  let _ ← m.required "apiVersion" Decoder.text
  let _ ← m.required "kind" Decoder.text
  m.required "metadata" ofMetadata

/-- Nothing in a fragment is against a bookmark. -/
def bears : Json.Fragment → Bool
  | .obj fields key last =>
    fields.all (fun f => if f.1 = "metadata" then metadataShape.accepts f.2 else f.2.isSound)
      && (Json.occurrences "metadata" fields).length + (if key = some "metadata" then 1 else 0) ≤ 1
      && (if key = some "metadata" then metadataShape.bears last else last.isSound)
  | f => f.isPlain

end Bookmark

/-! ### Changes -/

/-- **The tag of a line.** -/
inductive Change where
  | added
  | modified
  | deleted
  | bookmark
  | error
deriving Repr, DecidableEq

namespace Change

def name : Change → String
  | .added => "ADDED"
  | .modified => "MODIFIED"
  | .deleted => "DELETED"
  | .bookmark => "BOOKMARK"
  | .error => "ERROR"

def all : List Change := [.added, .modified, .deleted, .bookmark, .error]

def shape : Shape := .choice (all.map name)

def decode : Decoder Change := fun j => j.choice?.bind fun word => all.find? (·.name = word)

/-- The event says its version. -/
def versioned (e : Event) : Bool := e.metadata.resourceVersion.any (· ≠ "")

/-- What an event tells, by the way in which it is told. -/
def ofEvent (tell : Event → Notice) (e : Event) : Notice := if versioned e then tell e else .lost

/-- The code by which the cluster says that it has forgotten a feed's place. -/
def goneCode : Nat := 410

def ofRefusal (r : Refusal) : Notice := if r.code = goneCode then .lost else .failure

/-- **What the object of a line tells,** if it is what the tag says. -/
def read (change : Change) (object : Json) : Option Notice :=
  match change with
  | .added | .modified => (Event.decode object).map (ofEvent .applied)
  | .deleted => (Event.decode object).map (ofEvent .deleted)
  | .bookmark => (Bookmark.decode object).map fun _ => .bookmark
  | .error => (Refusal.decode object).map ofRefusal

/-- Nothing in a fragment is against what the tag says of the object. -/
def bears : Change → Json.Fragment → Bool
  | .added, f | .modified, f | .deleted, f => Event.shape.bears f
  | .bookmark, f => Bookmark.bears f
  | .error, f => Refusal.shape.bears f

end Change

/-! ### Lines -/

namespace Line

/-- **What the members of a line have said so far.** -/
structure Parts where
  change : Option Change := none
  object : Option Json := none

namespace Parts

/-- What they have said after one more member; nothing when it is against the others. An object that
comes before its tag has to be sound, as it is kept until the tag is known. -/
def take (p : Parts) (field : String × Json) : Option Parts :=
  if field.1 = "type" then
    match p.change, Change.decode field.2 with
    | none, some c =>
      if p.object.all fun o => (c.read o).isSome then some { p with change := some c } else none
    | _, _ => none
  else if field.1 = "object" then
    match p.object, p.change with
    | some _, _ => none
    | none, some c => if (c.read field.2).isSome then some { p with object := some field.2 } else none
    | none, none => if field.2.isSound then some { p with object := some field.2 } else none
  else some p

def ofFields (fields : List (String × Json)) : Option Parts := fields.foldlM take {}

/-- Nothing in the member that has begun is against the others. -/
def bears (p : Parts) (key : String) (last : Json.Fragment) : Bool :=
  if key = "type" then p.change.isNone && Change.shape.bears last
  else if key = "object" then
    p.object.isNone && (match p.change with
      | some c => c.bears last
      | none => last.isSound)
  else !last.inNumber

def notice (p : Parts) : Notice := ((p.change.bind fun c => p.object.bind c.read)).getD .failure

end Parts

def notice : Json → Notice
  | .obj fields => ((Parts.ofFields fields).map Parts.notice).getD .failure
  | .arr [tag, object] => ((Change.decode tag).bind (·.read object)).getD .failure
  | _ => .failure

/-- Nothing in a line that ends too early is against what it may become. -/
def bears : Json.Fragment → Bool
  | .obj fields key last => (Parts.ofFields fields).any fun p => key.all fun key => p.bears key last
  | .arr [] last => Change.shape.bears last
  | .arr [tag] last => (Change.decode tag).any (·.bears last)
  | .arr [tag, object] .between => ((Change.decode tag).bind (·.read object)).isSome
  | .arr .. => false
  | f => f.isPlain

end Line

/-- **What a line tells.** -/
def Notice.read (line : String) : Notice :=
  match Json.draft line with
  | .ok j => Line.notice j
  | .error .malformed => .failure
  | .error (.ended f) => if Line.bears f then .silence else .failure

def withoutReturn (line : List Char) : List Char :=
  if line.getLast? = some '\r' then line.dropLast else line

def linesOf (text : String) : List String :=
  ((Text.splitAll '\n' text.toList).map withoutReturn).map String.ofList

end ClusterWait

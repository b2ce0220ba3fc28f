import ClusterWait.Json.Fragment
import ClusterWait.Resource.Metadata

/-! # Shapes: what a document has to look like where its content does not matter

Nodes and events carry much that nothing here reads, but a document in which such a part has the
wrong type is refused all the same. A shape says which drafts are accepted. In a record unknown
members are ignored. A member of a `record` may be missing, or come more than once; a `strict` one says
how many of its first members have to be there, may be an array of its members, and has none twice.

A text that ends too early may have begun a document of the shape, or may hold something already that
no such document has.

* `Shape.lenient`: a record of which every member may be null.
* `Shape.accepts`: the draft has the shape.
* `Shape.bears`: nothing in a fragment is against the shape. -/

namespace ClusterWait

/-- **What a document has to look like.** A choice is one of some words, written as a text or as an
object with the word for its key and null for its value. -/
inductive Shape where
  | any
  | text
  | literal (value : String)
  | choice (words : List String)
  | flag
  | int (bits : Nat)
  | unsigned (bits : Nat)
  | quantity
  | time
  | nullable (value : Shape)
  | list (item : Shape)
  | dictionary (value : Shape)
  | record (members : List (String × Shape))
  | strict (needed : Nat) (members : List (String × Shape))

namespace Json

/-- The fragment is no part of a container, and may become a value of any type. -/
def Fragment.isPlain : Fragment → Bool
  | .unfit _ | .arr .. | .obj .. => false
  | _ => true

/-- The fragment may become a choice of the words. -/
def Fragment.bearsChoice (words : List String) : Fragment → Bool
  | .absent | .between | .text | .obj [] none _ => true
  | .obj [] (some key) last => words.contains key && last.isPlain
  | .obj [(key, .null)] none .between => words.contains key
  | _ => false

end Json

namespace Shape

open Json (Fragment)

mutual

/-- **The draft has the shape.** -/
def accepts : Shape → Json → Bool
  | .any, j => j.isSound
  | .text, j => j.text?.isSome
  | .literal value, j => j.text? == some value
  | .choice words, j => j.choice?.any words.contains
  | .flag, j => (Decoder.flag j).isSome
  | .int bits, j => (Decoder.int bits j).isSome
  | .unsigned bits, j => (Decoder.unsigned bits j).isSome
  | .quantity, j => j.text?.isSome || j.isNumber
  | .time, j => (Timestamp.decode j).isSome
  | .nullable value, j => j.isNull || accepts value j
  | .list item, .arr items => items.all (accepts item)
  | .list _, _ => false
  | .dictionary value, .obj fields => fields.all fun f => accepts value f.2
  | .dictionary _, _ => false
  | .record members, .obj fields => acceptsMembers members fields
  | .record _, _ => false
  | .strict needed members, .obj fields =>
    acceptsMembers members fields
      && (members.take needed).all (fun m => (Json.lookup m.1 fields).isSome)
      && members.all (fun m => (Json.occurrences m.1 fields).length ≤ 1)
  | .strict needed members, .arr items => needed ≤ items.length && acceptsItems members items
  | .strict .., _ => false

/-- Every member that is known has its shape. -/
def acceptsMembers : List (String × Shape) → List (String × Json) → Bool
  | [], _ => true
  | (key, shape) :: rest, fields =>
    (Json.occurrences key fields).all (accepts shape) && acceptsMembers rest fields

/-- The items of an array have the shapes of the first members. -/
def acceptsItems : List (String × Shape) → List Json → Bool
  | _, [] => true
  | [], _ :: _ => false
  | (_, shape) :: rest, item :: items => accepts shape item && acceptsItems rest items

end

mutual

/-- **Nothing in the fragment is against the shape.** -/
def bears : Shape → Fragment → Bool
  | .any, f => f.isSound
  | .choice words, f => f.bearsChoice words
  | .nullable _, .word .null => true
  | .nullable value, f => bears value f
  | .list item, .arr items last => items.all item.accepts && bears item last
  | .dictionary value, .obj fields key last =>
    fields.all (fun f => value.accepts f.2) && (key.isNone || bears value last)
  | .record members, .obj fields key last =>
    acceptsMembers members fields && bearsMember members key last
  | .strict _ members, .obj fields key last =>
    acceptsMembers members fields
      && members.all (fun m => (Json.occurrences m.1 fields).length
          + (if key = some m.1 then 1 else 0) ≤ 1)
      && bearsMember members key last
  | .strict _ members, .arr items last => bearsItems members items last
  | _, f => f.isPlain

/-- Nothing in the member that has begun is against its shape. In one that is ignored only numbers are
looked at: there an incomplete one is a fault. -/
def bearsMember : List (String × Shape) → (key : Option String) → Fragment → Bool
  | _, none, _ => true
  | [], some _, last => !last.inNumber
  | (name, shape) :: rest, some key, last =>
    if name = key then bears shape last else bearsMember rest (some key) last

/-- The items of an array have the shapes of the first members, and nothing in the next one is against
its shape. After the last member there is no other. -/
def bearsItems : List (String × Shape) → List Json → Fragment → Bool
  | (_, shape) :: rest, item :: items, last => shape.accepts item && bearsItems rest items last
  | (_, shape) :: _, [], last => bears shape last
  | [], [], .between => true
  | [], _, _ => false

end

/-! ### Lenient records -/

/-- **A record of which every member may be null.** -/
def lenient (members : List (String × Shape)) : Shape :=
  .record (members.map fun m => (m.1, .nullable m.2))

/-- An object that may name its kind and version, and is a lenient record besides. -/
def object (version kind : String) (members : List (String × Shape)) : Shape :=
  .record (("apiVersion", .literal version) :: ("kind", .literal kind)
    :: members.map fun m => (m.1, .nullable m.2))

def texts (keys : List String) : Shape := lenient (keys.map fun k => (k, .text))

def objectReference : Shape :=
  texts ["apiVersion", "fieldPath", "kind", "name", "namespace", "resourceVersion", "uid"]

def taint : Shape := lenient [
  ("effect", .text), ("key", .text), ("timeAdded", .time), ("value", .text)]

def objectMeta : Shape := lenient [
  ("annotations", .dictionary .text), ("creationTimestamp", .time),
  ("deletionGracePeriodSeconds", .int 64), ("deletionTimestamp", .time),
  ("finalizers", .list .text), ("generateName", .text), ("generation", .int 64),
  ("labels", .dictionary .text),
  ("managedFields", .list (lenient [("apiVersion", .text), ("fieldsType", .text), ("fieldsV1", .any),
    ("manager", .text), ("operation", .text), ("subresource", .text), ("time", .time)])),
  ("name", .text), ("namespace", .text),
  ("ownerReferences", .list (lenient [("apiVersion", .text), ("blockOwnerDeletion", .flag),
    ("controller", .flag), ("kind", .text), ("name", .text), ("uid", .text)])),
  ("resourceVersion", .text), ("selfLink", .text), ("uid", .text)]

def listMeta : Shape := lenient [
  ("continue", .text), ("remainingItemCount", .int 64), ("resourceVersion", .text),
  ("selfLink", .text)]

end Shape

end ClusterWait

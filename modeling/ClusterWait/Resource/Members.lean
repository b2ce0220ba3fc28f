import ClusterWait.Dictionary
import ClusterWait.Json.Basic

/-! # Reading records from documents

A *decoder* turns a document, or the draft of one, into a value or refuses it. Two kinds of record
occur.

* A *strict* record is written as an object, of which unknown members are ignored and no known one
  comes twice, or as an array of its members in the order of declaration. A member with a default may
  be missing, at the end in the array form, but is not null; a member that may be absent may also be
  null.
* A *lenient* record is written as an object only, and each of its members may be missing or null. Of
  several members with one key each has to be in order and the last counts.

`Members` is the written form of a strict record, with `required`, `withDefault`, `orAbsent` and
`nullable` for its members; `lenient` reads a member of a lenient record. -/

namespace ClusterWait

/-- **A decoder:** the value of a draft, if it is one of the type. -/
abbrev Decoder (α : Type) := Json → Option α

namespace Decoder

def text : Decoder String := Json.text?

def flag : Decoder Bool
  | .bool b => some b
  | _ => none

/-- An integer of the given number of bits, with sign. -/
def int (bits : Nat) : Decoder Int := fun j =>
  j.int?.filter fun n => -(Nat.pow 2 (bits - 1) : Int) ≤ n ∧ n < Nat.pow 2 (bits - 1)

def unsigned (bits : Nat) : Decoder Nat := fun j =>
  (j.int?.bind Int.toNat?).filter (· < Nat.pow 2 bits)

def any : Decoder Json := Json.settled?

/-- A list, each item by the given decoder. -/
def list {α : Type} (item : Decoder α) : Decoder (List α)
  | .arr items => items.mapM item
  | _ => none

/-- A dictionary, each value by the given decoder. -/
def dictionary {α : Type} (value : Decoder α) : Decoder (Dictionary α)
  | .obj fields => (fields.mapM fun f => (value f.2).map fun v => (f.1, v)).map Dictionary.ofList
  | _ => none

/-- A value that may be null, which is its absence. -/
def orNull {α : Type} (value : Decoder α) : Decoder (Option α)
  | .null => some none
  | v => (value v).map some

/-- A member of a lenient record: absent when missing or null. -/
def lenient {α : Type} (value : Decoder α) (key : String) (fields : List (String × Json)) :
    Option (Option α) :=
  ((Json.occurrences key fields).mapM value.orNull).map fun found => found.getLast?.join

def object {α : Type} (read : List (String × Json) → Option α) : Decoder α
  | .obj fields => read fields
  | _ => none

end Decoder

/-- **The written form of a strict record:** its members by name, as an object has them or as their
positions in an array say. -/
structure Members where
  fields : List (String × Json)
  byPosition : Bool

namespace Members

/-- The members of a document that is a strict record with the given keys. -/
def of? (keys : List String) : Json → Option Members
  | .obj fields =>
    if keys.all fun key => (Json.occurrences key fields).length ≤ 1 then some ⟨fields, false⟩
    else none
  | .arr items => if items.length ≤ keys.length then some ⟨keys.zip items, true⟩ else none
  | _ => none

variable {α : Type}

def required (m : Members) (key : String) (value : Decoder α) : Option α :=
  (Json.lookup key m.fields).bind value

def withDefault (m : Members) (key : String) (default : α) (value : Decoder α) : Option α :=
  match Json.lookup key m.fields with
  | none => some default
  | some v => value v

def orAbsent (m : Members) (key : String) (value : Decoder α) : Option (Option α) :=
  m.withDefault key none value.orNull

/-- A member that may be null, and may be missing from an object but not from an array. -/
def nullable (m : Members) (key : String) (value : Decoder α) : Option (Option α) :=
  if m.byPosition then m.required key value.orNull else m.orAbsent key value

end Members

/-! ### Writing -/

namespace Json

def ofLabels (labels : Dictionary String) : Json :=
  .obj (labels.entries.map fun e => (e.1, .str e.2))

end Json

end ClusterWait

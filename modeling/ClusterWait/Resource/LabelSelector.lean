import ClusterWait.Resource.Members

/-! # Label selectors

A selector chooses objects by their labels: each of its labels has to be there with its value, and
each of its requirements has to hold.

* `LabelSelector.render`: the selector as a list of conditions separated by commas, the labels first
  in ascending order of the key, as requests for lists carry it.
* `LabelSelector.selects`: the objects that a selector chooses. -/

namespace ClusterWait

structure LabelRequirement where
  key : String
  operator : String
  values : Option (List String)
deriving DecidableEq

namespace LabelRequirement

/-- The requirement in a document, a lenient record. -/
def decode : Decoder LabelRequirement := Decoder.object fun fs => do
  let key ← Decoder.text.lenient "key" fs
  let operator ← Decoder.text.lenient "operator" fs
  let values ← (Decoder.text.list).lenient "values" fs
  pure { key := key.getD "", operator := operator.getD "", values }

def encode (r : LabelRequirement) : Json := .ofFields [
  ("key", some (.str r.key)),
  ("operator", some (.str r.operator)),
  ("values", r.values.map Json.ofTexts)]

def listed (r : LabelRequirement) : String :=
  "(" ++ ",".intercalate (r.values.getD []) ++ ")"

/-- **The condition in words:** membership, absence from a list, presence, absence, or any other
operator by its name. -/
def render (r : LabelRequirement) : String :=
  if r.operator = "In" then r.key ++ " in " ++ r.listed
  else if r.operator = "NotIn" then r.key ++ " notin " ++ r.listed
  else if r.operator = "Exists" then r.key
  else if r.operator = "DoesNotExist" then "!" ++ r.key
  else r.key ++ " " ++ r.operator ++ " " ++ r.listed

/-- The requirement holds of an object with the given labels; one with another operator never
does. -/
def holds (r : LabelRequirement) (labels : Dictionary String) : Bool :=
  if r.operator = "In" then (labels.get? r.key).any (r.values.getD []).contains
  else if r.operator = "NotIn" then !(labels.get? r.key).any (r.values.getD []).contains
  else if r.operator = "Exists" then (labels.get? r.key).isSome
  else if r.operator = "DoesNotExist" then (labels.get? r.key).isNone
  else false

end LabelRequirement

/-- **A selector.** -/
structure LabelSelector where
  matchExpressions : Option (List LabelRequirement) := none
  matchLabels : Option (Dictionary String) := none
deriving DecidableEq

namespace LabelSelector

/-- The selector in a document, a lenient record. -/
def decode : Decoder LabelSelector := Decoder.object fun fs => do
  let matchExpressions ← (LabelRequirement.decode.list).lenient "matchExpressions" fs
  let matchLabels ← (Decoder.text.dictionary).lenient "matchLabels" fs
  pure { matchExpressions, matchLabels }

def encode (s : LabelSelector) : Json := .ofFields [
  ("matchExpressions", s.matchExpressions.map fun rs => .arr (rs.map LabelRequirement.encode)),
  ("matchLabels", s.matchLabels.map Json.ofLabels)]

/-- The labels of a selector with their values, ascending by key. -/
def labels (s : LabelSelector) : List (String × String) :=
  (s.matchLabels.map (·.entries)).getD []

def requirements (s : LabelSelector) : List LabelRequirement := s.matchExpressions.getD []

/-- The conditions of a selector in words, in order. -/
def conditions (s : LabelSelector) : List String :=
  s.labels.map (fun l => l.1 ++ "=" ++ l.2) ++ s.requirements.map LabelRequirement.render

/-- **The selector in words.** -/
def render (s : LabelSelector) : String := ",".intercalate s.conditions

/-- **The selector chooses an object with the given labels.** -/
def selects (s : LabelSelector) (labels : Dictionary String) : Bool :=
  s.labels.all (fun l => labels.get? l.1 == some l.2) && s.requirements.all (·.holds labels)

end LabelSelector

end ClusterWait

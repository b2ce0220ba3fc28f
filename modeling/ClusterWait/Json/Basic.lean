/-! # Documents: values of the data format of the cluster's interface

A text is read in two steps. The *draft* of a text keeps what it says: every member of an object in
the order of the text, also when a key comes twice, and parts that are written correctly but stand
for no value (`Json.unfit`). Records are read from drafts, because a part that nobody asks for may
stand for nothing. A *settled* document has no unfit part, and its members are in ascending order of
the key, each key once, so that equal documents are equal values.

* `Number`: an integer of at most 64 bits, or a float by its shortest decimal.
* `Json`: a document or the draft of one. `Json.settled?`: the document of a draft.
* `Json.get?`: the member of a key. `Json.set?`: the object with one member replaced or added.
* `Json.pointer?`: the value at a path of keys and array positions. -/

namespace ClusterWait

namespace Json

/-- **A number of a document:** an integer, or a float that is worth `digits * 10 ^ exponent`, where
the digits are the fewest that read back as the same float. -/
inductive Number where
  | int (value : Int)
  | float (negative : Bool) (digits : Nat) (exponent : Int)
deriving Repr, DecidableEq

end Json

/-- **A document,** or the draft of one. What is `unfit` is written correctly but stands for nothing:
a number that is too large, a text with half of a pair of units, what nests too deep. -/
inductive Json where
  | null
  | bool (value : Bool)
  | num (value : Json.Number)
  | str (text : String)
  | arr (items : List Json)
  | obj (fields : List (String × Json))
  | unfit
deriving Repr

namespace Json

mutual

def same : Json → Json → Bool
  | .null, .null => true
  | .bool a, .bool b => a == b
  | .num a, .num b => a == b
  | .str a, .str b => a == b
  | .arr a, .arr b => sameItems a b
  | .obj a, .obj b => sameFields a b
  | .unfit, .unfit => true
  | _, _ => false

def sameItems : List Json → List Json → Bool
  | [], [] => true
  | a :: as, b :: bs => same a b && sameItems as bs
  | _, _ => false

def sameFields : List (String × Json) → List (String × Json) → Bool
  | [], [] => true
  | (k, a) :: as, (l, b) :: bs => k == l && same a b && sameFields as bs
  | _, _ => false

end

mutual

theorem same_iff : ∀ a b : Json, same a b = true ↔ a = b
  | .null, b => by cases b <;> simp [same]
  | .bool _, b => by cases b <;> simp [same]
  | .num _, b => by cases b <;> simp [same]
  | .str _, b => by cases b <;> simp [same]
  | .arr as, b => by cases b <;> simp [same, sameItems_iff as]
  | .obj as, b => by cases b <;> simp [same, sameFields_iff as]
  | .unfit, b => by cases b <;> simp [same]

theorem sameItems_iff : ∀ as bs : List Json, sameItems as bs = true ↔ as = bs
  | [], bs => by cases bs <;> simp [sameItems]
  | a :: as, bs => by cases bs <;> simp [sameItems, same_iff a, sameItems_iff as]

theorem sameFields_iff : ∀ as bs : List (String × Json), sameFields as bs = true ↔ as = bs
  | [], bs => by cases bs <;> simp [sameFields]
  | (k, a) :: as, bs => by
    cases bs <;> simp [sameFields, same_iff a, sameFields_iff as, Prod.ext_iff]

end

instance : DecidableEq Json := fun a b => decidable_of_iff _ (same_iff a b)

instance : Inhabited Json := ⟨.null⟩

def lookup (key : String) : List (String × Json) → Option Json
  | [] => none
  | (k, v) :: rest => if k = key then some v else lookup key rest

/-- The values of all members with the key. -/
def occurrences (key : String) : List (String × Json) → List Json
  | [] => []
  | (k, v) :: rest => if k = key then v :: occurrences key rest else occurrences key rest

/-- **The member of a key,** of an object that has it. -/
def get? (key : String) : Json → Option Json
  | .obj fields => lookup key fields
  | _ => none

/-- The members with the given one in the place of its key: replaced where the key stands, else
before the first greater key. -/
def insert (key : String) (value : Json) : List (String × Json) → List (String × Json)
  | [] => [(key, value)]
  | (k, v) :: rest =>
    if key < k then (key, value) :: (k, v) :: rest
    else if key = k then (key, value) :: rest
    else (k, v) :: insert key value rest

/-! ### Settling -/

mutual

/-- **The document of a draft,** if no part of the draft is unfit. Of several members with one key
the last counts. -/
def settled? : Json → Option Json
  | .unfit => none
  | .arr items => (settledItems? items).map .arr
  | .obj fields => (settledFields? [] fields).map .obj
  | document => some document

def settledItems? : List Json → Option (List Json)
  | [] => some []
  | item :: rest => match settled? item with
    | none => none
    | some item => (settledItems? rest).map (item :: ·)

/-- Members that are settled already, and after them the members of a draft. -/
def settledFields? (done : List (String × Json)) :
    List (String × Json) → Option (List (String × Json))
  | [] => some done
  | (key, value) :: rest => match settled? value with
    | none => none
    | some value => settledFields? (insert key value done) rest

end

/-- The draft stands for a document. -/
def isSound (draft : Json) : Bool := draft.settled?.isSome

/-! ### Access -/

/-- The object with one member replaced or added; nothing for other documents. -/
def set? (document : Json) (key : String) (value : Json) : Option Json :=
  match document with
  | .obj fields => some (.obj (insert key value fields))
  | _ => none

def text? : Json → Option String
  | .str s => some s
  | _ => none

def int? : Json → Option Int
  | .num (.int n) => some n
  | _ => none

/-- A document that is an integer not below zero. -/
def nat? (document : Json) : Option Nat :=
  document.int?.bind fun n => if 0 ≤ n then some n.toNat else none

def isNull : Json → Bool
  | .null => true
  | _ => false

/-- A number, integer or not. -/
def isNumber : Json → Bool
  | .num _ => true
  | _ => false

/-- The word of a choice: a text, or an object with the word for its one key and null for its
value. -/
def choice? : Json → Option String
  | .str word => some word
  | .obj [(word, .null)] => some word
  | _ => none

/-- The number of an array position as a path writes it: digits without a leading zero. -/
def position? (step : List Char) : Option Nat :=
  match step with
  | [] => none
  | ['0'] => some 0
  | '0' :: _ => none
  | cs => if cs.all (fun c => 48 ≤ c.toNat && c.toNat ≤ 57)
      then some (cs.foldl (fun n c => 10 * n + (c.toNat - 48)) 0) else none

/-- The child that one step of a path leads to. -/
def child? (step : List Char) : Json → Option Json
  | .obj fields => lookup (String.ofList step) fields
  | .arr items => (position? step).bind fun i => items[i]?
  | _ => none

/-- A step of a path with its escapes undone: `~1` stands for the slash and `~0` for the tilde. -/
def unescapeStep : List Char → List Char
  | '~' :: '1' :: rest => '/' :: unescapeStep rest
  | '~' :: '0' :: rest => '~' :: unescapeStep rest
  | c :: rest => c :: unescapeStep rest
  | [] => []

/-- The steps of a path, which begins with a slash; the empty path has none. -/
def steps? : List Char → Option (List (List Char))
  | [] => some []
  | '/' :: rest => some (split rest)
  | _ => none
where
  split : List Char → List (List Char)
    | [] => [[]]
    | '/' :: rest => [] :: split rest
    | c :: rest => match split rest with
      | [] => [[c]]
      | piece :: more => (c :: piece) :: more

/-- **The value at a path** such as `/spec/versions/0/name`. -/
def pointer? (path : String) (document : Json) : Option Json :=
  (steps? path.toList).bind fun steps =>
    steps.foldl (fun found step => found.bind (child? (unescapeStep step))) (some document)

def ofFields (fields : List (String × Option Json)) : Json :=
  .obj (fields.filterMap fun f => f.2.map fun v => (f.1, v))

def ofInt (n : Int) : Json := .num (.int n)

def ofNat (n : Nat) : Json := .num (.int n)

def ofTexts (texts : List String) : Json := .arr (texts.map .str)

/-- A text that may be absent, null in its absence. -/
def ofText? : Option String → Json
  | none => .null
  | some s => .str s

end Json

end ClusterWait

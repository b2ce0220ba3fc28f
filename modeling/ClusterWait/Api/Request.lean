import ClusterWait.Json.Parser
import ClusterWait.Json.Printer
import ClusterWait.Text.Search
import ClusterWait.Text.Utf8
import ClusterWait.Url

/-! # Requests to the cluster's interface

* `Collection`: the objects of one kind, in the whole cluster or in a namespace.
* `Request`: list, get, create or delete.
* `Request.target`: the request's path and query in one text. Names and namespaces stand in it as
  they are, so that a mark of theirs may end the path early; the selector of a list is escaped.
* `Request.check`: why a request cannot be sent. -/

namespace ClusterWait

/-- **The objects of one kind,** in the whole cluster or in a namespace. -/
structure Collection where
  root : String
  inNamespace : Option String
  plural : String
deriving Repr, DecidableEq

def Collection.path (c : Collection) : String :=
  match c.inNamespace with
  | none => c.root ++ "/" ++ c.plural
  | some ns => c.root ++ "/namespaces/" ++ ns ++ "/" ++ c.plural

/-- **A request.** -/
inductive Request where
  | list (collection : Collection) (selector : Option String)
  | get (collection : Collection) (name : String)
  | create (collection : Collection) (body : Json)
  | delete (collection : Collection) (name : String)
deriving DecidableEq

inductive BuildError where
  | emptyName
  | badTarget (cause : UrlError)
deriving Repr, DecidableEq

def BuildError.message : BuildError → String
  | .emptyName => "failed to validate request: A non-empty name is required"
  | .badTarget e => "failed to build request: " ++ e.message

/-! ### Forms: the written pairs of a query -/

namespace Form

def hexDigit (n : Nat) : Char := if n < 10 then Char.ofNat (48 + n) else Char.ofNat (55 + n)

def isPlain (b : UInt8) : Bool :=
  Url.isAlphanumeric (Char.ofNat b.toNat) || b == 42 || b == 45 || b == 46 || b == 95

def escapeByte (b : UInt8) : List Char :=
  if b == 32 then ['+']
  else if isPlain b then [Char.ofNat b.toNat]
  else ['%', hexDigit (b.toNat / 16), hexDigit (b.toNat % 16)]

/-- **The written form of a text.** -/
def escape (s : String) : List Char := s.toUTF8.data.toList.flatMap escapeByte

def hexValue? (c : Char) : Option Nat :=
  let n := c.toNat
  if 48 ≤ n ∧ n ≤ 57 then some (n - 48)
  else if 97 ≤ n ∧ n ≤ 102 then some (n - 87)
  else if 65 ≤ n ∧ n ≤ 70 then some (n - 55)
  else none

/-- The bytes that a written text stands for. -/
def unescape : List Char → List UInt8
  | [] => []
  | '+' :: rest => 32 :: unescape rest
  | '%' :: a :: b :: rest => match hexValue? a, hexValue? b with
    | some x, some y => UInt8.ofNat (16 * x + y) :: unescape rest
    | _, _ => 37 :: unescape (a :: b :: rest)
  | c :: rest => (String.singleton c).toUTF8.data.toList ++ unescape rest

/-- The text that a written text stands for. -/
def decode (cs : List Char) : String := String.ofList (Text.Utf8.decode (unescape cs))

/-- **The pairs of a query.** -/
def pairs (query : List Char) : List (String × String) :=
  ((Text.splitAll '&' query).filter (!·.isEmpty)).map fun piece =>
    match Text.splitOnce '=' piece with
    | none => (decode piece, "")
    | some (k, v) => (decode k, decode v)

end Form

namespace Request

def verb : Request → String
  | .list .. | .get .. => "GET"
  | .create .. => "POST"
  | .delete .. => "DELETE"

/-- **The path and the query of a request in one text.** -/
def target : Request → List Char
  | .list c none => (c.path ++ "?").toList
  | .list c (some selector) => (c.path ++ "?labelSelector=").toList ++ Form.escape selector
  | .get c name => (c.path ++ "/" ++ name).toList
  | .create c _ => (c.path ++ "?").toList
  | .delete c name => (c.path ++ "/" ++ name ++ "?").toList

/-- The name that a request is about, if it is about one object. -/
def name? : Request → Option String
  | .get _ name | .delete _ name => some name
  | _ => none

/-- **Why a request cannot be sent,** if so. -/
def check (r : Request) : Option BuildError :=
  if r.name? = some "" then some .emptyName
  else match Url.readTarget r.target with
    | .error e => some (.badTarget e)
    | .ok _ => none

def path (r : Request) : String :=
  match Url.readTarget r.target with
  | .ok (p, _) => String.ofList p
  | .error _ => String.ofList r.target

def query (r : Request) : List (String × String) :=
  match Url.readTarget r.target with
  | .ok (_, q) => Form.pairs q
  | .error _ => []

def body? : Request → Option Json
  | .create _ body => some body
  | _ => none

/-- The document of a request as the service reads it: numbers that are no integers are read once
more. -/
def received? (r : Request) : Option Json := r.body?.bind fun body => Json.parse? body.render

/-- The word for what a request does and its path, by which scripted answers are found. -/
def route (r : Request) : String := r.verb ++ " " ++ r.path

end Request

end ClusterWait

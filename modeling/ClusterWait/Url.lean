import ClusterWait.Text.Decimal

/-! # Addresses

The address of a cluster's interface is read as a scheme, an authority and the rest; a request names
a path and a query. Only what is asked of an address is kept: its authority, from which host and port
are read.

* `Url.read`: the address of a text, or why it is none.
* `Url.readTarget`: the path and the query of a request.
* `Url.host`, `Url.port`.

In the authority the marks are counted from left to right (`Marks`): a bracket may open and close
once, at most eight colons stand in a row of characters without a closing bracket or an at sign, and
a percent sign has to be followed by one of those two. -/

namespace ClusterWait

inductive UrlError where
  | empty
  | tooLong
  | invalidCharacter
  | schemeTooLong
  | invalidAuthority
  | invalidFormat
deriving Repr, DecidableEq

def UrlError.message : UrlError → String
  | .empty => "empty string"
  | .tooLong => "uri too long"
  | .invalidCharacter => "invalid uri character"
  | .schemeTooLong => "scheme too long"
  | .invalidAuthority => "invalid authority"
  | .invalidFormat => "invalid format"

/-- **An address,** by its authority; a path alone has none. -/
structure Url where
  authority : Option (List Char)
deriving Repr, DecidableEq

namespace Url

def isAlphanumeric (c : Char) : Bool :=
  (48 ≤ c.toNat && c.toNat ≤ 57) || (65 ≤ c.toNat && c.toNat ≤ 90)
    || (97 ≤ c.toNat && c.toNat ≤ 122)

/-! ### The rest after the authority -/

def isForeign (c : Char) : Bool := 0x80 ≤ c.toNat

def isPathChar (c : Char) : Bool :=
  let n := c.toNat
  n = 0x21 || (0x24 ≤ n && n ≤ 0x3B) || n = 0x3D || (0x40 ≤ n && n ≤ 0x5F)
    || (0x61 ≤ n && n ≤ 0x7A) || n = 0x7C || n = 0x7E || n = 0x22 || n = 0x7B || n = 0x7D || isForeign c

def isQueryChar (c : Char) : Bool :=
  let n := c.toNat
  n = 0x21 || (0x24 ≤ n && n ≤ 0x3B) || n = 0x3D || (0x3F ≤ n && n ≤ 0x7E) || isForeign c

def readQuery : List Char → Except UrlError (List Char)
  | [] => .ok []
  | c :: rest =>
    if c = '#' then .ok []
    else if isQueryChar c then (readQuery rest).map (c :: ·)
    else .error .invalidCharacter

/-- **The path and the query of a request;** a fragment is dropped. -/
def readTarget : List Char → Except UrlError (List Char × List Char)
  | [] => .ok ([], [])
  | c :: rest =>
    if c = '?' then (readQuery rest).map fun q => ([], q)
    else if c = '#' then .ok ([], [])
    else if isPathChar c then (readTarget rest).map fun p => (c :: p.1, p.2)
    else .error .invalidCharacter

/-! ### The authority -/

/-- A character that an authority may hold, the percent sign apart. -/
def isAuthorityChar (c : Char) : Bool :=
  isAlphanumeric c || ['!', '$', '&', '\x27', '(', ')', '*', '+', ',', '-', '.', ':', ';', '=', '@',
    '[', ']', '_', '~'].contains c

/-- **The marks of an authority** that were read so far. -/
structure Marks where
  colons : Nat := 0
  opened : Bool := false
  closed : Bool := false
  percent : Bool := false
  lastIsAt : Bool := false
deriving Repr, DecidableEq

def Marks.step (m : Marks) (c : Char) : Except UrlError Marks :=
  let m := { m with lastIsAt := c = '@' }
  if c = ':' then
    if 8 ≤ m.colons then .error .invalidAuthority else .ok { m with colons := m.colons + 1 }
  else if c = '[' then
    if m.percent || m.opened then .error .invalidAuthority else .ok { m with opened := true }
  else if c = ']' then
    if !m.opened || m.closed then .error .invalidAuthority
    else .ok { m with closed := true, colons := 0, percent := false }
  else if c = '@' then .ok { m with colons := 0, percent := false }
  else if c = '%' then .ok { m with percent := true }
  else if isAuthorityChar c then .ok m
  else .error .invalidCharacter

def Marks.balanced (m : Marks) : Bool :=
  m.opened == m.closed && m.colons ≤ 1 && !m.lastIsAt && !m.percent

def endsAuthority (c : Char) : Bool := c = '/' || c = '?' || c = '#'

def readMarks (m : Marks) : List Char → Except UrlError Marks
  | [] => .ok m
  | c :: rest => if endsAuthority c then .ok m else
    match m.step c with
    | .error e => .error e
    | .ok m => readMarks m rest

def readAuthority (cs : List Char) : Except UrlError (List Char × List Char) :=
  if cs.isEmpty then .error .empty
  else match readMarks {} cs with
    | .error e => .error e
    | .ok m =>
      if m.balanced then .ok (cs.takeWhile (!endsAuthority ·), cs.dropWhile (!endsAuthority ·))
      else .error .invalidAuthority

/-! ### The scheme -/

def isSchemeChar (c : Char) : Bool := isAlphanumeric c || ['+', '-', '.', '~'].contains c

/-- The text after its scheme, when it has one. -/
def afterScheme (cs : List Char) : Except UrlError (Option (List Char)) :=
  if cs.length ≤ 3 then .ok none
  else
    let scheme := cs.takeWhile isSchemeChar
    match cs.dropWhile isSchemeChar with
    | ':' :: '/' :: '/' :: rest => if 64 < scheme.length then .error .schemeTooLong else .ok (some rest)
    | _ => .ok none

/-! ### The whole -/

def maxLength : Nat := 65534

/-- An address that does not begin with a slash and has more than one character. -/
def readFull (cs : List Char) : Except UrlError Url := do
  match ← afterScheme cs with
  | none =>
    let (authority, rest) ← readAuthority cs
    if rest.isEmpty then pure ⟨some authority⟩ else throw .invalidFormat
  | some cs =>
    let (authority, rest) ← readAuthority cs
    if authority.isEmpty then throw .invalidFormat
    let _ ← readTarget rest
    pure ⟨some authority⟩

/-- **The address of a text.** -/
def read (s : String) : Except UrlError Url :=
  if maxLength < s.utf8ByteSize then .error .tooLong
  else match s.toList with
    | [] => .error .empty
    | ['/'] | ['*'] => .ok ⟨none⟩
    | [c] => do
      let (authority, rest) ← readAuthority [c]
      if rest.isEmpty then pure ⟨some authority⟩ else throw .invalidCharacter
    | '/' :: rest => (readTarget ('/' :: rest)).map fun _ => ⟨none⟩
    | cs => readFull cs

/-- What follows the last occurrence of a character, or the whole when there is none. -/
def afterLast (mark : Char) (cs : List Char) : List Char :=
  (cs.reverse.takeWhile (· ≠ mark)).reverse

/-- **The host:** what follows the last at sign, up to the colon before the port; an address in
brackets keeps them. -/
def host (u : Url) : Option String := u.authority.map fun a =>
  let hostPort := afterLast '@' a
  match hostPort with
  | '[' :: _ => String.ofList (hostPort.takeWhile (· ≠ ']') ++ [']'])
  | _ => String.ofList (hostPort.takeWhile (· ≠ ':'))

/-- **The port:** the number after the last colon. -/
def port (u : Url) : Option Nat := u.authority.bind fun a =>
  if a.contains ':' then Text.Decimal.read? 65536 (String.ofList (afterLast ':' a)) else none

end Url

end ClusterWait

/-! # Reading bytes as characters

The bytes of a text are read in the encoding of one to four bytes a character. Bytes that are no text
are replaced: each longest beginning of a character that is not complete, and each byte that begins
none, by one replacement character.

* `Text.Utf8.Pending`: a character of which some bytes are missing, with the range of the next one.
* `Text.Utf8.decode`: the characters of some bytes. -/

namespace ClusterWait.Text.Utf8

def replacement : Char := '\ufffd'

/-- **A character that is not complete:** its bits so far, the range of the next byte, and how many
bytes are missing. -/
structure Pending where
  bits : Nat
  least : Nat
  greatest : Nat
  missing : Nat
deriving Repr, DecidableEq

/-- What the first byte of a character makes: the characters that are complete, and the one that is
not. The second byte is kept from forms that are too long, from halves of pairs and from what lies
beyond the last character. -/
def first (b : Nat) : List Char × Option Pending :=
  if b < 0x80 then ([Char.ofNat b], none)
  else if b < 0xC2 then ([replacement], none)
  else if b < 0xE0 then ([], some ⟨b - 0xC0, 0x80, 0xBF, 1⟩)
  else if b = 0xE0 then ([], some ⟨0, 0xA0, 0xBF, 2⟩)
  else if b = 0xED then ([], some ⟨0xD, 0x80, 0x9F, 2⟩)
  else if b < 0xF0 then ([], some ⟨b - 0xE0, 0x80, 0xBF, 2⟩)
  else if b = 0xF0 then ([], some ⟨0, 0x90, 0xBF, 3⟩)
  else if b < 0xF4 then ([], some ⟨b - 0xF0, 0x80, 0xBF, 3⟩)
  else if b = 0xF4 then ([], some ⟨4, 0x80, 0x8F, 3⟩)
  else ([replacement], none)

def next (pending : Option Pending) (b : Nat) : List Char × Option Pending :=
  match pending with
  | none => first b
  | some p =>
    if p.least ≤ b ∧ b ≤ p.greatest then
      let bits := p.bits * 64 + (b - 0x80)
      if p.missing = 1 then ([Char.ofNat bits], none) else ([], some ⟨bits, 0x80, 0xBF, p.missing - 1⟩)
    else
      let (cs, q) := first b
      (replacement :: cs, q)

/-- The characters of the bytes that follow a character that is not complete, if there is one. -/
def decodeFrom (pending : Option Pending) : List UInt8 → List Char
  | [] => if pending.isSome then [replacement] else []
  | b :: rest =>
    let (cs, pending) := next pending b.toNat
    cs ++ decodeFrom pending rest

/-- **The characters of some bytes.** -/
def decode (bytes : List UInt8) : List Char := decodeFrom none bytes

end ClusterWait.Text.Utf8

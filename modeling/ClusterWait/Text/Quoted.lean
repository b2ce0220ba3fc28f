import ClusterWait.Text.Shown

/-! # Quoted text: how messages show a text that may hold anything

A message shows a name, a URL or a body between double quotes, with every character that would
not be seen replaced by an escape.

* `escape`: the written form of one character. The quote and the backslash get a backslash; the
  line feed, the carriage return, the tab and the null have letters of their own; every other
  character that is not shown is written by its code point in lower-case hexadecimal.
* `quoted`: a text between quotes.
* `quotedList`, `optional`: a list of texts in brackets, and a value that may be absent. -/

namespace ClusterWait.Text

/-- A digit of a number in base 16, lower case. -/
def hexDigit (n : Nat) : Char :=
  if n < 10 then Char.ofNat (48 + n) else Char.ofNat (87 + n)

def hexadecimal (n : Nat) : List Char :=
  if n < 16 then [hexDigit n] else hexadecimal (n / 16) ++ [hexDigit (n % 16)]
termination_by n
decreasing_by omega

def escape (c : Char) : List Char :=
  if c = '"' then ['\\', '"']
  else if c = '\\' then ['\\', '\\']
  else if c = '\n' then ['\\', 'n']
  else if c = '\r' then ['\\', 'r']
  else if c = '\t' then ['\\', 't']
  else if c.toNat = 0 then ['\\', '0']
  else if isShown c then [c]
  else ['\\', 'u', '\x7b'] ++ hexadecimal c.toNat ++ ['\x7d']

/-- **A text between quotes,** every character in its written form. -/
def quoted (s : String) : String :=
  String.ofList ('"' :: s.toList.flatMap escape ++ ['"'])

/-- Quoted texts between brackets, separated by commas. -/
def quotedList (texts : List String) : String :=
  "[" ++ ", ".intercalate (texts.map quoted) ++ "]"

/-- A value that may be absent, by the word for either case. -/
def optional : Option String → String
  | none => "None"
  | some s => "Some(" ++ s ++ ")"

end ClusterWait.Text

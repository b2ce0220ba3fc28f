/-! # Finding a text inside another

Prefixes, infixes and splitting, on the characters of a text. -/

namespace ClusterWait.Text

def startsWith (s start : String) : Bool :=
  start.toList.isPrefixOf s.toList

/-- One list of characters occurs in the other without a gap. -/
def occursIn (part : List Char) : List Char → Bool
  | [] => part.isEmpty
  | c :: rest => part.isPrefixOf (c :: rest) || occursIn part rest

def contains (s part : String) : Bool :=
  occursIn part.toList s.toList

/-- The characters before the first separator and those after it; nothing when there is none. -/
def splitOnce (sep : Char) : List Char → Option (List Char × List Char)
  | [] => none
  | c :: rest => if c = sep then some ([], rest) else (splitOnce sep rest).map fun p => (c :: p.1, p.2)

/-- The pieces between the separators, always at least one. -/
def splitAll (sep : Char) : List Char → List (List Char)
  | [] => [[]]
  | c :: rest =>
    if c = sep then [] :: splitAll sep rest
    else match splitAll sep rest with
      | [] => [[c]]
      | piece :: more => (c :: piece) :: more

end ClusterWait.Text

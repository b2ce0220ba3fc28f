import ClusterWait.Json.Basic

/-! # Texts that end too early

A text may end before the document that it begins is complete, as a line does that was cut off on
its way. A *fragment* is what is there: the complete parts, and inside them on the way to the end the
one part that is not complete.

* `Json.Fragment`: what a text that ends too early has begun.
* `Json.Stop`: why reading stops, at something that no document has in its place, or at the end. -/

namespace ClusterWait.Json

/-- **What a text that ends too early has begun.** -/
inductive Fragment where
  /-- Nothing, where a value or a key has to follow. -/
  | absent
  /-- Nothing, where a container may go on or end. -/
  | between
  /-- A text without its closing quote. -/
  | text
  /-- The beginning of a word, with the value that the word stands for. -/
  | word (value : Json)
  /-- A number that lacks digits. -/
  | number
  /-- Something that stands for nothing already, perhaps with an incomplete number at its end. -/
  | unfit (inNumber : Bool)
  /-- An array: its complete items, and what follows them. -/
  | arr (items : List Json) (last : Fragment)
  /-- An object: its complete members, the key after them if it is complete, and what follows. -/
  | obj (fields : List (String × Json)) (key : Option String) (last : Fragment)
deriving Repr

/-- The text ends inside a number. -/
def Fragment.inNumber : Fragment → Bool
  | .number => true
  | .unfit inNumber => inNumber
  | .arr _ last => last.inNumber
  | .obj _ _ last => last.inNumber
  | _ => false

/-- The fragment may still become the draft of a document: no part of it is unfit. -/
def Fragment.isSound : Fragment → Bool
  | .unfit _ => false
  | .arr items last => items.all Json.isSound && last.isSound
  | .obj fields _ last => fields.all (fun f => f.2.isSound) && last.isSound
  | _ => true

/-- **Why reading stops.** -/
inductive Stop where
  | malformed
  | ended (fragment : Fragment)
deriving Repr

end ClusterWait.Json

import SparseFields.Number.Shortest
import SparseFields.Number.Width

/-!
# Paths of settings

A path leads from a table to a value in it: keys separated by `.`, and places in lists in square
brackets.
-/

namespace SparseFields

/-- One step of a path: to the value under a key, or to a place in a list, counted from its end if
negative. -/
inductive PathStep
  | key (name : String)
  | index (i : Int)
deriving DecidableEq, Repr

namespace PathStep

/-- The characters of keys. -/
def isKeyChar (c : Char) : Bool :=
  c.isAlphanum || c == ' ' || c == '_' || c == '-'

/-- Blanks around a number. -/
def isBlank (c : Char) : Bool :=
  c == ' ' || c == '\t'

/-- The number between square brackets, which must fit 64 bits. -/
def integer? (cs : List Char) : Option Int :=
  match ((cs.dropWhile isBlank).reverse.dropWhile isBlank).reverse with
  | '-' :: ds =>
      (Digits.toNat? ds).bind fun n => if n ≤ maxSigned 64 + 1 then some (-(n : Int)) else none
  | ds => (Digits.toNat? ds).bind fun n => if n ≤ maxSigned 64 then some (n : Int) else none

/-- What has been read of the step before the next character; the characters of a key or a number
stand in it backwards. -/
inductive Reading
  | key (letters : List Char)
  | index (digits : List Char)
  | closed
deriving DecidableEq, Repr

/-- The key that letters spell backwards. -/
def ofLetters (letters : List Char) : PathStep :=
  .key (String.ofList letters.reverse)

/-- Reads the steps of a path. -/
def read? : Reading → List Char → Option (List PathStep)
  | .key [], [] => none
  | .key letters, [] => some [ofLetters letters]
  | .index _, [] => none
  | .closed, [] => some []
  | .key letters, c :: cs =>
      if isKeyChar c then read? (.key (c :: letters)) cs
      else if letters.isEmpty then none
      else if c = '.' then (read? (.key []) cs).map (ofLetters letters :: ·)
      else if c = '[' then (read? (.index []) cs).map (ofLetters letters :: ·)
      else none
  | .index digits, c :: cs =>
      if c = ']' then
        match integer? digits.reverse with
        | some i => (read? .closed cs).map (PathStep.index i :: ·)
        | none => none
      else read? (.index (c :: digits)) cs
  | .closed, c :: cs =>
      if c = '.' then read? (.key []) cs
      else if c = '[' then read? (.index []) cs
      else none

end PathStep

/-- The steps of a written path; what is no path is a single key. -/
def pathOf (text : String) : List PathStep :=
  (PathStep.read? (.key []) text.toList).getD [.key text]

end SparseFields

/-!
# Errors of the fields syntax

What can be wrong with a written selection, where, and how it is reported.
-/

namespace SparseFields

/-- What is wrong with a written selection. -/
inductive SyntaxFault
  | emptyGroup
  | unmatchedClose
  | unmatchedOpen
  | leadingSeparator
  | invalidCharacter (character : Char)
  | malformedGroup
  | emptyField
  | nestingTooDeep (limit : Nat)
deriving DecidableEq, Repr

/-- A fault and its place, counted in characters of the trimmed text. -/
structure SyntaxError where
  fault : SyntaxFault
  position : Nat
deriving DecidableEq, Repr

/-- What is wrong, in words. -/
def SyntaxFault.description : SyntaxFault → String
  | .emptyGroup => "cannot take empty object ()"
  | .unmatchedClose => "has a ')' without a matching '('"
  | .unmatchedOpen => "must take entire pair of '()'"
  | .leadingSeparator => "cannot start with a ','"
  | .invalidCharacter character => "cannot contain character '" ++ String.singleton character ++ "'"
  | .malformedGroup => "format error"
  | .emptyField => "cannot end with an empty field"
  | .nestingTooDeep limit => "nests deeper than " ++ toString limit ++ " levels"

/-- The report of an error. -/
def SyntaxError.message (e : SyntaxError) : String :=
  "Fields parameter " ++ e.fault.description ++ " (position " ++ toString e.position ++ ")."

end SparseFields

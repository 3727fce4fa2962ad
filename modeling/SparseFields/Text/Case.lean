import SparseFields.Text.CaseTable

/-!
# Letter case

Upper and lower case of characters and texts, by the full case mappings: a character may map to
several, and a capital sigma at the end of a word has a lower case of its own.
-/

namespace SparseFields
namespace Text

/-- Whether one of some inclusive ranges holds a character. -/
def inRanges (ranges : List (Nat × Nat)) (c : Char) : Bool :=
  ranges.any fun range => range.1 ≤ c.toNat && c.toNat ≤ range.2

/-- The image of a code point under runs, if one holds it. -/
def imageInRuns? (runs : List (Nat × Nat × Nat × Nat)) (n : Nat) : Option Nat :=
  (runs.find? fun (first, last, step, _) => first ≤ n && n ≤ last && (n - first) % step == 0).map
    fun (first, _, _, image) => image + (n - first)

/-- The image of a character beyond ASCII under sequences and runs; the others stand for
themselves. -/
def image (sequences : List (Nat × List Nat)) (runs : List (Nat × Nat × Nat × Nat)) (c : Char) :
    List Char :=
  match sequences.find? fun entry => entry.1 == c.toNat with
  | some entry => entry.2.map Char.ofNat
  | none => [((imageInRuns? runs c.toNat).map Char.ofNat).getD c]

/-- Whether a character is in ASCII. -/
def isAscii (c : Char) : Bool :=
  c.toNat < 128

/-- The upper case of a character. -/
def upperChar (c : Char) : List Char :=
  if isAscii c then [c.toUpper] else image upperSequences upperRuns c

/-- The lower case of a character outside any context. -/
def lowerChar (c : Char) : List Char :=
  if isAscii c then [c.toLower] else image lowerSequences lowerRuns c

/-- The property `Cased`. -/
def isCased (c : Char) : Bool :=
  if isAscii c then c.isAlpha else inRanges casedRanges c

/-- The property `Case_Ignorable`. -/
def isCaseIgnorable (c : Char) : Bool :=
  inRanges caseIgnorableRanges c

/-- Whether the first character that is not ignored is cased. -/
def leadsToCased (cs : List Char) : Bool :=
  match cs.dropWhile isCaseIgnorable with
  | [] => false
  | c :: _ => isCased c

/-- The upper case of a text. -/
def upper (cs : List Char) : List Char :=
  cs.flatMap upperChar

/-- The lower case of a text that follows `before`, given backwards.  A capital sigma is final when
a cased character stands before it and none after it, ignored characters apart. -/
def lowerAfter (before : List Char) : List Char → List Char
  | [] => []
  | c :: rest =>
      (if c = 'Σ' then [if leadsToCased before && !leadsToCased rest then 'ς' else 'σ']
        else lowerChar c) ++ lowerAfter (c :: before) rest

/-- The lower case of a text. -/
def lower (cs : List Char) : List Char :=
  lowerAfter [] cs

/-- ASCII letters in lower case, and all else as it is. -/
def asciiLower (cs : List Char) : List Char :=
  cs.map Char.toLower

end Text
end SparseFields

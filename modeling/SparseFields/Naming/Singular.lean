import SparseFields.Text.Case

/-!
# Singular forms

The singular of a key in camel or snake case.  Only the last word of the key is inflected, by the
common rules of English spelling; words without a plural stay, and irregular plurals have their own
singular.
-/

namespace SparseFields
namespace Naming

/-- Words that are their own plural. -/
def uncountable : List (List Char) :=
  ["data", "equipment", "information", "metadata", "news", "series", "species"].map String.toList

/-- Irregular plurals with their singulars. -/
def irregular : List (List Char × List Char) :=
  [("people", "person"), ("children", "child"), ("men", "man"), ("women", "woman"),
    ("mice", "mouse"), ("feet", "foot"), ("teeth", "tooth"), ("geese", "goose")].map
    fun (plural, singular) => (plural.toList, singular.toList)

/-- Endings after which a plural adds `es`, with it. -/
def esEndings : List (List Char) :=
  ["sses", "xes", "ches", "shes", "zzes"].map String.toList

/-- Endings of singular words in `s`. -/
def singularEndings : List (List Char) :=
  ["ss", "us", "is"].map String.toList

/-- Whether a text ends with one of some endings. -/
def endsWithAny (endings : List (List Char)) (cs : List Char) : Bool :=
  endings.any fun ending => ending.isSuffixOf cs

/-- A text without its last characters. -/
def dropEnd (n : Nat) (cs : List Char) : List Char :=
  cs.take (cs.length - n)

/-- A word of ASCII letters with a capital in front. -/
def capitalised : List Char → List Char
  | [] => []
  | c :: rest => c.toUpper :: rest

/-- The singular of one word.  Endings are found in any case, and an irregular singular takes over a
capital at the front. -/
def singularWord (word : List Char) : List Char :=
  let lower := Text.asciiLower word
  if lower ∈ uncountable then word
  else
    match irregular.find? fun entry => entry.1 == lower with
    | some (_, singular) =>
        if (word.head?.map Char.isUpper).getD false then capitalised singular else singular
    | none =>
        if 3 < lower.length && endsWithAny [['i', 'e', 's']] lower then dropEnd 3 word ++ ['y']
        else if endsWithAny esEndings lower then dropEnd 2 word
        else if endsWithAny singularEndings lower then word
        else if 1 < lower.length && endsWithAny [['s']] lower then dropEnd 1 word
        else word

/-- Whether a text holds a place where a last word could begin: an ASCII capital or a `_`. -/
def hasBoundary (cs : List Char) : Bool :=
  cs.any fun c => c.isUpper || c == '_'

/-- What stands before the last word of a key, and that word: it begins at the last ASCII capital or
after the last `_`, whichever comes later. -/
def splitLastWord : List Char → List Char × List Char
  | [] => ([], [])
  | c :: rest =>
      if hasBoundary rest then
        let (before, last) := splitLastWord rest
        (c :: before, last)
      else if c = '_' then ([c], rest)
      else ([], c :: rest)

/-- The singular of a key. -/
def singularChars (key : List Char) : List Char :=
  let (before, last) := splitLastWord key
  before ++ singularWord last

/-- The singular of a key. -/
def singular (key : String) : String :=
  String.ofList (singularChars key.toList)

end Naming
end SparseFields

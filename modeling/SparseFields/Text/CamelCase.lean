import SparseFields.Text.Cluster

/-!
# Camel case

A text is split into words at `_`, `-` and blanks, which are dropped, and between characters where
the case changes or digits begin or end.  In camel case the first word is written in lower case and
every later one with its first character in upper case; the words are joined with nothing between
them.  Words may be empty and count all the same, so a text that starts with a separator is
capitalised.

The units of this are grapheme clusters: a letter with its marks is split off or tested as one.
-/

namespace SparseFields
namespace Text

/-- Whether a cluster has two cases and is in upper case. -/
def isUpper (cluster : Cluster) : Bool :=
  upper cluster != lower cluster && cluster == upper cluster

/-- Whether a cluster has two cases and is in lower case. -/
def isLower (cluster : Cluster) : Bool :=
  upper cluster != lower cluster && cluster == lower cluster

/-- Whether a cluster is an ASCII digit. -/
def isDigit (cluster : Cluster) : Bool :=
  cluster.all Char.isDigit

/-- Whether a cluster separates words and is dropped. -/
def isSeparator (cluster : Cluster) : Bool :=
  cluster == ['_'] || cluster == ['-'] || cluster == [' ']

/-- Whether a word ends between a cluster and what follows it: a lower-case letter before a capital
or a digit, a capital before a digit, a digit before a letter, or a capital before a capital that a
lower-case letter follows. -/
def endsWord (c : Cluster) : List Cluster → Bool
  | [] => false
  | next :: rest =>
      (isLower c && (isUpper next || isDigit next)) || (isUpper c && isDigit next) ||
        (isDigit c && (isLower next || isUpper next)) ||
        (isUpper c && isUpper next && (rest.head?.map isLower).getD false)

/-- The words of a text given in clusters, when `word` has been read of the first one. -/
def wordsFrom (word : List Char) : List Cluster → List (List Char)
  | [] => [word]
  | c :: rest =>
      if isSeparator c then word :: wordsFrom [] rest
      else if endsWord c rest then (word ++ c) :: wordsFrom [] rest
      else wordsFrom (word ++ c) rest

/-- The words of a text. -/
def words (cs : List Char) : List (List Char) :=
  wordsFrom [] (clusters cs)

/-- A word with its first character in upper case and the others in lower case. -/
def capitalise : List Char → List Char
  | [] => []
  | c :: rest => upperChar c ++ lower rest

/-- The camel case of a text. -/
def camelCase (cs : List Char) : List Char :=
  match words cs with
  | [] => []
  | first :: others => lower first ++ others.flatMap capitalise

end Text
end SparseFields

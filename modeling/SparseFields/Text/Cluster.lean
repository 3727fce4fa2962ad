import SparseFields.Text.Case
import SparseFields.Text.ClusterTable

/-!
# Grapheme clusters

A text is cut into extended grapheme clusters, the units that a reader takes for one character: a
letter with its marks, a syllable written out, consonants linked into one, a flag, or pictographs
joined by a joiner.  Whether two neighbours belong together depends on their classes and on a little
of what stands before them, which is kept while the text is read from the left.
-/

namespace SparseFields
namespace Text

/-- A character with all that belongs to it. -/
abbrev Cluster := List Char

/-- The classes of characters that decide where clusters end.  Linkers and the non-joiner extend the
character before them like all of `extend`, but differ in what they do to consonants. -/
inductive ClusterClass
  | other
  | control
  | carriageReturn
  | lineFeed
  | extend
  | linker
  | nonJoiner
  | joiner
  | spacing
  | prepended
  | regional
  | leading
  | vowel
  | trailing
  | openSyllable
  | closedSyllable
  | pictograph
  | consonant
deriving DecidableEq, Repr

namespace ClusterClass

/-- The class of a character in ASCII. -/
def ofAscii (c : Char) : ClusterClass :=
  if c = '\r' then .carriageReturn
  else if c = '\n' then .lineFeed
  else if c.toNat < 0x20 ∨ c.toNat = 0x7F then .control
  else .other

/-- The class of a character beyond ASCII.  Whole syllables are listed in a block of their own, in
which every one of 28 has no trailing consonant. -/
def ofWide (c : Char) : ClusterClass :=
  let n := c.toNat
  if n = 0x200C then .nonJoiner
  else if n = 0x200D then .joiner
  else if inRanges linkerRanges c then .linker
  else if inRanges extendRanges c then .extend
  else if inRanges spacingRanges c then .spacing
  else if inRanges controlRanges c then .control
  else if inRanges prependRanges c then .prepended
  else if 0x1F1E6 ≤ n ∧ n ≤ 0x1F1FF then .regional
  else if inRanges leadingRanges c then .leading
  else if inRanges vowelRanges c then .vowel
  else if inRanges trailingRanges c then .trailing
  else if 0xAC00 ≤ n ∧ n ≤ 0xD7A3 then
    if (n - 0xAC00) % 28 = 0 then .openSyllable else .closedSyllable
  else if inRanges pictographRanges c then .pictograph
  else if inRanges consonantRanges c then .consonant
  else .other

/-- The class of a character. -/
def ofChar (c : Char) : ClusterClass :=
  if isAscii c then ofAscii c else ofWide c

/-- Whether a character of this class stands alone. -/
def standsAlone : ClusterClass → Bool
  | .control | .carriageReturn | .lineFeed => true
  | _ => false

/-- Whether a character of this class extends the one before it, whatever that is. -/
def extendsLast : ClusterClass → Bool
  | .extend | .linker | .nonJoiner | .joiner | .spacing => true
  | _ => false

/-- Whether characters of these classes follow each other in a syllable written out. -/
def inSyllable : ClusterClass → ClusterClass → Bool
  | .leading, .leading | .leading, .vowel | .leading, .openSyllable | .leading, .closedSyllable
  | .openSyllable, .vowel | .openSyllable, .trailing | .vowel, .vowel | .vowel, .trailing
  | .closedSyllable, .trailing | .trailing, .trailing => true
  | _, _ => false

end ClusterClass

/-- What is due after some characters for a pair of equals to be connected: nothing so far, the
first of the pair with its marks, or that and what connects it to the next. -/
inductive Connection
  | none
  | begun
  | connected
deriving DecidableEq, Repr

/-- What is known of the characters before a place: the class of the last one, whether a consonant
or a pictograph is about to be connected to the next, and whether a regional indicator is without
its second half. -/
structure ClusterState where
  last : ClusterClass
  consonants : Connection
  pictographs : Connection
  unpaired : Bool
deriving DecidableEq, Repr

namespace ClusterState

/-- What is known at the start of a text. -/
def start : ClusterState := ⟨.control, .none, .none, false⟩

/-- What a character of a class does to consonants: a linker connects one to the next, and other
marks may stand between. -/
def linkConsonants (before : Connection) : ClusterClass → Connection
  | .consonant => .begun
  | .linker => if before = .none then .none else .connected
  | .extend | .joiner => before
  | _ => .none

/-- What a character of a class does to pictographs: a joiner directly after one and its marks
connects it to the next. -/
def joinPictographs (before : Connection) : ClusterClass → Connection
  | .pictograph => .begun
  | .extend | .linker | .nonJoiner => if before = .begun then .begun else .none
  | .joiner => if before = .begun then .connected else .none
  | _ => .none

/-- What is known after one more character. -/
def next (s : ClusterState) (c : Char) : ClusterState :=
  let kind := ClusterClass.ofChar c
  { last := kind
    consonants := linkConsonants s.consonants kind
    pictographs := joinPictographs s.pictographs kind
    unpaired := kind = .regional && !s.unpaired }

/-- Whether the next character belongs to the cluster of the last one. -/
def joins (s : ClusterState) (c : Char) : Bool :=
  let kind := ClusterClass.ofChar c
  if s.last = .carriageReturn && kind = .lineFeed then true
  else if s.last.standsAlone || kind.standsAlone then false
  else
    kind.extendsLast || s.last = .prepended || ClusterClass.inSyllable s.last kind ||
      (s.consonants = .connected && kind = .consonant) ||
      (s.pictographs = .connected && kind = .pictograph) ||
      (s.unpaired && kind = .regional)

end ClusterState

/-- Puts a character in front: into the first cluster if it belongs there. -/
def consCluster (c : Char) (joined : Bool) (rest : List Cluster) : List Cluster :=
  match joined, rest with
  | true, first :: others => (c :: first) :: others
  | _, rest => [c] :: rest

/-- The clusters of a text, of which `s` is known so far. -/
def clustersFrom (s : ClusterState) : List Char → List Cluster
  | [] => []
  | c :: rest =>
      let after := s.next c
      consCluster c ((rest.head?.map after.joins).getD false) (clustersFrom after rest)

/-- The clusters of a text. -/
def clusters (cs : List Char) : List Cluster :=
  clustersFrom ClusterState.start cs

end Text
end SparseFields

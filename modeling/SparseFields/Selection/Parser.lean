import SparseFields.Text.Blank
import SparseFields.Selection.Basic
import SparseFields.Selection.SyntaxError

/-!
# Reading the fields syntax

A written selection is a list of fields separated by `,`.  A field is a name of ASCII letters and
`_`, followed by a group in parentheses when only a part of it is picked.  Blanks around the whole
text are dropped; inside it they are invalid characters.

Parentheses are checked first, so that a text that is out of balance or nests too deep is reported
as such whatever else is wrong with it.  After that one scan from left to right keeps a stack of
the groups still open and stops at the first fault.
-/

namespace SparseFields
namespace Selection

/-- The deepest nesting of groups that is read. -/
def maxNesting : Nat := 64

/-- The characters of a field's name. -/
def isNameChar (c : Char) : Bool :=
  c.isAlpha || c == '_'

/-- Checks the parentheses of the text from `position` on.  `opened` holds the places of the groups
still open, the innermost first, and `tooDeep` the first place at which the nesting passed the
limit. -/
def checkGroups (position : Nat) (opened : List Nat) (tooDeep : Option Nat) :
    List Char → Except SyntaxError Unit
  | [] =>
      match opened.getLast?, tooDeep with
      | some first, _ => .error ⟨.unmatchedOpen, first⟩
      | none, some place => .error ⟨.nestingTooDeep maxNesting, place⟩
      | none, none => .ok ()
  | c :: cs =>
      if c = '(' then
        let passed := tooDeep.isNone && maxNesting ≤ opened.length
        checkGroups (position + 1) (position :: opened)
          (if passed then some position else tooDeep) cs
      else if c = ')' then
        match opened with
        | [] => .error ⟨.unmatchedClose, position⟩
        | _ :: outer => checkGroups (position + 1) outer tooDeep cs
      else checkGroups (position + 1) opened tooDeep cs

/-- What stands directly before the next character of a level: the letters of a name so far, the
last one first, or a group that has just closed. -/
inductive Pending
  | name (letters : List Char)
  | closed
deriving DecidableEq, Repr

/-- One level while it is read: the fields chosen so far, and what is pending. -/
structure Level where
  chosen : Selection
  pending : Pending
deriving Repr

namespace Level

/-- A level of which nothing has been read. -/
def start : Level := ⟨.nil, .name []⟩

/-- The field's name that the letters spell. -/
def fieldName (letters : List Char) : String :=
  String.ofList letters.reverse

/-- A separator ends the pending field. -/
def separate (level : Level) (position : Nat) : Except SyntaxError Level :=
  match level.pending with
  | .closed => .ok ⟨level.chosen, .name []⟩
  | .name [] => .error ⟨.leadingSeparator, position⟩
  | .name letters => .ok ⟨level.chosen.insert (fieldName letters) .whole, .name []⟩

/-- The end of the level ends the pending field. -/
def finish (level : Level) (position : Nat) : Except SyntaxError Selection :=
  match level.pending with
  | .closed => .ok level.chosen
  | .name [] => .error ⟨.emptyField, position⟩
  | .name letters => .ok (level.chosen.insert (fieldName letters) .whole)

/-- A group opens after a name and must not be empty; `next` is the character that follows. -/
def openGroup (level : Level) (position : Nat) (next : Option Char) :
    Except SyntaxError String :=
  match level.pending with
  | .closed => .error ⟨.malformedGroup, position⟩
  | .name letters =>
      if next = some ')' then .error ⟨.emptyGroup, position + 1⟩
      else if letters.isEmpty then .error ⟨.malformedGroup, position⟩
      else .ok (fieldName letters)

/-- Any other character must belong to a name. -/
def readChar (level : Level) (position : Nat) (c : Char) : Except SyntaxError Level :=
  if isNameChar c then
    match level.pending with
    | .closed => .error ⟨.malformedGroup, position⟩
    | .name letters => .ok ⟨level.chosen, .name (c :: letters)⟩
  else .error ⟨.invalidCharacter c, position⟩

end Level

/-- A group still open around the level being read: the fields chosen before it, and the field it
belongs to. -/
structure OpenGroup where
  before : Selection
  field : String
deriving Repr

/-- Reads the text from `position` on, inside the open groups `outer`. -/
def scan (position : Nat) (outer : List OpenGroup) (level : Level) :
    List Char → Except SyntaxError Selection
  | [] =>
      match level.finish position, outer with
      | .error e, _ => .error e
      | .ok s, [] => .ok s
      | .ok _, _ :: _ => .error ⟨.unmatchedOpen, position⟩
  | c :: cs =>
      if c = ',' then
        match level.separate position with
        | .error e => .error e
        | .ok level => scan (position + 1) outer level cs
      else if c = '(' then
        match level.openGroup position cs.head? with
        | .error e => .error e
        | .ok field => scan (position + 1) (⟨level.chosen, field⟩ :: outer) Level.start cs
      else if c = ')' then
        match outer, level.finish position with
        | [], _ => .error ⟨.unmatchedClose, position⟩
        | _ :: _, .error e => .error e
        | group :: outer, .ok sub =>
            scan (position + 1) outer
              ⟨group.before.insert group.field (.part sub), .closed⟩ cs
      else
        match level.readChar position c with
        | .error e => .error e
        | .ok level => scan (position + 1) outer level cs

/-- Reads a trimmed text. -/
def parseChars (cs : List Char) : Except SyntaxError Selection :=
  match checkGroups 0 [] none cs with
  | .error e => .error e
  | .ok () => scan 0 [] Level.start cs

/-- Reads a written selection; blanks around it are ignored. -/
def parse (raw : String) : Except SyntaxError Selection :=
  parseChars (Text.trim raw.toList)

end Selection
end SparseFields

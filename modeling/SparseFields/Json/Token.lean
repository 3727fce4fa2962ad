import SparseFields.Number.Literal

/-!
# JSON tokens

A text is cut into tokens from the left.  Where no token can be read the list ends with
`malformed`, so what stands before the fault is still known.
-/

namespace SparseFields
namespace Json

/-- A token.  A string whose escapes leave half of a surrogate pair alone has no content. -/
inductive Token
  | openArray
  | closeArray
  | openObject
  | closeObject
  | comma
  | colon
  | null
  | bool (value : Bool)
  | number (literal : Literal)
  | string (content : Option String)
  | malformed
deriving DecidableEq, Repr

namespace Token

/-- The blanks between tokens. -/
def isSpace (c : Char) : Bool :=
  c == ' ' || c == '\t' || c == '\n' || c == '\r'

/-- The token that a single character is. -/
def ofChar? (c : Char) : Option Token :=
  match c with
  | '[' => some .openArray
  | ']' => some .closeArray
  | '{' => some .openObject
  | '}' => some .closeObject
  | ',' => some .comma
  | ':' => some .colon
  | _ => none

/-- What follows a word at the front of a text. -/
def afterWord? : (word text : List Char) → Option (List Char)
  | [], text => some text
  | _ :: _, [] => none
  | w :: word, c :: text => if w = c then afterWord? word text else none

/-- The value of a hexadecimal digit. -/
def hexValue? (c : Char) : Option Nat :=
  if c.isDigit then some (c.toNat - '0'.toNat)
  else if 'a' ≤ c ∧ c ≤ 'f' then some (c.toNat - 'a'.toNat + 10)
  else if 'A' ≤ c ∧ c ≤ 'F' then some (c.toNat - 'A'.toNat + 10)
  else none

/-- The value of four hexadecimal digits. -/
def hexUnit? (a b c d : Char) : Option Nat := do
  let a ← hexValue? a
  let b ← hexValue? b
  let c ← hexValue? c
  let d ← hexValue? d
  return ((a * 16 + b) * 16 + c) * 16 + d

/-- The character of an escape with one letter. -/
def escaped? (c : Char) : Option Char :=
  match c with
  | '"' => some '"'
  | '\\' => some '\\'
  | '/' => some '/'
  | 'b' => some '\x08'
  | 'f' => some '\x0c'
  | 'n' => some '\n'
  | 'r' => some '\r'
  | 't' => some '\t'
  | _ => none

/-- Reads a string after its opening quote: the code points before the closing quote, the last one
first in `done`, and what follows.  An escape may give half of a surrogate pair. -/
def readString? (done : List Nat) : List Char → Option (List Nat × List Char)
  | [] => none
  | '"' :: rest => some (done.reverse, rest)
  | '\\' :: 'u' :: a :: b :: c :: d :: rest =>
      match hexUnit? a b c d with
      | some unit => readString? (unit :: done) rest
      | none => none
  | '\\' :: c :: rest =>
      match escaped? c with
      | some char => readString? (char.toNat :: done) rest
      | none => none
  | c :: rest =>
      if c.toNat < 0x20 || c == '\\' then none else readString? (c.toNat :: done) rest

/-- Joins the halves of surrogate pairs; there is no text when one stands alone. -/
def joinSurrogates? : List Nat → Option (List Char)
  | [] => some []
  | high :: rest =>
      if high < 0xD800 ∨ 0xE000 ≤ high then (joinSurrogates? rest).map (Char.ofNat high :: ·)
      else
        match rest with
        | [] => none
        | low :: rest =>
            if high < 0xDC00 ∧ 0xDC00 ≤ low ∧ low < 0xE000 then
              (joinSurrogates? rest).map
                (Char.ofNat (0x10000 + (high - 0xD800) * 0x400 + (low - 0xDC00)) :: ·)
            else none

/-- The token of the letters of a word. -/
def readWord? (word : List Char) (token : Token) (cs : List Char) : Option (Token × List Char) :=
  (afterWord? word cs).map fun rest => (token, rest)

/-- Reads a token of more than one character from the front of a text. -/
def read? : List Char → Option (Token × List Char)
  | [] => none
  | '"' :: cs =>
      (readString? [] cs).map fun (units, rest) =>
        (.string ((joinSurrogates? units).map String.ofList), rest)
  | 'n' :: cs => readWord? ['u', 'l', 'l'] .null cs
  | 't' :: cs => readWord? ['r', 'u', 'e'] (.bool true) cs
  | 'f' :: cs => readWord? ['a', 'l', 's', 'e'] (.bool false) cs
  | c :: cs => (Literal.read? (c :: cs)).map fun (literal, rest) => (.number literal, rest)

theorem length_afterWord? {word text rest : List Char} (h : afterWord? word text = some rest) :
    rest.length ≤ text.length := by
  induction word generalizing text with
  | nil => simp_all [afterWord?]
  | cons w word ih =>
      cases text with
      | nil => simp [afterWord?] at h
      | cons c text =>
          simp only [afterWord?] at h
          split at h
          · exact Nat.le_succ_of_le (ih h)
          · simp at h

theorem length_readString? {done units : List Nat} {cs rest : List Char}
    (h : readString? done cs = some (units, rest)) : rest.length < cs.length := by
  fun_induction readString? done cs with
  | case1 => simp at h
  | case2 => simp_all
  | case3 done a b c d tail unit _ ih => have := ih h; simp only [List.length_cons]; omega
  | case4 => simp at h
  | case5 done c tail _ char _ ih => have := ih h; simp only [List.length_cons]; omega
  | case6 => simp at h
  | case7 => simp at h
  | case8 done c tail _ _ _ _ ih => have := ih h; simp only [List.length_cons]; omega

theorem length_readWord? {word cs rest : List Char} {expected token : Token}
    (h : readWord? word expected cs = some (token, rest)) : rest.length ≤ cs.length := by
  obtain ⟨text, htext, heq⟩ := Option.map_eq_some_iff.1 h
  obtain ⟨-, rfl⟩ := Prod.mk.inj heq
  exact length_afterWord? htext

/-- Reading a token leaves less text. -/
theorem length_read? {cs rest : List Char} {token : Token} (h : read? cs = some (token, rest)) :
    rest.length < cs.length := by
  rw [read?.eq_def] at h
  split at h
  · simp at h
  · obtain ⟨⟨units, tail⟩, hread, heq⟩ := Option.map_eq_some_iff.1 h
    obtain ⟨-, rfl⟩ := Prod.mk.inj heq
    exact Nat.lt_succ_of_lt (length_readString? hread)
  · exact Nat.lt_succ_of_le (length_readWord? h)
  · exact Nat.lt_succ_of_le (length_readWord? h)
  · exact Nat.lt_succ_of_le (length_readWord? h)
  · obtain ⟨⟨literal, tail⟩, hread, heq⟩ := Option.map_eq_some_iff.1 h
    obtain ⟨-, rfl⟩ := Prod.mk.inj heq
    exact Literal.length_read? hread

/-- Cuts a text into tokens. -/
def readAll (cs : List Char) : List Token :=
  match cs with
  | [] => []
  | c :: rest =>
      if isSpace c then readAll rest
      else
        match ofChar? c with
        | some token => token :: readAll rest
        | none =>
            match _h : read? (c :: rest) with
            | none => [.malformed]
            | some (token, tail) => token :: readAll tail
termination_by cs.length
decreasing_by
  · exact Nat.lt_succ_self _
  · exact Nat.lt_succ_self _
  · exact length_read? (by assumption)

end Token
end Json
end SparseFields

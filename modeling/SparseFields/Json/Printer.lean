import SparseFields.Json.Basic

/-!
# Writing JSON

The compact text of a value: no blanks, members in the order of the object, and in strings an
escape only where the format demands one.
-/

namespace SparseFields
namespace Json

/-- A digit of a hexadecimal number, in lower case. -/
def hexDigit (n : Nat) : Char :=
  Nat.digitChar n

/-- A character inside a string: quotes, backslashes and control characters are escaped. -/
def escapeChar (c : Char) : List Char :=
  match c with
  | '"' => ['\\', '"']
  | '\\' => ['\\', '\\']
  | '\x08' => ['\\', 'b']
  | '\t' => ['\\', 't']
  | '\n' => ['\\', 'n']
  | '\x0c' => ['\\', 'f']
  | '\r' => ['\\', 'r']
  | c =>
      if c.toNat < 0x20 then
        ['\\', 'u', '0', '0', hexDigit (c.toNat / 16), hexDigit (c.toNat % 16)]
      else [c]

/-- A string between quotes. -/
def quote (s : String) : List Char :=
  '"' :: s.toList.flatMap escapeChar ++ ['"']

mutual

/-- The compact text of a value. -/
def write : Json → List Char
  | .null => ['n', 'u', 'l', 'l']
  | .bool true => ['t', 'r', 'u', 'e']
  | .bool false => ['f', 'a', 'l', 's', 'e']
  | .number n => n.text.toList
  | .string s => quote s
  | .array items => '[' :: writeItems false items ++ [']']
  | .object members => '{' :: writeMembers false members ++ ['}']

/-- The items of an array; `separated` says whether one stands before. -/
def writeItems (separated : Bool) : List Json → List Char
  | [] => []
  | item :: rest => (if separated then [','] else []) ++ write item ++ writeItems true rest

/-- The members of an object; `separated` says whether one stands before. -/
def writeMembers (separated : Bool) : List (String × Json) → List Char
  | [] => []
  | (key, value) :: rest =>
      (if separated then [','] else []) ++ quote key ++ ':' :: write value ++
        writeMembers true rest

end

/-- The compact text of a value. -/
def text (v : Json) : String :=
  String.ofList v.write

end Json
end SparseFields

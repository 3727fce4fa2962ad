/-!
# UTF-8

Encoding of texts, and decoding of arbitrary bytes.  The decoder marks each ill-formed sequence: the
bytes of a character that could still have been completed count as one such sequence, any other byte
as one of its own.
-/

namespace SparseFields
namespace Text

/-- The bytes of a text. -/
def encodeUtf8 (cs : List Char) : List UInt8 :=
  cs.flatMap String.utf8EncodeChar

/-- A character whose first bytes have been read: its value so far, and the ranges of the bytes it
still needs. -/
structure Pending where
  value : Nat
  next : Nat × Nat
  later : List (Nat × Nat)
deriving DecidableEq, Repr

/-- The range of an ordinary continuation byte. -/
def tailRange : Nat × Nat := (0x80, 0xBF)

/-- The character that a byte begins, if it is the first of several. -/
def Pending.ofLead? (b : Nat) : Option Pending :=
  if 0xC2 ≤ b ∧ b ≤ 0xDF then some ⟨b - 0xC0, tailRange, []⟩
  else if b = 0xE0 then some ⟨0, (0xA0, 0xBF), [tailRange]⟩
  else if b = 0xED then some ⟨0xD, (0x80, 0x9F), [tailRange]⟩
  else if 0xE1 ≤ b ∧ b ≤ 0xEF then some ⟨b - 0xE0, tailRange, [tailRange]⟩
  else if b = 0xF0 then some ⟨0, (0x90, 0xBF), [tailRange, tailRange]⟩
  else if 0xF1 ≤ b ∧ b ≤ 0xF3 then some ⟨b - 0xF0, tailRange, [tailRange, tailRange]⟩
  else if b = 0xF4 then some ⟨4, (0x80, 0x8F), [tailRange, tailRange]⟩
  else none

/-- A byte between characters: what it completes or spoils, and what is pending after it. -/
def readLead (b : Nat) : List (Option Char) × Option Pending :=
  if b < 0x80 then ([some (Char.ofNat b)], none)
  else
    match Pending.ofLead? b with
    | some pending => ([], some pending)
    | none => ([none], none)

/-- A byte anywhere: what it completes or spoils, and what is pending after it. -/
def readByte (pending : Option Pending) (b : Nat) : List (Option Char) × Option Pending :=
  match pending with
  | none => readLead b
  | some p =>
      if p.next.1 ≤ b ∧ b ≤ p.next.2 then
        let value := p.value * 0x40 + (b - 0x80)
        match p.later with
        | [] => ([some (Char.ofNat value)], none)
        | next :: later => ([], some ⟨value, next, later⟩)
      else
        let (read, pending) := readLead b
        (none :: read, pending)

/-- The characters of bytes, with `none` for each ill-formed sequence. -/
def decodeFrom (pending : Option Pending) : List UInt8 → List (Option Char)
  | [] => if pending.isSome then [none] else []
  | b :: rest =>
      let (read, pending) := readByte pending b.toNat
      read ++ decodeFrom pending rest

/-- The text of bytes, if they are well-formed. -/
def decodeUtf8? (bytes : List UInt8) : Option (List Char) :=
  (decodeFrom none bytes).mapM id

/-- The text of bytes, with the replacement character for each ill-formed sequence. -/
def decodeUtf8Lossy (bytes : List UInt8) : List Char :=
  (decodeFrom none bytes).map fun c => c.getD '\uFFFD'

end Text
end SparseFields

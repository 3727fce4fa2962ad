import SparseFields.Json.Printer
import SparseFields.Json.Token
import SparseFields.Proofs.Number.Text

/-!
# The compact text of a value

A value is read back from its compact text, even when more text follows, as long as that begins with
a separator or a closing bracket: the first character says of which kind the value is, strings end
at the first quote that is not escaped, and numbers where the characters of numbers end.  So
different values have different texts.
-/

namespace SparseFields
namespace Json

/-! ## Strings -/

namespace Token

/-- An escaped character is read as its code point. -/
theorem readString?_escapeChar (done : List Nat) (c : Char) (rest : List Char) :
    readString? done (escapeChar c ++ rest) = readString? (c.toNat :: done) rest := by
  have hcontrol : ∀ n < 0x20,
      hexUnit? '0' '0' (hexDigit (n / 16)) (hexDigit (n % 16)) = some n := by decide
  rw [escapeChar.eq_def]
  split
  · rfl
  · rfl
  · rfl
  · rfl
  · rfl
  · rfl
  · rfl
  · next hquote hbackslash _ _ _ _ _ =>
    split
    · next h =>
      simp only [List.cons_append, List.nil_append, readString?]
      rw [hcontrol _ h]
    · next h =>
      have hplain : ¬(decide (c.toNat < 0x20) || c == '\\') = true := by
        rw [Bool.or_eq_true, decide_eq_true_eq, beq_iff_eq]
        exact not_or.mpr ⟨h, hbackslash⟩
      rw [List.singleton_append, readString?, if_neg hplain]
      · exact hquote
      · exact fun _ _ _ _ _ hc _ => hbackslash hc
      · exact fun _ _ hc _ => hbackslash hc

theorem readString?_flatMap_escapeChar (done : List Nat) (cs rest : List Char) :
    readString? done (cs.flatMap escapeChar ++ '"' :: rest) =
      some (done.reverse ++ cs.map Char.toNat, rest) := by
  induction cs generalizing done with
  | nil => simp [readString?]
  | cons c cs ih =>
      rw [List.flatMap_cons, List.append_assoc, readString?_escapeChar, ih]
      simp

end Token

/-- A string is read back from its text between quotes. -/
theorem quote_append_inj {s t : String} {rest rest' : List Char}
    (h : quote s ++ rest = quote t ++ rest') : s = t ∧ rest = rest' := by
  have hread : ∀ (s : String) (rest : List Char),
      Token.readString? [] (quote s ++ rest).tail = some (s.toList.map Char.toNat, rest) := by
    intro s rest
    have hquote := Token.readString?_flatMap_escapeChar [] s.toList rest
    simpa [quote] using hquote
  have hboth := hread s rest
  rw [h, hread t rest', Option.some.injEq, Prod.mk.injEq] at hboth
  obtain ⟨hcontent, hrest⟩ := hboth
  have htoNat : Function.Injective Char.toNat := fun _ _ => Char.toNat_inj.mp
  refine ⟨?_, hrest.symm⟩
  exact String.toList_inj.mp (htoNat.list_map hcontent).symm

/-! ## First characters -/

/-- The kinds of values. -/
inductive Kind
  | null
  | bool
  | number
  | string
  | array
  | object

/-- The kind of a value. -/
def kind : Json → Kind
  | .null => .null
  | .bool _ => .bool
  | .number _ => .number
  | .string _ => .string
  | .array _ => .array
  | .object _ => .object

/-- The kind of the values whose texts begin with a character. -/
def Kind.ofChar (c : Char) : Kind :=
  match c with
  | 'n' => .null
  | 't' => .bool
  | 'f' => .bool
  | '"' => .string
  | '[' => .array
  | '{' => .object
  | _ => .number

/-- No other value begins like a number. -/
theorem Kind.ofChar_of_isNumeric {c : Char} (h : Literal.IsNumeric c) : ofChar c = .number := by
  rw [ofChar.eq_def]
  split
  · exact absurd h (by decide)
  · exact absurd h (by decide)
  · exact absurd h (by decide)
  · exact absurd h (by decide)
  · exact absurd h (by decide)
  · exact absurd h (by decide)
  · rfl

/-- What may follow a value: nothing, a separator or a closing bracket. -/
def Ends (rest : List Char) : Prop :=
  ∀ c ∈ rest.head?, c = ',' ∨ c = ']' ∨ c = '}'

theorem ends_nil : Ends [] := by
  intro c hc
  cases hc

theorem write_eq_cons (v : Json) :
    ∃ c rest, v.write = c :: rest ∧ Kind.ofChar c = v.kind ∧ c ≠ ']' := by
  cases v with
  | null => exact ⟨_, _, rfl, rfl, by decide⟩
  | bool value => cases value <;> exact ⟨_, _, rfl, rfl, by decide⟩
  | number n =>
      obtain ⟨c, rest, htext⟩ := List.exists_cons_of_ne_nil n.toList_text_ne_nil
      have hc := n.isNumeric_of_mem_text c (htext ▸ List.mem_cons_self)
      refine ⟨c, rest, htext, Kind.ofChar_of_isNumeric hc, ?_⟩
      rintro rfl
      exact absurd hc (by decide)
  | string s => exact ⟨_, _, rfl, rfl, by decide⟩
  | array items => exact ⟨_, _, rfl, rfl, by decide⟩
  | object members => exact ⟨_, _, rfl, rfl, by decide⟩

theorem kind_eq_of_write_append {a b : Json} {rest rest' : List Char}
    (h : a.write ++ rest = b.write ++ rest') : a.kind = b.kind := by
  obtain ⟨c, cs, hc, hkind, -⟩ := a.write_eq_cons
  obtain ⟨c', cs', hc', hkind', -⟩ := b.write_eq_cons
  rw [hc, hc', List.cons_append, List.cons_append] at h
  rw [← hkind, ← hkind', (List.cons.inj h).1]

theorem ends_writeItems (items : List Json) (rest : List Char) :
    Ends (writeItems true items ++ ']' :: rest) := by
  cases items with
  | nil =>
      rintro c ⟨⟩
      exact .inr (.inl rfl)
  | cons item items =>
      rintro c ⟨⟩
      exact .inl rfl

theorem ends_writeMembers (members : List (String × Json)) (rest : List Char) :
    Ends (writeMembers true members ++ '}' :: rest) := by
  cases members with
  | nil =>
      rintro c ⟨⟩
      exact .inr (.inr rfl)
  | cons member members =>
      rintro c ⟨⟩
      exact .inl rfl

theorem number_append_inj {n n' : Number} {rest rest' : List Char} (hrest : Ends rest)
    (hrest' : Ends rest') (h : n.text.toList ++ rest = n'.text.toList ++ rest') :
    n = n' ∧ rest = rest' := by
  have hends : ∀ {rest}, Ends rest → ∀ c ∈ rest.head?, decide (Literal.IsNumeric c) = false := by
    intro rest hrest c hc
    rcases hrest c hc with rfl | rfl | rfl <;> decide
  have hnumeric : ∀ n : Number, ∀ c ∈ n.text.toList, decide (Literal.IsNumeric c) = true :=
    fun n c hc => decide_eq_true (n.isNumeric_of_mem_text c hc)
  obtain ⟨htext, heq⟩ :=
    append_inj_of_boundary (hnumeric n) (hnumeric n') (hends hrest) (hends hrest') h
  exact ⟨Number.text_injective (String.toList_inj.mp htext), heq⟩

/-! ## Values -/

mutual

/-- A value is read back from its compact text and what follows. -/
theorem write_append_inj {a b : Json} {rest rest' : List Char} (hrest : Ends rest)
    (hrest' : Ends rest') (h : a.write ++ rest = b.write ++ rest') : a = b ∧ rest = rest' := by
  have hkind := kind_eq_of_write_append h
  match a with
  | .null =>
      cases b with
      | null => exact ⟨rfl, List.append_cancel_left h⟩
      | _ => cases hkind
  | .bool value =>
      cases b with
      | bool value' =>
          cases value <;> cases value'
          · exact ⟨rfl, List.append_cancel_left h⟩
          · exact absurd (List.cons.inj h).1 (by decide)
          · exact absurd (List.cons.inj h).1 (by decide)
          · exact ⟨rfl, List.append_cancel_left h⟩
      | _ => cases hkind
  | .number n =>
      cases b with
      | number n' =>
          obtain ⟨rfl, heq⟩ := number_append_inj hrest hrest' h
          exact ⟨rfl, heq⟩
      | _ => cases hkind
  | .string s =>
      cases b with
      | string s' =>
          obtain ⟨rfl, heq⟩ := quote_append_inj h
          exact ⟨rfl, heq⟩
      | _ => cases hkind
  | .array items =>
      cases b with
      | array items' =>
          rw [write, write, List.cons_append, List.cons_append, List.append_assoc,
            List.append_assoc] at h
          obtain ⟨rfl, heq⟩ := writeItems_append_inj (List.cons.inj h).2
          exact ⟨rfl, heq⟩
      | _ => cases hkind
  | .object members =>
      cases b with
      | object members' =>
          rw [write, write, List.cons_append, List.cons_append, List.append_assoc,
            List.append_assoc] at h
          obtain ⟨rfl, heq⟩ := writeMembers_append_inj (List.cons.inj h).2
          exact ⟨rfl, heq⟩
      | _ => cases hkind

theorem writeItems_append_inj {separated : Bool} {as bs : List Json} {rest rest' : List Char}
    (h : writeItems separated as ++ ']' :: rest = writeItems separated bs ++ ']' :: rest') :
    as = bs ∧ rest = rest' := by
  have hnil : ∀ {b bs} {rest rest' : List Char},
      ']' :: rest ≠ writeItems separated (b :: bs) ++ ']' :: rest' := by
    intro b bs rest rest' h
    obtain ⟨c, cs, hc, -, hne⟩ := b.write_eq_cons
    rw [writeItems, hc] at h
    cases separated with
    | false => exact hne (List.cons.inj h).1.symm
    | true => exact absurd (List.cons.inj h).1 (by decide)
  match as with
  | [] =>
      cases bs with
      | nil => exact ⟨rfl, (List.cons.inj h).2⟩
      | cons b bs => exact absurd h hnil
  | a :: as =>
      cases bs with
      | nil => exact absurd h.symm hnil
      | cons b bs =>
          simp only [writeItems, List.append_assoc, List.append_cancel_left_eq] at h
          obtain ⟨rfl, hitems⟩ :=
            write_append_inj (ends_writeItems as rest) (ends_writeItems bs rest') h
          obtain ⟨rfl, heq⟩ := writeItems_append_inj hitems
          exact ⟨rfl, heq⟩

theorem writeMembers_append_inj {separated : Bool} {as bs : List (String × Json)}
    {rest rest' : List Char}
    (h : writeMembers separated as ++ '}' :: rest = writeMembers separated bs ++ '}' :: rest') :
    as = bs ∧ rest = rest' := by
  have hnil : ∀ {b bs} {rest rest' : List Char},
      '}' :: rest ≠ writeMembers separated (b :: bs) ++ '}' :: rest' := by
    intro b bs rest rest' h
    rw [writeMembers, quote] at h
    cases separated with
    | false => exact absurd (List.cons.inj h).1 (by decide)
    | true => exact absurd (List.cons.inj h).1 (by decide)
  match as with
  | [] =>
      cases bs with
      | nil => exact ⟨rfl, (List.cons.inj h).2⟩
      | cons b bs => exact absurd h hnil
  | (key, a) :: as =>
      cases bs with
      | nil => exact absurd h.symm hnil
      | cons b bs =>
          obtain ⟨key', b⟩ := b
          simp only [writeMembers, List.append_assoc, List.cons_append,
            List.append_cancel_left_eq] at h
          obtain ⟨rfl, hvalue⟩ := quote_append_inj h
          obtain ⟨rfl, hmembers⟩ := write_append_inj (ends_writeMembers as rest)
            (ends_writeMembers bs rest') (List.cons.inj hvalue).2
          obtain ⟨rfl, heq⟩ := writeMembers_append_inj hmembers
          exact ⟨rfl, heq⟩

end

/-- Different values have different texts. -/
theorem text_injective : Function.Injective text := by
  intro a b h
  have hwrite : a.write ++ [] = b.write ++ [] := by
    rw [List.append_nil, List.append_nil]
    exact String.ofList_inj.mp h
  exact (write_append_inj ends_nil ends_nil hwrite).1

end Json
end SparseFields

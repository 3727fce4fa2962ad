import SparseFields.Json.Draft
import SparseFields.Proofs.Json.Writing

/-!
# Reading compact texts

The compact text of a value without numbers is read as the draft that says all about that value, up
to the end of the text: each token is cut off again where it was written, and each value goes to the
container that it was written in.  So the text is parsed as the value with the members of its
objects in key order.  Numbers are left out since a text rounds them.
-/

namespace SparseFields
namespace Json

mutual

/-- No number stands in a value. -/
def NumberFree : Json → Prop
  | .number _ => False
  | .array items => NumberFreeItems items
  | .object members => NumberFreeMembers members
  | _ => True

/-- No number stands in a list of values. -/
def NumberFreeItems : List Json → Prop
  | [] => True
  | item :: rest => item.NumberFree ∧ NumberFreeItems rest

/-- No number stands in the values of a map. -/
def NumberFreeMembers : List (String × Json) → Prop
  | [] => True
  | (_, value) :: rest => value.NumberFree ∧ NumberFreeMembers rest

end

/-! ## Tokens -/

namespace Token

theorem readAll_mark {c : Char} {token : Token} (hspace : isSpace c = false)
    (hmark : ofChar? c = some token) (rest : List Char) :
    readAll (c :: rest) = token :: readAll rest := by
  rw [readAll, hspace, if_neg Bool.false_ne_true, hmark]

theorem readAll_longer {c : Char} {token : Token} {cs rest : List Char}
    (hspace : isSpace c = false) (hmark : ofChar? c = none)
    (hread : read? (c :: cs) = some (token, rest)) :
    readAll (c :: cs) = token :: readAll rest := by
  rw [readAll, hspace, if_neg Bool.false_ne_true, hmark]
  simp only
  split
  · next h => rw [hread] at h; cases h
  · next h =>
    rw [hread] at h
    cases h
    rfl

/-- The code points of a text are joined to that text. -/
theorem joinSurrogates?_map_toNat (cs : List Char) :
    joinSurrogates? (cs.map Char.toNat) = some cs := by
  induction cs with
  | nil => rfl
  | cons c cs ih =>
      have hscalar : c.toNat < 0xD800 ∨ 0xE000 ≤ c.toNat := by
        rcases c.valid with h | h
        · exact .inl h
        · exact .inr h.1
      rw [List.map_cons, joinSurrogates?.eq_def]
      simp only [hscalar, if_true, ih, Option.map_some, Char.ofNat_toNat]

/-- A string is cut off as one token. -/
theorem readAll_quote (s : String) (rest : List Char) :
    readAll (quote s ++ rest) = .string (some s) :: readAll rest := by
  have hquote : quote s ++ rest = '"' :: (s.toList.flatMap escapeChar ++ '"' :: rest) := by
    simp [quote]
  rw [hquote]
  apply readAll_longer (by decide) (by decide)
  rw [read?, readString?_flatMap_escapeChar, List.reverse_nil, List.nil_append, Option.map_some]
  simp only [joinSurrogates?_map_toNat, Option.map_some, String.ofList_toList]

theorem readAll_null (rest : List Char) :
    readAll (write .null ++ rest) = .null :: readAll rest :=
  readAll_longer (by decide) (by decide) rfl

theorem readAll_bool (b : Bool) (rest : List Char) :
    readAll (write (.bool b) ++ rest) = .bool b :: readAll rest := by
  cases b with
  | false => exact readAll_longer (by decide) (by decide) rfl
  | true => exact readAll_longer (by decide) (by decide) rfl

end Token

/-! ## Drafts -/

namespace Draft

/-- Reading goes on in the container that a value was delivered to, or is done. -/
def resume (value : Draft) : List Frame → List Token → Draft × List Token
  | [], rest => (value, rest)
  | .items done :: outer, rest => read (.afterItem (value :: done)) outer rest
  | .member done key :: outer, rest => read (.afterMember ((key, value) :: done)) outer rest

theorem read_of_step_deliver {state : State} {outer outer' : List Frame} {token : Token}
    {value : Draft} (h : step outer state token = deliver value outer') (rest : List Token) :
    read state outer (token :: rest) = resume value outer' rest := by
  rw [read, h]
  match outer' with
  | [] => rfl
  | .items _ :: _ => rfl
  | .member _ _ :: _ => rfl

theorem read_of_step_next {state state' : State} {outer outer' : List Frame} {token : Token}
    (h : step outer state token = .next state' outer') (rest : List Token) :
    read state outer (token :: rest) = read state' outer' rest := by
  rw [read, h]

/-- In this state a value is due for the container, unless it is closed. -/
def ExpectsValue (state : State) (outer outer' : List Frame) : Prop :=
  ∀ token ≠ .closeArray, step outer state token = stepValue outer' token

theorem expectsValue_value (outer : List Frame) : ExpectsValue .value outer outer :=
  fun _ _ => rfl

theorem expectsValue_firstItem (outer : List Frame) :
    ExpectsValue .firstItem outer (.items [] :: outer) := by
  intro token htoken
  cases token with
  | closeArray => exact absurd rfl htoken
  | _ => rfl

mutual

/-- A value is read back from its compact text and goes to the container around it. -/
theorem read_write {v : Json} (hv : v.NumberFree) {state : State} {outer outer' : List Frame}
    (hstate : ExpectsValue state outer outer') (rest : List Char) :
    read state outer (Token.readAll (v.write ++ rest)) =
      resume (ofJson v) outer' (Token.readAll rest) := by
  match v with
  | .null =>
      rw [Token.readAll_null, ofJson]
      exact read_of_step_deliver (hstate .null nofun) _
  | .bool b =>
      rw [Token.readAll_bool, ofJson]
      exact read_of_step_deliver (hstate (.bool b) nofun) _
  | .number n => exact hv.elim
  | .string s =>
      rw [write, Token.readAll_quote, ofJson]
      exact read_of_step_deliver (hstate (.string (some s)) nofun) _
  | .array items =>
      rw [write, List.append_assoc, List.cons_append, Token.readAll_mark rfl rfl,
        read_of_step_next (hstate .openArray nofun), ofJson]
      match items with
      | [] =>
          rw [writeItems, List.nil_append, List.singleton_append, Token.readAll_mark rfl rfl]
          exact read_of_step_deliver rfl _
      | item :: items =>
          rw [writeItems, if_neg Bool.false_ne_true, List.nil_append, List.append_assoc,
            read_write hv.1 (expectsValue_firstItem outer'), List.singleton_append]
          exact read_writeItems hv.2 outer' [ofJson item] rest
  | .object members =>
      rw [write, List.append_assoc, List.cons_append, Token.readAll_mark rfl rfl,
        read_of_step_next (hstate .openObject nofun), ofJson]
      match members with
      | [] =>
          rw [writeMembers, List.nil_append, List.singleton_append, Token.readAll_mark rfl rfl]
          exact read_of_step_deliver rfl _
      | (key, value) :: members =>
          rw [writeMembers, if_neg Bool.false_ne_true, List.nil_append, List.append_assoc,
            List.append_assoc, Token.readAll_quote, read_of_step_next rfl, List.cons_append,
            Token.readAll_mark rfl rfl, read_of_step_next rfl,
            read_write hv.1 (expectsValue_value _), List.singleton_append]
          exact read_writeMembers hv.2 outer' [(some key, ofJson value)] rest

/-- The items after those that were read are read up to the end of the array. -/
theorem read_writeItems {items : List Json} (hitems : NumberFreeItems items)
    (outer : List Frame) (done : List Draft) (rest : List Char) :
    read (.afterItem done) outer (Token.readAll (writeItems true items ++ ']' :: rest)) =
      resume (.array (done.reverse ++ ofItems items)) outer (Token.readAll rest) := by
  match items with
  | [] =>
      rw [writeItems, List.nil_append, Token.readAll_mark rfl rfl, ofItems, List.append_nil]
      exact read_of_step_deliver rfl _
  | item :: items =>
      rw [writeItems, if_pos rfl, List.append_assoc, List.append_assoc, List.singleton_append,
        Token.readAll_mark rfl rfl, read_of_step_next rfl,
        read_write hitems.1 (expectsValue_value _), resume,
        read_writeItems hitems.2 outer (ofJson item :: done) rest, ofItems, List.reverse_cons,
        List.append_assoc, List.singleton_append]

/-- The members after those that were read are read up to the end of the object. -/
theorem read_writeMembers {members : List (String × Json)} (hmembers : NumberFreeMembers members)
    (outer : List Frame) (done : List (Option String × Draft)) (rest : List Char) :
    read (.afterMember done) outer (Token.readAll (writeMembers true members ++ '}' :: rest)) =
      resume (.object (done.reverse ++ ofMembers members)) outer (Token.readAll rest) := by
  match members with
  | [] =>
      rw [writeMembers, List.nil_append, Token.readAll_mark rfl rfl, ofMembers, List.append_nil]
      exact read_of_step_deliver rfl _
  | (key, value) :: members =>
      rw [writeMembers, if_pos rfl, List.append_assoc, List.append_assoc, List.append_assoc,
        List.singleton_append, Token.readAll_mark rfl rfl, read_of_step_next rfl,
        Token.readAll_quote, read_of_step_next rfl, List.cons_append, Token.readAll_mark rfl rfl,
        read_of_step_next rfl, read_write hmembers.1 (expectsValue_value _), resume,
        read_writeMembers hmembers.2 outer ((some key, ofJson value) :: done) rest, ofMembers,
        List.reverse_cons, List.append_assoc, List.singleton_append]

end

/-- The text of a value without numbers says all about that value and nothing more. -/
theorem ofText_text {v : Json} (hv : v.NumberFree) : ofText v.text = (ofJson v, []) := by
  have hread := read_write hv (expectsValue_value []) []
  rw [List.append_nil] at hread
  rw [ofText, text, String.toList_ofList, hread, Token.readAll, resume]

end Draft

/-! ## Values -/

mutual

/-- A value with the members of its objects in key order; the last one wins under a repeated key. -/
def inKeyOrder : Json → Json
  | .array items => .array (inKeyOrderItems items)
  | .object members => .ofMembers (inKeyOrderMembers members)
  | v => v

/-- The items of a list with the members of their objects in key order. -/
def inKeyOrderItems : List Json → List Json
  | [] => []
  | item :: rest => item.inKeyOrder :: inKeyOrderItems rest

/-- The members of an object with the members of the objects in them in key order. -/
def inKeyOrderMembers : List (String × Json) → List (String × Json)
  | [] => []
  | (key, value) :: rest => (key, value.inKeyOrder) :: inKeyOrderMembers rest

end

theorem inKeyOrderItems_eq_map (items : List Json) :
    inKeyOrderItems items = items.map inKeyOrder := by
  induction items with
  | nil => rfl
  | cons item rest ih => rw [inKeyOrderItems, ih, List.map_cons]

theorem inKeyOrderMembers_eq_map (members : List (String × Json)) :
    inKeyOrderMembers members = members.map fun member => (member.1, member.2.inKeyOrder) := by
  induction members with
  | nil => rfl
  | cons member rest ih => rw [inKeyOrderMembers, ih, List.map_cons]

mutual

theorem toJson?_ofJson (v : Json) : (Draft.ofJson v).toJson? = some v.inKeyOrder := by
  match v with
  | .null => rfl
  | .bool _ => rfl
  | .number _ => rfl
  | .string _ => rfl
  | .array items =>
      rw [Draft.ofJson, Draft.toJson?, toItems?_ofItems, inKeyOrder, Option.map_some]
  | .object members =>
      rw [Draft.ofJson, Draft.toJson?, toMembers?_ofMembers, inKeyOrder, Option.map_some]

theorem toItems?_ofItems (items : List Json) :
    Draft.toItems? (Draft.ofItems items) = some (inKeyOrderItems items) := by
  match items with
  | [] => rfl
  | item :: rest =>
      rw [Draft.ofItems, Draft.toItems?, toJson?_ofJson, toItems?_ofItems]
      rfl

theorem toMembers?_ofMembers (members : List (String × Json)) :
    Draft.toMembers? (Draft.ofMembers members) = some (inKeyOrderMembers members) := by
  match members with
  | [] => rfl
  | (key, value) :: rest =>
      rw [Draft.ofMembers, Draft.toMembers?, toJson?_ofJson, toMembers?_ofMembers]
      rfl

end

/-- The text of a value without numbers is parsed as that value with its members in key order. -/
theorem parse?_text {v : Json} (hv : v.NumberFree) : parse? v.text = some v.inKeyOrder := by
  rw [parse?, Draft.ofText_text hv]
  exact toJson?_ofJson v

end Json
end SparseFields

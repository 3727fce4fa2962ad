import SparseFields.Json.Basic

/-!
# Equality of values

Two values are equal when they are the same but for the signs of their zeros.  So equality is an
equivalence, and equal values are the same as soon as their zeros, read from the left, have the same
signs.
-/

namespace SparseFields

namespace Double

/-- The double with a plus sign if it is a zero. -/
def unsignZero (x : Double) : Double :=
  if x.isZero then zero false else x

/-- The sign of a double if it is a zero. -/
def zeroSigns (x : Double) : List Bool :=
  if x.isZero then [x.negative] else []

variable {x y : Double}

theorem eq_zero_of_isZero (h : x.isZero = true) : x = zero x.negative := by
  have hmantissa : x.mantissa = 0 := beq_iff_eq.mp h
  have hexponent : x.exponent = -1074 := by
    obtain ⟨-, -, -, hleast⟩ := x.normal
    rw [hmantissa] at hleast
    exact hleast.resolve_left (by decide)
  obtain ⟨negative, mantissa, exponent, normal⟩ := x
  cases hmantissa
  cases hexponent
  rfl

theorem isZero_unsignZero (x : Double) : x.unsignZero.isZero = x.isZero := by
  rw [unsignZero]
  split
  · next h => exact h.symm
  · rfl

theorem isZero_eq_of_unsignZero_eq (h : x.unsignZero = y.unsignZero) : x.isZero = y.isZero := by
  rw [← isZero_unsignZero, h, isZero_unsignZero]

theorem sameValue_iff : x.sameValue y = true ↔ x.unsignZero = y.unsignZero := by
  rw [sameValue, Bool.or_eq_true, Bool.and_eq_true, decide_eq_true_eq]
  constructor
  · rintro (⟨hx, hy⟩ | rfl)
    · rw [unsignZero, if_pos hx, unsignZero, if_pos hy]
    · rfl
  · intro h
    have hzero := isZero_eq_of_unsignZero_eq h
    by_cases hx : x.isZero = true
    · exact .inl ⟨hx, hzero ▸ hx⟩
    · rw [unsignZero, if_neg hx, unsignZero, if_neg (hzero ▸ hx)] at h
      exact .inr h

theorem zeroSigns_append_inj {signs signs' : List Bool} (hsame : x.unsignZero = y.unsignZero)
    (h : x.zeroSigns ++ signs = y.zeroSigns ++ signs') : x = y ∧ signs = signs' := by
  have hzero := isZero_eq_of_unsignZero_eq hsame
  by_cases hx : x.isZero = true
  · have hy : y.isZero = true := hzero ▸ hx
    rw [zeroSigns, if_pos hx, zeroSigns, if_pos hy] at h
    obtain ⟨hnegative, hsigns⟩ := List.cons.inj h
    refine ⟨?_, hsigns⟩
    rw [eq_zero_of_isZero hx, hnegative, ← eq_zero_of_isZero hy]
  · have hy : ¬y.isZero = true := hzero ▸ hx
    rw [unsignZero, if_neg hx, unsignZero, if_neg hy] at hsame
    rw [zeroSigns, if_neg hx, zeroSigns, if_neg hy] at h
    exact ⟨hsame, h⟩

end Double

namespace Number

/-- The number with a plus sign if it is a zero among the doubles. -/
def unsignZero : Number → Number
  | .int i => .int i
  | .double x => .double x.unsignZero

/-- The sign of a number if it is a zero among the doubles. -/
def zeroSigns : Number → List Bool
  | .int _ => []
  | .double x => x.zeroSigns

theorem sameValue_iff {n n' : Number} : n.sameValue n' = true ↔ n.unsignZero = n'.unsignZero := by
  cases n with
  | int i =>
      cases n' with
      | int j => simp [sameValue, unsignZero]
      | double y => simp [sameValue, unsignZero]
  | double x =>
      cases n' with
      | int j => simp [sameValue, unsignZero]
      | double y => simp [sameValue, unsignZero, Double.sameValue_iff]

theorem zeroSigns_append_inj {n n' : Number} {signs signs' : List Bool}
    (hsame : n.unsignZero = n'.unsignZero) (h : n.zeroSigns ++ signs = n'.zeroSigns ++ signs') :
    n = n' ∧ signs = signs' := by
  cases n with
  | int i =>
      cases n' with
      | int j => exact ⟨congrArg Number.int (Number.int.inj hsame), h⟩
      | double y => cases hsame
  | double x =>
      cases n' with
      | int j => cases hsame
      | double y =>
          obtain ⟨rfl, hsigns⟩ := Double.zeroSigns_append_inj (Number.double.inj hsame) h
          exact ⟨rfl, hsigns⟩

end Number

namespace Json

mutual

/-- The value with a plus sign at every zero among the doubles. -/
def unsignZeros : Json → Json
  | .number n => .number n.unsignZero
  | .array items => .array (unsignItems items)
  | .object members => .object (unsignMembers members)
  | v => v

/-- The items with a plus sign at every zero. -/
def unsignItems : List Json → List Json
  | [] => []
  | item :: rest => item.unsignZeros :: unsignItems rest

/-- The members with a plus sign at every zero. -/
def unsignMembers : List (String × Json) → List (String × Json)
  | [] => []
  | (key, value) :: rest => (key, value.unsignZeros) :: unsignMembers rest

end

mutual

/-- The signs of the zeros among the doubles of a value, from the left. -/
def zeroSigns : Json → List Bool
  | .number n => n.zeroSigns
  | .array items => zeroSignsItems items
  | .object members => zeroSignsMembers members
  | _ => []

/-- The signs of the zeros in a list of values. -/
def zeroSignsItems : List Json → List Bool
  | [] => []
  | item :: rest => item.zeroSigns ++ zeroSignsItems rest

/-- The signs of the zeros in a map of values. -/
def zeroSignsMembers : List (String × Json) → List Bool
  | [] => []
  | (_, value) :: rest => value.zeroSigns ++ zeroSignsMembers rest

end

theorem unsignMembers_eq_map (members : List (String × Json)) :
    unsignMembers members = members.map fun member => (member.1, member.2.unsignZeros) := by
  induction members with
  | nil => rfl
  | cons member rest ih => rw [unsignMembers, ih, List.map_cons]

mutual

/-- Values are equal when they are the same but for the signs of their zeros. -/
theorem sameValue_iff {a b : Json} : a.sameValue b = true ↔ a.unsignZeros = b.unsignZeros := by
  match a with
  | .null => cases b <;> simp [sameValue, unsignZeros]
  | .bool _ => cases b <;> simp [sameValue, unsignZeros]
  | .string _ => cases b <;> simp [sameValue, unsignZeros]
  | .number n => cases b <;> simp [sameValue, unsignZeros, Number.sameValue_iff]
  | .array items =>
      cases b with
      | array items' =>
          rw [sameValue, unsignZeros, unsignZeros, Json.array.injEq]
          exact sameItems_iff
      | _ => simp [sameValue, unsignZeros]
  | .object members =>
      cases b with
      | object members' =>
          rw [sameValue, unsignZeros, unsignZeros, Json.object.injEq]
          exact sameMembers_iff
      | _ => simp [sameValue, unsignZeros]

theorem sameItems_iff {as bs : List Json} :
    sameItems as bs = true ↔ unsignItems as = unsignItems bs := by
  match as with
  | [] => cases bs <;> simp [sameItems, unsignItems]
  | a :: as =>
      cases bs with
      | nil => simp [sameItems, unsignItems]
      | cons b bs =>
          rw [sameItems, Bool.and_eq_true, unsignItems, unsignItems, List.cons.injEq]
          exact and_congr sameValue_iff sameItems_iff

theorem sameMembers_iff {as bs : List (String × Json)} :
    sameMembers as bs = true ↔ unsignMembers as = unsignMembers bs := by
  match as with
  | [] => cases bs <;> simp [sameMembers, unsignMembers]
  | (key, a) :: as =>
      cases bs with
      | nil => simp [sameMembers, unsignMembers]
      | cons b bs =>
          rw [sameMembers, Bool.and_eq_true, Bool.and_eq_true, beq_iff_eq, unsignMembers,
            unsignMembers, List.cons.injEq, Prod.mk.injEq]
          exact and_congr (and_congr .rfl sameValue_iff) sameMembers_iff

end

mutual

/-- Equal values are the same as soon as their zeros have the same signs. -/
theorem zeroSigns_append_inj {a b : Json} {signs signs' : List Bool}
    (hsame : a.unsignZeros = b.unsignZeros) (h : a.zeroSigns ++ signs = b.zeroSigns ++ signs') :
    a = b ∧ signs = signs' := by
  match a with
  | .null =>
      cases b with
      | null => exact ⟨rfl, h⟩
      | _ => cases hsame
  | .bool _ =>
      cases b with
      | bool _ =>
          cases hsame
          exact ⟨rfl, h⟩
      | _ => cases hsame
  | .string _ =>
      cases b with
      | string _ =>
          cases hsame
          exact ⟨rfl, h⟩
      | _ => cases hsame
  | .number n =>
      cases b with
      | number n' =>
          obtain ⟨rfl, hsigns⟩ := Number.zeroSigns_append_inj (Json.number.inj hsame) h
          exact ⟨rfl, hsigns⟩
      | _ => cases hsame
  | .array items =>
      cases b with
      | array items' =>
          rw [unsignZeros, unsignZeros] at hsame
          rw [zeroSigns, zeroSigns] at h
          obtain ⟨rfl, hsigns⟩ := zeroSignsItems_append_inj (Json.array.inj hsame) h
          exact ⟨rfl, hsigns⟩
      | _ => cases hsame
  | .object members =>
      cases b with
      | object members' =>
          rw [unsignZeros, unsignZeros] at hsame
          rw [zeroSigns, zeroSigns] at h
          obtain ⟨rfl, hsigns⟩ := zeroSignsMembers_append_inj (Json.object.inj hsame) h
          exact ⟨rfl, hsigns⟩
      | _ => cases hsame

theorem zeroSignsItems_append_inj {as bs : List Json} {signs signs' : List Bool}
    (hsame : unsignItems as = unsignItems bs)
    (h : zeroSignsItems as ++ signs = zeroSignsItems bs ++ signs') : as = bs ∧ signs = signs' := by
  match as with
  | [] =>
      cases bs with
      | nil => exact ⟨rfl, h⟩
      | cons b bs => cases hsame
  | a :: as =>
      cases bs with
      | nil => cases hsame
      | cons b bs =>
          rw [unsignItems, unsignItems] at hsame
          rw [zeroSignsItems, zeroSignsItems, List.append_assoc, List.append_assoc] at h
          obtain ⟨hvalue, hrest⟩ := List.cons.inj hsame
          obtain ⟨rfl, hitems⟩ := zeroSigns_append_inj hvalue h
          obtain ⟨rfl, hsigns⟩ := zeroSignsItems_append_inj hrest hitems
          exact ⟨rfl, hsigns⟩

theorem zeroSignsMembers_append_inj {as bs : List (String × Json)} {signs signs' : List Bool}
    (hsame : unsignMembers as = unsignMembers bs)
    (h : zeroSignsMembers as ++ signs = zeroSignsMembers bs ++ signs') :
    as = bs ∧ signs = signs' := by
  match as with
  | [] =>
      cases bs with
      | nil => exact ⟨rfl, h⟩
      | cons b bs => cases hsame
  | (key, a) :: as =>
      cases bs with
      | nil => cases hsame
      | cons b bs =>
          obtain ⟨key', b⟩ := b
          rw [unsignMembers, unsignMembers] at hsame
          rw [zeroSignsMembers, zeroSignsMembers, List.append_assoc, List.append_assoc] at h
          obtain ⟨hmember, hrest⟩ := List.cons.inj hsame
          obtain ⟨rfl, hvalue⟩ := Prod.mk.inj hmember
          obtain ⟨rfl, hmembers⟩ := zeroSigns_append_inj hvalue h
          obtain ⟨rfl, hsigns⟩ := zeroSignsMembers_append_inj hrest hmembers
          exact ⟨rfl, hsigns⟩

end

end Json
end SparseFields

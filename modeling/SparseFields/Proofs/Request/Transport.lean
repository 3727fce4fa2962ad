import SparseFields.Proofs.Request.Query
import SparseFields.Proofs.Selection.Writing
import SparseFields.Proofs.Text.Percent

/-!
# Selections in queries

A selection travels in the query of a request, as the value of one pair.  Its text may be written
there in many ways: a character stands for itself or is percent-encoded, and blanks may surround
the text.  Whatever the way, reading gives back the selection itself.  The other pairs of the query
do not matter, unless one of them has the same name.
-/

namespace SparseFields
namespace Query

/-! ## Ways of writing a text -/

/-- The characters that do not stand for themselves in a name or a value. -/
def marks : List Char :=
  ['%', '+', '&', '=']

/-- The characters that may stand for themselves. -/
def isPlain (c : Char) : Bool :=
  Text.isAscii c && !marks.contains c

/-- A character of ASCII is written as itself, if it may stand for itself, or as `%` and the
hexadecimal digits of its byte, each in either case.  A space may also be written as `+`. -/
inductive WritesChar : List Char → Char → Prop
  | literal {c} (plain : isPlain c = true) : WritesChar [c] c
  | encoded {c a b high low} (ascii : Text.isAscii c = true)
      (first : (a, high) ∈ Text.hexDigits) (second : (b, low) ∈ Text.hexDigits)
      (code : c.toNat = high * 16 + low) : WritesChar ['%', a, b] c
  | plus : WritesChar ['+'] ' '

/-- The ways of writing a text, character by character. -/
inductive Writes : List Char → List Char → Prop
  | nil : Writes [] []
  | cons {written c writtenRest rest} (head : WritesChar written c)
      (tail : Writes writtenRest rest) : Writes (written ++ writtenRest) (c :: rest)

theorem isPlain_iff {c : Char} : isPlain c = true ↔
    Text.isAscii c = true ∧ c ≠ '%' ∧ c ≠ '+' ∧ c ≠ '&' ∧ c ≠ '=' := by
  simp [isPlain, marks]

/-- What stands for a character is decoded to it, whatever follows. -/
theorem WritesChar.decode_append {written : List Char} {c : Char} (h : WritesChar written c)
    (rest : List Char) : decode (written ++ rest) = c :: decode rest := by
  have hchar : ∀ {c : Char}, Text.isAscii c = true → ∀ bytes : List UInt8,
      Text.decodeUtf8Lossy (c.toUInt8 :: bytes) = c :: Text.decodeUtf8Lossy bytes := by
    intro c hascii bytes
    rw [Text.decodeUtf8Lossy, Text.decodeFrom_toUInt8 hascii]
    rfl
  cases h with
  | literal hplain =>
      obtain ⟨hascii, hpercent, hplus, -⟩ := isPlain_iff.mp hplain
      rw [decode, List.singleton_append, List.map_cons, if_neg hplus,
        Text.percentBytes_cons_of_ne hascii hpercent, hchar hascii]
      rfl
  | encoded hascii ha hb hcode =>
      rw [decode, List.cons_append, List.cons_append, List.singleton_append, List.map_cons,
        List.map_cons, List.map_cons, if_neg (by decide), if_neg (Text.hexDigits_spec _ ha).2.1,
        if_neg (Text.hexDigits_spec _ hb).2.1, Text.percentBytes_cons_digits ha hb hcode,
        hchar hascii]
      rfl
  | plus =>
      rw [decode, List.singleton_append, List.map_cons, if_pos rfl,
        Text.percentBytes_cons_of_ne (by decide) (by decide), hchar (by decide)]
      rfl

theorem Writes.decode {written text : List Char} (h : Writes written text) :
    Query.decode written = text := by
  induction h with
  | nil => rfl
  | cons hhead _ ih => rw [hhead.decode_append, ih]

/-- The separators of pieces, and of names from values, are not written otherwise than
encoded. -/
theorem Writes.not_mem {written text : List Char} (h : Writes written text) :
    '&' ∉ written ∧ '=' ∉ written := by
  have hdigit : ∀ digit ∈ Text.hexDigits, digit.1 ≠ '&' ∧ digit.1 ≠ '=' := by decide
  induction h with
  | nil => simp
  | cons hhead _ ih =>
      simp only [List.mem_append, not_or]
      cases hhead with
      | literal hplain =>
          obtain ⟨-, -, -, hand, hequals⟩ := isPlain_iff.mp hplain
          simp [ih, hand.symm, hequals.symm]
      | encoded _ ha hb _ =>
          have hfirst := hdigit _ ha
          have hsecond := hdigit _ hb
          simp [ih, hfirst.1.symm, hfirst.2.symm, hsecond.1.symm, hsecond.2.symm]
      | plus => simp [ih]

/-- A text of characters that may stand for themselves is a way of writing itself. -/
theorem Writes.literal_append {written text : List Char} (h : Writes written text)
    (cs : List Char) (hcs : cs.all isPlain = true) : Writes (cs ++ written) (cs ++ text) := by
  induction cs with
  | nil => exact h
  | cons c cs ih =>
      obtain ⟨hc, hrest⟩ := Bool.and_eq_true_iff.mp hcs
      show Writes ([c] ++ (cs ++ written)) (c :: (cs ++ text))
      exact .cons (.literal hc) (ih hrest)

/-! ## Pieces that carry a text -/

/-- A piece carries a text: its name is written for that of the selection, and its value for the
text between blanks. -/
inductive Carries (text : List Char) : List Char → Prop
  | intro {name value front back} (name_writes : Writes name fieldsKey.toList)
      (value_writes : Writes value (front ++ text ++ back))
      (front_blank : ∀ c ∈ front, Text.isBlank c = true)
      (back_blank : ∀ c ∈ back, Text.isBlank c = true) : Carries text (name ++ '=' :: value)

theorem Carries.isForFields {text piece : List Char} (h : Carries text piece) :
    isForFields piece = true := by
  obtain ⟨hname, -, -, -⟩ := h
  rw [Query.isForFields, pair_append_cons hname.not_mem.2, hname.decode, String.ofList_toList]
  exact beq_self_eq_true _

theorem Carries.not_mem {text piece : List Char} (h : Carries text piece) : '&' ∉ piece := by
  obtain ⟨hname, hvalue, -, -⟩ := h
  simp [hname.not_mem.1, hvalue.not_mem.1]

/-- The value of a piece that carries a text has the text between its blanks. -/
theorem Carries.trim_value {text piece : List Char} (h : Carries text piece) (hne : text ≠ [])
    (htext : ∀ c ∈ text, Text.isBlank c = false) :
    Text.trim (pair piece).2.toList = text := by
  obtain ⟨hname, hvalue, hfront, hback⟩ := h
  obtain ⟨hhead, hlast⟩ := Text.ends_not_blank htext
  rw [pair_append_cons hname.not_mem.2, hvalue.decode, String.toList_ofList]
  exact Text.trim_append_append hfront hback hne hhead hlast

end Query

/-! ## What is read from a query -/

namespace Selection

/-- The text of a legible selection is not blank anywhere. -/
theorem write_spec {s : Selection} (h : Legible s) (hne : s ≠ .nil) :
    s.write.toList ≠ [] ∧ ∀ c ∈ s.write.toList, Text.isBlank c = false := by
  have hderives := ((writes_writeFrom h).1 hne).derives
  rw [write, String.toList_ofList]
  obtain ⟨c, rest, heq, -⟩ := hderives.head_letter
  exact ⟨heq ▸ List.cons_ne_nil c rest, hderives.not_blank⟩

end Selection

/-- A selection survives the transport in a query.  From any way of writing its text as the value
of the pair, and among any other pairs, the selection itself is read on a request that may carry
one; any other request is refused for its method, and a second pair of the name makes every request
ill-formed, wherever it stands. -/
theorem queriedFields_of_carries {s : Selection} (hdistinct : s.Distinct) (hne : s ≠ .nil)
    (hnamed : s.Named) (hparts : s.NoEmptyPart) (hdepth : s.depth ≤ 65)
    {before after : List (List Char)} {piece : List Char}
    (hpiece : Query.Carries s.write.toList piece)
    (hothers : ∀ p ∈ before ++ after, '&' ∉ p ∧ (Query.pair p).1 ≠ fieldsKey) :
    (∀ method : String, Text.asciiLower method.toList = "get".toList →
      queriedFields method (Query.join (before ++ piece :: after)) = .ok (some s)) ∧
    (∀ method : String, Text.asciiLower method.toList ≠ "get".toList →
      queriedFields method (Query.join (before ++ piece :: after)) =
          .error (.refused (.methodNotAllowed method)) ∧
        (FieldsError.refused (.methodNotAllowed method)).status = 405) ∧
    (∀ (method : String) (front back : List (List Char)) (extra : List Char),
      front ++ back = before ++ piece :: after →
      '&' ∉ extra → (Query.pair extra).1 = fieldsKey →
      queriedFields method (Query.join (front ++ extra :: back)) = .error .repeated ∧
        FieldsError.repeated.status = 400) := by
  have hlegible : s.Legible := ⟨hdistinct, hnamed, hparts⟩
  have hmarks : ∀ p ∈ before ++ piece :: after, '&' ∉ p := by
    intro p hp
    rcases List.mem_cons.mp (List.perm_middle.mem_iff.mp hp) with rfl | hp
    · exact hpiece.not_mem
    · exact (hothers p hp).1
  have hvalues : fieldsValues (Query.join (before ++ piece :: after)) = [(Query.pair piece).2] :=
    Query.fieldsValues_join_of_others hmarks
      (fun p hp => beq_eq_false_iff_ne.mpr (hothers p hp).2) hpiece.isForFields
  have hread : ∀ method, queriedFields method (Query.join (before ++ piece :: after)) =
      if mayCarryFields method then .ok (some s)
      else .error (.refused (.methodNotAllowed method)) := by
    intro method
    obtain ⟨hwriteNe, hnotBlank⟩ := Selection.write_spec hlegible hne
    have htrim := hpiece.trim_value hwriteNe hnotBlank
    have hparse : Selection.parse (Query.pair piece).2 = .ok s := by
      rw [← Selection.parse_write_of_legible hlegible hne hdepth, Selection.parse, htrim,
        Selection.parse, Text.trim_eq_self hnotBlank]
    have hgives : GivesFields (Query.join (before ++ piece :: after)) (Query.pair piece).2 := by
      constructor
      · rw [hvalues]
        exact List.mem_singleton_self _
      · rw [htrim]
        exact hwriteNe
    rw [queriedFields_of_givesFields (by simp [hvalues]) hgives, hparse]
    rfl
  have hmay : ∀ method : String,
      mayCarryFields method = true ↔ Text.asciiLower method.toList = "get".toList :=
    fun _ => beq_iff_eq
  refine ⟨?_, ?_, ?_⟩
  · intro method hget
    rw [hread, if_pos ((hmay method).mpr hget)]
  · intro method hget
    rw [hread, if_neg (mt (hmay method).mp hget)]
    exact ⟨rfl, rfl⟩
  · intro method front back extra hpieces hextra hname
    have hmem : piece ∈ front ++ back := hpieces ▸ List.mem_append_cons_self
    have hall : ∀ p ∈ front ++ extra :: back, '&' ∉ p := by
      intro p hp
      rcases List.mem_cons.mp (List.perm_middle.mem_iff.mp hp) with rfl | hp
      · exact hextra
      · exact hmarks p (hpieces ▸ hp)
    exact ⟨Query.queriedFields_join_of_two hall hmem hpiece.isForFields (beq_iff_eq.mpr hname)
      method, rfl⟩

/-- A pair that carries a name and the city of an address, partly encoded and between blanks. -/
def encodedPair : List Char :=
  "%66ields=+name%2caddress(city%29%20".toList

theorem carries_encodedPair : Query.Carries Selection.nameAndCity.write.toList encodedPair := by
  have hdigits : ∀ digit ∈ [('0', 0), ('2', 2), ('6', 6), ('9', 9), ('c', 12)],
      digit ∈ Text.hexDigits := by decide
  have hf : Query.WritesChar ['%', '6', '6'] 'f' :=
    .encoded (by decide) (hdigits ('6', 6) (by decide)) (hdigits ('6', 6) (by decide)) (by decide)
  have hcomma : Query.WritesChar ['%', '2', 'c'] ',' :=
    .encoded (by decide) (hdigits ('2', 2) (by decide)) (hdigits ('c', 12) (by decide)) (by decide)
  have hclose : Query.WritesChar ['%', '2', '9'] ')' :=
    .encoded (by decide) (hdigits ('2', 2) (by decide)) (hdigits ('9', 9) (by decide)) (by decide)
  have hspace : Query.WritesChar ['%', '2', '0'] ' ' :=
    .encoded (by decide) (hdigits ('2', 2) (by decide)) (hdigits ('0', 0) (by decide)) (by decide)
  have hname := Query.Writes.cons hf (Query.Writes.nil.literal_append "ields".toList (by decide))
  have hafter := (Query.Writes.cons hclose (.cons hspace .nil)).literal_append
    "address(city".toList (by decide)
  have hvalue := Query.Writes.cons .plus
    ((Query.Writes.cons hcomma hafter).literal_append "name".toList (by decide))
  have hblank : ∀ c ∈ [' '], Text.isBlank c = true := List.forall_mem_singleton.mpr rfl
  exact @Query.Carries.intro _ _ _ [' '] [' '] hname hvalue hblank hblank

theorem queriedFields_encodedPair :
    Selection.nameAndCity.Legible ∧
      Query.Carries Selection.nameAndCity.write.toList encodedPair ∧
      queriedFields "GET" (Query.join ["a=1".toList, encodedPair, "x=fields".toList]) =
        .ok (some Selection.nameAndCity) ∧
      queriedFields "HEAD" (Query.join ["a=1".toList, encodedPair, "x=fields".toList]) =
        .error (.refused (.methodNotAllowed "HEAD")) ∧
      queriedFields "GET"
        (Query.join ["a=1".toList, encodedPair, "x=fields".toList, "fields".toList]) =
          .error .repeated := by
  have hlegible := Selection.legible_nameAndCity
  have hothers : ∀ p ∈ ["a=1".toList] ++ ["x=fields".toList],
      '&' ∉ p ∧ (Query.pair p).1 ≠ fieldsKey := by decide
  obtain ⟨hread, hrefused, hrepeated⟩ := queriedFields_of_carries hlegible.distinct nofun
    hlegible.named hlegible.noEmptyPart (by decide) carries_encodedPair hothers
  have hextra := hrepeated "GET" ["a=1".toList, encodedPair, "x=fields".toList] [] "fields".toList
    rfl (by decide) (by decide)
  exact ⟨hlegible, carries_encodedPair, hread "GET" (by decide), (hrefused "HEAD" (by decide)).1,
    hextra.1⟩

end SparseFields

import SparseFields.Proofs.Naming.Inflection
import SparseFields.Proofs.Reduction.Nodes
import SparseFields.Proofs.Reduction.Shape
import SparseFields.Proofs.Selection.Writing

/-!
# Singulars as keys

The singular of a compound is the singular of its last part, and the singular of a name is a name.
Records of a has-many association are written under such a singular and everything else under a
selected field, so a reduction to a selection that was read writes its records under names that can
be read in turn.
-/

namespace SparseFields
namespace Naming

/-! ## Compounds -/

theorem singularChars_separator (front rest : List Char) :
    singularChars (front ++ '_' :: rest) = front ++ '_' :: singularChars rest := by
  obtain ⟨before, word, rfl, hword⟩ := exists_lastWord rest
  have hlast : (front ++ ['_']).getLast? = some '_' := List.getLast?_concat
  have hcompound : LastWord (front ++ ['_'] ++ before) word :=
    hword.append_left fun _ => .inl hlast
  have hsplit : front ++ '_' :: (before ++ word) = front ++ ['_'] ++ before ++ word := by simp
  rw [hsplit, hcompound.singularChars_append, hword.singularChars_append]
  simp

theorem singularChars_capital (front : List Char) {rest : List Char} (h : StartsCapital rest) :
    singularChars (front ++ rest) = front ++ singularChars rest := by
  obtain ⟨before, word, rfl, hword⟩ := exists_lastWord rest
  have hcompound : LastWord (front ++ before) word := by
    apply hword.append_left
    rintro rfl
    exact .inr h
  rw [← List.append_assoc, hcompound.singularChars_append, hword.singularChars_append,
    List.append_assoc]

/-! ## Names -/

theorem singularChars_eq_nil_iff {key : List Char} : singularChars key = [] ↔ key = [] := by
  obtain ⟨before, word, rfl, hword⟩ := exists_lastWord key
  have hnone : singularWord word = [] ↔ word = [] := by
    rw [← List.head?_eq_none_iff, ← Option.map_eq_none_iff (f := Char.isUpper),
      (inflects_singularWord word).head?_isUpper, Option.map_eq_none_iff, List.head?_eq_none_iff]
  rw [hword.singularChars_append, List.append_eq_nil_iff, List.append_eq_nil_iff, hnone]

/-- The singular of a name is a name. -/
theorem identifier_singular {key : String} (h : Selection.Identifier key.toList) :
    Selection.Identifier (singular key).toList := by
  rw [singular, String.toList_ofList]
  refine ⟨mt singularChars_eq_nil_iff.mp h.ne_nil, fun c hc => ?_⟩
  obtain ⟨before, word, hkey, hword⟩ := exists_lastWord key.toList
  rw [hkey] at h hc
  rw [hword.singularChars_append, List.mem_append] at hc
  rcases hc with hc | hc
  · exact h.letters c (List.mem_append_left word hc)
  · rcases (inflects_singularWord word).letters.1 c hc with hold | hletter
    · exact h.letters c (List.mem_append_right before hold)
    · rw [← Selection.isNameChar_iff, Selection.isNameChar, hletter, Bool.true_or]

end Naming

namespace Selection

/-- A name alone is read as the field of that name. -/
theorem parse_identifier {name : String} (h : Identifier name.toList) :
    parse name = .ok (.whole name .nil) := by
  have hlegible : Legible (.whole name .nil) :=
    ⟨⟨List.not_mem_nil, trivial⟩, ⟨h, trivial⟩, trivial⟩
  have hwrite : write (.whole name .nil) = name := by
    rw [write, writeFrom, writeFrom, if_neg Bool.false_ne_true, List.nil_append, List.append_nil,
      String.ofList_toList]
  have hdepth : depth (.whole name .nil) ≤ maxNesting + 1 := by
    rw [depth, depth]
    decide
  have hread := parse_write_of_legible hlegible (by simp) hdepth
  rwa [hwrite] at hread

end Selection

namespace Reducer

variable {r : Reducer}

/-- All sites of a selection with names for fields select names. -/
theorem Visits.named {site site' : Site} {places : List Nat} (h : r.Visits site places site')
    (hs : site.selection.Named) : site'.selection.Named := by
  induction h with
  | here _ => exact hs
  | element _ _ _ ih => exact ih hs
  | records _ picked _ _ _ _ ih => exact ih ((Selection.named_iff.mp hs _ picked.mem).2 _ rfl)
  | record _ picked _ _ _ _ _ _ ih =>
      exact ih ((Selection.named_iff.mp hs _ picked.mem).2 _ rfl)

theorem identifier_outputKey (hnaming : r.naming = .conventional) (d : Descriptor)
    {field : String} (h : Selection.Identifier field.toList) :
    Selection.Identifier (r.outputKey d field).toList := by
  rw [outputKey, hnaming]
  split
  · exact h
  split
  · exact Naming.identifier_singular h
  · exact h

/-- A reduction makes an object with these members of a record that it comes to, at any level. -/
def WritesObject (r : Reducer) (d : Descriptor) (content : Content) (s : Selection)
    (members : SortedMap Json) : Prop :=
  ∃ places d' x level s', r.Visits ⟨d, content, 1, s⟩ places ⟨d', .one x, level, s'⟩ ∧
    (r.reduceInstance d' x level s').outcome = .ok (.object members)

theorem identifier_of_writesObject {d : Descriptor} {content : Content} {s : Selection}
    {members : SortedMap Json} (hnaming : r.naming = .conventional) (hs : s.Named)
    (h : r.WritesObject d content s members) :
    ∀ key ∈ members.map (·.1), Selection.Identifier key.toList := by
  obtain ⟨places, d', x, level, s', hvisits, hok⟩ := h
  have hnamed : s'.Named := hvisits.named hs
  have hshape := r.hasShape_of_reduceInstance hok
  rw [HasShape] at hshape
  obtain ⟨members', hmembers, -, hperm, -⟩ := hshape
  obtain rfl := Json.object.inj hmembers
  intro key hkey
  obtain ⟨field, hfield, rfl⟩ := List.mem_map.mp (hperm.mem_iff.mp hkey)
  obtain ⟨choice, hchoice, rfl⟩ := List.mem_map.mp hfield
  exact identifier_outputKey hnaming d' (Selection.named_iff.mp hnamed choice hchoice).1

end Reducer

namespace Naming

/-- Only the last word of a key is inflected: text before a `_` or a capital is kept.  Only the
empty key has an empty singular, the last word keeps a capital at its front, and the singular of a
name is a name.  So a reduction to a selection that was read by conventional rules writes what it
makes of records under names, each of which is read as a field. -/
theorem singular_keepsKeys :
    (∀ front rest, singular (front ++ "_" ++ rest) = front ++ "_" ++ singular rest) ∧
    (∀ front rest, StartsCapital rest.toList →
      singular (front ++ rest) = front ++ singular rest) ∧
    (∀ key, singular key = "" ↔ key = "") ∧
    (∀ key : String, ∃ before word word',
      key.toList = before ++ word ∧ LastWord before word ∧
      (singular key).toList = before ++ word' ∧ LastWord before word' ∧
      word'.head?.map Char.isUpper = word.head?.map Char.isUpper) ∧
    (∀ key : String, Selection.Identifier key.toList →
      Selection.Identifier (singular key).toList) ∧
    ∀ (r : Reducer) (d : Descriptor) (content : Content) (raw : String) (s : Selection)
      (members : SortedMap Json), r.naming = .conventional → Selection.parse raw = .ok s →
      r.WritesObject d content s members → ∀ key ∈ members.map (·.1),
        Selection.Identifier key.toList ∧ Selection.parse key = .ok (.whole key .nil) := by
  refine ⟨fun front rest => ?_, fun front rest hrest => ?_, fun key => ?_, fun key => ?_,
    fun key => identifier_singular, ?_⟩
  · apply String.toList_inj.mp
    simp only [singular, String.toList_ofList, String.toList_append, List.append_assoc]
    exact singularChars_separator front.toList rest.toList
  · apply String.toList_inj.mp
    simp only [singular, String.toList_ofList, String.toList_append]
    exact singularChars_capital front.toList hrest
  · rw [← String.toList_eq_nil_iff, ← String.toList_eq_nil_iff, singular, String.toList_ofList]
    exact singularChars_eq_nil_iff
  · obtain ⟨before, word, hkey, hword⟩ := exists_lastWord key.toList
    have hinflects := inflects_singularWord word
    refine ⟨before, word, singularWord word, hkey, hword, ?_, hinflects.lastWord hword,
      hinflects.head?_isUpper⟩
    rw [singular, String.toList_ofList, hkey, hword.singularChars_append]
  · intro r d content raw s members hnaming hparse hwrites key hkey
    have hname := Reducer.identifier_of_writesObject hnaming
      (Selection.legible_of_parse hparse).named hwrites key hkey
    exact ⟨hname, Selection.parse_identifier hname⟩

/-- Items of a line are inflected behind the capital, and the orders of a user are written under
`order`. -/
theorem singular_lineItems :
    StartsCapital "Items".toList ∧ singular ("line" ++ "Items") = "line" ++ "Item" ∧
      Selection.Identifier "line_Items".toList ∧
      Selection.Identifier (singular "line_Items").toList ∧
      Selection.parse "name,orders(status,user(name))" = .ok Sample.selection ∧
      (∃ members, Sample.reducer.WritesObject Sample.user (.one Sample.ann) Sample.selection
        members ∧ "order" ∈ members.map (·.1)) ∧
      Selection.parse "order" = .ok (.whole "order" .nil) := by
  obtain ⟨-, hcapital, -, -, hidentifier, hwritten⟩ := singular_keepsKeys
  have hitems : StartsCapital "Items".toList := rfl
  have hname : Selection.Identifier "line_Items".toList :=
    ⟨by decide, fun c hc => Selection.isNameChar_iff.mp
      (List.all_eq_true.mp (by decide : "line_Items".toList.all Selection.isNameChar = true) c hc)⟩
  have hparse : Selection.parse "name,orders(status,user(name))" = .ok Sample.selection := by
    decide +kernel
  have hwrites : Sample.reducer.WritesObject Sample.user (.one Sample.ann) Sample.selection _ :=
    ⟨[], Sample.user, Sample.ann, 1, Sample.selection, .here _, rfl⟩
  have horder := hwritten Sample.reducer Sample.user (.one Sample.ann) _ _ _ rfl hparse hwrites
    "order" (by decide)
  have hsingular : singular "Items" = "Item" := by decide
  have hline := hcapital "line" "Items" hitems
  rw [hsingular] at hline
  exact ⟨hitems, hline, hname, hidentifier _ hname, hparse, ⟨_, hwrites, by decide⟩, horder.2⟩

end Naming
end SparseFields

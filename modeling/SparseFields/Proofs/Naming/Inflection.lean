import SparseFields.Proofs.Naming.LastWord
import SparseFields.Proofs.Text.CamelCase
import Mathlib.Data.List.Infix

/-!
# How a word is inflected

A word becomes its singular in one of a few ways: it is kept, an irregular plural is looked up, or
an ending is cut off, and `y` put in its place after `ies`.  What is cut off is never the first
letter, so the singular of a last word is again the last word, with a capital where there was one.

The main statement is that the singular of a singular is the same again, except where an `s` was
added to an irregular plural: there the `s` goes first and the plural is looked up next.
-/

namespace SparseFields
namespace Naming

/-- Endings after which a plural adds `es`, without it. -/
def sibilants : List (List Char) :=
  ["ss", "x", "ch", "sh", "zz"].map String.toList

/-- What may become of a word. -/
inductive Inflects (word : List Char) : List Char → Prop
  | kept : Inflects word word
  | irregular {plural singular} (listed : (plural, singular) ∈ Naming.irregular)
      (spelt : Text.asciiLower word = plural) (small : ¬StartsCapital word) :
      Inflects word singular
  | capitalised {plural singular} (listed : (plural, singular) ∈ Naming.irregular)
      (spelt : Text.asciiLower word = plural) (capital : StartsCapital word) :
      Inflects word (capitalised singular)
  | ies {stem ending} (split : word = stem ++ ending) (ne_nil : stem ≠ [])
      (spelt : Text.asciiLower ending = ['i', 'e', 's']) : Inflects word (stem ++ ['y'])
  | es {stem ending sibilant} (split : word = stem ++ ending)
      (listed : sibilant ∈ sibilants) (sibilates : sibilant <:+ Text.asciiLower stem)
      (spelt : Text.asciiLower ending = ['e', 's']) : Inflects word stem
  | s {stem ending} (split : word = stem ++ ending) (ne_nil : stem ≠ [])
      (spelt : Text.asciiLower ending = ['s']) (single : ¬['s'] <:+ Text.asciiLower stem) :
      Inflects word stem

variable {word result : List Char}

/-! ## Endings -/

theorem asciiLower_append (cs ds : List Char) :
    Text.asciiLower (cs ++ ds) = Text.asciiLower cs ++ Text.asciiLower ds :=
  List.map_append

theorem dropEnd_append (stem ending : List Char) :
    dropEnd ending.length (stem ++ ending) = stem := by
  rw [dropEnd, List.length_append, Nat.add_sub_cancel]
  exact List.take_left

theorem endsWithAny_iff {endings : List (List Char)} {cs : List Char} :
    endsWithAny endings cs = true ↔ ∃ ending ∈ endings, ending <:+ cs := by
  rw [endsWithAny, List.any_eq_true]
  simp only [List.isSuffixOf_iff_suffix]

theorem endsWithAny_singleton_iff {ending cs : List Char} :
    endsWithAny [ending] cs = true ↔ ending <:+ cs := by
  simp [endsWithAny_iff]

/-- An ending that is found in lower case is the end of the word, and can be cut off. -/
theorem exists_of_suffix_asciiLower {ending : List Char} (n : Nat)
    (h : ending <:+ Text.asciiLower word) (hlength : ending.length = n) :
    ∃ stem last, word = stem ++ last ∧ Text.asciiLower last = ending ∧ dropEnd n word = stem ∧
      (n < (Text.asciiLower word).length → stem ≠ []) := by
  obtain ⟨front, hfront⟩ := h
  obtain ⟨stem, last, rfl, -, hlast⟩ := List.map_eq_append_iff.mp hfront.symm
  have hsame : last.length = n := by
    rw [← hlength, ← hlast, List.length_map]
  refine ⟨stem, last, rfl, hlast, ?_, ?_⟩
  · rw [← hsame]
    exact dropEnd_append stem last
  · rintro hmore rfl
    rw [List.nil_append, Text.asciiLower, List.length_map, hsame] at hmore
    exact Nat.lt_irrefl n hmore

theorem esEndings_eq : esEndings = sibilants.map (· ++ ['e', 's']) := by decide

/-! ## The ways of inflection -/

/-- The singular of a word is what becomes of it in one of these ways. -/
theorem inflects_singularWord (word : List Char) : Inflects word (singularWord word) := by
  simp only [singularWord]
  split
  · exact .kept
  split
  · next _ singular hfind =>
    have hlisted := List.mem_of_find?_eq_some hfind
    have hspelt := List.find?_some hfind
    rw [beq_iff_eq] at hspelt
    have hcapital : (word.head?.map Char.isUpper).getD false = true ↔ StartsCapital word := by
      rw [StartsCapital]
      cases word.head?.map Char.isUpper <;> simp
    split
    · next h => exact .capitalised hlisted hspelt.symm (hcapital.mp h)
    · next h => exact .irregular hlisted hspelt.symm (mt hcapital.mpr h)
  split
  · next h =>
    rw [Bool.and_eq_true, decide_eq_true_eq, endsWithAny_singleton_iff] at h
    obtain ⟨hmore, hsuffix⟩ := h
    obtain ⟨stem, last, rfl, hlast, hstem, hne⟩ := exists_of_suffix_asciiLower 3 hsuffix rfl
    rw [hstem]
    exact .ies rfl (hne hmore) hlast
  split
  · next h =>
    rw [esEndings_eq, endsWithAny_iff] at h
    obtain ⟨_, hmem, hsuffix⟩ := h
    obtain ⟨sibilant, hlisted, rfl⟩ := List.mem_map.mp hmem
    obtain ⟨stem, last, rfl, hlast, hstem, -⟩ :=
      exists_of_suffix_asciiLower 2 ((List.suffix_append _ _).trans hsuffix) rfl
    rw [asciiLower_append, hlast, List.suffix_append_self_iff] at hsuffix
    rw [hstem]
    exact .es rfl hlisted hsuffix hlast
  split
  · exact .kept
  · next hsingular =>
    split
    · next h =>
      rw [Bool.and_eq_true, decide_eq_true_eq, endsWithAny_singleton_iff] at h
      obtain ⟨hmore, hsuffix⟩ := h
      obtain ⟨stem, last, rfl, hlast, hstem, hne⟩ := exists_of_suffix_asciiLower 1 hsuffix rfl
      rw [hstem]
      refine .s rfl (hne hmore) hlast fun hdouble => hsingular ?_
      rw [endsWithAny_iff, asciiLower_append, hlast]
      exact ⟨['s'] ++ ['s'], by decide, List.suffix_append_self_iff.mpr hdouble⟩
    · exact .kept

/-! ## Letters -/

namespace Inflects

theorem es_ne_nil {stem sibilant : List Char} (hlisted : sibilant ∈ sibilants)
    (h : sibilant <:+ Text.asciiLower stem) : stem ≠ [] := by
  have hne : ∀ sibilant ∈ sibilants, sibilant ≠ [] := by decide
  rintro rfl
  exact hne sibilant hlisted (List.suffix_nil.mp h)

/-- The singular starts with a capital if the word does, and is empty only if the word is. -/
theorem head?_isUpper (h : Inflects word result) :
    result.head?.map Char.isUpper = word.head?.map Char.isUpper := by
  have hstem : ∀ {stem : List Char} (ending : List Char), stem ≠ [] →
      (stem ++ ending).head? = stem.head? := fun ending hne => List.head?_append_of_ne_nil _ hne
  cases h with
  | kept => rfl
  | irregular hlisted hspelt hsmall =>
      have htable : ∀ entry ∈ Naming.irregular,
          entry.1 ≠ [] ∧ entry.2.head?.map Char.isUpper = some false := by decide
      obtain ⟨hne, hhead⟩ := htable _ hlisted
      cases word with
      | nil => exact absurd hspelt.symm hne
      | cons c rest =>
          rw [StartsCapital, List.head?_cons, Option.map_some, Option.some.injEq,
            Bool.not_eq_true] at hsmall
          rw [hhead, List.head?_cons, Option.map_some, hsmall]
  | capitalised hlisted _ hcapital =>
      have htable : ∀ entry ∈ Naming.irregular,
          (Naming.capitalised entry.2).head?.map Char.isUpper = some true := by decide
      rw [htable _ hlisted, hcapital]
  | ies hsplit hne => rw [hsplit, hstem _ hne, hstem _ hne]
  | es hsplit hlisted hsibilates => rw [hsplit, hstem _ (es_ne_nil hlisted hsibilates)]
  | s hsplit hne => rw [hsplit, hstem _ hne]

/-- The characters of the singular are those of the word and ASCII letters, which are small letters
after the first one. -/
theorem letters (h : Inflects word result) :
    (∀ c ∈ result, c ∈ word ∨ c.isAlpha = true) ∧
      ∀ c ∈ result.tail, c ∈ word.tail ∨ c.isLower = true := by
  have hstem : ∀ {stem ending : List Char}, word = stem ++ ending →
      (∀ c ∈ stem, c ∈ word) ∧ ∀ c ∈ stem.tail, c ∈ word.tail := by
    rintro stem ending rfl
    refine ⟨fun c hc => List.mem_append_left _ hc, fun c hc => ?_⟩
    have hne : stem ≠ [] := fun hnil => List.not_mem_nil (hnil ▸ List.mem_of_mem_tail hc)
    rw [List.tail_append_of_ne_nil hne]
    exact List.mem_append_left _ hc
  cases h with
  | kept => exact ⟨fun c hc => .inl hc, fun c hc => .inl hc⟩
  | irregular hlisted =>
      have htable : ∀ entry ∈ Naming.irregular,
          entry.2.all Char.isAlpha = true ∧ entry.2.tail.all Char.isLower = true := by decide
      obtain ⟨hletters, hsmall⟩ := htable _ hlisted
      exact ⟨fun c hc => .inr (List.all_eq_true.mp hletters c hc),
        fun c hc => .inr (List.all_eq_true.mp hsmall c hc)⟩
  | capitalised hlisted =>
      have htable : ∀ entry ∈ Naming.irregular,
          (Naming.capitalised entry.2).all Char.isAlpha = true ∧
          (Naming.capitalised entry.2).tail.all Char.isLower = true := by decide
      obtain ⟨hletters, hsmall⟩ := htable _ hlisted
      exact ⟨fun c hc => .inr (List.all_eq_true.mp hletters c hc),
        fun c hc => .inr (List.all_eq_true.mp hsmall c hc)⟩
  | ies hsplit hne =>
      obtain ⟨hmem, htail⟩ := hstem hsplit
      rw [List.tail_append_of_ne_nil hne]
      simp only [List.mem_append, List.mem_singleton]
      constructor
      · rintro c (hc | rfl)
        · exact .inl (hmem c hc)
        · exact .inr (by decide)
      · rintro c (hc | rfl)
        · exact .inl (htail c hc)
        · exact .inr (by decide)
  | es hsplit =>
      obtain ⟨hmem, htail⟩ := hstem hsplit
      exact ⟨fun c hc => .inl (hmem c hc), fun c hc => .inl (htail c hc)⟩
  | s hsplit =>
      obtain ⟨hmem, htail⟩ := hstem hsplit
      exact ⟨fun c hc => .inl (hmem c hc), fun c hc => .inl (htail c hc)⟩

/-- The singular of a last word is the last word again. -/
theorem lastWord {before : List Char} (h : Inflects word result) (hword : LastWord before word) :
    LastWord before result := by
  obtain ⟨hmem, htail⟩ := h.letters
  constructor
  · rw [StartsCapital, h.head?_isUpper]
    exact hword.begins
  · intro hseparator
    rcases hmem '_' hseparator with hold | hletter
    · exact hword.noSeparator hold
    · exact absurd hletter (by decide)
  · intro c hc
    rcases htail c hc with hold | hsmall
    · exact hword.noCapital c hold
    · exact Text.isUpper_of_isLower hsmall

end Inflects

/-! ## Singulars of singulars -/

/-- The irregular plurals with an `s` after them. -/
def doubledPlurals : List (List Char) :=
  ["peoples", "childrens", "mens", "womens", "mices", "feets", "teeths", "geeses"].map
    String.toList

theorem doubledPlurals_eq : doubledPlurals = irregular.map fun entry => entry.1 ++ ['s'] := by
  decide

/-- A word is its own singular unless it is an irregular plural or ends in a single `s`. -/
theorem singularWord_eq_self (hirregular : ∀ entry ∈ irregular, entry.1 ≠ Text.asciiLower word)
    (hend : ['s'] <:+ Text.asciiLower word → ['s', 's'] <:+ Text.asciiLower word) :
    singularWord word = word := by
  have hes : ¬['e', 's'] <:+ Text.asciiLower word := by
    intro h
    have hdouble := hend ((List.suffix_append ['e'] ['s']).trans h)
    have hsame := List.suffix_of_suffix_length_le h hdouble (by decide)
    exact absurd hsame (by decide)
  have hfind : irregular.find? (fun entry => entry.1 == Text.asciiLower word) = none := by
    rw [List.find?_eq_none]
    exact fun entry hentry => mt beq_iff_eq.mp (hirregular entry hentry)
  have hies : endsWithAny [['i', 'e', 's']] (Text.asciiLower word) = false := by
    rw [Bool.eq_false_iff, ne_eq, endsWithAny_singleton_iff]
    exact fun hsuffix => hes ((List.suffix_append ['i'] ['e', 's']).trans hsuffix)
  have hesEndings : endsWithAny esEndings (Text.asciiLower word) = false := by
    rw [Bool.eq_false_iff, ne_eq, esEndings_eq, endsWithAny_iff]
    rintro ⟨_, hmem, hsuffix⟩
    obtain ⟨sibilant, -, rfl⟩ := List.mem_map.mp hmem
    exact hes ((List.suffix_append sibilant ['e', 's']).trans hsuffix)
  simp only [singularWord, hfind, hies, hesEndings, Bool.and_false, Bool.false_eq_true, if_false]
  split
  · rfl
  split
  · rfl
  · next hsingular =>
    rw [if_neg]
    intro h
    rw [Bool.and_eq_true, endsWithAny_singleton_iff] at h
    exact hsingular (endsWithAny_iff.mpr ⟨['s', 's'], by decide, hend h.2⟩)

/-- An irregular plural is not its own singular. -/
theorem singularWord_ne_of_irregular {entry : List Char × List Char} (h : entry ∈ irregular)
    (hword : Text.asciiLower word = entry.1) : singularWord word ≠ word := by
  have htable : ∀ entry ∈ irregular, entry.1 ∉ uncountable ∧
      irregular.find? (fun other => other.1 == entry.1) = some entry ∧
      Text.asciiLower entry.2 ≠ entry.1 ∧
      Text.asciiLower (capitalised entry.2) ≠ entry.1 := by decide
  obtain ⟨hcountable, hfind, hsmall, hcapital⟩ := htable entry h
  intro heq
  simp only [singularWord, hword, hfind, if_neg hcountable] at heq
  split at heq
  · exact hcapital (by rw [heq, hword])
  · exact hsmall (by rw [heq, hword])

/-- Only the `s` is cut off a doubled plural. -/
theorem singularWord_of_doubled {entry : List Char × List Char} (h : entry ∈ irregular)
    (hword : Text.asciiLower word = entry.1 ++ ['s']) :
    Text.asciiLower (singularWord word) = entry.1 := by
  have htable : ∀ entry ∈ irregular, entry.1 ++ ['s'] ∉ uncountable ∧
      irregular.find? (fun other => other.1 == entry.1 ++ ['s']) = none ∧
      endsWithAny [['i', 'e', 's']] (entry.1 ++ ['s']) = false ∧
      endsWithAny esEndings (entry.1 ++ ['s']) = false ∧
      endsWithAny singularEndings (entry.1 ++ ['s']) = false ∧
      1 < (entry.1 ++ ['s']).length := by decide
  obtain ⟨hcountable, hfind, hies, hes, hsingular, hmore⟩ := htable entry h
  obtain ⟨stem, last, rfl, hlast, hstem, -⟩ :=
    exists_of_suffix_asciiLower 1 (hword ▸ List.suffix_append entry.1 ['s']) rfl
  have hs : endsWithAny [['s']] (entry.1 ++ ['s']) = true :=
    endsWithAny_singleton_iff.mpr (List.suffix_append _ _)
  have hcut : singularWord (stem ++ last) = stem := by
    simp only [singularWord, hword, hfind, hies, hes, hsingular, hs, hmore, if_neg hcountable,
      hstem, Bool.and_false, Bool.and_true, Bool.false_eq_true, if_false, decide_true, if_true]
  rw [asciiLower_append, hlast, List.append_left_inj] at hword
  rw [hcut, hword]

/-- The singular of a word is its own singular unless the word is a doubled plural. -/
theorem singularWord_singularWord_eq_iff :
    singularWord (singularWord word) = singularWord word ↔
      Text.asciiLower word ∉ doubledPlurals := by
  rw [doubledPlurals_eq]
  constructor
  · intro heq hmem
    obtain ⟨entry, hentry, hword⟩ := List.mem_map.mp hmem
    exact singularWord_ne_of_irregular hentry (singularWord_of_doubled hentry hword.symm) heq
  · intro hnot
    have hinflects := inflects_singularWord word
    generalize hresult : singularWord word = result at hinflects ⊢
    cases hinflects with
    | kept => exact hresult
    | irregular hlisted =>
        have htable : ∀ entry ∈ irregular, singularWord entry.2 = entry.2 := by decide
        exact htable _ hlisted
    | capitalised hlisted =>
        have htable : ∀ entry ∈ irregular,
            singularWord (capitalised entry.2) = capitalised entry.2 := by decide
        exact htable _ hlisted
    | @ies stem _ _ _ _ =>
        have hy : Text.asciiLower (stem ++ ['y']) = Text.asciiLower stem ++ ['y'] :=
          asciiLower_append stem ['y']
        have htable : ∀ entry ∈ irregular, ¬['y'] <:+ entry.1 := by decide
        refine singularWord_eq_self (fun entry hentry heq => htable entry hentry ?_) fun hs => ?_
        · rw [heq, hy]
          exact List.suffix_append _ _
        · rw [hy] at hs
          have hsame := List.suffix_of_suffix_length_le hs (List.suffix_append _ ['y']) (by decide)
          exact absurd hsame (by decide)
    | @es _ _ sibilant _ hlisted hsibilates _ =>
        have hplurals : ∀ sibilant ∈ sibilants, ∀ entry ∈ irregular, ¬sibilant <:+ entry.1 := by
          decide
        have hdouble : ∀ sibilant ∈ sibilants, ['s'] <:+ sibilant → sibilant = ['s', 's'] := by
          decide
        have hne : ∀ sibilant ∈ sibilants, 1 ≤ sibilant.length := by decide
        refine singularWord_eq_self (fun entry hentry heq => ?_) fun hs => ?_
        · exact hplurals sibilant hlisted entry hentry (heq ▸ hsibilates)
        · have hsibilant := List.suffix_of_suffix_length_le hs hsibilates (hne sibilant hlisted)
          exact hdouble sibilant hlisted hsibilant ▸ hsibilates
    | s hsplit _ hspelt hsingle =>
        refine singularWord_eq_self (fun entry hentry heq => hnot ?_) fun hs => absurd hs hsingle
        rw [List.mem_map]
        refine ⟨entry, hentry, ?_⟩
        rw [hsplit, asciiLower_append, hspelt, heq]

/-- The singular of the singular of a key is that singular again, unless the last word of the key is
a doubled plural in any case of its letters.  Every key has a last word. -/
theorem singular_isProjection (key : String) :
    (∃ before word, key.toList = before ++ word ∧ LastWord before word) ∧
      ∀ before word, key.toList = before ++ word → LastWord before word →
        (singular (singular key) = singular key ↔ Text.asciiLower word ∉ doubledPlurals) := by
  refine ⟨exists_lastWord key.toList, fun before word hkey hword => ?_⟩
  have hagain := ((inflects_singularWord word).lastWord hword).singularChars_append
  rw [singular, singular, String.toList_ofList, String.ofList_inj, hkey,
    hword.singularChars_append, hagain, List.append_cancel_left_eq]
  exact singularWord_singularWord_eq_iff

/-- A doubled plural loses its `s` first and is looked up next. -/
theorem singular_teamPeoples :
    "teamPeoples".toList = "team".toList ++ "Peoples".toList ∧
      LastWord "team".toList "Peoples".toList ∧
      singular "teamPeoples" = "teamPeople" ∧ singular "teamPeople" = "teamPerson" ∧
      (singular (singular "teamPeoples") = singular "teamPeoples" ↔
        Text.asciiLower "Peoples".toList ∉ doubledPlurals) := by
  have hword : LastWord "team".toList "Peoples".toList :=
    ⟨.inr (.inr rfl), by decide, by simp⟩
  exact ⟨by decide, hword, by decide, by decide,
    (singular_isProjection "teamPeoples").2 _ _ (by decide) hword⟩

end Naming
end SparseFields

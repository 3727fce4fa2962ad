import SparseFields.Naming.Singular
import SparseFields.Text.CamelCase
import Mathlib.Data.List.Basic

/-!
# Camel case of names in snake case

In a name of lower-case words with `_` between them, every character is a cluster of its own and
words end at the `_` only.  So its camel case is made of the same words, all but the first with a
capital in front.  A capital then stands exactly where a `_` stood, and the name can be read back
from its camel case: different names have different camel cases, and no name in snake case is the
camel case of another one.
-/

namespace SparseFields
namespace Text

/-- One or more lower-case letters of ASCII. -/
structure IsWord (word : List Char) : Prop where
  ne_nil : word ≠ []
  lower : ∀ c ∈ word, c.isLower = true

theorem IsWord.ofAll {word : List Char} (hne : word ≠ []) (h : word.all Char.isLower = true) :
    IsWord word :=
  ⟨hne, List.all_eq_true.mp h⟩

/-- Words with a `_` before each but the first. -/
def snakeCase (first : List Char) (others : List (List Char)) : List Char :=
  first ++ others.flatMap ('_' :: ·)

/-- Words with a capital in front of each but the first. -/
def humped (first : List Char) (others : List (List Char)) : List Char :=
  first ++ others.flatMap Naming.capitalised

/-! ## Lower-case letters -/

/-- What a lower-case letter is taken for: it is in ASCII and has a capital, and it has no other
property. -/
structure Letter (c : Char) : Prop where
  ascii : isAscii c = true
  toLower : c.toLower = c
  toUpper : c.toUpper ≠ c ∧ c.toUpper.isUpper = true ∧ c.toUpper.toLower = c
  notUpper : c.isUpper = false
  notDigit : c.isDigit = false
  cluster : ClusterClass.ofChar c = .other

instance (c : Char) : Decidable (Letter c) :=
  decidable_of_iff
    (isAscii c = true ∧ c.toLower = c ∧
      (c.toUpper ≠ c ∧ c.toUpper.isUpper = true ∧ c.toUpper.toLower = c) ∧
        c.isUpper = false ∧ c.isDigit = false ∧ ClusterClass.ofChar c = .other)
    ⟨fun ⟨h₁, h₂, h₃, h₄, h₅, h₆⟩ => ⟨h₁, h₂, h₃, h₄, h₅, h₆⟩,
      fun ⟨h₁, h₂, h₃, h₄, h₅, h₆⟩ => ⟨h₁, h₂, h₃, h₄, h₅, h₆⟩⟩

theorem letter_ofNat : ∀ code ∈ List.range' 97 26, Letter (Char.ofNat code) := by
  decide

theorem letter_of_isLower {c : Char} (h : c.isLower = true) : Letter c := by
  have hcode : 97 ≤ c.toNat ∧ c.toNat ≤ 122 := by
    have hbounds : (decide ('a'.val ≤ c.val) && decide (c.val ≤ 'z'.val)) = true := h
    simpa [UInt32.le_iff_toNat_le] using hbounds
  have hmem : c.toNat ∈ List.range' 97 26 := by
    rw [List.mem_range'_1]
    omega
  rw [← Char.ofNat_toNat c]
  exact letter_ofNat _ hmem

theorem isUpper_of_isLower {c : Char} (h : c.isLower = true) : c.isUpper = false :=
  (letter_of_isLower h).notUpper

theorem lowerChar_of_isLower {c : Char} (h : c.isLower = true) : lowerChar c = [c] := by
  have hletter := letter_of_isLower h
  rw [lowerChar, if_pos hletter.ascii, hletter.toLower]

theorem upperChar_of_isLower {c : Char} (h : c.isLower = true) : upperChar c = [c.toUpper] := by
  rw [upperChar, if_pos (letter_of_isLower h).ascii]

theorem lowerAfter_of_isLower {word : List Char} (h : ∀ c ∈ word, c.isLower = true)
    (before : List Char) : lowerAfter before word = word := by
  induction word generalizing before with
  | nil => rfl
  | cons c rest ih =>
      obtain ⟨hc, hrest⟩ := List.forall_mem_cons.mp h
      have hsigma : c ≠ 'Σ' := by
        rintro rfl
        exact absurd hc (by decide)
      rw [lowerAfter, if_neg hsigma, lowerChar_of_isLower hc, ih hrest]
      rfl

theorem lower_of_isLower {word : List Char} (h : ∀ c ∈ word, c.isLower = true) :
    lower word = word :=
  lowerAfter_of_isLower h []

theorem capitalise_of_isLower {word : List Char} (h : ∀ c ∈ word, c.isLower = true) :
    capitalise word = Naming.capitalised word := by
  cases word with
  | nil => rfl
  | cons c rest =>
      obtain ⟨hc, hrest⟩ := List.forall_mem_cons.mp h
      rw [capitalise, upperChar_of_isLower hc, lower_of_isLower hrest]
      rfl

/-! ## Clusters -/

theorem ofChar_of_isLower {c : Char} (h : c.isLower = true) : ClusterClass.ofChar c = .other :=
  (letter_of_isLower h).cluster

/-- Two characters without any property stand apart. -/
theorem joins_next_eq_false {c c' : Char} (hc : ClusterClass.ofChar c = .other)
    (hc' : ClusterClass.ofChar c' = .other) (s : ClusterState) : (s.next c).joins c' = false := by
  rw [ClusterState.next, ClusterState.joins, hc, hc']
  rfl

theorem clustersFrom_of_other {cs : List Char} (h : ∀ c ∈ cs, ClusterClass.ofChar c = .other)
    (s : ClusterState) : clustersFrom s cs = cs.map fun c => [c] := by
  induction cs generalizing s with
  | nil => rfl
  | cons c rest ih =>
      obtain ⟨hc, hrest⟩ := List.forall_mem_cons.mp h
      have hapart : (rest.head?.map (s.next c).joins).getD false = false := by
        cases rest with
        | nil => rfl
        | cons c' rest => exact joins_next_eq_false hc (hrest c' List.mem_cons_self) s
      rw [clustersFrom, hapart, ih hrest]
      rfl

/-! ## Words -/

theorem isUpper_singleton {c : Char} (h : c.isLower = true) : isUpper [c] = false := by
  have hne : [c] ≠ upper [c] := by
    rw [upper, List.flatMap_cons, upperChar_of_isLower h]
    intro heq
    exact (letter_of_isLower h).toUpper.1 (List.cons.inj heq).1.symm
  rw [isUpper, beq_eq_false_iff_ne.mpr hne, Bool.and_false]

theorem isDigit_singleton {c : Char} (h : c.isLower = true) : isDigit [c] = false := by
  rw [isDigit, List.all_cons, (letter_of_isLower h).notDigit, Bool.false_and]

theorem isSeparator_singleton {c : Char} (h : c.isLower = true) : isSeparator [c] = false := by
  have hne : ∀ d, d.isLower = false → ([c] == [d]) = false := by
    rintro d hd
    rw [beq_eq_false_iff_ne]
    rintro ⟨⟩
    rw [h] at hd
    cases hd
  rw [isSeparator, hne '_' rfl, hne '-' rfl, hne ' ' rfl]
  rfl

/-- What follows a lower-case letter without ending its word. -/
def Continues (cs : List Cluster) : Prop :=
  ∀ cluster ∈ cs.head?, isUpper cluster = false ∧ isDigit cluster = false

theorem endsWord_eq_false {c : Char} (h : c.isLower = true) {rest : List Cluster}
    (hrest : Continues rest) : endsWord [c] rest = false := by
  cases rest with
  | nil => rfl
  | cons next rest =>
      obtain ⟨hupper, hdigit⟩ := hrest next rfl
      rw [endsWord, hupper, hdigit, isUpper_singleton h, isDigit_singleton h]
      simp

theorem wordsFrom_append {word : List Char} (h : ∀ c ∈ word, c.isLower = true) (done : List Char)
    {rest : List Cluster} (hrest : Continues rest) :
    wordsFrom done (word.map (fun c => [c]) ++ rest) = wordsFrom (done ++ word) rest := by
  induction word generalizing done with
  | nil => simp
  | cons c word ih =>
      obtain ⟨hc, hword⟩ := List.forall_mem_cons.mp h
      have hcontinues : Continues (word.map (fun c => [c]) ++ rest) := by
        cases word with
        | nil => exact hrest
        | cons c' word =>
            have hc' := hword c' List.mem_cons_self
            rintro _ ⟨⟩
            exact ⟨isUpper_singleton hc', isDigit_singleton hc'⟩
      rw [List.map_cons, List.cons_append, wordsFrom, isSeparator_singleton hc,
        endsWord_eq_false hc hcontinues]
      simpa using ih hword (done ++ [c])

theorem wordsFrom_snakeCase {first : List Char} {others : List (List Char)}
    (hfirst : ∀ c ∈ first, c.isLower = true)
    (hothers : ∀ word ∈ others, ∀ c ∈ word, c.isLower = true) :
    wordsFrom [] ((snakeCase first others).map fun c => [c]) = first :: others := by
  induction others generalizing first with
  | nil =>
      have hwords := wordsFrom_append hfirst [] (show Continues [] from nofun)
      rw [List.append_nil, List.nil_append] at hwords
      rw [snakeCase, List.flatMap_nil, List.append_nil, hwords]
      rfl
  | cons word others ih =>
      obtain ⟨hword, hothers⟩ := List.forall_mem_cons.mp hothers
      have hcontinues : Continues (['_'] :: (snakeCase word others).map fun c => [c]) := by
        rintro _ ⟨⟩
        decide
      have hsplit : (snakeCase first (word :: others)).map (fun c => [c]) =
          first.map (fun c => [c]) ++ ['_'] :: (snakeCase word others).map fun c => [c] := by
        simp [snakeCase]
      rw [hsplit, wordsFrom_append hfirst [] hcontinues, wordsFrom, if_pos (by decide),
        ih hword hothers]
      rfl

/-- The camel case of words joined by `_`: the same words, all but the first with a capital in
front. -/
theorem camelCase_snakeCase {first : List Char} {others : List (List Char)}
    (hfirst : IsWord first) (hothers : ∀ word ∈ others, IsWord word) :
    camelCase (snakeCase first others) = humped first others := by
  have hletters : ∀ word ∈ others, ∀ c ∈ word, c.isLower = true := fun word hword =>
    (hothers word hword).lower
  have hother : ∀ c ∈ snakeCase first others, ClusterClass.ofChar c = .other := by
    intro c hc
    rcases List.mem_append.mp hc with hc | hc
    · exact ofChar_of_isLower (hfirst.lower c hc)
    · obtain ⟨word, hword, hc⟩ := List.mem_flatMap.mp hc
      rcases List.mem_cons.mp hc with rfl | hc
      · decide
      · exact ofChar_of_isLower (hletters word hword c hc)
  have hwords : words (snakeCase first others) = first :: others := by
    rw [words, clusters, clustersFrom_of_other hother, wordsFrom_snakeCase hfirst.lower hletters]
  have hcapitals : others.flatMap capitalise = others.flatMap Naming.capitalised :=
    List.flatMap_congr fun word hword => capitalise_of_isLower (hletters word hword)
  rw [camelCase, hwords]
  dsimp only
  rw [lower_of_isLower hfirst.lower, hcapitals]
  rfl

/-! ## Reading back -/

/-- A `_` and the small letter for every capital. -/
def unhumped (cs : List Char) : List Char :=
  cs.flatMap fun c => if c.isUpper then ['_', c.toLower] else [c]

theorem unhumped_of_no_capitals {cs : List Char} (h : ∀ c ∈ cs, c.isUpper = false) :
    unhumped cs = cs := by
  induction cs with
  | nil => rfl
  | cons c rest ih =>
      obtain ⟨hc, hrest⟩ := List.forall_mem_cons.mp h
      have hread := ih hrest
      rw [unhumped] at hread ⊢
      rw [List.flatMap_cons, hc, hread]
      rfl

theorem unhumped_capitalised {word : List Char} (h : IsWord word) :
    unhumped (Naming.capitalised word) = '_' :: word := by
  cases word with
  | nil => exact absurd rfl h.ne_nil
  | cons c rest =>
      obtain ⟨hc, hrest⟩ := List.forall_mem_cons.mp h.lower
      obtain ⟨-, hcapital, hsmall⟩ := (letter_of_isLower hc).toUpper
      have hread := unhumped_of_no_capitals fun c hc => isUpper_of_isLower (hrest c hc)
      rw [Naming.capitalised, unhumped, List.flatMap_cons, if_pos hcapital, hsmall]
      exact congrArg ('_' :: c :: ·) hread

/-- A name in snake case is read back from its camel case. -/
theorem unhumped_humped {first : List Char} {others : List (List Char)} (hfirst : IsWord first)
    (hothers : ∀ word ∈ others, IsWord word) :
    unhumped (humped first others) = snakeCase first others := by
  have hread : unhumped first = first :=
    unhumped_of_no_capitals fun c hc => isUpper_of_isLower (hfirst.lower c hc)
  have hwords : (others.flatMap fun word => unhumped (Naming.capitalised word)) =
      others.flatMap ('_' :: ·) :=
    List.flatMap_congr fun word hword => unhumped_capitalised (hothers word hword)
  rw [snakeCase, ← hwords, humped]
  conv_rhs => rw [← hread]
  simp [unhumped, List.flatMap_assoc]

theorem unhumped_snakeCase {first : List Char} {others : List (List Char)} (hfirst : IsWord first)
    (hothers : ∀ word ∈ others, IsWord word) :
    unhumped (snakeCase first others) = snakeCase first others := by
  apply unhumped_of_no_capitals
  intro c hc
  rcases List.mem_append.mp hc with hc | hc
  · exact isUpper_of_isLower (hfirst.lower c hc)
  · obtain ⟨word, hword, hc⟩ := List.mem_flatMap.mp hc
    rcases List.mem_cons.mp hc with rfl | hc
    · rfl
    · exact isUpper_of_isLower ((hothers word hword).lower c hc)

end Text
end SparseFields

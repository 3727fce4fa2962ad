import SparseFields.Selection.Parser
import Mathlib.Data.List.Basic
import Mathlib.Algebra.Order.Ring.Int

/-!
# Open groups

How many groups are open after a text, which texts are balanced, and which stay within a limit of
nesting.  The main statement is that the check of parentheses that comes before reading passes
exactly the balanced texts within the limit.

The check walks forward with the places of the open groups, so its invariant adds their number to
the count for what follows.
-/

namespace SparseFields
namespace Selection

/-- The number of groups that a text opens and does not close; negative when it closes more than
it opens. -/
def openGroups (cs : List Char) : Int :=
  (cs.count '(' : Int) - cs.count ')'

/-- No beginning of the text closes more groups than it opens, and the whole text closes all. -/
structure Balanced (cs : List Char) : Prop where
  nonneg : ∀ start, start <+: cs → 0 ≤ openGroups start
  closed : openGroups cs = 0

/-- Nowhere in the text more groups are open than the limit says. -/
def NestsWithin (limit : Nat) (cs : List Char) : Prop :=
  ∀ start, start <+: cs → openGroups start ≤ limit

/-! ## Counting -/

@[simp]
theorem openGroups_nil : openGroups [] = 0 := rfl

@[simp]
theorem openGroups_append (cs ds : List Char) :
    openGroups (cs ++ ds) = openGroups cs + openGroups ds := by
  simp only [openGroups, List.count_append]
  omega

@[simp]
theorem openGroups_cons_open (cs : List Char) :
    openGroups ('(' :: cs) = 1 + openGroups cs := by
  simp [openGroups]
  omega

@[simp]
theorem openGroups_cons_close (cs : List Char) :
    openGroups (')' :: cs) = -1 + openGroups cs := by
  simp [openGroups]
  omega

theorem openGroups_cons_other {c : Char} (hopen : c ≠ '(') (hclose : c ≠ ')')
    (cs : List Char) :
    openGroups (c :: cs) = openGroups cs := by
  simp [openGroups, hopen, hclose]

theorem openGroups_eq_zero {cs : List Char}
    (h : ∀ c ∈ cs, c ≠ '(' ∧ c ≠ ')') : openGroups cs = 0 := by
  have hopen : cs.count '(' = 0 := List.count_eq_zero.mpr fun hmem => (h _ hmem).1 rfl
  have hclose : cs.count ')' = 0 := List.count_eq_zero.mpr fun hmem => (h _ hmem).2 rfl
  simp [openGroups, hopen, hclose]

/-! ## Beginnings -/

theorem forall_prefix_cons {c : Char} {cs : List Char} {P : List Char → Prop} :
    (∀ start, start <+: c :: cs → P start) ↔
      P [] ∧ ∀ start, start <+: cs → P (c :: start) := by
  constructor
  · intro h
    exact ⟨h [] List.nil_prefix, fun start hstart => h _ ((List.prefix_cons_inj c).mpr hstart)⟩
  · rintro ⟨hnil, hcons⟩ start hstart
    rcases List.prefix_cons_iff.mp hstart with rfl | ⟨rest, rfl, hrest⟩
    · exact hnil
    · exact hcons rest hrest

/-- A beginning of two texts put together ends in the first one or in the second one. -/
theorem prefix_append_cases {cs ds start : List Char} (h : start <+: cs ++ ds) :
    start <+: cs ∨ ∃ rest, start = cs ++ rest ∧ rest <+: ds := by
  rcases List.prefix_or_prefix_of_prefix h (List.prefix_append cs ds) with hle | hge
  · exact Or.inl hle
  · obtain ⟨rest, rfl⟩ := hge
    exact Or.inr ⟨rest, rfl, (List.prefix_append_right_inj cs).mp h⟩

/-! ## Balanced texts -/

theorem balanced_of_no_parentheses {cs : List Char}
    (h : ∀ c ∈ cs, c ≠ '(' ∧ c ≠ ')') : Balanced cs where
  nonneg _ hstart :=
    (openGroups_eq_zero fun c hc => h c (hstart.subset hc)).symm.le
  closed := openGroups_eq_zero h

theorem Balanced.append {cs ds : List Char} (hcs : Balanced cs) (hds : Balanced ds) :
    Balanced (cs ++ ds) where
  nonneg start hstart := by
    rcases prefix_append_cases hstart with hfirst | ⟨rest, rfl, hrest⟩
    · exact hcs.nonneg start hfirst
    · rw [openGroups_append, hcs.closed, zero_add]
      exact hds.nonneg rest hrest
  closed := by rw [openGroups_append, hcs.closed, hds.closed, add_zero]

/-- A balanced text in parentheses is balanced. -/
theorem Balanced.group {cs : List Char} (h : Balanced cs) :
    Balanced ('(' :: cs ++ [')']) where
  nonneg start hstart := by
    rcases prefix_append_cases hstart with hfirst | ⟨rest, rfl, hrest⟩
    · rcases List.prefix_cons_iff.mp hfirst with rfl | ⟨inner, rfl, hinner⟩
      · exact le_refl 0
      · have hnonneg := h.nonneg inner hinner
        rw [openGroups_cons_open]
        omega
    · rcases List.prefix_cons_iff.mp hrest with rfl | ⟨last, rfl, hlast⟩
      · simp [h.closed]
      · rw [List.prefix_nil.mp hlast]
        simp [h.closed]
  closed := by simp [h.closed]

/-! ## Texts within a limit -/

theorem NestsWithin.left {n : Nat} {cs ds : List Char} (h : NestsWithin n (cs ++ ds)) :
    NestsWithin n cs :=
  fun start hstart => h start (hstart.trans (List.prefix_append cs ds))

/-- After a balanced text the count of open groups starts anew. -/
theorem nestsWithin_append_iff {n : Nat} {cs ds : List Char} (h : openGroups cs = 0) :
    NestsWithin n (cs ++ ds) ↔ NestsWithin n cs ∧ NestsWithin n ds := by
  constructor
  · intro hboth
    refine ⟨hboth.left, fun start hstart => ?_⟩
    have hle := hboth (cs ++ start) ((List.prefix_append_right_inj cs).mpr hstart)
    rwa [openGroups_append, h, zero_add] at hle
  · rintro ⟨hcs, hds⟩ start hstart
    rcases prefix_append_cases hstart with hfirst | ⟨rest, rfl, hrest⟩
    · exact hcs start hfirst
    · rw [openGroups_append, h, zero_add]
      exact hds rest hrest

/-- A balanced text in parentheses nests one level deeper. -/
theorem nestsWithin_group_iff {n : Nat} {cs : List Char} (h : openGroups cs = 0) :
    NestsWithin n ('(' :: cs ++ [')']) ↔ ∃ m, n = m + 1 ∧ NestsWithin m cs := by
  constructor
  · intro hgroup
    have hfirst := hgroup ['('] (by simp)
    rw [openGroups_cons_open, openGroups_nil] at hfirst
    refine ⟨n - 1, by omega, fun start hstart => ?_⟩
    have hle := hgroup.left ('(' :: start) ((List.prefix_cons_inj '(').mpr hstart)
    rw [openGroups_cons_open] at hle
    omega
  · rintro ⟨m, rfl, hcs⟩ start hstart
    rcases prefix_append_cases hstart with hfirst | ⟨rest, rfl, hrest⟩
    · rcases List.prefix_cons_iff.mp hfirst with rfl | ⟨inner, rfl, hinner⟩
      · simp
        omega
      · have hle := hcs inner hinner
        rw [openGroups_cons_open]
        omega
    · have hle := hcs [] List.nil_prefix
      rcases List.prefix_cons_iff.mp hrest with rfl | ⟨last, rfl, hlast⟩
      · simp [h]
      · rw [List.prefix_nil.mp hlast]
        simp [h]
        omega

/-- A text that closes all groups it opens and never has more of them open than a limit says. -/
structure ClosesWithin (limit : Nat) (cs : List Char) : Prop where
  closed : openGroups cs = 0
  within : NestsWithin limit cs

theorem closesWithin_of_no_parentheses {n : Nat} {cs : List Char}
    (h : ∀ c ∈ cs, c ≠ '(' ∧ c ≠ ')') : ClosesWithin n cs where
  closed := openGroups_eq_zero h
  within start hstart := by
    rw [openGroups_eq_zero fun c hc => h c (hstart.subset hc)]
    omega

theorem ClosesWithin.append {n : Nat} {cs ds : List Char} (hcs : ClosesWithin n cs)
    (hds : ClosesWithin n ds) : ClosesWithin n (cs ++ ds) where
  closed := by rw [openGroups_append, hcs.closed, hds.closed, add_zero]
  within := (nestsWithin_append_iff hcs.closed).mpr ⟨hcs.within, hds.within⟩

theorem ClosesWithin.group {n : Nat} {cs : List Char} (h : ClosesWithin n cs) :
    ClosesWithin (n + 1) ('(' :: cs ++ [')']) where
  closed := by simp [h.closed]
  within := (nestsWithin_group_iff h.closed).mpr ⟨n, rfl, h.within⟩

/-! ## The check of parentheses -/

theorem checkGroups_cons_open (position : Nat) (opened : List Nat) (tooDeep : Option Nat)
    (cs : List Char) :
    checkGroups position opened tooDeep ('(' :: cs) =
      checkGroups (position + 1) (position :: opened)
        (if tooDeep.isNone && maxNesting ≤ opened.length then some position else tooDeep) cs :=
  rfl

theorem checkGroups_cons_close (position place : Nat) (outer : List Nat)
    (tooDeep : Option Nat) (cs : List Char) :
    checkGroups position (place :: outer) tooDeep (')' :: cs) =
      checkGroups (position + 1) outer tooDeep cs :=
  rfl

theorem checkGroups_cons_unmatched (position : Nat) (tooDeep : Option Nat) (cs : List Char) :
    checkGroups position [] tooDeep (')' :: cs) = .error ⟨.unmatchedClose, position⟩ :=
  rfl

theorem checkGroups_cons_other {c : Char} (hopen : c ≠ '(') (hclose : c ≠ ')')
    (position : Nat) (opened : List Nat) (tooDeep : Option Nat) (cs : List Char) :
    checkGroups position opened tooDeep (c :: cs) =
      checkGroups (position + 1) opened tooDeep cs := by
  rw [checkGroups.eq_def]
  simp [hopen, hclose]

theorem checkGroups_nil_eq_ok_iff {position : Nat} {opened : List Nat} :
    checkGroups position opened none [] = .ok () ↔ opened = [] := by
  cases opened <;> simp [checkGroups, List.getLast?_cons]

/-- A text whose nesting has passed the limit is not let through, whatever follows. -/
theorem checkGroups_tooDeep_ne_ok (position place : Nat) (opened : List Nat)
    (cs : List Char) :
    checkGroups position opened (some place) cs ≠ .ok () := by
  induction cs generalizing position opened with
  | nil => cases h : opened.getLast? <;> simp [checkGroups, h]
  | cons c cs ih =>
      by_cases hopen : c = '('
      · subst hopen
        rw [checkGroups_cons_open]
        exact ih _ _
      · by_cases hclose : c = ')'
        · subst hclose
          cases opened with
          | nil => simp [checkGroups_cons_unmatched]
          | cons _ outer =>
              rw [checkGroups_cons_close]
              exact ih _ outer
        · rw [checkGroups_cons_other hopen hclose]
          exact ih _ opened

/-- With as many groups open as `opened` holds, the rest of a text is let through when it closes
them all, never closes one that is not open, and never has too many open. -/
theorem checkGroups_eq_ok_iff {position : Nat} {opened : List Nat} {cs : List Char}
    (hopened : opened.length ≤ maxNesting) :
    checkGroups position opened none cs = .ok () ↔
      (∀ start, start <+: cs → 0 ≤ opened.length + openGroups start) ∧
        opened.length + openGroups cs = 0 ∧
          ∀ start, start <+: cs → opened.length + openGroups start ≤ maxNesting := by
  induction cs generalizing position opened with
  | nil =>
      rw [checkGroups_nil_eq_ok_iff]
      constructor
      · rintro rfl
        simp
      · intro h
        simpa using h.2.1
  | cons c cs ih =>
      have hnonneg : 0 ≤ opened.length + openGroups [] := by simp
      have hwithin : opened.length + openGroups [] ≤ maxNesting := by simpa using hopened
      rw [forall_prefix_cons, forall_prefix_cons]
      simp only [hnonneg, hwithin, true_and]
      by_cases hopen : c = '('
      · subst hopen
        rw [checkGroups_cons_open]
        by_cases hdeep : maxNesting ≤ opened.length
        · have hpast : ¬(opened.length + openGroups ['('] ≤ maxNesting) := by
            simp
            omega
          simp only [Option.isNone_none, hdeep, decide_true, Bool.and_self, if_true]
          exact iff_of_false (checkGroups_tooDeep_ne_ok _ _ _ _)
            fun h => hpast (h.2.2 [] List.nil_prefix)
        · have hlength : ∀ ds, ((position :: opened).length : Int) + openGroups ds =
              opened.length + openGroups ('(' :: ds) := by
            intro ds
            simp
            omega
          simp only [Option.isNone_none, hdeep, decide_false, Bool.and_false,
            Bool.false_eq_true, if_false]
          rw [ih (by simp; omega)]
          simp only [hlength]
      · by_cases hclose : c = ')'
        · subst hclose
          cases opened with
          | nil =>
              rw [checkGroups_cons_unmatched]
              refine iff_of_false (by simp) fun h => ?_
              simpa using h.1 [] List.nil_prefix
          | cons place outer =>
              have hlength : ∀ ds, (outer.length : Int) + openGroups ds =
                  (place :: outer).length + openGroups (')' :: ds) := by
                intro ds
                simp
              rw [checkGroups_cons_close, ih (Nat.le_of_succ_le hopened)]
              simp only [hlength]
        · rw [checkGroups_cons_other hopen hclose, ih hopened]
          simp only [openGroups_cons_other hopen hclose]

/-- The check lets a text through exactly when it is balanced and within the limit of nesting. -/
theorem checkGroups_start_eq_ok_iff (cs : List Char) :
    checkGroups 0 [] none cs = .ok () ↔ Balanced cs ∧ NestsWithin maxNesting cs := by
  rw [checkGroups_eq_ok_iff (Nat.zero_le _)]
  simp only [List.length_nil, Nat.cast_zero, zero_add]
  constructor
  · rintro ⟨hnonneg, hclosed, hwithin⟩
    exact ⟨⟨hnonneg, hclosed⟩, hwithin⟩
  · rintro ⟨hbalanced, hwithin⟩
    exact ⟨hbalanced.nonneg, hbalanced.closed, hwithin⟩

end Selection
end SparseFields

import SparseFields.Proofs.Selection.Nesting
import Mathlib.Data.List.Induction

/-!
# Where groups are out of balance

Two parentheses of a text match when what stands between them is balanced.  This says where a text
is out of balance: at the first `)` that closes more than is open, or else at the first `(` that no
`)` matches.  The main statement is that the check of parentheses reports exactly these places, and
in a balanced text the first place that is nested too deep.

The check keeps the places of the open groups.  A text with such a list is balanced texts joined by
`(`, one for each place, and this shape is what every character keeps.
-/

namespace SparseFields
namespace Selection

/-! ## Matching parentheses -/

/-- The `(` at a place of a text and the `)` at another match: what stands between is balanced. -/
def Matches (cs : List Char) (i j : Nat) : Prop :=
  ∃ before inside after, cs = before ++ '(' :: (inside ++ ')' :: after) ∧ i = before.length ∧
    j = before.length + 1 + inside.length ∧ Balanced inside

/-- No beginning of a text closes more groups than it opens. -/
def NeverSurplus (cs : List Char) : Prop :=
  ∀ start, start <+: cs → 0 ≤ openGroups start

/-- A text in which groups are open at some places, the innermost first: balanced texts, each but
the first one after a `(`. -/
inductive Opens : List Char → List Nat → Prop
  | balanced {cs} (balanced : Balanced cs) : Opens cs []
  | inside {cs ds places} (before : Opens cs places) (balanced : Balanced ds) :
      Opens (cs ++ '(' :: ds) (cs.length :: places)

theorem balanced_nil : Balanced [] :=
  balanced_of_no_parentheses (List.forall_mem_nil _)

theorem balanced_singleton {c : Char} (hopen : c ≠ '(') (hclose : c ≠ ')') : Balanced [c] :=
  balanced_of_no_parentheses (List.forall_mem_singleton.mpr ⟨hopen, hclose⟩)

theorem Matches.append {cs : List Char} {i j : Nat} (h : Matches cs i j) (ds : List Char) :
    Matches (cs ++ ds) i j := by
  obtain ⟨before, inside, after, rfl, hi, hj, hinside⟩ := h
  exact ⟨before, inside, after ++ ds, by simp, hi, hj, hinside⟩

namespace Opens

variable {cs : List Char} {places : List Nat}

theorem append (h : Opens cs places) {ds : List Char} (hds : Balanced ds) :
    Opens (cs ++ ds) places := by
  cases h with
  | balanced hcs => exact .balanced (hcs.append hds)
  | inside hbefore hcs =>
      rw [List.append_assoc, List.cons_append]
      exact .inside hbefore (hcs.append hds)

theorem concat_open (h : Opens cs places) : Opens (cs ++ ['(']) (cs.length :: places) :=
  .inside h balanced_nil

/-- The group that is closed is a balanced text after what stood before it. -/
theorem concat_close {place : Nat} (h : Opens cs (place :: places)) :
    Opens (cs ++ [')']) places := by
  cases h with
  | @inside before inside _ hbefore hinside =>
      have hgroup := hbefore.append hinside.group
      rwa [List.append_assoc]

theorem concat_other (h : Opens cs places) {c : Char} (hopen : c ≠ '(') (hclose : c ≠ ')') :
    Opens (cs ++ [c]) places :=
  h.append (balanced_singleton hopen hclose)

theorem openGroups_eq (h : Opens cs places) : openGroups cs = places.length := by
  induction h with
  | balanced hcs => exact hcs.closed
  | inside _ hds ih =>
      rw [openGroups_append, openGroups_cons_open, ih, hds.closed, List.length_cons]
      omega

theorem neverSurplus (h : Opens cs places) : NeverSurplus cs := by
  induction h with
  | balanced hcs => exact hcs.nonneg
  | @inside cs ds places hbefore hds ih =>
      intro start hstart
      rcases prefix_append_cases hstart with hfirst | ⟨rest, rfl, hrest⟩
      · exact ih start hfirst
      · have hcs := hbefore.openGroups_eq
        rcases List.prefix_cons_iff.mp hrest with rfl | ⟨inner, rfl, hinner⟩
        · rw [List.append_nil, hcs]
          omega
        · have hnonneg := hds.nonneg inner hinner
          rw [openGroups_append, openGroups_cons_open, hcs]
          omega

theorem balanced_of_nil (h : Opens cs []) : Balanced cs := by
  cases h with
  | balanced hcs => exact hcs

/-- What stands before the outermost open group is balanced, and inside it only groups are open. -/
theorem outermost {first : Nat} (h : Opens cs places) (hfirst : places.getLast? = some first) :
    ∃ before inside places', cs = before ++ '(' :: inside ∧ first = before.length ∧
      Balanced before ∧ Opens inside places' := by
  induction h with
  | balanced => cases hfirst
  | @inside cs ds places hbefore hds ih =>
      cases places with
      | nil =>
          obtain rfl : cs.length = first := Option.some.inj hfirst
          exact ⟨cs, ds, [], rfl, rfl, hbefore.balanced_of_nil, .balanced hds⟩
      | cons place places =>
          rw [List.getLast?_cons_cons] at hfirst
          obtain ⟨before, inside, places', rfl, hlength, hbalanced, hopens⟩ := ih hfirst
          exact ⟨before, inside ++ '(' :: ds, _, by simp, hlength, hbalanced, .inside hopens hds⟩

end Opens

/-- A text has only open groups, or a balanced beginning is followed by a `)`. -/
theorem opens_or_surplus (cs : List Char) :
    (∃ places, Opens cs places) ∨
      ∃ before after, cs = before ++ ')' :: after ∧ Balanced before := by
  induction cs using List.reverseRecOn with
  | nil => exact .inl ⟨[], .balanced balanced_nil⟩
  | append_singleton cs c ih =>
      rcases ih with ⟨places, hopens⟩ | ⟨before, after, rfl, hbalanced⟩
      · by_cases hopen : c = '('
        · subst hopen
          exact .inl ⟨_, hopens.concat_open⟩
        · by_cases hclose : c = ')'
          · subst hclose
            cases places with
            | nil => exact .inr ⟨cs, [], rfl, hopens.balanced_of_nil⟩
            | cons place places => exact .inl ⟨places, hopens.concat_close⟩
          · exact .inl ⟨places, hopens.concat_other hopen hclose⟩
      · exact .inr ⟨before, after ++ [c], by simp, hbalanced⟩

/-- What follows the first group of a balanced text: the group is closed, and the text around it is
balanced. -/
theorem Balanced.split_open {cs : List Char} (h : Balanced ('(' :: cs)) :
    ∃ inside after, cs = inside ++ ')' :: after ∧ Balanced inside ∧ Balanced after := by
  rcases opens_or_surplus cs with ⟨places, hopens⟩ | ⟨inside, after, rfl, hinside⟩
  · have hclosed := h.closed
    rw [openGroups_cons_open, hopens.openGroups_eq] at hclosed
    omega
  · refine ⟨inside, after, rfl, hinside, ?_, ?_⟩
    · intro start hstart
      have hprefix : '(' :: (inside ++ ')' :: start) <+: '(' :: (inside ++ ')' :: after) := by
        simpa using hstart
      have hnonneg := h.nonneg _ hprefix
      rw [openGroups_cons_open, openGroups_append, openGroups_cons_close, hinside.closed]
        at hnonneg
      omega
    · have hclosed := h.closed
      rw [openGroups_cons_open, openGroups_append, openGroups_cons_close, hinside.closed]
        at hclosed
      omega

theorem Balanced.tail_of_other {c : Char} {cs : List Char} (h : Balanced (c :: cs))
    (hopen : c ≠ '(') (hclose : c ≠ ')') : Balanced cs where
  nonneg start hstart := by
    rw [← openGroups_cons_other hopen hclose]
    exact h.nonneg (c :: start) ((List.prefix_cons_inj c).mpr hstart)
  closed := by
    rw [← openGroups_cons_other hopen hclose]
    exact h.closed

/-- Balanced texts are made of other characters and of groups around balanced texts. -/
theorem Balanced.induction {P : List Char → Prop} (nil : P [])
    (other : ∀ c cs, c ≠ '(' → c ≠ ')' → P cs → P (c :: cs))
    (group : ∀ inside after, Balanced inside → P inside → P after →
      P ('(' :: (inside ++ ')' :: after)))
    {cs : List Char} (h : Balanced cs) : P cs := by
  match cs with
  | [] => exact nil
  | c :: cs =>
      by_cases hopen : c = '('
      · subst hopen
        obtain ⟨inside, after, rfl, hinside, hafter⟩ := h.split_open
        exact group inside after hinside (hinside.induction nil other group)
          (hafter.induction nil other group)
      · by_cases hclose : c = ')'
        · subst hclose
          have hnonneg := h.nonneg [')'] (by simp)
          simp at hnonneg
        · exact other c cs hopen hclose ((h.tail_of_other hopen hclose).induction nil other group)
termination_by cs.length

/-- In a text that closes all its groups, every `(` has a match. -/
theorem exists_matches {cs : List Char} (h : Balanced cs) {i : Nat} (hi : cs[i]? = some '(') :
    ∃ j, Matches cs i j := by
  obtain ⟨hlt, hget⟩ := List.getElem?_eq_some_iff.mp hi
  obtain ⟨before, after, rfl, rfl⟩ : ∃ before after, cs = before ++ '(' :: after ∧
      before.length = i := by
    refine ⟨cs.take i, cs.drop (i + 1), ?_, by simp; omega⟩
    rw [← hget, List.getElem_cons_drop, List.take_append_drop]
  rcases opens_or_surplus after with ⟨places, hopens⟩ | ⟨inside, rest, rfl, hinside⟩
  · -- A text before which a group stays open is not closed.
    have hclosed := h.closed
    have hbefore := h.nonneg before (List.prefix_append _ _)
    rw [openGroups_append, openGroups_cons_open, hopens.openGroups_eq] at hclosed
    omega
  · exact ⟨_, before, inside, rest, rfl, rfl, rfl, hinside⟩

/-! ## The places -/

/-- The first `)` that closes more groups than are open. -/
structure FirstSurplus (cs : List Char) (i : Nat) : Prop where
  close : cs[i]? = some ')'
  surplus : openGroups (cs.take (i + 1)) < 0
  first : ∀ j ≤ i, 0 ≤ openGroups (cs.take j)

/-- The first `(` that no `)` matches. -/
structure FirstUnmatched (cs : List Char) (i : Nat) : Prop where
  opens : cs[i]? = some '('
  unmatched : ∀ j, ¬Matches cs i j
  first : ∀ k < i, cs[k]? = some '(' → ∃ j, Matches cs k j

/-- The first `(` with which more groups are open than a limit says. -/
structure FirstTooDeep (limit : Nat) (cs : List Char) (i : Nat) : Prop where
  opens : cs[i]? = some '('
  deep : limit < openGroups (cs.take (i + 1))
  first : ∀ j ≤ i, openGroups (cs.take j) ≤ limit

/-- What is reported of the groups of a text: a surplus `)`, or else an unmatched `(`, or else a
group that is nested too deep. -/
inductive GroupFault (cs : List Char) : SyntaxError → Prop
  | unmatchedClose {i} (first : FirstSurplus cs i) : GroupFault cs ⟨.unmatchedClose, i⟩
  | unmatchedOpen {i} (noSurplus : NeverSurplus cs) (first : FirstUnmatched cs i) :
      GroupFault cs ⟨.unmatchedOpen, i⟩
  | nestingTooDeep {i} (balanced : Balanced cs) (first : FirstTooDeep maxNesting cs i) :
      GroupFault cs ⟨.nestingTooDeep maxNesting, i⟩

theorem FirstSurplus.not_neverSurplus {cs : List Char} {i : Nat} (h : FirstSurplus cs i) :
    ¬NeverSurplus cs := by
  intro hnever
  have hnonneg := hnever (cs.take (i + 1)) (List.take_prefix _ _)
  have hsurplus := h.surplus
  omega

theorem FirstUnmatched.not_balanced {cs : List Char} {i : Nat} (h : FirstUnmatched cs i) :
    ¬Balanced cs := by
  intro hbalanced
  obtain ⟨j, hj⟩ := exists_matches hbalanced h.opens
  exact h.unmatched j hj

theorem FirstTooDeep.not_nestsWithin {limit : Nat} {cs : List Char} {i : Nat}
    (h : FirstTooDeep limit cs i) : ¬NestsWithin limit cs := by
  intro hwithin
  have hle := hwithin (cs.take (i + 1)) (List.take_prefix _ _)
  have hdeep := h.deep
  omega

/-- A text has one fault of its groups at most. -/
theorem GroupFault.unique {cs : List Char} {e e' : SyntaxError} (h : GroupFault cs e)
    (h' : GroupFault cs e') : e = e' := by
  -- Of two places that come first, neither comes before the other.
  have hplaces : ∀ {P : Nat → Prop}, (∀ i i', P i → P i' → ¬i < i') → ∀ i i', P i → P i' → i = i' :=
    fun hlt i i' hi hi' => Nat.le_antisymm (Nat.not_lt.mp (hlt i' i hi' hi))
      (Nat.not_lt.mp (hlt i i' hi hi'))
  cases h with
  | unmatchedClose hfirst =>
      cases h' with
      | unmatchedClose hfirst' =>
          rw [hplaces (P := FirstSurplus cs) ?_ _ _ hfirst hfirst']
          intro i i' hi hi' hlt
          have hnonneg := hi'.first (i + 1) hlt
          have hsurplus := hi.surplus
          omega
      | unmatchedOpen hnever => exact absurd hnever hfirst.not_neverSurplus
      | nestingTooDeep hbalanced => exact absurd hbalanced.nonneg hfirst.not_neverSurplus
  | unmatchedOpen hnever hfirst =>
      cases h' with
      | unmatchedClose hfirst' => exact absurd hnever hfirst'.not_neverSurplus
      | unmatchedOpen _ hfirst' =>
          rw [hplaces (P := FirstUnmatched cs) ?_ _ _ hfirst hfirst']
          intro i i' hi hi' hlt
          obtain ⟨j, hj⟩ := hi'.first i hlt hi.opens
          exact hi.unmatched j hj
      | nestingTooDeep hbalanced => exact absurd hbalanced hfirst.not_balanced
  | nestingTooDeep hbalanced hfirst =>
      cases h' with
      | unmatchedClose hfirst' => exact absurd hbalanced.nonneg hfirst'.not_neverSurplus
      | unmatchedOpen _ hfirst' => exact absurd hbalanced hfirst'.not_balanced
      | nestingTooDeep _ hfirst' =>
          rw [hplaces (P := FirstTooDeep maxNesting cs) ?_ _ _ hfirst hfirst']
          intro i i' hi hi' hlt
          have hle := hi'.first (i + 1) hlt
          have hdeep := hi.deep
          omega

/-! ## The check -/

theorem take_append_of_le {read rest : List Char} {j : Nat} (h : j ≤ read.length) :
    (read ++ rest).take j <+: read := by
  rw [List.take_append_of_le_length h]
  exact List.take_prefix j read

/-- A `)` after a text without open groups. -/
theorem firstSurplus_of_balanced {read : List Char} (h : Balanced read) (rest : List Char) :
    FirstSurplus (read ++ ')' :: rest) read.length where
  close := by simp
  surplus := by
    have hlength : read.length + 1 = (read ++ [')']).length := by simp
    rw [List.append_cons, hlength, List.take_left, openGroups_append, h.closed]
    simp
  first j hj := h.nonneg _ (take_append_of_le hj)

/-- The outermost group that is open at the end of a text is not matched, and all before it are. -/
theorem Opens.firstUnmatched {cs : List Char} {places : List Nat} {first : Nat}
    (h : Opens cs places) (hfirst : places.getLast? = some first) : FirstUnmatched cs first := by
  obtain ⟨before, inside, places', rfl, rfl, hbefore, hinside⟩ := h.outermost hfirst
  constructor
  · simp
  · rintro j ⟨before', inside', after, hsplit, hlength, -, hbalanced⟩
    obtain ⟨rfl, hrest⟩ := List.append_inj hsplit hlength
    obtain rfl : inside = inside' ++ ')' :: after := List.cons_injective hrest
    have hnonneg := hinside.neverSurplus (inside' ++ [')']) (by simp)
    rw [openGroups_append, hbalanced.closed] at hnonneg
    simp at hnonneg
  · intro k hk hopen
    rw [List.getElem?_append_left hk] at hopen
    obtain ⟨j, hj⟩ := exists_matches hbefore hopen
    exact ⟨j, hj.append _⟩

theorem NestsWithin.concat {limit : Nat} {cs : List Char} {c : Char} (h : NestsWithin limit cs)
    (hle : openGroups (cs ++ [c]) ≤ limit) : NestsWithin limit (cs ++ [c]) := by
  intro start hstart
  rcases List.prefix_concat_iff.mp hstart with rfl | hbefore
  · exact hle
  · exact h start hbefore

/-- A `(` after a text that nests as deep as the limit says. -/
theorem firstTooDeep_concat {limit : Nat} {cs : List Char} (h : NestsWithin limit cs)
    (hle : limit ≤ openGroups cs) : FirstTooDeep limit (cs ++ ['(']) cs.length where
  opens := by simp
  deep := by
    have hlength : cs.length + 1 = (cs ++ ['(']).length := by simp
    rw [hlength, List.take_length, openGroups_append]
    simp
    omega
  first j hj := h _ (take_append_of_le hj)

theorem FirstTooDeep.append {limit : Nat} {cs : List Char} {i : Nat} (h : FirstTooDeep limit cs i)
    (ds : List Char) : FirstTooDeep limit (cs ++ ds) i := by
  have hlt : i < cs.length := (List.getElem?_eq_some_iff.mp h.opens).1
  constructor
  · rw [List.getElem?_append_left hlt]
    exact h.opens
  · rw [List.take_append_of_le_length hlt]
    exact h.deep
  · intro j hj
    rw [List.take_append_of_le_length (hj.trans hlt.le)]
    exact h.first j hj

/-- What the check remembers of a text as the place that is nested too deep. -/
def Remembers (cs : List Char) : Option Nat → Prop
  | none => NestsWithin maxNesting cs
  | some i => FirstTooDeep maxNesting cs i

/-- A character that opens no group keeps what the check remembers. -/
theorem Remembers.concat {cs : List Char} {tooDeep : Option Nat} (h : Remembers cs tooDeep)
    {c : Char} (hle : openGroups (cs ++ [c]) ≤ openGroups cs) :
    Remembers (cs ++ [c]) tooDeep := by
  cases tooDeep with
  | none => exact NestsWithin.concat h (hle.trans (h cs List.prefix_rfl))
  | some i => exact FirstTooDeep.append h [c]

theorem Remembers.concat_open {cs : List Char} {tooDeep : Option Nat} {places : List Nat}
    (h : Remembers cs tooDeep) (hopens : Opens cs places) :
    Remembers (cs ++ ['('])
      (if tooDeep.isNone && maxNesting ≤ places.length then some cs.length else tooDeep) := by
  have hcount := hopens.openGroups_eq
  cases tooDeep with
  | some i => exact FirstTooDeep.append h ['(']
  | none =>
      by_cases hdeep : maxNesting ≤ places.length
      · simp only [Option.isNone_none, hdeep, decide_true, Bool.and_self, if_true]
        exact firstTooDeep_concat h (by omega)
      · simp only [Option.isNone_none, hdeep, decide_false, Bool.and_false, Bool.false_eq_true,
          if_false]
        refine NestsWithin.concat h ?_
        rw [openGroups_append, hcount]
        simp
        omega

/-- From any place on, what the check refuses is the fault of the whole text. -/
theorem groupFault_of_checkGroups {read cs : List Char} {places : List Nat}
    {tooDeep : Option Nat} (hopens : Opens read places) (hdeep : Remembers read tooDeep)
    {e : SyntaxError} (h : checkGroups read.length places tooDeep cs = .error e) :
    GroupFault (read ++ cs) e := by
  induction cs generalizing read places tooDeep with
  | nil =>
      rw [List.append_nil]
      cases hfirst : places.getLast? with
      | some first =>
          simp only [checkGroups, hfirst] at h
          cases h
          exact .unmatchedOpen hopens.neverSurplus (hopens.firstUnmatched hfirst)
      | none =>
          obtain rfl := List.getLast?_eq_none_iff.mp hfirst
          cases tooDeep with
          | none => cases h
          | some i =>
              cases h
              exact .nestingTooDeep hopens.balanced_of_nil hdeep
  | cons c cs ih =>
      have hlength : read.length + 1 = (read ++ [c]).length := by simp
      rw [List.append_cons]
      by_cases hopen : c = '('
      · subst hopen
        rw [checkGroups_cons_open, hlength] at h
        exact ih hopens.concat_open (hdeep.concat_open hopens) h
      · by_cases hclose : c = ')'
        · subst hclose
          cases places with
          | nil =>
              rw [checkGroups_cons_unmatched] at h
              cases h
              rw [← List.append_cons]
              exact .unmatchedClose (firstSurplus_of_balanced hopens.balanced_of_nil cs)
          | cons place places =>
              rw [checkGroups_cons_close, hlength] at h
              exact ih hopens.concat_close (hdeep.concat (by simp)) h
        · rw [checkGroups_cons_other hopen hclose, hlength] at h
          refine ih (hopens.concat_other hopen hclose) (hdeep.concat ?_) h
          rw [openGroups_append, openGroups_cons_other hopen hclose]
          simp

/-- The check reports exactly the fault of a text. -/
theorem checkGroups_eq_error_iff {cs : List Char} {e : SyntaxError} :
    checkGroups 0 [] none cs = .error e ↔ GroupFault cs e := by
  have hsound : ∀ e, checkGroups 0 [] none cs = .error e → GroupFault cs e := by
    intro e h
    have hwithin : Remembers [] none := by
      intro start hstart
      rw [List.prefix_nil.mp hstart]
      simp
    exact groupFault_of_checkGroups (.balanced balanced_nil) hwithin h
  constructor
  · exact hsound e
  · intro hfault
    cases hcheck : checkGroups 0 [] none cs with
    | error e' => rw [(hsound e' hcheck).unique hfault]
    | ok =>
        obtain ⟨hbalanced, hwithin⟩ := (checkGroups_start_eq_ok_iff cs).mp hcheck
        cases hfault with
        | unmatchedClose hfirst => exact absurd hbalanced.nonneg hfirst.not_neverSurplus
        | unmatchedOpen _ hfirst => exact absurd hbalanced hfirst.not_balanced
        | nestingTooDeep _ hfirst => exact absurd hwithin hfirst.not_nestsWithin

/-- A text has a fault of its groups when it is not balanced or nests too deep. -/
theorem exists_groupFault {cs : List Char} (h : ¬(Balanced cs ∧ NestsWithin maxNesting cs)) :
    ∃ e, GroupFault cs e := by
  cases hcheck : checkGroups 0 [] none cs with
  | error e => exact ⟨e, checkGroups_eq_error_iff.mp hcheck⟩
  | ok => exact absurd ((checkGroups_start_eq_ok_iff cs).mp hcheck) h

theorem exists_firstSurplus_iff {cs : List Char} :
    (∃ i, FirstSurplus cs i) ↔ ∃ start, start <+: cs ∧ openGroups start < 0 := by
  constructor
  · rintro ⟨i, hfirst⟩
    exact ⟨cs.take (i + 1), List.take_prefix _ _, hfirst.surplus⟩
  · rintro ⟨start, hstart, hsurplus⟩
    have hnever : ¬NeverSurplus cs := fun hnever => absurd (hnever start hstart) (by omega)
    obtain ⟨e, hfault⟩ := exists_groupFault fun h => hnever h.1.nonneg
    cases hfault with
    | unmatchedClose hfirst => exact ⟨_, hfirst⟩
    | unmatchedOpen hnoSurplus => exact absurd hnoSurplus hnever
    | nestingTooDeep hbalanced => exact absurd hbalanced.nonneg hnever

theorem exists_firstUnmatched_iff {cs : List Char} (hnever : NeverSurplus cs) :
    (∃ i, FirstUnmatched cs i) ↔ 0 < openGroups cs := by
  have hall := hnever cs List.prefix_rfl
  constructor
  · rintro ⟨i, hfirst⟩
    refine lt_of_le_of_ne hall fun hclosed => ?_
    exact hfirst.not_balanced ⟨hnever, hclosed.symm⟩
  · intro hopen
    obtain ⟨e, hfault⟩ := exists_groupFault fun h => hopen.ne' h.1.closed
    cases hfault with
    | unmatchedClose hfirst => exact absurd hnever hfirst.not_neverSurplus
    | unmatchedOpen _ hfirst => exact ⟨_, hfirst⟩
    | nestingTooDeep hbalanced => exact absurd hbalanced.closed hopen.ne'

theorem exists_firstTooDeep_iff {cs : List Char} (hbalanced : Balanced cs) :
    (∃ i, FirstTooDeep maxNesting cs i) ↔
      ∃ start, start <+: cs ∧ maxNesting < openGroups start := by
  constructor
  · rintro ⟨i, hfirst⟩
    exact ⟨cs.take (i + 1), List.take_prefix _ _, hfirst.deep⟩
  · rintro ⟨start, hstart, hdeep⟩
    obtain ⟨e, hfault⟩ := exists_groupFault fun h => absurd (h.2 start hstart) (by omega)
    cases hfault with
    | unmatchedClose hfirst => exact absurd hbalanced.nonneg hfirst.not_neverSurplus
    | unmatchedOpen _ hfirst => exact absurd hbalanced hfirst.not_balanced
    | nestingTooDeep _ hfirst => exact ⟨_, hfirst⟩

end Selection
end SparseFields

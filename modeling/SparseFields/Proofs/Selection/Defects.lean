import SparseFields.Proofs.Selection.Reading

/-!
# The first defect of a text

What is wrong with a balanced text can be told character by character, from the character itself
and its two neighbours: groups need not be followed, and what stands further on does not matter.
The main statement is that reading fails exactly when there is such a defect, and reports the first
one.

The scan keeps its open groups and what is pending; of these only the kind of what is pending
decides whether a character is refused, and this kind can be read off the character before.
-/

namespace SparseFields
namespace Selection

/-! ## Defects -/

/-- Before the first field of a level or right after a separator: nothing, `(` or `,` stands
before. -/
def AtFieldStart (before : Option Char) : Prop :=
  before = none ∨ before = some '(' ∨ before = some ','

/-- The defect of a character at a place, by the characters directly before and after it. -/
inductive CharDefect (before next : Option Char) (i : Nat) : Char → SyntaxError → Prop
  | invalidCharacter {c} (notLetter : ¬IsNameLetter c) (notMark : c ∉ [',', '(', ')']) :
      CharDefect before next i c ⟨.invalidCharacter c, i⟩
  | leadingSeparator (start : AtFieldStart before) :
      CharDefect before next i ',' ⟨.leadingSeparator, i⟩
  | groupAfterGroup (closed : before = some ')') :
      CharDefect before next i '(' ⟨.malformedGroup, i⟩
  | emptyGroup (notClosed : before ≠ some ')') (empty : next = some ')') :
      CharDefect before next i '(' ⟨.emptyGroup, i + 1⟩
  | namelessGroup (start : AtFieldStart before) (notEmpty : next ≠ some ')') :
      CharDefect before next i '(' ⟨.malformedGroup, i⟩
  | nameAfterGroup {c} (letter : IsNameLetter c) (closed : before = some ')') :
      CharDefect before next i c ⟨.malformedGroup, i⟩
  | emptyField (separated : before = some ',') :
      CharDefect before next i ')' ⟨.emptyField, i⟩

/-- The character directly before a place of a text, if there is one. -/
def charBefore (cs : List Char) : Nat → Option Char
  | 0 => none
  | i + 1 => cs[i]?

/-- A defect at a place of a text: of the character there, or of the end of the text. -/
inductive DefectAt (cs : List Char) (i : Nat) : SyntaxError → Prop
  | char {c e} (here : cs[i]? = some c)
      (defect : CharDefect (charBefore cs i) cs[i + 1]? i c e) : DefectAt cs i e
  | finish (here : i = cs.length)
      (missing : charBefore cs i = none ∨ charBefore cs i = some ',') :
      DefectAt cs i ⟨.emptyField, i⟩

/-- A defect at a place and none before it. -/
structure FirstDefect (cs : List Char) (i : Nat) (e : SyntaxError) : Prop where
  defect : DefectAt cs i e
  first : ∀ j < i, ∀ e', ¬DefectAt cs j e'

/-! ## The defects of a character -/

section Char

variable {before next : Option Char} {i : Nat} {e : SyntaxError}

theorem charDefect_comma_iff :
    CharDefect before next i ',' e ↔ AtFieldStart before ∧ e = ⟨.leadingSeparator, i⟩ := by
  constructor
  · intro h
    cases h with
    | invalidCharacter _ hmark => exact absurd List.mem_cons_self hmark
    | leadingSeparator hstart => exact ⟨hstart, rfl⟩
    | nameAfterGroup hletter => exact absurd rfl hletter.ne_comma
  · rintro ⟨hstart, rfl⟩
    exact .leadingSeparator hstart

theorem charDefect_open_iff :
    CharDefect before next i '(' e ↔
      (before = some ')' ∧ e = ⟨.malformedGroup, i⟩) ∨
      (before ≠ some ')' ∧ next = some ')' ∧ e = ⟨.emptyGroup, i + 1⟩) ∨
      (AtFieldStart before ∧ next ≠ some ')' ∧ e = ⟨.malformedGroup, i⟩) := by
  constructor
  · intro h
    cases h with
    | invalidCharacter _ hmark => simp at hmark
    | groupAfterGroup hclosed => exact .inl ⟨hclosed, rfl⟩
    | emptyGroup hnotClosed hempty => exact .inr (.inl ⟨hnotClosed, hempty, rfl⟩)
    | namelessGroup hstart hnotEmpty => exact .inr (.inr ⟨hstart, hnotEmpty, rfl⟩)
    | nameAfterGroup hletter => exact absurd rfl hletter.ne_parenthesis.1
  · rintro (⟨hclosed, rfl⟩ | ⟨hnotClosed, hempty, rfl⟩ | ⟨hstart, hnotEmpty, rfl⟩)
    · exact .groupAfterGroup hclosed
    · exact .emptyGroup hnotClosed hempty
    · exact .namelessGroup hstart hnotEmpty

theorem charDefect_close_iff :
    CharDefect before next i ')' e ↔ before = some ',' ∧ e = ⟨.emptyField, i⟩ := by
  constructor
  · intro h
    cases h with
    | invalidCharacter _ hmark => simp at hmark
    | nameAfterGroup hletter => exact absurd rfl hletter.ne_parenthesis.2
    | emptyField hseparated => exact ⟨hseparated, rfl⟩
  · rintro ⟨hseparated, rfl⟩
    exact .emptyField hseparated

theorem charDefect_letter_iff {c : Char} (hc : IsNameLetter c) :
    CharDefect before next i c e ↔ before = some ')' ∧ e = ⟨.malformedGroup, i⟩ := by
  constructor
  · intro h
    cases h with
    | invalidCharacter hnot => exact absurd hc hnot
    | leadingSeparator => exact absurd rfl hc.ne_comma
    | groupAfterGroup | emptyGroup | namelessGroup => exact absurd rfl hc.ne_parenthesis.1
    | nameAfterGroup _ hclosed => exact ⟨hclosed, rfl⟩
    | emptyField => exact absurd rfl hc.ne_parenthesis.2
  · rintro ⟨hclosed, rfl⟩
    exact .nameAfterGroup hc hclosed

theorem charDefect_invalid_iff {c : Char} (hletter : ¬IsNameLetter c)
    (hmark : c ∉ [',', '(', ')']) :
    CharDefect before next i c e ↔ e = ⟨.invalidCharacter c, i⟩ := by
  constructor
  · intro h
    cases h with
    | invalidCharacter => rfl
    | nameAfterGroup hc => exact absurd hc hletter
    | leadingSeparator | groupAfterGroup | emptyGroup | namelessGroup | emptyField =>
        simp at hmark
  · rintro rfl
    exact .invalidCharacter hletter hmark

theorem AtFieldStart.ne_close (h : AtFieldStart before) : before ≠ some ')' := by
  rcases h with rfl | rfl | rfl <;> simp

theorem not_atFieldStart_letter {c : Char} (hc : IsNameLetter c) : ¬AtFieldStart (some c) := by
  simp [AtFieldStart, hc.ne_comma, hc.ne_parenthesis]

end Char

/-- A character has one defect at most. -/
theorem CharDefect.unique {before next : Option Char} {i : Nat} {c : Char} {e e' : SyntaxError}
    (h : CharDefect before next i c e) (h' : CharDefect before next i c e') : e = e' := by
  by_cases hletter : IsNameLetter c
  · rw [charDefect_letter_iff hletter] at h h'
    exact h.2.trans h'.2.symm
  · by_cases hmark : c ∈ [',', '(', ')']
    · simp only [List.mem_cons, List.not_mem_nil, or_false] at hmark
      rcases hmark with rfl | rfl | rfl
      · rw [charDefect_comma_iff] at h h'
        exact h.2.trans h'.2.symm
      · rw [charDefect_open_iff] at h h'
        have hstart : AtFieldStart before → before ≠ some ')' := AtFieldStart.ne_close
        grind
      · rw [charDefect_close_iff] at h h'
        exact h.2.trans h'.2.symm
    · rw [charDefect_invalid_iff hletter hmark] at h h'
      exact h.trans h'.symm

/-! ## The defects of a place -/

theorem charBefore_append_length (read rest : List Char) :
    charBefore (read ++ rest) read.length = read.getLast? := by
  cases read using List.reverseRecOn with
  | nil => rfl
  | append_singleton read c =>
      rw [List.length_append, List.length_singleton, List.getLast?_concat, charBefore]
      simp

/-- The defects right after a text are those of the next character. -/
theorem defectAt_append_cons_iff {read rest : List Char} {c : Char} {e : SyntaxError} :
    DefectAt (read ++ c :: rest) read.length e ↔
      CharDefect read.getLast? rest.head? read.length c e := by
  have hhere : (read ++ c :: rest)[read.length]? = some c := by simp
  have hnext : (read ++ c :: rest)[read.length + 1]? = rest.head? := by
    rw [List.getElem?_append_right (Nat.le_succ _), Nat.succ_sub (Nat.le_refl _), Nat.sub_self,
      List.getElem?_cons_succ, List.head?_eq_getElem?]
  rw [← charBefore_append_length read (c :: rest), ← hnext]
  constructor
  · rintro (⟨hchar, hdefect⟩ | ⟨hend, -⟩)
    · obtain rfl : c = _ := Option.some.inj (hhere.symm.trans hchar)
      exact hdefect
    · simp at hend
  · exact .char hhere

theorem defectAt_length_iff {cs : List Char} {e : SyntaxError} :
    DefectAt cs cs.length e ↔
      (cs.getLast? = none ∨ cs.getLast? = some ',') ∧ e = ⟨.emptyField, cs.length⟩ := by
  have hbefore : charBefore cs cs.length = cs.getLast? := by
    simpa using charBefore_append_length cs []
  rw [← hbefore]
  constructor
  · rintro (⟨hhere, -⟩ | ⟨-, hmissing⟩)
    · simp at hhere
    · exact ⟨hmissing, rfl⟩
  · rintro ⟨hmissing, rfl⟩
    exact .finish rfl hmissing

theorem DefectAt.le_length {cs : List Char} {i : Nat} {e : SyntaxError} (h : DefectAt cs i e) :
    i ≤ cs.length := by
  cases h with
  | char hhere => exact (List.getElem?_eq_some_iff.mp hhere).1.le
  | finish hhere => exact hhere.le

/-- There is one defect at most at a place. -/
theorem DefectAt.unique {cs : List Char} {i : Nat} {e e' : SyntaxError}
    (h : DefectAt cs i e) (h' : DefectAt cs i e') : e = e' := by
  cases h with
  | char hhere hdefect =>
      cases h' with
      | char hhere' hdefect' =>
          obtain rfl := Option.some.inj (hhere.symm.trans hhere')
          exact hdefect.unique hdefect'
      | finish hend => simp [hend] at hhere
  | finish hend =>
      cases h' with
      | char hhere' => simp [hend] at hhere'
      | finish => rfl

theorem FirstDefect.unique {cs : List Char} {i i' : Nat} {e e' : SyntaxError}
    (h : FirstDefect cs i e) (h' : FirstDefect cs i' e') : e = e' := by
  rcases Nat.lt_trichotomy i i' with hlt | rfl | hgt
  · exact absurd h.defect (h'.first i hlt e)
  · exact h.defect.unique h'.defect
  · exact absurd h'.defect (h.first i' hgt e')

/-! ## What a level refuses -/

/-- What is pending after a text, by the last character of the text. -/
inductive Pending.StandsAfter : Pending → Option Char → Prop
  | closed : StandsAfter .closed (some ')')
  | nothing {before} (start : AtFieldStart before) : StandsAfter (.name []) before
  | letters {c d letters} (letter : IsNameLetter c) : StandsAfter (.name (d :: letters)) (some c)

/-- A result is an error exactly when there is a defect, and then it is this defect. -/
def Flags {α : Type} (result : Except SyntaxError α) (defect : SyntaxError → Prop) : Prop :=
  match result with
  | .ok _ => ∀ e, ¬defect e
  | .error e => defect e

section Level

variable {level : Level} {before next : Option Char} {i : Nat}

theorem flags_separate (h : level.pending.StandsAfter before) :
    Flags (level.separate i) (CharDefect before next i ',') := by
  obtain ⟨chosen, pending⟩ := level
  cases h with
  | closed => simp [Flags, Level.separate, charDefect_comma_iff, AtFieldStart]
  | nothing hstart => simp [Flags, Level.separate, charDefect_comma_iff, hstart]
  | letters hletter =>
      simp [Flags, Level.separate, charDefect_comma_iff, not_atFieldStart_letter hletter]

theorem flags_openGroup (h : level.pending.StandsAfter before) :
    Flags (level.openGroup i next) (CharDefect before next i '(') := by
  obtain ⟨chosen, pending⟩ := level
  cases h with
  | closed => simp [Flags, Level.openGroup, charDefect_open_iff]
  | nothing hstart =>
      by_cases hnext : next = some ')'
      · simp [Flags, Level.openGroup, charDefect_open_iff, hnext, hstart.ne_close]
      · simp [Flags, Level.openGroup, charDefect_open_iff, hnext, hstart]
  | letters hletter =>
      by_cases hnext : next = some ')'
      · simp [Flags, Level.openGroup, charDefect_open_iff, hnext, hletter.ne_parenthesis.2]
      · simp [Flags, Level.openGroup, charDefect_open_iff, hnext, hletter.ne_parenthesis.2,
          not_atFieldStart_letter hletter]

theorem flags_readChar (h : level.pending.StandsAfter before) {c : Char}
    (hmark : c ∉ [',', '(', ')']) :
    Flags (level.readChar i c) (CharDefect before next i c) := by
  obtain ⟨chosen, pending⟩ := level
  by_cases hc : IsNameLetter c
  · have hchar : isNameChar c = true := isNameChar_iff.mpr hc
    cases h with
    | closed => simp [Flags, Level.readChar, hchar, charDefect_letter_iff hc]
    | nothing hstart =>
        simp [Flags, Level.readChar, hchar, charDefect_letter_iff hc, hstart.ne_close]
    | letters hletter =>
        simp [Flags, Level.readChar, hchar, charDefect_letter_iff hc, hletter.ne_parenthesis.2]
  · have hchar : ¬isNameChar c = true := fun hname => hc (isNameChar_iff.mp hname)
    simp [Flags, Level.readChar, hchar, charDefect_invalid_iff hc hmark]

/-- The end of a level is refused where a field is missing.  It does not come right after `(`: this
would be an empty group. -/
theorem flags_finish (h : level.pending.StandsAfter before) (hopen : before ≠ some '(') :
    Flags (level.finish i) fun e =>
      (before = none ∨ before = some ',') ∧ e = ⟨.emptyField, i⟩ := by
  obtain ⟨chosen, pending⟩ := level
  cases h with
  | closed => simp [Flags, Level.finish]
  | nothing hstart =>
      rcases hstart with rfl | rfl | rfl
      · simp [Flags, Level.finish]
      · exact absurd rfl hopen
      · simp [Flags, Level.finish]
  | letters hletter => simp [Flags, Level.finish, hletter.ne_comma]

end Level

/-! ## The scan -/

/-- No defect before a place. -/
def CleanBefore (cs : List Char) (i : Nat) : Prop :=
  ∀ j < i, ∀ e, ¬DefectAt cs j e

theorem CleanBefore.succ {cs : List Char} {i : Nat} (h : CleanBefore cs i)
    (hhere : ∀ e, ¬DefectAt cs i e) : CleanBefore cs (i + 1) := by
  intro j hj
  rcases Nat.lt_succ_iff_lt_or_eq.mp hj with hlt | rfl
  · exact h j hlt
  · exact hhere

/-- A result fits the defects of a text: there is none, or the first one is the error. -/
def Reports {α : Type} (cs : List Char) (result : Except SyntaxError α) : Prop :=
  match result with
  | .ok _ => ∀ i e, ¬DefectAt cs i e
  | .error e => ∃ i, FirstDefect cs i e

/-- Where a step of the scan is refused, this is the first defect; else the rest decides. -/
theorem reports_of_step {α β : Type} {cs : List Char} {i : Nat} {step : Except SyntaxError α}
    {result : Except SyntaxError β} (hclean : CleanBefore cs i)
    (hflags : Flags step (DefectAt cs i)) (herror : ∀ e, step = .error e → result = .error e)
    (hok : ∀ a, step = .ok a → CleanBefore cs (i + 1) → Reports cs result) :
    Reports cs result := by
  cases step with
  | error e =>
      rw [herror e rfl]
      exact ⟨i, hflags, hclean⟩
  | ok a => exact hok a rfl (hclean.succ hflags)

/-- What the scan has after a text: a group for each one that is open, and what is pending. -/
structure Scanned (read : List Char) (outer : List OpenGroup) (level : Level) : Prop where
  opened : (outer.length : Int) = openGroups read
  pending : level.pending.StandsAfter read.getLast?

theorem scanned_start : Scanned [] [] Level.start where
  opened := rfl
  pending := .nothing (.inl rfl)

section Step

variable {read rest : List Char} {outer : List OpenGroup} {level level' : Level}

theorem Scanned.comma (h : Scanned read outer level)
    (hstep : level.separate read.length = .ok level') :
    Scanned (read ++ [',']) outer level' := by
  obtain ⟨s, -, rfl⟩ := finish_of_separate hstep
  constructor
  · simpa [openGroups_cons_other] using h.opened
  · rw [List.getLast?_concat]
    exact .nothing (.inr (.inr rfl))

theorem Scanned.openGroup (h : Scanned read outer level) (group : OpenGroup) :
    Scanned (read ++ ['(']) (group :: outer) Level.start := by
  constructor
  · rw [openGroups_append, ← h.opened]
    simp
  · rw [List.getLast?_concat]
    exact .nothing (.inr (.inl rfl))

theorem Scanned.closeGroup {group : OpenGroup} (h : Scanned read (group :: outer) level)
    (s : Selection) : Scanned (read ++ [')']) outer ⟨s, .closed⟩ := by
  constructor
  · rw [openGroups_append, ← h.opened]
    simp
  · rw [List.getLast?_concat]
    exact .closed

theorem Scanned.readChar (h : Scanned read outer level) {c : Char} (hmark : c ∉ [',', '(', ')'])
    (hstep : level.readChar read.length c = .ok level') :
    Scanned (read ++ [c]) outer level' := by
  simp only [List.mem_cons, List.not_mem_nil, or_false, not_or] at hmark
  rw [Level.readChar] at hstep
  split at hstep
  · next hc =>
    split at hstep
    · cases hstep
    · cases hstep
      constructor
      · simpa [openGroups_cons_other hmark.2.1 hmark.2.2] using h.opened
      · rw [List.getLast?_concat]
        exact .letters (isNameChar_iff.mp hc)
  · cases hstep

/-- A group that is closed right after it opened was a defect where it opened. -/
theorem getLast?_ne_open (hclean : CleanBefore (read ++ ')' :: rest) read.length) :
    read.getLast? ≠ some '(' := by
  intro hlast
  obtain ⟨start, rfl⟩ := List.getLast?_eq_some_iff.mp hlast
  have hdefect : ∃ e, CharDefect start.getLast? (some ')') start.length '(' e := by
    by_cases hclosed : start.getLast? = some ')'
    · exact ⟨_, .groupAfterGroup hclosed⟩
    · exact ⟨_, .emptyGroup hclosed rfl⟩
  obtain ⟨e, he⟩ := hdefect
  have hat : DefectAt (start ++ '(' :: ')' :: rest) start.length e :=
    defectAt_append_cons_iff.mpr he
  rw [List.append_assoc, List.singleton_append] at hclean
  exact hclean start.length (by simp) e hat

/-- Inside a group, the defect of `)` is that of the end of its level. -/
theorem flags_finish_of_close {group : OpenGroup} (h : Scanned read (group :: outer) level)
    (hclean : CleanBefore (read ++ ')' :: rest) read.length) :
    Flags (level.finish read.length) (DefectAt (read ++ ')' :: rest) read.length) := by
  have hne : read.getLast? ≠ none := by
    intro hnone
    have hopened := h.opened
    rw [List.getLast?_eq_none_iff.mp hnone] at hopened
    simp at hopened
    omega
  have hsame : DefectAt (read ++ ')' :: rest) read.length =
      fun e => (read.getLast? = none ∨ read.getLast? = some ',') ∧
        e = ⟨.emptyField, read.length⟩ := by
    funext e
    rw [defectAt_append_cons_iff, charDefect_close_iff]
    simp [hne]
  rw [hsame]
  exact flags_finish h.pending (getLast?_ne_open hclean)

end Step

/-- At the end of a balanced text only the level at the top is left, and the last character is no
`(`. -/
theorem flags_finish_of_end {read : List Char} {outer : List OpenGroup} {level : Level}
    (hbalanced : Balanced read) (h : Scanned read outer level) :
    outer = [] ∧ Flags (level.finish read.length) (DefectAt read read.length) := by
  have hopened := h.opened
  rw [hbalanced.closed] at hopened
  have hopen : read.getLast? ≠ some '(' := by
    intro hlast
    obtain ⟨start, rfl⟩ := List.getLast?_eq_some_iff.mp hlast
    have hnonneg := hbalanced.nonneg start (List.prefix_append _ _)
    have hclosed := hbalanced.closed
    simp at hclosed
    omega
  refine ⟨List.eq_nil_of_length_eq_zero (by exact_mod_cast hopened), ?_⟩
  have hsame : DefectAt read read.length =
      fun e => (read.getLast? = none ∨ read.getLast? = some ',') ∧
        e = ⟨.emptyField, read.length⟩ :=
    funext fun e => propext defectAt_length_iff
  rw [hsame]
  exact flags_finish h.pending hopen

/-- From any place on, the scan of a balanced text that is clean so far reports its first defect. -/
theorem reports_scan {read cs : List Char} {outer : List OpenGroup} {level : Level}
    (hbalanced : Balanced (read ++ cs)) (hscanned : Scanned read outer level)
    (hclean : CleanBefore (read ++ cs) read.length) :
    Reports (read ++ cs) (scan read.length outer level cs) := by
  induction cs generalizing read outer level with
  | nil =>
      rw [List.append_nil] at hbalanced hclean ⊢
      obtain ⟨rfl, hflags⟩ := flags_finish_of_end hbalanced hscanned
      rw [scan_end_top]
      cases hfinish : level.finish read.length with
      | error e =>
          rw [hfinish] at hflags
          exact ⟨read.length, hflags, hclean⟩
      | ok s =>
          rw [hfinish] at hflags
          intro i e he
          exact hclean.succ hflags i (Nat.lt_succ_iff.mpr he.le_length) e he
  | cons c cs ih =>
      have hnext : ∀ outer level, Scanned (read ++ [c]) outer level →
          CleanBefore (read ++ c :: cs) (read.length + 1) →
          Reports (read ++ c :: cs) (scan (read.length + 1) outer level cs) := by
        intro outer level hscanned hclean
        have hlength : (read ++ [c]).length = read.length + 1 := by simp
        rw [List.append_cons] at hbalanced hclean ⊢
        rw [← hlength] at hclean ⊢
        exact ih hbalanced hscanned hclean
      have hhere : DefectAt (read ++ c :: cs) read.length =
          CharDefect read.getLast? cs.head? read.length c :=
        funext fun e => propext defectAt_append_cons_iff
      by_cases hcomma : c = ','
      · subst hcomma
        have hflags : Flags (level.separate read.length)
            (DefectAt (read ++ ',' :: cs) read.length) := by
          rw [hhere]
          exact flags_separate hscanned.pending
        apply reports_of_step hclean hflags
        · intro e hstep
          rw [scan_comma, hstep]
        · intro level' hstep hclean
          rw [scan_comma, hstep]
          exact hnext outer level' (hscanned.comma hstep) hclean
      · by_cases hopen : c = '('
        · subst hopen
          have hflags : Flags (level.openGroup read.length cs.head?)
              (DefectAt (read ++ '(' :: cs) read.length) := by
            rw [hhere]
            exact flags_openGroup hscanned.pending
          apply reports_of_step hclean hflags
          · intro e hstep
            rw [scan_open, hstep]
          · intro field hstep hclean
            rw [scan_open, hstep]
            exact hnext _ _ (hscanned.openGroup _) hclean
        · by_cases hclose : c = ')'
          · subst hclose
            cases outer with
            | nil =>
                have hnonneg := hbalanced.nonneg (read ++ [')']) (by simp)
                have hopened := hscanned.opened
                simp at hnonneg hopened
                omega
            | cons group outer =>
                apply reports_of_step hclean (flags_finish_of_close hscanned hclean)
                · intro e hstep
                  rw [scan_close, hstep]
                · intro sub hstep hclean
                  rw [scan_close, hstep]
                  exact hnext _ _ (hscanned.closeGroup _) hclean
          · have hmark : c ∉ [',', '(', ')'] := by simp [hcomma, hopen, hclose]
            have hflags : Flags (level.readChar read.length c)
                (DefectAt (read ++ c :: cs) read.length) := by
              rw [hhere]
              exact flags_readChar hscanned.pending hmark
            apply reports_of_step hclean hflags
            · intro e hstep
              rw [scan_other hcomma hopen hclose, hstep]
            · intro level' hstep hclean
              rw [scan_other hcomma hopen hclose, hstep]
              exact hnext outer level' (hscanned.readChar hmark hstep) hclean

/-! ## Reading -/

theorem reports_parse {raw : String} (hbalanced : Balanced (Text.trim raw.toList))
    (hwithin : NestsWithin maxNesting (Text.trim raw.toList)) :
    Reports (Text.trim raw.toList) (parse raw) := by
  have hcheck := (checkGroups_start_eq_ok_iff (Text.trim raw.toList)).mpr ⟨hbalanced, hwithin⟩
  have hparse : parse raw = scan 0 [] Level.start (Text.trim raw.toList) := by
    simp only [parse, parseChars, hcheck]
  have hclean : CleanBefore (Text.trim raw.toList) 0 := fun i hi => absurd hi (Nat.not_lt_zero i)
  rw [hparse]
  exact reports_scan hbalanced scanned_start hclean

/-- When a text, without the blanks around it, is balanced and never has more than 64 groups open,
it is not read exactly when it has a defect, and the error is its first defect.  A place has one
defect at most. -/
theorem parse_error_iff_firstDefect (raw : String)
    (hbalanced : Balanced (Text.trim raw.toList))
    (hwithin : NestsWithin 64 (Text.trim raw.toList)) :
    ((∃ e, parse raw = .error e) ↔ ∃ i e, DefectAt (Text.trim raw.toList) i e) ∧
      (∀ e, parse raw = .error e ↔ ∃ i, FirstDefect (Text.trim raw.toList) i e) ∧
      ∀ i e e', DefectAt (Text.trim raw.toList) i e → DefectAt (Text.trim raw.toList) i e' →
        e = e' := by
  have hreports := reports_parse hbalanced hwithin
  refine ⟨?_, ?_, fun i e e' h h' => h.unique h'⟩
  · cases hparse : parse raw with
    | error e =>
        rw [hparse] at hreports
        obtain ⟨i, hfirst⟩ := hreports
        exact iff_of_true ⟨e, rfl⟩ ⟨i, e, hfirst.defect⟩
    | ok s =>
        rw [hparse] at hreports
        exact iff_of_false nofun fun ⟨i, e, he⟩ => hreports i e he
  · intro e
    cases hparse : parse raw with
    | error e' =>
        rw [hparse] at hreports
        obtain ⟨i, hfirst⟩ := hreports
        constructor
        · intro he
          cases he
          exact ⟨i, hfirst⟩
        · rintro ⟨j, hfirst'⟩
          rw [hfirst.unique hfirst']
    | ok s =>
        rw [hparse] at hreports
        exact iff_of_false nofun fun ⟨i, he⟩ => hreports i e he.defect

/-- Here a group ends in a separator; the group without a name and the invalid character after it
do not matter. -/
theorem parse_missingLastField :
    Balanced (Text.trim " a(b,),(c),$".toList) ∧
      NestsWithin 64 (Text.trim " a(b,),(c),$".toList) ∧
      parse " a(b,),(c),$" = .error ⟨.emptyField, 4⟩ ∧
      ∃ i, FirstDefect (Text.trim " a(b,),(c),$".toList) i ⟨.emptyField, 4⟩ := by
  have hcheck : checkGroups 0 [] none (Text.trim " a(b,),(c),$".toList) = .ok () := by
    decide +kernel
  have hparse : parse " a(b,),(c),$" = .error ⟨.emptyField, 4⟩ := by decide +kernel
  obtain ⟨hbalanced, hwithin⟩ := (checkGroups_start_eq_ok_iff _).mp hcheck
  have hfirst := ((parse_error_iff_firstDefect " a(b,),(c),$" hbalanced hwithin).2.1 _).mp hparse
  exact ⟨hbalanced, hwithin, hparse, hfirst⟩

end Selection
end SparseFields

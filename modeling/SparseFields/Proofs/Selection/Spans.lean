import SparseFields.Proofs.Selection.Defects
import SparseFields.Proofs.Selection.Groups

/-!
# Reading group by group

A written selection can also be read by descending into its groups.  Where a group opens, the `)`
that closes it is searched with a counter, the span between them is read as a selection of its own,
and reading goes on after the `)`.  The check of parentheses, the counter and the descent are three
notions of matching.  The main statement is that they agree: what the check reports is exact, and
when it reports nothing, the descent reads what the scan reads, and each of its searches finds the
`)` that matches, inside the span in which the group opens.

A span is read up to its end wherever it stands, so the descent is compared with the scan for any
open groups around the span and any text after it that ends a level.
-/

namespace SparseFields
namespace Selection

/-! ## The descent -/

/-- A search for the `)` of a group: the place of its `(`, the end of the span in which it stands,
and what is found. -/
structure Search where
  opened : Nat
  stop : Nat
  found : Except SyntaxError Nat

/-- The searches made, in order, and what came of the reading. -/
structure Descent (α : Type) where
  searches : List Search
  outcome : Except SyntaxError α

namespace Descent

variable {α β : Type}

/-- A step without a search. -/
def step (result : Except SyntaxError α) : Descent α := ⟨[], result⟩

/-- A search and what it finds. -/
def search (opened stop : Nat) (found : Except SyntaxError Nat) : Descent Nat :=
  ⟨[⟨opened, stop, found⟩], found⟩

/-- One part after another; the second one is not begun when the first fails. -/
def andThen (r : Descent α) (f : α → Descent β) : Descent β :=
  match r.outcome with
  | .ok a => ⟨r.searches ++ (f a).searches, (f a).outcome⟩
  | .error e => ⟨r.searches, .error e⟩

end Descent

/-- The place of the first `)` that closes one group more than the text opens before it, when
`depth` groups are open already. -/
def closeFrom (position depth : Nat) : List Char → Option Nat
  | [] => none
  | c :: cs =>
      if c = '(' then closeFrom (position + 1) (depth + 1) cs
      else if c = ')' then
        match depth with
        | 0 => some position
        | depth + 1 => closeFrom (position + 1) depth cs
      else closeFrom (position + 1) depth cs

/-- The place of the `)` that closes the group opened at a place, in the rest of its span. -/
def closeOf (opened : Nat) (rest : List Char) : Except SyntaxError Nat :=
  match closeFrom (opened + 1) 0 rest with
  | some close => .ok close
  | none => .error ⟨.unmatchedOpen, opened⟩

/-- Reads the rest of a span from `position` on, at a level. -/
def readSpan (position : Nat) (level : Level) (span : List Char) : Descent Selection :=
  match span with
  | [] => .step (level.finish position)
  | c :: cs =>
      if c = ',' then
        (Descent.step (level.separate position)).andThen fun level =>
          readSpan (position + 1) level cs
      else if c = '(' then
        match level.pending with
        | .closed => .step (.error ⟨.malformedGroup, position⟩)
        | .name letters =>
            (Descent.search position (position + 1 + cs.length) (closeOf position cs)).andThen
              fun close =>
                if close = position + 1 then .step (.error ⟨.emptyGroup, close⟩)
                else if letters.isEmpty then .step (.error ⟨.malformedGroup, position⟩)
                else
                  (readSpan (position + 1) Level.start (cs.take (close - (position + 1)))).andThen
                    fun sub =>
                      readSpan (close + 1)
                        ⟨level.chosen.insert (Level.fieldName letters) (.part sub), .closed⟩
                        (cs.drop (close - position))
      else if c = ')' then .step (.error ⟨.unmatchedClose, position⟩)
      else
        (Descent.step (level.readChar position c)).andThen fun level =>
          readSpan (position + 1) level cs
termination_by span.length

/-- Reads a written selection by descent, after the check of parentheses. -/
def parseSpans (raw : String) : Descent Selection :=
  (Descent.step (checkGroups 0 [] none (Text.trim raw.toList))).andThen fun _ =>
    readSpan 0 Level.start (Text.trim raw.toList)

/-! ## The counter -/

/-- The counter passes over a balanced text. -/
theorem closeFrom_append {inside : List Char} (h : Balanced inside) (position depth : Nat)
    (rest : List Char) :
    closeFrom position depth (inside ++ rest) =
      closeFrom (position + inside.length) depth rest := by
  refine Balanced.induction (P := fun inside => ∀ position depth rest,
    closeFrom position depth (inside ++ rest) =
      closeFrom (position + inside.length) depth rest) ?nil ?other ?group h position depth rest
  case nil => exact fun _ _ _ => rfl
  case other =>
    intro c cs hopen hclose ih position depth rest
    have hlength : position + (c :: cs).length = position + 1 + cs.length := by
      rw [List.length_cons, Nat.add_assoc, Nat.add_comm 1]
    rw [List.cons_append, closeFrom.eq_def, hlength, ← ih]
    exact (if_neg hopen).trans (if_neg hclose)
  case group =>
    intro inside after _ ih ih' position depth rest
    calc
      closeFrom position depth ('(' :: (inside ++ ')' :: after) ++ rest)
          = closeFrom (position + 1) (depth + 1) (inside ++ ')' :: (after ++ rest)) := by
        simp [closeFrom]
      _ = closeFrom (position + 1 + inside.length + 1) depth (after ++ rest) := by
        rw [ih]
        rfl
      _ = closeFrom (position + ('(' :: (inside ++ ')' :: after)).length) depth rest := by
        rw [ih']
        congr 1
        simp
        omega

/-- The search finds the `)` after a balanced text. -/
theorem closeOf_of_balanced {inside : List Char} (h : Balanced inside) (opened : Nat)
    (after : List Char) :
    closeOf opened (inside ++ ')' :: after) = .ok (opened + 1 + inside.length) := by
  rw [closeOf, closeFrom_append h]
  rfl

/-! ## The descent, character by character -/

theorem readSpan_nil (position : Nat) (level : Level) :
    readSpan position level [] = .step (level.finish position) := by
  rw [readSpan]

theorem readSpan_comma (position : Nat) (level : Level) (cs : List Char) :
    readSpan position level (',' :: cs) =
      (Descent.step (level.separate position)).andThen fun level =>
        readSpan (position + 1) level cs := by
  rw [readSpan, if_pos rfl]

theorem readSpan_other {c : Char} (hcomma : c ≠ ',') (hopen : c ≠ '(') (hclose : c ≠ ')')
    (position : Nat) (level : Level) (cs : List Char) :
    readSpan position level (c :: cs) =
      (Descent.step (level.readChar position c)).andThen fun level =>
        readSpan (position + 1) level cs := by
  rw [readSpan, if_neg hcomma, if_neg hopen, if_neg hclose]

theorem readSpan_open_closed (position : Nat) (chosen : Selection) (cs : List Char) :
    readSpan position ⟨chosen, .closed⟩ ('(' :: cs) =
      .step (.error ⟨.malformedGroup, position⟩) := by
  rw [readSpan]
  simp

/-- A group whose end is there is read as a span of its own. -/
theorem readSpan_group {inside : List Char} (h : Balanced inside) (position : Nat)
    (chosen : Selection) (letters after : List Char) :
    readSpan position ⟨chosen, .name letters⟩ ('(' :: (inside ++ ')' :: after)) =
      (Descent.search position (position + 1 + (inside ++ ')' :: after).length)
        (.ok (position + 1 + inside.length))).andThen fun _ =>
          if inside = [] then .step (.error ⟨.emptyGroup, position + 1⟩)
          else if letters = [] then .step (.error ⟨.malformedGroup, position⟩)
          else
            (readSpan (position + 1) Level.start inside).andThen fun sub =>
              readSpan (position + 1 + inside.length + 1)
                ⟨chosen.insert (Level.fieldName letters) (.part sub), .closed⟩ after := by
  have hinside : (inside ++ ')' :: after).take (position + 1 + inside.length - (position + 1)) =
      inside := by
    rw [Nat.add_sub_cancel_left]
    exact List.take_left
  have hafter : (inside ++ ')' :: after).drop (position + 1 + inside.length - position) =
      after := by
    rw [Nat.add_assoc, Nat.add_sub_cancel_left, Nat.add_comm 1, ← List.drop_drop, List.drop_left]
    rfl
  rw [readSpan, if_neg (by decide), if_pos rfl, closeOf_of_balanced h]
  simp only [Descent.andThen, Descent.search, hinside, hafter, List.isEmpty_iff,
    Nat.add_eq_left, List.length_eq_zero_iff]
  by_cases hnil : inside = []
  · simp [hnil]
  · simp [hnil]

/-! ## The descent and the scan -/

namespace Descent

variable {α β γ : Type}

theorem andThen_outcome (r : Descent α) (f : α → Descent β) :
    (r.andThen f).outcome = r.outcome.bind fun a => (f a).outcome := by
  obtain ⟨searches, outcome⟩ := r
  cases outcome <;> rfl

@[simp]
theorem step_outcome (result : Except SyntaxError α) : (step result).outcome = result := rfl

@[simp]
theorem search_outcome (opened stop : Nat) (found : Except SyntaxError Nat) :
    (search opened stop found).outcome = found := rfl

end Descent

theorem bind_assoc {α β γ : Type} (result : Except SyntaxError α)
    (f : α → Except SyntaxError β) (g : β → Except SyntaxError γ) :
    (result.bind f).bind g = result.bind fun a => (f a).bind g := by
  cases result <;> rfl

/-- What stands in a group does not begin with a `)`, unless the group is empty. -/
theorem head?_ne_close {inside : List Char} (h : Balanced inside) (hne : inside ≠ [])
    (after : List Char) : (inside ++ after).head? ≠ some ')' := by
  obtain ⟨c, cs, rfl⟩ := List.exists_cons_of_ne_nil hne
  intro hhead
  obtain rfl : c = ')' := Option.some.inj hhead
  have hnonneg := h.nonneg [')'] (by simp)
  simp at hnonneg

/-- The end of a group, in the scan, ends the level of what stands inside. -/
theorem scan_close_eq_bind (position : Nat) (group : OpenGroup) (outer : List OpenGroup)
    (level : Level) (cs : List Char) :
    scan position (group :: outer) level (')' :: cs) =
      (level.finish position).bind fun sub =>
        scan (position + 1) outer ⟨group.before.insert group.field (.part sub), .closed⟩ cs := by
  rw [scan_close]
  cases level.finish position <;> rfl

/-- The scan of a span and of a text that ends its level goes on after the span with what the
descent has read of it. -/
theorem scan_append_of_balanced {span : List Char} (h : Balanced span) {outer : List OpenGroup}
    {rest : List Char} {after : Nat → Selection → Except SyntaxError Selection}
    (hend : ∀ position level,
      scan position outer level rest = (level.finish position).bind (after position))
    (position : Nat) (level : Level) :
    scan position outer level (span ++ rest) =
      (readSpan position level span).outcome.bind (after (position + span.length)) := by
  refine Balanced.induction (P := fun span => ∀ outer rest after, (∀ position level,
    scan position outer level rest = (level.finish position).bind (after position)) →
    ∀ position level, scan position outer level (span ++ rest) =
      (readSpan position level span).outcome.bind (after (position + span.length)))
    ?nil ?other ?group h outer rest after hend position level
  case nil =>
    intro outer rest after hend position level
    rw [readSpan_nil]
    exact hend position level
  case other =>
    intro c cs hopen hclose ih outer rest after hend position level
    have hlength : position + (c :: cs).length = position + 1 + cs.length := by
      rw [List.length_cons, Nat.add_assoc, Nat.add_comm 1]
    by_cases hcomma : c = ','
    · subst hcomma
      rw [List.cons_append, scan_comma, readSpan_comma, Descent.andThen_outcome, hlength,
        Descent.step_outcome, bind_assoc]
      cases level.separate position with
      | error e => rfl
      | ok level => exact ih outer rest after hend (position + 1) level
    · rw [List.cons_append, scan_other hcomma hopen hclose,
        readSpan_other hcomma hopen hclose, Descent.andThen_outcome, hlength,
        Descent.step_outcome, bind_assoc]
      cases level.readChar position c with
      | error e => rfl
      | ok level => exact ih outer rest after hend (position + 1) level
  case group =>
    intro inside tail hinside ih ih' outer rest after hend position level
    obtain ⟨chosen, pending⟩ := level
    have hsplit : '(' :: (inside ++ ')' :: tail) ++ rest =
        '(' :: (inside ++ ')' :: (tail ++ rest)) := by simp
    rw [hsplit, scan_open]
    cases pending with
    | closed => rw [readSpan_open_closed]; rfl
    | name letters =>
        rw [readSpan_group hinside, Descent.andThen_outcome, Descent.search_outcome,
          Level.openGroup]
        by_cases hnil : inside = []
        · subst hnil
          rfl
        · have hhead := head?_ne_close hinside hnil (')' :: (tail ++ rest))
          by_cases hletters : letters = []
          · subst hletters
            simp only [hhead, hnil, if_false]
            rfl
          · have hlength : position + ('(' :: (inside ++ ')' :: tail)).length =
                position + 1 + inside.length + 1 + tail.length := by
              simp
              omega
            -- Inside the group, it is the `)` of the group that ends the level.
            have hscan := ih _ _ _ (fun position level =>
              scan_close_eq_bind position ⟨chosen, Level.fieldName letters⟩ outer level
                (tail ++ rest)) (position + 1) Level.start
            simp only [hhead, hnil, hletters, List.isEmpty_iff, if_false, hlength,
              Except.bind, Descent.andThen_outcome]
            rw [hscan]
            cases (readSpan (position + 1) Level.start inside).outcome with
            | error e => rfl
            | ok sub => exact ih' outer rest after hend _ _

/-- Of a balanced text, the descent reads what the scan reads. -/
theorem readSpan_outcome_eq_scan {cs : List Char} (h : Balanced cs) :
    (readSpan 0 Level.start cs).outcome = scan 0 [] Level.start cs := by
  have hend : ∀ position level,
      scan position [] level [] = (level.finish position).bind fun s => .ok s := by
    intro position level
    rw [scan_end_top]
    cases level.finish position <;> rfl
  have hscan := scan_append_of_balanced h hend 0 Level.start
  rw [List.append_nil] at hscan
  rw [hscan]
  cases (readSpan 0 Level.start cs).outcome <;> rfl

theorem parseSpans_outcome (raw : String) : (parseSpans raw).outcome = parse raw := by
  rw [parseSpans, Descent.andThen_outcome, Descent.step_outcome, parse, parseChars]
  cases hcheck : checkGroups 0 [] none (Text.trim raw.toList) with
  | error e => rfl
  | ok =>
      have hbalanced := ((checkGroups_start_eq_ok_iff _).mp hcheck).1
      exact readSpan_outcome_eq_scan hbalanced

/-! ## What the searches find -/

/-- A search in a text finds the `)` that matches, inside the span in which the group opens. -/
def Search.FindsMatch (cs : List Char) (search : Search) : Prop :=
  ∃ close, search.found = .ok close ∧ search.opened < close ∧ close < search.stop ∧
    Matches cs search.opened close

theorem Descent.mem_searches_andThen {α β : Type} {r : Descent α} {f : α → Descent β}
    {search : Search} (h : search ∈ (r.andThen f).searches) :
    search ∈ r.searches ∨ ∃ a, r.outcome = .ok a ∧ search ∈ (f a).searches := by
  obtain ⟨searches, outcome⟩ := r
  cases outcome with
  | error e => exact .inl h
  | ok a => exact (List.mem_append.mp h).imp_right fun h => ⟨a, rfl, h⟩

/-- What stands in a text from a place on, after a first part of it. -/
theorem prefix_drop_of_append {text rest : List Char} {position : Nat} (first : List Char)
    (h : first ++ rest <+: text.drop position) :
    rest <+: text.drop (position + first.length) := by
  obtain ⟨after, hafter⟩ := h
  rw [← List.drop_drop, ← hafter, List.append_assoc, List.drop_left]
  exact List.prefix_append rest after

theorem matches_of_prefix_drop {text inside after : List Char} {position : Nat}
    (h : '(' :: (inside ++ ')' :: after) <+: text.drop position) (hinside : Balanced inside) :
    Matches text position (position + 1 + inside.length) := by
  obtain ⟨rest, hrest⟩ := h
  have hlength : position = (text.take position).length := by
    have hshort : ¬text.length ≤ position := by
      intro hle
      rw [List.drop_eq_nil_of_le hle] at hrest
      simp at hrest
    simp
    omega
  refine ⟨text.take position, inside, after ++ rest, ?_, hlength, ?_, hinside⟩
  · have hdrop : '(' :: (inside ++ ')' :: (after ++ rest)) = text.drop position := by
      simpa using hrest
    rw [hdrop, List.take_append_drop]
  · rw [← hlength]

/-- Every search that the descent makes in a balanced span finds the match. -/
theorem findsMatch_of_balanced {span : List Char} (h : Balanced span) {text : List Char}
    {position : Nat} (hspan : span <+: text.drop position) (level : Level) :
    ∀ search ∈ (readSpan position level span).searches, search.FindsMatch text := by
  refine Balanced.induction (P := fun span => ∀ position level, span <+: text.drop position →
    ∀ search ∈ (readSpan position level span).searches, search.FindsMatch text)
    ?nil ?other ?group h position level hspan
  case nil =>
    intro position level _ search hsearch
    rw [readSpan_nil] at hsearch
    cases hsearch
  case other =>
    intro c cs hopen hclose ih position level hspan search hsearch
    have hcs : cs <+: text.drop (position + 1) := prefix_drop_of_append [c] hspan
    by_cases hcomma : c = ','
    · subst hcomma
      rw [readSpan_comma] at hsearch
      rcases Descent.mem_searches_andThen hsearch with hnone | ⟨level, -, hsearch⟩
      · cases hnone
      · exact ih (position + 1) level hcs search hsearch
    · rw [readSpan_other hcomma hopen hclose] at hsearch
      rcases Descent.mem_searches_andThen hsearch with hnone | ⟨level, -, hsearch⟩
      · cases hnone
      · exact ih (position + 1) level hcs search hsearch
  case group =>
    intro inside after hinside ih ih' position level hspan search hsearch
    have hcontent : inside ++ ')' :: after <+: text.drop (position + 1) :=
      prefix_drop_of_append ['('] hspan
    have hafter : after <+: text.drop (position + 1 + inside.length + 1) :=
      prefix_drop_of_append [')'] (prefix_drop_of_append inside hcontent)
    obtain ⟨chosen, pending⟩ := level
    cases pending with
    | closed =>
        rw [readSpan_open_closed] at hsearch
        cases hsearch
    | name letters =>
        rw [readSpan_group hinside] at hsearch
        -- The first search is for this group, the others are made inside it and after it.
        rcases Descent.mem_searches_andThen hsearch with hhere | ⟨_, -, hsearch⟩
        · obtain rfl := List.mem_singleton.mp hhere
          refine ⟨_, rfl, ?_, ?_, matches_of_prefix_drop hspan hinside⟩
          · exact Nat.lt_of_lt_of_le (Nat.lt_succ_self position) (Nat.le_add_right _ _)
          · simp
        · split at hsearch
          · cases hsearch
          · split at hsearch
            · cases hsearch
            · rcases Descent.mem_searches_andThen hsearch with hsearch | ⟨sub, -, hsearch⟩
              · exact ih _ _ ((List.prefix_append _ _).trans hcontent) search hsearch
              · exact ih' _ _ hafter search hsearch

theorem findsMatch_of_parseSpans (raw : String) :
    ∀ search ∈ (parseSpans raw).searches, search.FindsMatch (Text.trim raw.toList) := by
  intro search hsearch
  rcases Descent.mem_searches_andThen hsearch with hnone | ⟨_, hcheck, hsearch⟩
  · cases hnone
  · have hbalanced := ((checkGroups_start_eq_ok_iff _).mp hcheck).1
    exact findsMatch_of_balanced hbalanced List.prefix_rfl Level.start search hsearch

/-! ## What is reported of groups -/

/-- A fault of the groups of a text, as opposed to a fault of one of its characters. -/
inductive IsGroupFault : SyntaxFault → Prop
  | unmatchedClose : IsGroupFault .unmatchedClose
  | unmatchedOpen : IsGroupFault .unmatchedOpen
  | nestingTooDeep (limit : Nat) : IsGroupFault (.nestingTooDeep limit)

theorem DefectAt.not_isGroupFault {cs : List Char} {i : Nat} {e : SyntaxError}
    (h : DefectAt cs i e) : ¬IsGroupFault e.fault := by
  cases h with
  | char _ hdefect => cases hdefect <;> exact nofun
  | finish => exact nofun

/-- Reading reports a fault of the groups exactly when the text has it. -/
theorem parse_eq_error_iff_of_isGroupFault {raw : String} {e : SyntaxError}
    (he : IsGroupFault e.fault) :
    parse raw = .error e ↔ GroupFault (Text.trim raw.toList) e := by
  rw [← checkGroups_eq_error_iff, parse, parseChars]
  cases hcheck : checkGroups 0 [] none (Text.trim raw.toList) with
  | error e' => simp
  | ok =>
      obtain ⟨hbalanced, hwithin⟩ := (checkGroups_start_eq_ok_iff _).mp hcheck
      have hreports := reports_parse hbalanced hwithin
      rw [parse, parseChars, hcheck] at hreports
      have hnot : ¬(Except.ok () : Except SyntaxError Unit) = .error e := by simp
      refine iff_of_false (fun hscan => ?_) hnot
      rw [hscan] at hreports
      obtain ⟨i, hfirst⟩ := hreports
      exact hfirst.defect.not_isGroupFault he

/-- A result reports the groups of a text exactly, whatever else is wrong with it: a surplus `)` at
the first one, else an unmatched `(` at the first one, else too deep a nesting at the first group
beyond the limit, and else none of these. -/
structure ReportsGroups (cs : List Char) (result : Except SyntaxError Selection) : Prop where
  someClose : (∃ i, result = .error ⟨.unmatchedClose, i⟩) ↔
    ∃ start, start <+: cs ∧ openGroups start < 0
  closeAt : ∀ i, result = .error ⟨.unmatchedClose, i⟩ ↔ FirstSurplus cs i
  someOpen : NeverSurplus cs →
    ((∃ i, result = .error ⟨.unmatchedOpen, i⟩) ↔ 0 < openGroups cs)
  openAt : NeverSurplus cs → ∀ i, result = .error ⟨.unmatchedOpen, i⟩ ↔ FirstUnmatched cs i
  someDeep : Balanced cs → ((∃ i, result = .error ⟨.nestingTooDeep 64, i⟩) ↔
    ∃ start, start <+: cs ∧ 64 < openGroups start)
  deepAt : Balanced cs → ∀ limit i, result = .error ⟨.nestingTooDeep limit, i⟩ ↔
    limit = 64 ∧ FirstTooDeep 64 cs i
  others : Balanced cs → NestsWithin 64 cs → ∀ e, result = .error e → ¬IsGroupFault e.fault

/-- A descent after the check of parentheses agrees with it: it never reports a fault of the groups
itself, and every search finds the `)` that matches, inside its span. -/
structure DescendsWithin (cs : List Char) (descent : Descent Selection) : Prop where
  faultless : checkGroups 0 [] none cs = .ok () →
    ∀ e, descent.outcome = .error e → ¬IsGroupFault e.fault
  findsMatch : ∀ search ∈ descent.searches, search.FindsMatch cs

theorem reportsGroups_parse (raw : String) :
    ReportsGroups (Text.trim raw.toList) (parse raw) := by
  have hclose : ∀ i, parse raw = .error ⟨.unmatchedClose, i⟩ ↔
      FirstSurplus (Text.trim raw.toList) i := by
    intro i
    rw [parse_eq_error_iff_of_isGroupFault .unmatchedClose]
    exact ⟨fun | .unmatchedClose hfirst => hfirst, .unmatchedClose⟩
  have hopen : NeverSurplus (Text.trim raw.toList) → ∀ i,
      parse raw = .error ⟨.unmatchedOpen, i⟩ ↔ FirstUnmatched (Text.trim raw.toList) i := by
    intro hnever i
    rw [parse_eq_error_iff_of_isGroupFault .unmatchedOpen]
    exact ⟨fun | .unmatchedOpen _ hfirst => hfirst, .unmatchedOpen hnever⟩
  have hdeep : Balanced (Text.trim raw.toList) → ∀ limit i,
      parse raw = .error ⟨.nestingTooDeep limit, i⟩ ↔
        limit = 64 ∧ FirstTooDeep 64 (Text.trim raw.toList) i := by
    intro hbalanced limit i
    rw [parse_eq_error_iff_of_isGroupFault (.nestingTooDeep limit)]
    constructor
    · rintro (_ | _ | ⟨_, hfirst⟩)
      exact ⟨rfl, hfirst⟩
    · rintro ⟨rfl, hfirst⟩
      exact .nestingTooDeep hbalanced hfirst
  constructor
  · simp only [hclose]
    exact exists_firstSurplus_iff
  · exact hclose
  · intro hnever
    simp only [hopen hnever]
    exact exists_firstUnmatched_iff hnever
  · exact hopen
  · intro hbalanced
    simp only [hdeep hbalanced, true_and]
    exact exists_firstTooDeep_iff hbalanced
  · exact hdeep
  · intro hbalanced hwithin e herror he
    cases (parse_eq_error_iff_of_isGroupFault he).mp herror with
    | unmatchedClose hfirst => exact hfirst.not_neverSurplus hbalanced.nonneg
    | unmatchedOpen _ hfirst => exact hfirst.not_balanced hbalanced
    | nestingTooDeep _ hfirst => exact hfirst.not_nestsWithin hwithin

/-- Whatever else is wrong with a text, what is wrong with its groups is reported first and at its
exact place.  The check of parentheses that does this, the descent into groups and the scan agree:
the descent reads what the scan reads, never meets a fault of the groups of its own, and finds for
every group the `)` that matches, inside the span in which the group opens. -/
theorem parse_reportsGroups (raw : String) :
    ReportsGroups (Text.trim raw.toList) (parse raw) ∧
      (parseSpans raw).outcome = parse raw ∧
      DescendsWithin (Text.trim raw.toList) (parseSpans raw) := by
  refine ⟨reportsGroups_parse raw, parseSpans_outcome raw, ?_, findsMatch_of_parseSpans raw⟩
  intro hcheck e herror
  obtain ⟨hbalanced, hwithin⟩ := (checkGroups_start_eq_ok_iff _).mp hcheck
  rw [parseSpans_outcome] at herror
  exact (reportsGroups_parse raw).others hbalanced hwithin e herror

/-- A separator and an invalid character come first, but the group that stays open is reported. -/
example : parse ",$(a)(b(c)" = .error ⟨.unmatchedOpen, 5⟩ := by decide +kernel

end Selection
end SparseFields

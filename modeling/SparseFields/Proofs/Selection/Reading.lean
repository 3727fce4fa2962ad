import SparseFields.Proofs.Selection.Grammar

/-!
# Reading is derivation

The main statement is that a text is read exactly when it is derived from the grammar and stays
within the limit of nesting, and that what is read is what its derivation denotes.

One direction runs the scan along a derivation.  It holds inside any open groups and before any
text that follows, since a phrase leaves the scan at a level that a separator and the end of the
level finish alike.  The other direction goes by the text that has been read: at every place it
is a beginning of a derivation, level by level of the groups that are still open.
-/

namespace SparseFields
namespace Selection

/-! ## From a derivation to a run -/

/-- A level at which `s` has been read completely: its end gives `s`, and a separator goes on
after `s`. -/
structure Level.Completes (level : Level) (s : Selection) : Prop where
  finish : ∀ position, level.finish position = .ok s
  separate : ∀ position, level.separate position = .ok ⟨s, .name []⟩

theorem completes_closed (s : Selection) : Level.Completes ⟨s, .closed⟩ s where
  finish _ := rfl
  separate _ := rfl

theorem completes_name (s : Selection) {letters : List Char} (h : letters ≠ []) :
    Level.Completes ⟨s, .name letters⟩ (s.insert (Level.fieldName letters) .whole) := by
  obtain ⟨c, rest, rfl⟩ := List.exists_cons_of_ne_nil h
  exact ⟨fun _ => rfl, fun _ => rfl⟩

/-- A selection in which fields have been chosen one after another. -/
def choose (s : Selection) (entries : List (String × Pick)) : Selection :=
  entries.foldl (fun s entry => s.insert entry.1 entry.2) s

theorem choose_append (s : Selection) (entries entries' : List (String × Pick)) :
    s.choose (entries ++ entries') = (s.choose entries).choose entries' :=
  List.foldl_append

theorem scan_end_top (position : Nat) (level : Level) :
    scan position [] level [] = level.finish position := by
  cases h : level.finish position <;> simp [scan, h]

theorem scan_end_inside_ne_ok (position : Nat) (group : OpenGroup) (outer : List OpenGroup)
    (level : Level) (s : Selection) :
    scan position (group :: outer) level [] ≠ .ok s := by
  cases h : level.finish position <;> simp [scan, h]

theorem scan_comma (position : Nat) (outer : List OpenGroup) (level : Level)
    (cs : List Char) :
    scan position outer level (',' :: cs) =
      match level.separate position with
      | .error e => .error e
      | .ok level => scan (position + 1) outer level cs :=
  rfl

theorem scan_open (position : Nat) (outer : List OpenGroup) (level : Level)
    (cs : List Char) :
    scan position outer level ('(' :: cs) =
      match level.openGroup position cs.head? with
      | .error e => .error e
      | .ok field => scan (position + 1) (⟨level.chosen, field⟩ :: outer) Level.start cs :=
  rfl

theorem scan_close (position : Nat) (group : OpenGroup) (outer : List OpenGroup)
    (level : Level) (cs : List Char) :
    scan position (group :: outer) level (')' :: cs) =
      match level.finish position with
      | .error e => .error e
      | .ok sub =>
          scan (position + 1) outer
            ⟨group.before.insert group.field (.part sub), .closed⟩ cs := by
  cases h : level.finish position <;> simp [scan, h]

theorem scan_other {c : Char} (hcomma : c ≠ ',') (hopen : c ≠ '(') (hclose : c ≠ ')')
    (position : Nat) (outer : List OpenGroup) (level : Level) (cs : List Char) :
    scan position outer level (c :: cs) =
      match level.readChar position c with
      | .error e => .error e
      | .ok level => scan (position + 1) outer level cs := by
  rw [scan.eq_def]
  exact (if_neg hcomma).trans ((if_neg hopen).trans (if_neg hclose))

/-- Letters are added to the pending name. -/
theorem scan_letters {letters : List Char} (h : ∀ c ∈ letters, IsNameLetter c)
    (position : Nat) (outer : List OpenGroup) (chosen : Selection)
    (before rest : List Char) :
    scan position outer ⟨chosen, .name before⟩ (letters ++ rest) =
      scan (position + letters.length) outer ⟨chosen, .name (letters.reverse ++ before)⟩
        rest := by
  induction letters generalizing position before with
  | nil => rfl
  | cons c letters ih =>
      have hc : IsNameLetter c := h c List.mem_cons_self
      have hread : Level.readChar ⟨chosen, .name before⟩ position c =
          .ok ⟨chosen, .name (c :: before)⟩ := by
        simp [Level.readChar, isNameChar_iff.mpr hc]
      have hstep := scan_other hc.ne_comma hc.ne_parenthesis.1 hc.ne_parenthesis.2 position
        outer ⟨chosen, .name before⟩ (letters ++ rest)
      rw [List.cons_append, hstep, hread]
      simp only [ih fun d hd => h d (List.mem_cons_of_mem c hd)]
      congr 1
      · simp
        omega
      · simp

theorem fieldName_reverse (cs : List Char) : Level.fieldName cs.reverse = String.ofList cs := by
  simp [Level.fieldName]

/-- The scan of a derived phrase, inside any open groups and before any text, completes the
selection in which the fields of the phrase are chosen after those before it. -/
theorem scan_of_writes {phrase : Phrase} {cs : List Char} {entries : List (String × Pick)}
    (h : Writes phrase cs entries) (position : Nat) (outer : List OpenGroup)
    (chosen : Selection) (rest : List Char) :
    ∃ level : Level, level.Completes (chosen.choose entries) ∧
      scan position outer ⟨chosen, .name []⟩ (cs ++ rest) =
        scan (position + cs.length) outer level rest := by
  induction h generalizing position outer chosen rest with
  | single _ ih => exact ih position outer chosen rest
  | @separated cs ds entries entries' _ _ ihbefore ihfield =>
      obtain ⟨level, hlevel, hscan⟩ := ihbefore position outer chosen (',' :: ds ++ rest)
      obtain ⟨level', hlevel', hscan'⟩ :=
        ihfield (position + cs.length + 1) outer (chosen.choose entries) rest
      refine ⟨level', choose_append chosen entries entries' ▸ hlevel', ?_⟩
      calc
        scan position outer ⟨chosen, .name []⟩ (cs ++ ',' :: ds ++ rest)
            = scan (position + cs.length) outer level (',' :: (ds ++ rest)) := by
          rw [List.append_assoc]
          exact hscan
        _ = scan (position + cs.length + 1) outer ⟨chosen.choose entries, .name []⟩
              (ds ++ rest) := by
          rw [scan_comma, hlevel.separate]
        _ = scan (position + (cs ++ ',' :: ds).length) outer level' rest := by
          rw [hscan']
          congr 1
          simp
          omega
  | @name cs hname =>
      have hne : cs.reverse ≠ [] := by simpa using hname.ne_nil
      refine ⟨⟨chosen, .name cs.reverse⟩, ?_, ?_⟩
      · rw [← fieldName_reverse]
        exact completes_name chosen hne
      · simpa using scan_letters hname.letters position outer chosen [] rest
  | @group cs ds entries sub hname hinner hpart ih =>
      have hsub : sub = Selection.nil.choose entries := hpart.unique (denotes_ofList entries)
      obtain ⟨c, tail, hds, hc⟩ := hinner.derives.head_letter
      have hhead : (ds ++ ')' :: rest).head? ≠ some ')' := by
        rw [hds]
        simpa using hc.ne_parenthesis.2
      have hopen : Level.openGroup ⟨chosen, .name cs.reverse⟩ (position + cs.length)
          (ds ++ ')' :: rest).head? = .ok (String.ofList cs) := by
        rw [← fieldName_reverse]
        simp only [Level.openGroup, if_neg hhead]
        simp [hname.ne_nil]
      obtain ⟨level, hlevel, hscan⟩ := ih (position + cs.length + 1)
        (⟨chosen, String.ofList cs⟩ :: outer) .nil (')' :: rest)
      refine ⟨⟨chosen.insert (String.ofList cs) (.part sub), .closed⟩, ?_, ?_⟩
      · exact completes_closed _
      · calc
          scan position outer ⟨chosen, .name []⟩ (cs ++ '(' :: ds ++ [')'] ++ rest)
              = scan position outer ⟨chosen, .name []⟩ (cs ++ '(' :: (ds ++ ')' :: rest)) := by
            simp
          _ = scan (position + cs.length) outer ⟨chosen, .name cs.reverse⟩
                ('(' :: (ds ++ ')' :: rest)) := by
            simpa using scan_letters hname.letters position outer chosen []
              ('(' :: (ds ++ ')' :: rest))
          _ = scan (position + cs.length + 1) (⟨chosen, String.ofList cs⟩ :: outer)
                Level.start (ds ++ ')' :: rest) := by
            rw [scan_open, hopen]
          _ = scan (position + cs.length + 1 + ds.length)
                (⟨chosen, String.ofList cs⟩ :: outer) level (')' :: rest) := hscan
          _ = scan (position + cs.length + 1 + ds.length + 1) outer
                ⟨chosen.insert (String.ofList cs) (.part sub), .closed⟩ rest := by
            rw [scan_close, hlevel.finish, hsub]
          _ = scan (position + (cs ++ '(' :: ds ++ [')']).length) outer
                ⟨chosen.insert (String.ofList cs) (.part sub), .closed⟩ rest := by
            congr 1
            simp
            omega

/-! ## From a run to a derivation -/

/-- What of a level stands before its next field, and the selection read from it: nothing, or a
derived selection and the separator after it. -/
inductive ReadBefore : List Char → Selection → Prop
  | nothing : ReadBefore [] .nil
  | separated {cs entries s} (before : Writes .selection cs entries)
      (denotes : Denotes entries s) : ReadBefore (cs ++ [',']) s

/-- The text of a level that leaves the scan at a given one: a derived selection that ends in a
group, or what stands before the next field and the letters of its name. -/
inductive ReadLevel : List Char → Level → Prop
  | closed {cs entries s} (before : Writes .selection cs entries)
      (denotes : Denotes entries s) : ReadLevel cs ⟨s, .closed⟩
  | name {cs s letters} (before : ReadBefore cs s) (letter : ∀ c ∈ letters, IsNameLetter c) :
      ReadLevel (cs ++ letters.reverse) ⟨s, .name letters⟩

/-- The text that leaves the scan inside open groups and at a level: the text of the level alone,
or the text before the innermost group, with the letters of its name, and the text inside. -/
inductive ReadUpTo : List Char → List OpenGroup → Level → Prop
  | top {cs level} (read : ReadLevel cs level) : ReadUpTo cs [] level
  | inside {cs ds outer s letters level} (ne_nil : letters ≠ [])
      (before : ReadUpTo cs outer ⟨s, .name letters⟩) (read : ReadLevel ds level) :
      ReadUpTo (cs ++ '(' :: ds) (⟨s, Level.fieldName letters⟩ :: outer) level

/-- A text that continues every text of a level continues it inside all groups. -/
theorem ReadUpTo.extend {cs more : List Char} {outer : List OpenGroup}
    {level level' : Level} (h : ReadUpTo cs outer level)
    (hlevel : ∀ ds, ReadLevel ds level → ReadLevel (ds ++ more) level') :
    ReadUpTo (cs ++ more) outer level' := by
  cases h with
  | top hread => exact .top (hlevel _ hread)
  | inside hne hbefore hread =>
      rw [List.append_assoc, List.cons_append]
      exact .inside hne hbefore (hlevel _ hread)

theorem identifier_reverse {letters : List Char} (hne : letters ≠ [])
    (h : ∀ c ∈ letters, IsNameLetter c) : Identifier letters.reverse where
  ne_nil := by simpa using hne
  letters c hc := h c (List.mem_reverse.mp hc)

/-- A field after what stands before it makes a selection, in which it is chosen. -/
theorem ReadBefore.writes_field {cs ds : List Char} {s : Selection} {entry : String × Pick}
    (h : ReadBefore cs s) (hfield : Writes .field ds [entry]) :
    ∃ entries, Writes .selection (cs ++ ds) entries ∧
      Denotes entries (s.insert entry.1 entry.2) := by
  cases h with
  | nothing => exact ⟨[entry], .single hfield, denotes_nil.insert entry.1 entry.2⟩
  | @separated cs entries _ hbefore hdenotes =>
      refine ⟨entries ++ [entry], ?_, hdenotes.insert entry.1 entry.2⟩
      rw [List.append_assoc, List.singleton_append]
      exact .separated hbefore hfield

/-- At the end of a level its text is a derived selection. -/
theorem ReadLevel.writes_of_finish {cs : List Char} {level : Level} {position : Nat}
    {s : Selection} (h : ReadLevel cs level) (hfinish : level.finish position = .ok s) :
    ∃ entries, Writes .selection cs entries ∧ Denotes entries s := by
  cases h with
  | @closed _ entries _ hbefore hdenotes =>
      cases hfinish
      exact ⟨entries, hbefore, hdenotes⟩
  | @name _ chosen letters hbefore hletters =>
      cases letters with
      | nil => cases hfinish
      | cons c letters =>
          cases hfinish
          have hname := identifier_reverse (List.cons_ne_nil c letters) hletters
          exact hbefore.writes_field (.name hname)

theorem ReadBefore.readLevel {cs : List Char} {s : Selection} (h : ReadBefore cs s) :
    ReadLevel cs ⟨s, .name []⟩ := by
  have hletter : ∀ c ∈ ([] : List Char), IsNameLetter c := by simp
  have hlevel := ReadLevel.name h hletter
  rwa [List.reverse_nil, List.append_nil] at hlevel

/-- A separator goes on after exactly the selection that the end of the level would give. -/
theorem finish_of_separate {level level' : Level} {position : Nat}
    (h : level.separate position = .ok level') :
    ∃ s, level.finish position = .ok s ∧ level' = ⟨s, .name []⟩ := by
  obtain ⟨chosen, pending⟩ := level
  cases pending with
  | closed =>
      cases h
      exact ⟨_, rfl, rfl⟩
  | name letters =>
      cases letters with
      | nil => cases h
      | cons c letters =>
          cases h
          exact ⟨_, rfl, rfl⟩

theorem ReadLevel.separate {cs : List Char} {level level' : Level} {position : Nat}
    (h : ReadLevel cs level) (hseparate : level.separate position = .ok level') :
    ReadLevel (cs ++ [',']) level' := by
  obtain ⟨s, hfinish, rfl⟩ := finish_of_separate hseparate
  obtain ⟨entries, hwrites, hdenotes⟩ := h.writes_of_finish hfinish
  exact (ReadBefore.separated hwrites hdenotes).readLevel

theorem ReadLevel.readChar {cs : List Char} {level level' : Level} {position : Nat}
    {c : Char} (h : ReadLevel cs level) (hread : level.readChar position c = .ok level') :
    ReadLevel (cs ++ [c]) level' := by
  rw [Level.readChar] at hread
  split at hread
  · next hc =>
    cases h with
    | closed => cases hread
    | @name before s letters hbefore hletters =>
        cases hread
        have hall : ∀ d ∈ c :: letters, IsNameLetter d := by
          intro d hd
          rcases List.mem_cons.mp hd with rfl | hd
          · exact isNameChar_iff.mp hc
          · exact hletters d hd
        simpa using ReadLevel.name hbefore hall
  · cases hread

/-- A derived selection in parentheses after a name is a field of the level. -/
theorem ReadLevel.group {cs ds : List Char} {s sub : Selection} {letters : List Char}
    {entries : List (String × Pick)} (hne : letters ≠ [])
    (h : ReadLevel cs ⟨s, .name letters⟩) (hinner : Writes .selection ds entries)
    (hdenotes : Denotes entries sub) :
    ReadLevel (cs ++ ('(' :: ds ++ [')']))
      ⟨s.insert (Level.fieldName letters) (.part sub), .closed⟩ := by
  cases h with
  | @name before _ _ hbefore hletters =>
      have hfield := Writes.group (identifier_reverse hne hletters) hinner hdenotes
      obtain ⟨entries', hwrites, hdenotes'⟩ := hbefore.writes_field hfield
      rw [List.append_assoc] at hwrites ⊢
      exact .closed hwrites hdenotes'

theorem openGroup_eq_ok {level : Level} {position : Nat} {next : Option Char}
    {field : String} (h : level.openGroup position next = .ok field) :
    ∃ letters, letters ≠ [] ∧ level.pending = .name letters ∧
      field = Level.fieldName letters := by
  rw [Level.openGroup] at h
  split at h
  · cases h
  · next letters hpending =>
    split at h
    · cases h
    · split at h
      · cases h
      · next hne =>
        cases h
        exact ⟨letters, by simpa using hne, hpending, rfl⟩

/-- When the scan succeeds, the text before it and the rest together are derived from the grammar,
and the result is what the derivation denotes. -/
theorem writes_of_scan_eq_ok {cs read : List Char} {position : Nat}
    {outer : List OpenGroup} {level : Level} {s : Selection}
    (hread : ReadUpTo read outer level) (h : scan position outer level cs = .ok s) :
    ∃ entries, Writes .selection (read ++ cs) entries ∧ Denotes entries s := by
  induction cs generalizing position outer level read with
  | nil =>
      cases hread with
      | top hlevel =>
          rw [scan_end_top] at h
          rw [List.append_nil]
          exact hlevel.writes_of_finish h
      | inside => exact absurd h (scan_end_inside_ne_ok _ _ _ _ _)
  | cons c cs ih =>
      rw [List.append_cons]
      by_cases hcomma : c = ','
      · subst hcomma
        rw [scan_comma] at h
        split at h
        · cases h
        · next hseparate => exact ih (hread.extend fun _ hds => hds.separate hseparate) h
      · by_cases hopen : c = '('
        · subst hopen
          rw [scan_open] at h
          split at h
          · cases h
          · next hgroup =>
            obtain ⟨letters, hne, hpending, rfl⟩ := openGroup_eq_ok hgroup
            obtain ⟨chosen, pending⟩ := level
            subst hpending
            exact ih (.inside hne hread ReadBefore.nothing.readLevel) h
        · by_cases hclose : c = ')'
          · subst hclose
            cases hread with
            | top => cases h
            | inside hne hbefore hlevel =>
                rw [scan_close] at h
                split at h
                · cases h
                · next hfinish =>
                  obtain ⟨entries, hwrites, hdenotes⟩ := hlevel.writes_of_finish hfinish
                  have hclosed := hbefore.extend fun _ hds =>
                    hds.group hne hwrites hdenotes
                  refine ih ?_ h
                  rwa [List.append_assoc]
          · rw [scan_other hcomma hopen hclose] at h
            split at h
            · cases h
            · next hchar => exact ih (hread.extend fun _ hds => hds.readChar hchar) h

/-! ## Reading -/

theorem parseChars_eq_ok_iff {cs : List Char} {s : Selection} :
    parseChars cs = .ok s ↔
      NestsWithin maxNesting cs ∧
        ∃ entries, Writes .selection cs entries ∧ Denotes entries s := by
  constructor
  · intro h
    rw [parseChars] at h
    split at h
    · cases h
    · next hcheck =>
      have hstart : ReadUpTo [] [] Level.start := .top ReadBefore.nothing.readLevel
      exact ⟨((checkGroups_start_eq_ok_iff cs).mp hcheck).2, writes_of_scan_eq_ok hstart h⟩
  · rintro ⟨hwithin, entries, hwrites, hdenotes⟩
    have hcheck := (checkGroups_start_eq_ok_iff cs).mpr ⟨hwrites.derives.balanced, hwithin⟩
    obtain ⟨level, hlevel, hscan⟩ := scan_of_writes hwrites 0 [] .nil []
    rw [List.append_nil, scan_end_top, hlevel.finish] at hscan
    rw [parseChars, hcheck, hdenotes.unique (denotes_ofList entries)]
    exact hscan

theorem parse_eq_ok_iff {raw : String} {s : Selection} :
    parse raw = .ok s ↔
      NestsWithin maxNesting (Text.trim raw.toList) ∧
        ∃ entries, Writes .selection (Text.trim raw.toList) entries ∧ Denotes entries s :=
  parseChars_eq_ok_iff

/-- A text is read exactly when, without the blanks around it, it is derived from the grammar and
never has more than 64 groups open.  What is read is then what every derivation of the text
denotes. -/
theorem parse_ok_iff_derives (raw : String) :
    ((∃ s, parse raw = .ok s) ↔
        Derives .selection (Text.trim raw.toList) ∧ NestsWithin 64 (Text.trim raw.toList)) ∧
      ∀ s, parse raw = .ok s →
        (∃ entries, Writes .selection (Text.trim raw.toList) entries) ∧
          ∀ entries, Writes .selection (Text.trim raw.toList) entries → Denotes entries s := by
  refine ⟨⟨?_, ?_⟩, ?_⟩
  · rintro ⟨s, hs⟩
    obtain ⟨hwithin, entries, hwrites, -⟩ := parseChars_eq_ok_iff.mp hs
    exact ⟨hwrites.derives, hwithin⟩
  · rintro ⟨hderives, hwithin⟩
    obtain ⟨entries, hwrites⟩ := hderives.exists_writes
    exact ⟨ofList entries,
      parseChars_eq_ok_iff.mpr ⟨hwithin, entries, hwrites, denotes_ofList entries⟩⟩
  · intro s hs
    obtain ⟨hwithin, entries, hwrites, -⟩ := parseChars_eq_ok_iff.mp hs
    refine ⟨⟨entries, hwrites⟩, fun entries' hwrites' => ?_⟩
    have hread : parseChars (Text.trim raw.toList) = .ok (ofList entries') :=
      parseChars_eq_ok_iff.mpr ⟨hwithin, entries', hwrites', denotes_ofList entries'⟩
    have hsame : s = ofList entries' := Except.ok.inj (hs.symm.trans hread)
    exact hsame ▸ denotes_ofList entries'

end Selection
end SparseFields

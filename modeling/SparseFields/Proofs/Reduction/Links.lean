import SparseFields.Proofs.Reduction.Fields
import SparseFields.Proofs.Reduction.Questions

/-!
# Questions along links

A reduction asks for nothing that the schema does not link to what it already has.  It starts with
records of a descriptor.  From there it asks for the records that hold the id of a record it has,
for the descriptor of the target of a link, and, right after that, for the record whose id is a key
that it has.  The main statement says this of every question of every run, in terms of the questions
before it and their answers.

The records that a run has come to are never forgotten, so what is shown of the questions of one
step holds whatever was asked before it, as long as its record is among those.
-/

namespace SparseFields

/-- The records of content, in order. -/
def Content.records : Content → List Instance
  | .one x => [x]
  | .many xs => xs

/-- The filter of a question for records. -/
def Call.filter? : Call → Option Filter
  | .describe _ => none
  | .findMany _ filter => some filter
  | .findOne _ filter => some filter

/-- What a reduction begins with: a source to ask, and records of a descriptor. -/
structure Start where
  source : Source
  descriptor : Descriptor
  content : Content

namespace Start

variable (start : Start)

/-- The answer to an earlier question about an entity has a record. -/
inductive Finds (asked : List Call) (entity : String) (x : Instance) : Prop
  | many {filter rows} (mem : Call.findMany entity filter ∈ asked)
      (found : start.source.findMany entity filter = .ok rows) (row : x ∈ rows)
  | one {filter} (mem : Call.findOne entity filter ∈ asked)
      (found : start.source.findOne entity filter = .ok (some x))

/-- A record with its descriptor is known: both were there at the start, or both are about one
entity and were found by earlier questions. -/
inductive Knows (asked : List Call) : Descriptor → Instance → Prop
  | root {x} (mem : x ∈ start.content.records) : Knows asked start.descriptor x
  | found {entity d x} (mem : Call.describe entity ∈ asked)
      (described : start.source.describe entity = .ok d) (finds : start.Finds asked entity x) :
      Knows asked d x

/-- A question follows a link of what is known from the questions before it. -/
inductive Follows : List Call → Call → Prop
  /-- The records that hold the id of a known record are asked for; a missing id counts as null. -/
  | records {asked d x link} (known : start.Knows asked d x) (linked : link ∈ d.hasMany) :
      Follows asked
        (.findMany link.target (.single link.foreignKey ((x.get? d.idField).getD .null)))
  /-- The target of a has-many association is described. -/
  | manyTarget {asked d x link} (known : start.Knows asked d x) (linked : link ∈ d.hasMany) :
      Follows asked (.describe link.target)
  /-- The target of a belongs-to association is described. -/
  | oneTarget {asked d x link} (known : start.Knows asked d x) (linked : link ∈ d.belongsTo) :
      Follows asked (.describe link.target)
  /-- With the target just described, the record is asked for whose id is a key of a known record
  that is not null. -/
  | record {asked d x link key target} (known : start.Knows asked d x)
      (linked : link ∈ d.belongsTo) (holds : x.get? link.foreignKey = some key)
      (notNull : key ≠ .null) (described : start.source.describe link.target = .ok target) :
      Follows (asked ++ [.describe link.target])
        (.findOne link.target (.single target.idField key))

/-- Each of some questions that are asked after others follows a link. -/
def AllFollow : (asked calls : List Call) → Prop
  | _, [] => True
  | asked, call :: calls => start.Follows asked call ∧ AllFollow (asked ++ [call]) calls

variable {start} {asked calls calls' : List Call} {d : Descriptor} {x : Instance}

/-! ## What is known -/

theorem Finds.append {entity : String} (h : start.Finds asked entity x) (calls : List Call) :
    start.Finds (asked ++ calls) entity x := by
  cases h with
  | many mem found row => exact .many (List.mem_append_left calls mem) found row
  | one mem found => exact .one (List.mem_append_left calls mem) found

theorem Knows.append (h : start.Knows asked d x) (calls : List Call) :
    start.Knows (asked ++ calls) d x := by
  cases h with
  | root mem => exact .root mem
  | found mem described finds =>
      exact .found (List.mem_append_left calls mem) described (finds.append calls)

/-! ## Questions one after another -/

theorem AllFollow.append (h : start.AllFollow asked calls)
    (h' : start.AllFollow (asked ++ calls) calls') : start.AllFollow asked (calls ++ calls') := by
  induction calls generalizing asked with
  | nil => simpa using h'
  | cons call calls ih =>
      refine ⟨h.1, ih h.2 ?_⟩
      simpa using h'

theorem AllFollow.follows {call : Call} (h : start.AllFollow asked (calls ++ call :: calls')) :
    start.Follows (asked ++ calls) call := by
  induction calls generalizing asked with
  | nil => simpa using h.1
  | cons first calls ih => simpa using ih h.2

theorem allFollow_andThen {α β : Type} {run : Run α} {f : α → Run β}
    (hrun : start.AllFollow asked run.calls)
    (hf : ∀ a, start.AllFollow (asked ++ run.calls) (f a).calls) :
    start.AllFollow asked (run.andThen f).calls := by
  cases h : run.outcome with
  | ok a =>
      rw [Run.andThen_calls_of_ok h]
      exact hrun.append (hf a)
  | error e =>
      rw [Run.andThen_calls_of_error h]
      exact hrun

/-! ## Questions for records -/

/-- Records are asked for by filters with one condition. -/
theorem Follows.filter {call : Call} (h : start.Follows asked call) {filter : Filter}
    (hfilter : call.filter? = some filter) : ∃ column key, filter = .single column key := by
  cases h with
  | manyTarget => cases hfilter
  | oneTarget => cases hfilter
  | records =>
      cases hfilter
      exact ⟨_, _, rfl⟩
  | record =>
      cases hfilter
      exact ⟨_, _, rfl⟩

end Start

namespace Reducer

open Run

variable {r : Reducer} {start : Start} {asked : List Call} {d : Descriptor} {x : Instance}

/-! ## The steps of a reduction -/

theorem allFollow_shapeEach {shape : Instance → Run Json} {xs : List Instance}
    (hshape : ∀ asked x, start.Knows asked d x → start.AllFollow asked (shape x).calls)
    (hknown : ∀ x ∈ xs, start.Knows asked d x) (index : Nat) :
    start.AllFollow asked (shapeEach shape index xs).calls := by
  induction xs generalizing asked index with
  | nil => trivial
  | cons x xs ih =>
      obtain ⟨hx, hxs⟩ := List.forall_mem_cons.mp hknown
      rw [shapeEach]
      refine Start.allFollow_andThen (hshape asked x hx) fun value => ?_
      refine Start.allFollow_andThen (ih (fun y hy => (hxs y hy).append _) _) fun values => ?_
      trivial

theorem allFollow_reduceAt {s : Selection} {level : Nat}
    (hone : ∀ asked x, start.Knows asked d x →
      start.AllFollow asked (r.reduceInstance d x level s).calls) {content : Content}
    (hknown : ∀ x ∈ content.records, start.Knows asked d x) :
    start.AllFollow asked (r.reduceAt d level content s).calls := by
  have hlevel : start.AllFollow asked (r.checkLevel d level).calls := by
    rw [r.checkLevel_calls]
    trivial
  have hasked : asked ++ (r.checkLevel d level).calls = asked := by
    rw [r.checkLevel_calls, List.append_nil]
  refine Start.allFollow_andThen hlevel fun _ => ?_
  rw [hasked]
  cases content with
  | one x => exact hone asked x (hknown x List.mem_cons_self)
  | many xs => exact Start.allFollow_andThen (allFollow_shapeEach hone hknown 0) fun _ => trivial

/-- What becomes of related records asks along links: of the records that were found for a has-many
association, whose target is still to be described, and of a known record. -/
structure ShapingAllFollow (start : Start) (shaping : Shaping) : Prop where
  many : ∀ {asked d x link rows}, start.Knows asked d x → link ∈ d.hasMany →
    (∀ row ∈ rows, start.Finds asked link.target row) →
      start.AllFollow asked (shaping.many link.target rows).calls
  one : ∀ {asked d row}, start.Knows asked d row → start.AllFollow asked (shaping.one d row).calls

theorem shapingAllFollow_of_pick (hsource : start.source = r.source) {level : Nat}
    {pick : Selection.Pick}
    (hpart : ∀ sub, pick = .part sub → ∀ asked d x level, start.Knows asked d x →
      start.AllFollow asked (r.reduceInstance d x level sub).calls) :
    ShapingAllFollow start (r.pickShaping level pick) := by
  cases pick with
  | whole => exact ⟨fun _ _ _ => trivial, fun _ => trivial⟩
  | part sub =>
      constructor
      · intro asked d x link rows hknown hlinked hrows
        rw [pickShaping_part_many]
        have hfollows := Start.Follows.manyTarget hknown hlinked
        cases hdescribe : r.source.describe link.target with
        | error e =>
            rw [describe_andThen_of_error hdescribe]
            exact ⟨hfollows, trivial⟩
        | ok target =>
            rw [describe_andThen_of_ok hdescribe]
            -- With its descriptor, what was found becomes known.
            refine ⟨hfollows, allFollow_reduceAt (fun _ x => hpart sub rfl _ target x _) ?_⟩
            intro row hrow
            exact .found List.mem_concat_self (hsource ▸ hdescribe) ((hrows row hrow).append _)
      · intro asked d row hknown
        rw [pickShaping_part_one]
        refine allFollow_reduceAt (fun _ x => hpart sub rfl _ d x _) fun row' hrow => ?_
        rw [List.mem_singleton.mp hrow]
        exact hknown

section Fields

variable {shaping : Shaping} (hsource : start.source = r.source)
  (hshaping : ShapingAllFollow start shaping) (hknown : start.Knows asked d x)

include hsource hshaping hknown

theorem allFollow_manyValue {link : HasMany} (hlinked : link ∈ d.hasMany) :
    start.AllFollow asked (r.manyValue d x link shaping).calls := by
  have hfollows : start.Follows asked (.findMany link.target (manyFilter d x link)) :=
    .records hknown hlinked
  cases hrows : r.source.findMany link.target (manyFilter d x link) with
  | error e =>
      rw [r.manyValue_of_error hrows]
      refine ⟨hfollows, ?_⟩
      split <;> trivial
  | ok rows =>
      rw [r.manyValue_of_ok hrows]
      refine ⟨hfollows, hshaping.many (hknown.append _) hlinked fun row hrow => ?_⟩
      exact .many List.mem_concat_self (hsource ▸ hrows) hrow

theorem allFollow_oneValue {link : BelongsTo} (hlinked : link ∈ d.belongsTo) :
    start.AllFollow asked (r.oneValue x link shaping).calls := by
  cases hholds : x.get? link.foreignKey with
  | none =>
      rw [r.oneValue_of_null (by rw [hholds]; rfl)]
      trivial
  | some key =>
      have hgetD : (x.get? link.foreignKey).getD .null = key := by rw [hholds]; rfl
      by_cases hnull : key = .null
      · rw [r.oneValue_of_null (hgetD.trans hnull)]
        trivial
      · rw [r.oneValue_of_ne_null (hgetD ▸ hnull), hgetD]
        have htarget := Start.Follows.oneTarget hknown hlinked
        cases hdescribe : r.source.describe link.target with
        | error e =>
            rw [describe_andThen_of_error hdescribe]
            exact ⟨htarget, trivial⟩
        | ok target =>
            rw [describe_andThen_of_ok hdescribe]
            have hrecord := Start.Follows.record hknown hlinked hholds hnull
              (hsource ▸ hdescribe)
            cases hfound : r.source.findOne link.target (.single target.idField key) with
            | error e =>
                rw [findOne_andThen_of_error hfound]
                exact ⟨htarget, hrecord, trivial⟩
            | ok found =>
                rw [findOne_andThen_of_ok hfound]
                refine ⟨htarget, hrecord, ?_⟩
                cases found with
                | none => trivial
                | some row =>
                    dsimp only
                    split
                    · refine hshaping.one (.found ?_ (hsource ▸ hdescribe) ?_)
                      · simp
                      · exact .one List.mem_concat_self (hsource ▸ hfound)
                    · trivial

theorem allFollow_entry (field : String) :
    start.AllFollow asked (r.entry d x field shaping).calls := by
  rw [Reducer.entry]
  cases hfield : d.resolve r.naming field with
  | owned => trivial
  | unknown => trivial
  | many link =>
      have hlinked := List.mem_of_find?_eq_some (Descriptor.resolve_eq_many_iff.mp hfield).2
      have hvalue := allFollow_manyValue hsource hshaping hknown hlinked
      exact Start.allFollow_andThen hvalue fun _ => trivial
  | one link =>
      have hlinked := List.mem_of_find?_eq_some (Descriptor.resolve_eq_one_iff.mp hfield).2.2
      have hvalue := allFollow_oneValue hsource hshaping hknown hlinked
      exact Start.allFollow_andThen hvalue fun _ => trivial

end Fields

theorem allFollow_writeEach {runs : List (Run (String × Json))}
    (hruns : ∀ run ∈ runs, ∀ asked, start.Knows asked d x → start.AllFollow asked run.calls)
    (hknown : start.Knows asked d x) (output : SortedMap Json) :
    start.AllFollow asked (writeEach d output runs).calls := by
  induction runs generalizing asked output with
  | nil => trivial
  | cons run runs ih =>
      obtain ⟨hrun, hruns⟩ := List.forall_mem_cons.mp hruns
      refine Start.allFollow_andThen (hrun asked hknown) fun entry => ?_
      have hwrite : (write d output entry).calls = [] := by
        rw [write]
        split <;> rfl
      refine Start.allFollow_andThen (by rw [hwrite]; trivial) fun output' => ?_
      rw [hwrite, List.append_nil]
      exact ih hruns (hknown.append _) output'

/-- The reduction of a known record asks along links. -/
theorem allFollow_reduceInstance (hsource : start.source = r.source) (s : Selection)
    (hknown : start.Knows asked d x) (level : Nat) :
    start.AllFollow asked (r.reduceInstance d x level s).calls := by
  induction s using Selection.parts_induction generalizing asked d x level with
  | step s ih =>
      rw [reduceInstance, bind_eq_andThen, reduceFields_eq_writeEach]
      refine Start.allFollow_andThen (allFollow_writeEach ?_ hknown []) fun _ => trivial
      intro run hrun asked hknown
      obtain ⟨⟨field, pick⟩, hmem, rfl⟩ := List.mem_map.mp hrun
      refine allFollow_entry hsource (shapingAllFollow_of_pick hsource ?_) hknown field
      rintro sub rfl asked d x level hknown
      exact ih field sub hmem hknown level

variable (r)

/-- Every question of a run, be it answered or refused, follows a link of the records known from the
questions before it.  So records are never asked for without a condition, and a key that is missing
or null leads to no question at all. -/
theorem reduce_followsLinks (d : Descriptor) (content : Content) (s : Selection) :
    (∀ asked call later, (r.reduce d content s).calls = asked ++ call :: later →
      (Start.mk r.source d content).Follows asked call) ∧
    (∀ call ∈ (r.reduce d content s).calls, ∀ filter, call.filter? = some filter →
      ∃ column key, filter = .single column key) ∧
    ∀ d x field link shaping, d.resolve r.naming field = .one link →
      (x.get? link.foreignKey).getD .null = .null → (r.entry d x field shaping).calls = [] := by
  have hall : (Start.mk r.source d content).AllFollow [] (r.reduce d content s).calls :=
    allFollow_reduceAt (fun _ _ hknown => allFollow_reduceInstance rfl s hknown 1)
      fun x hx => .root hx
  have hfollows : ∀ asked call later, (r.reduce d content s).calls = asked ++ call :: later →
      (Start.mk r.source d content).Follows asked call := by
    intro asked call later hcalls
    rw [hcalls] at hall
    exact hall.follows
  refine ⟨hfollows, ?_, ?_⟩
  · intro call hcall filter hfilter
    obtain ⟨asked, later, hcalls⟩ := List.append_of_mem hcall
    exact (hfollows asked call later hcalls).filter hfilter
  · intro d x field link shaping hfield hnull
    rw [Reducer.entry, hfield]
    dsimp only
    rw [r.oneValue_of_null hnull]
    rfl

/-- The sample run asks for the user of an order last, whose id is the key of the order. -/
theorem sample_followsLinks :
    (Sample.reducer.reduce Sample.user (.one Sample.ann) Sample.selection).calls =
        [.findMany "Order" (.single "userId" (.int 1)), .describe "Order", .describe "User"] ++
          [.findOne "User" (.single "id" (.int 1))] ∧
      (Start.mk Sample.shop.source Sample.user (.one Sample.ann)).Follows
        [.findMany "Order" (.single "userId" (.int 1)), .describe "Order", .describe "User"]
        (.findOne "User" (.single "id" (.int 1))) := by
  have hcalls : (Sample.reducer.reduce Sample.user (.one Sample.ann) Sample.selection).calls =
      [.findMany "Order" (.single "userId" (.int 1)), .describe "Order", .describe "User"] ++
        [.findOne "User" (.single "id" (.int 1))] := rfl
  obtain ⟨hfollows, -, -⟩ :=
    reduce_followsLinks Sample.reducer Sample.user (.one Sample.ann) Sample.selection
  exact ⟨hcalls, hfollows _ _ [] hcalls⟩

end Reducer
end SparseFields

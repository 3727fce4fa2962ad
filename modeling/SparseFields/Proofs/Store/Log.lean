import SparseFields.Proofs.Store.History
import Mathlib.Data.List.Induction
import Mathlib.Data.List.TakeWhile

/-!
# The log of a store

Changes of a store and questions to it follow each other in any order, and all of them are kept in a
log.  The descriptors, the tables and the failures that the store holds apart are each read off this
one log: the last registration of an entity, the objects inserted since its first one, and the
filters it was told to fail on.

What an operation does to a store is said once, by an equation for each of the three, and every
operation keeps tables and descriptors consistent.  The answers about an entity, and that they
depend on the operations on this entity alone, are derived from these.
-/

namespace SparseFields
namespace Store

/-! ## Operations -/

/-- What can be done with a store: it is changed, or asked. -/
inductive Operation
  | change (change : Change)
  | describe (entity : String)
  | findMany (entity : String) (filter : Filter)
  | findOne (entity : String) (filter : Filter)
  | len (entity : String)

/-- What an operation is answered with. -/
inductive Reply
  | done
  | inserted (outcome : Except StoreError Unit)
  | descriptor (answer : Except StoreError Descriptor)
  | records (answer : Except StoreError (List Instance))
  | record (answer : Except StoreError (Option Instance))
  | count (n : Nat)

/-- A store after an operation; a question leaves it as it is. -/
def perform (store : Store) : Operation → Store
  | .change change => store.apply change
  | _ => store

def reply (store : Store) : Operation → Reply
  | .change (.register _) => .done
  | .change (.failOn _ _) => .done
  | .change (.insert entity values) => .inserted ((store.insert entity values).map fun _ => ())
  | .describe entity => .descriptor (store.describe entity)
  | .findMany entity filter => .records (store.findMany entity filter)
  | .findOne entity filter => .record (store.findOne entity filter)
  | .len entity => .count (store.len entity)

/-- The store that a log leads to from the empty one. -/
def ofLog (log : List Operation) : Store :=
  log.foldl perform empty

theorem ofLog_append (log later : List Operation) :
    ofLog (log ++ later) = later.foldl perform (ofLog log) :=
  List.foldl_append

theorem ofLog_concat (log : List Operation) (op : Operation) :
    ofLog (log ++ [op]) = (ofLog log).perform op :=
  ofLog_append log [op]

namespace Operation

def entity : Operation → String
  | change (.register d) => d.name
  | change (.insert entity _) => entity
  | change (.failOn entity _) => entity
  | describe entity => entity
  | findMany entity _ => entity
  | findOne entity _ => entity
  | len entity => entity

/-- The descriptor that an operation registers for an entity. -/
def descriptor? (entity : String) : Operation → Option Descriptor
  | change (.register d) => if d.name = entity then some d else none
  | _ => none

/-- The record that an operation inserts for an entity, if the entity is registered. -/
def record? (entity : String) : Operation → Option Instance
  | change (.insert other (.object members)) =>
      if other = entity then some ⟨entity, members⟩ else none
  | _ => none

/-- Whether an operation makes a query fail. -/
def makesFail (entity : String) (filter : Filter) : Operation → Bool
  | change (.failOn other other') => other == entity && other'.same filter
  | _ => false

end Operation

/-! ## What an operation does -/

variable {store : Store} {entity : String} {filter : Filter}

theorem insert_of_unregistered (h : store.descriptors.contains entity = false) (values : Json) :
    store.insert entity values = .error (.unknownEntity entity) := by
  rw [insert, h]
  rfl

theorem insert_object (h : store.descriptors.contains entity = true)
    (members : List (String × Json)) :
    store.insert entity (.object members) = .ok (store.push entity ⟨entity, members⟩) := by
  rw [insert, if_pos h]
  rfl

theorem insert_of_not_object (h : store.descriptors.contains entity = true) {values : Json}
    (hvalues : ¬∃ members, values = .object members) :
    store.insert entity values =
      .error (.decode entity ("expected a JSON object, got " ++ values.text)) := by
  rw [insert, if_pos h]
  cases values with
  | object members => exact absurd ⟨members, rfl⟩ hvalues
  | _ => rfl

theorem insert_eq_ok_iff {values : Json} :
    (∃ store', store.insert entity values = .ok store') ↔
      store.descriptors.contains entity = true ∧ ∃ members, values = .object members := by
  constructor
  · rintro ⟨store', hinsert⟩
    obtain ⟨hregistered, members, hvalues, -⟩ := insert_eq_ok hinsert
    exact ⟨hregistered, members, hvalues⟩
  · rintro ⟨hregistered, members, rfl⟩
    exact ⟨_, insert_object hregistered members⟩

/-- An insertion that fails leaves a store as it is. -/
theorem perform_of_insert_error {values : Json} {e : StoreError}
    (h : store.insert entity values = .error e) :
    store.perform (.change (.insert entity values)) = store := by
  rw [perform, apply, h]

theorem find?_perform (op : Operation) :
    (store.perform op).descriptors.find? entity =
      (op.descriptor? entity).or (store.descriptors.find? entity) := by
  cases op with
  | change change =>
      rw [perform, apply_descriptors]
      cases change with
      | register d =>
          rw [SortedMap.find?_insert, Operation.descriptor?]
          split <;> rfl
      | insert other values => rfl
      | failOn other other' => rfl
  | _ => rfl

theorem record?_eq_some {op : Operation} {x : Instance} (h : op.record? entity = some x) :
    ∃ members, op = .change (.insert entity (.object members)) ∧ x = ⟨entity, members⟩ := by
  unfold Operation.record? at h
  split at h
  · split at h
    · next hother =>
      subst hother
      exact ⟨_, rfl, (Option.some.inj h).symm⟩
    · cases h
  · cases h

/-- An operation adds a record to those of an entity when it inserts one and the entity is
registered. -/
theorem rowsOf_perform (op : Operation) :
    (store.perform op).rowsOf entity =
      store.rowsOf entity ++
        if store.descriptors.contains entity then (op.record? entity).toList else [] := by
  cases op with
  | change change =>
      obtain ⟨d, rfl, h⟩ | ⟨other, members, rfl, hregistered, h⟩ |
        ⟨other, values, e, rfl, hrefused, h⟩ | ⟨other, other', rfl, h⟩ := store.apply_cases change
      · rw [perform, h, rowsOf_register]
        simp [Operation.record?]
      · rw [perform, h, rowsOf_push, Operation.record?]
        by_cases hother : other = entity
        · subst hother
          simp [hregistered]
        · simp [hother]
      · -- A record for a registered entity would have been inserted.
        have hnone (hregistered : store.descriptors.contains entity = true) :
            (Operation.change (.insert other values)).record? entity = none := by
          rw [Option.eq_none_iff_forall_ne_some]
          intro x hrecord
          obtain ⟨members, hop, -⟩ := record?_eq_some hrecord
          cases hop
          cases hrefused.symm.trans (insert_object hregistered members)
        rw [perform, h]
        split
        · next hregistered => simp [hnone hregistered]
        · simp
      · rw [perform, h]
        simp [failOn, rowsOf, Operation.record?]
  | _ => simp [perform, Operation.record?]

theorem fails_perform (op : Operation) :
    (store.perform op).fails entity filter =
      (store.fails entity filter || op.makesFail entity filter) := by
  cases op with
  | change change =>
      cases change with
      | register d => simp [perform, apply, register, fails, Operation.makesFail]
      | insert other values =>
          rw [perform, fails, apply_failures rfl, fails]
          simp [Operation.makesFail]
      | failOn other other' => simp [perform, apply, failOn, fails, Operation.makesFail]
  | _ => simp [perform, Operation.makesFail]

/-- No operation takes tables and descriptors apart. -/
theorem Consistent.perform (h : store.Consistent) (op : Operation) :
    (store.perform op).Consistent := by
  cases op with
  | change change => exact h.apply change
  | _ => exact h

theorem consistent_ofLog (log : List Operation) : (ofLog log).Consistent :=
  List.foldlRecOn log Store.perform consistent_empty fun _ hstore op _ => hstore.perform op

/-! ## What a log says -/

/-- The descriptor that was registered last for an entity. -/
def lastRegistered (entity : String) (log : List Operation) : Option Descriptor :=
  (log.filterMap (·.descriptor? entity)).getLast?

/-- The records that were inserted for an entity since it was registered first. -/
def inserted (entity : String) (log : List Operation) : List Instance :=
  (log.dropWhile fun op => (op.descriptor? entity).isNone).filterMap (·.record? entity)

/-- A store was told to fail on a filter that is the same. -/
def ToldToFail (entity : String) (filter : Filter) (log : List Operation) : Prop :=
  ∃ other, Operation.change (.failOn entity other) ∈ log ∧ other.same filter = true

theorem lastRegistered_concat (log : List Operation) (op : Operation) :
    lastRegistered entity (log ++ [op]) =
      (op.descriptor? entity).or (lastRegistered entity log) := by
  rw [lastRegistered, List.filterMap_append, List.getLast?_append, lastRegistered]
  congr 1
  cases h : op.descriptor? entity with
  | none => simp [h]
  | some d => simp [h]

theorem lastRegistered_eq_none_iff {log : List Operation} :
    lastRegistered entity log = none ↔ ∀ op ∈ log, op.descriptor? entity = none := by
  rw [lastRegistered, List.getLast?_eq_none_iff, List.filterMap_eq_nil_iff]

theorem find?_ofLog (log : List Operation) :
    (ofLog log).descriptors.find? entity = lastRegistered entity log := by
  induction log using List.reverseRecOn with
  | nil => rfl
  | append_singleton log op ih => rw [ofLog_concat, find?_perform, ih, lastRegistered_concat]

/-- Nothing is kept of a log without a registration. -/
theorem dropWhile_eq_nil_iff {log : List Operation} :
    (log.dropWhile fun op => (op.descriptor? entity).isNone) = [] ↔
      lastRegistered entity log = none := by
  rw [List.dropWhile_eq_nil_iff, lastRegistered_eq_none_iff]
  simp only [Option.isNone_iff_eq_none]

theorem record?_eq_none {op : Operation} (h : op.descriptor? entity ≠ none) :
    op.record? entity = none := by
  rw [Option.eq_none_iff_forall_ne_some]
  intro x hrecord
  obtain ⟨members, rfl, -⟩ := record?_eq_some hrecord
  exact h rfl

/-- An operation adds its record to those inserted when its entity was registered before it. -/
theorem inserted_concat (log : List Operation) (op : Operation) :
    inserted entity (log ++ [op]) =
      inserted entity log ++
        if (lastRegistered entity log).isSome then (op.record? entity).toList else [] := by
  have hop : [op].filterMap (·.record? entity) = (op.record? entity).toList := by
    cases h : op.record? entity with
    | none => simp [h]
    | some x => simp [h]
  rw [inserted, inserted, List.dropWhile_append]
  by_cases hregistered : lastRegistered entity log = none
  · -- The operation can only be the first registration, which inserts nothing.
    rw [dropWhile_eq_nil_iff.mpr hregistered, hregistered]
    cases hfirst : op.descriptor? entity with
    | none => simp [hfirst]
    | some d => simp [hfirst, record?_eq_none (hfirst ▸ Option.some_ne_none d)]
  · have hkept := mt dropWhile_eq_nil_iff.mp hregistered
    rw [if_neg (mt List.isEmpty_iff.mp hkept), List.filterMap_append, hop,
      if_pos (Option.isSome_iff_ne_none.mpr hregistered)]

theorem rowsOf_ofLog (log : List Operation) :
    (ofLog log).rowsOf entity = inserted entity log := by
  induction log using List.reverseRecOn with
  | nil => rfl
  | append_singleton log op ih =>
      rw [ofLog_concat, rowsOf_perform, ih, inserted_concat, SortedMap.contains, find?_ofLog]

theorem fails_ofLog (log : List Operation) :
    (ofLog log).fails entity filter = log.any (·.makesFail entity filter) := by
  induction log using List.reverseRecOn with
  | nil => rfl
  | append_singleton log op ih =>
      rw [ofLog_concat, fails_perform, ih]
      simp

theorem fails_ofLog_eq_true_iff {log : List Operation} :
    (ofLog log).fails entity filter = true ↔ ToldToFail entity filter log := by
  rw [fails_ofLog, List.any_eq_true]
  constructor
  · rintro ⟨op, hop, hfails⟩
    unfold Operation.makesFail at hfails
    split at hfails
    · next other other' =>
      obtain ⟨hother, hsame⟩ := Bool.and_eq_true_iff.mp hfails
      rw [eq_of_beq hother] at hop
      exact ⟨other', hop, hsame⟩
    · cases hfails
  · rintro ⟨other, hother, hsame⟩
    refine ⟨_, hother, ?_⟩
    simp [Operation.makesFail, hsame]

theorem contains_ofLog_eq_true_iff {log : List Operation} :
    (ofLog log).descriptors.contains entity = true ↔ lastRegistered entity log ≠ none := by
  rw [SortedMap.contains, find?_ofLog, Option.isSome_iff_ne_none]

/-- The answers of a store about an entity are those that a log gives. -/
structure AnswersBy (store : Store) (log : List Operation) (entity : String) : Prop where
  describe_registered : ∀ d, lastRegistered entity log = some d → store.describe entity = .ok d
  describe_unknown : lastRegistered entity log = none →
    store.describe entity = .error (.unknownEntity entity)
  insert_iff : ∀ values, (∃ store', store.insert entity values = .ok store') ↔
    lastRegistered entity log ≠ none ∧ ∃ members, values = .object members
  insert_unknown : lastRegistered entity log = none → ∀ values,
    store.insert entity values = .error (.unknownEntity entity)
  insert_decode : lastRegistered entity log ≠ none → ∀ values,
    (¬∃ members, values = .object members) →
    store.insert entity values =
      .error (.decode entity ("expected a JSON object, got " ++ values.text))
  find_refused : ∀ filter, ToldToFail entity filter log →
    store.findMany entity filter = .error (.query entity failureReason) ∧
      store.findOne entity filter = .error (.query entity failureReason)
  find_unknown : ∀ filter, ¬ToldToFail entity filter log → lastRegistered entity log = none →
    store.findMany entity filter = .error (.unknownEntity entity) ∧
      store.findOne entity filter = .error (.unknownEntity entity)
  find_inserted : ∀ filter, ¬ToldToFail entity filter log → lastRegistered entity log ≠ none →
    store.findMany entity filter = .ok ((inserted entity log).filter filter.accepts) ∧
      store.findOne entity filter = .ok ((inserted entity log).find? filter.accepts)
  labelled : ∀ row ∈ inserted entity log, row.entity = entity
  len_eq : store.len entity = (inserted entity log).length

theorem findOne_of_findMany {answer : Except StoreError (List Instance)}
    (h : store.findMany entity filter = answer) :
    store.findOne entity filter = answer.map List.head? := by
  rw [findOne, h]

theorem answersBy_ofLog (log : List Operation) (entity : String) :
    (ofLog log).AnswersBy log entity := by
  have hconsistent := consistent_ofLog log
  have hcontains : (ofLog log).descriptors.contains entity = true ↔
      lastRegistered entity log ≠ none := contains_ofLog_eq_true_iff
  have hunknown (h : lastRegistered entity log = none) :
      (ofLog log).descriptors.contains entity = false := by
    rw [SortedMap.contains, find?_ofLog, h]
    rfl
  have hfails (filter : Filter) (h : ¬ToldToFail entity filter log) :
      (ofLog log).fails entity filter = false :=
    Bool.eq_false_iff.mpr (mt fails_ofLog_eq_true_iff.mp h)
  constructor
  case describe_registered =>
    intro d hd
    rw [describe_eq_ok_iff, find?_ofLog, hd]
  case describe_unknown =>
    intro h
    rw [describe, find?_ofLog, h]
  case insert_iff =>
    intro values
    rw [insert_eq_ok_iff, hcontains]
  case insert_unknown =>
    intro h values
    exact insert_of_unregistered (hunknown h) values
  case insert_decode =>
    intro h values hvalues
    exact insert_of_not_object (hcontains.mpr h) hvalues
  case find_refused =>
    intro filter h
    have hmany : (ofLog log).findMany entity filter = .error (.query entity failureReason) := by
      rw [hconsistent.findMany_eq, fails_ofLog_eq_true_iff.mpr h]
      rfl
    exact ⟨hmany, findOne_of_findMany hmany⟩
  case find_unknown =>
    intro filter htold h
    have hmany : (ofLog log).findMany entity filter = .error (.unknownEntity entity) := by
      rw [hconsistent.findMany_eq, hfails filter htold, hunknown h]
      rfl
    exact ⟨hmany, findOne_of_findMany hmany⟩
  case find_inserted =>
    intro filter htold h
    have hmany : (ofLog log).findMany entity filter =
        .ok ((inserted entity log).filter filter.accepts) := by
      rw [hconsistent.findMany_eq, hfails filter htold, hcontains.mpr h, rowsOf_ofLog]
      rfl
    refine ⟨hmany, ?_⟩
    rw [findOne_of_findMany hmany, Except.map, List.head?_filter]
  case labelled =>
    intro row hrow
    rw [← rowsOf_ofLog] at hrow
    exact hconsistent.labelled entity row hrow
  case len_eq => rw [len, rowsOf_ofLog]

/-! ## Operations on other entities -/

/-- Stores that hold the same for an entity. -/
structure AgreesOn (entity : String) (store store' : Store) : Prop where
  find?_eq : store.descriptors.find? entity = store'.descriptors.find? entity
  rowsOf_eq : store.rowsOf entity = store'.rowsOf entity
  fails_eq : ∀ filter, store.fails entity filter = store'.fails entity filter

theorem AgreesOn.refl (entity : String) (store : Store) : AgreesOn entity store store :=
  ⟨rfl, rfl, fun _ => rfl⟩

theorem AgreesOn.contains_eq {store' : Store} (h : AgreesOn entity store store') :
    store.descriptors.contains entity = store'.descriptors.contains entity := by
  rw [SortedMap.contains, SortedMap.contains, h.find?_eq]

theorem AgreesOn.perform {store' : Store} (h : AgreesOn entity store store') (op : Operation) :
    AgreesOn entity (store.perform op) (store'.perform op) where
  find?_eq := by rw [find?_perform, find?_perform, h.find?_eq]
  rowsOf_eq := by rw [rowsOf_perform, rowsOf_perform, h.rowsOf_eq, h.contains_eq]
  fails_eq filter := by rw [fails_perform, fails_perform, h.fails_eq]

/-- An operation on another entity is not seen. -/
theorem AgreesOn.perform_other {store' : Store} (h : AgreesOn entity store store')
    {op : Operation} (hop : op.entity ≠ entity) :
    AgreesOn entity (store.perform op) store' where
  find?_eq := by
    have hnone : op.descriptor? entity = none := by
      unfold Operation.descriptor?
      split
      · exact if_neg hop
      · rfl
    rw [find?_perform, hnone, Option.none_or, h.find?_eq]
  rowsOf_eq := by
    have hnone : op.record? entity = none := by
      unfold Operation.record?
      split
      · exact if_neg hop
      · rfl
    rw [rowsOf_perform, hnone, Option.toList_none, ite_self, List.append_nil, h.rowsOf_eq]
  fails_eq filter := by
    have hfalse : op.makesFail entity filter = false := by
      unfold Operation.makesFail
      split
      · next other other' =>
        have hother : (other == entity) = false := beq_eq_false_iff_ne.mpr hop
        rw [hother, Bool.false_and]
      · rfl
    rw [fails_perform, hfalse, Bool.or_false, h.fails_eq]

theorem AgreesOn.insert_eq {store' : Store} (h : AgreesOn entity store store') (values : Json) :
    ((store.insert entity values).map fun _ => ()) =
      (store'.insert entity values).map fun _ => () := by
  rw [insert, insert, h.contains_eq]
  split
  · cases Instance.ofJson entity values <;> rfl
  · rfl

theorem AgreesOn.describe_eq {store' : Store} (h : AgreesOn entity store store') :
    store.describe entity = store'.describe entity := by
  rw [describe, describe, h.find?_eq]

theorem AgreesOn.findMany_eq {store' : Store} (h : AgreesOn entity store store')
    (hstore : store.Consistent) (hstore' : store'.Consistent) (filter : Filter) :
    store.findMany entity filter = store'.findMany entity filter := by
  rw [hstore.findMany_eq, hstore'.findMany_eq, h.fails_eq, h.contains_eq, h.rowsOf_eq]

theorem AgreesOn.reply_eq {store' : Store} {op : Operation}
    (h : AgreesOn op.entity store store') (hstore : store.Consistent)
    (hstore' : store'.Consistent) : store.reply op = store'.reply op := by
  have hmany := h.findMany_eq hstore hstore'
  cases op with
  | change change =>
      cases change with
      | register d => rfl
      | insert entity values => exact congrArg Reply.inserted (h.insert_eq values)
      | failOn entity filter => rfl
  | describe entity => exact congrArg Reply.descriptor h.describe_eq
  | findMany entity filter => exact congrArg Reply.records (hmany filter)
  | findOne entity filter =>
      exact congrArg (fun answer => Reply.record (answer.map List.head?)) (hmany filter)
  | len entity => exact congrArg (fun rows => Reply.count (List.length rows)) h.rowsOf_eq

/-- A log leads to the same for an entity as the operations on this entity alone. -/
theorem agreesOn_ofLog_filter (entity : String) (log : List Operation) :
    AgreesOn entity (ofLog log) (ofLog (log.filter fun op => op.entity == entity)) := by
  induction log using List.reverseRecOn with
  | nil => exact .refl entity empty
  | append_singleton log op ih =>
      rw [ofLog_concat, List.filter_append]
      by_cases hop : op.entity = entity
      · have hkept : [op].filter (fun op => op.entity == entity) = [op] := by
          simp [hop]
        rw [hkept, ofLog_concat]
        exact ih.perform op
      · have hdropped : [op].filter (fun op => op.entity == entity) = [] := by
          simp [hop]
        rw [hdropped, List.append_nil]
        exact ih.perform_other hop

/-- A registration of a registered entity leaves its records as they are. -/
theorem Consistent.findMany_register (hstore : store.Consistent) {d : Descriptor}
    (h : store.descriptors.contains d.name = true) :
    (store.register d).findMany d.name filter = store.findMany d.name filter := by
  have hcontains : (store.register d).descriptors.contains d.name = true := by
    rw [Store.register, SortedMap.contains_insert, h, Bool.or_true]
  rw [(hstore.register d).findMany_eq, hstore.findMany_eq, hcontains, h, rowsOf_register]
  rfl

/-- After any operations the tables and the descriptors of a store are consistent, and its replies
are determined by the log.  An insertion that fails
changes no later reply, a registration of a registered entity changes no answer about its records,
and a reply is the same after the operations on its own entity alone. -/
theorem ofLog_isDeterminedByLog (log : List Operation) :
    (ofLog log).Consistent ∧
      (∀ entity, (ofLog log).AnswersBy log entity) ∧
      (∀ entity values e, (ofLog log).insert entity values = .error e → ∀ later op,
        (ofLog (log ++ .change (.insert entity values) :: later)).reply op =
          (ofLog (log ++ later)).reply op) ∧
      (∀ d, lastRegistered d.name log ≠ none → ∀ filter,
        (ofLog (log ++ [.change (.register d)])).findMany d.name filter =
            (ofLog log).findMany d.name filter ∧
          (ofLog (log ++ [.change (.register d)])).findOne d.name filter =
            (ofLog log).findOne d.name filter ∧
          (ofLog (log ++ [.change (.register d)])).len d.name = (ofLog log).len d.name) ∧
      ∀ op, (ofLog log).reply op =
        (ofLog (log.filter fun other => other.entity == op.entity)).reply op := by
  refine ⟨consistent_ofLog log, answersBy_ofLog log, ?_, ?_, ?_⟩
  · intro entity values e herror later op
    rw [ofLog_append, List.foldl_cons, perform_of_insert_error herror, ← ofLog_append]
  · intro d hregistered filter
    have hmany : ((ofLog log).register d).findMany d.name filter =
        (ofLog log).findMany d.name filter :=
      (consistent_ofLog log).findMany_register (contains_ofLog_eq_true_iff.mpr hregistered)
    rw [ofLog_concat]
    exact ⟨hmany, congrArg (Except.map List.head?) hmany,
      congrArg List.length (rowsOf_register (ofLog log) d d.name)⟩
  · intro op
    exact (agreesOn_ofLog_filter op.entity log).reply_eq (consistent_ofLog log)
      (consistent_ofLog _)

/-- A record is refused and another one kept before a user is asked for. -/
def sampleLog : List Operation :=
  [ .change (.insert "User" (.object [("id", .int 7)])),
    .change (.register (Descriptor.plain "User" ["name"])),
    .change (.insert "User" (.object [("id", .int 1), ("name", .string "Ann")])),
    .len "User",
    .change (.failOn "User" (.single "id" (.int 1))) ]

theorem sampleLog_isDeterminedByLog :
    (∃ e, (ofLog sampleLog).insert "Order" .null = .error e) ∧
      lastRegistered "User" sampleLog = some (Descriptor.plain "User" ["name"]) ∧
      ToldToFail "User" (.single "id" (.int 1)) sampleLog ∧
      ¬ToldToFail "User" (.single "id" (.string "1")) sampleLog ∧
      (ofLog sampleLog).findMany "User" (.single "id" (.int 1)) =
        .error (.query "User" failureReason) ∧
      (ofLog sampleLog).findOne "User" (.single "id" (.string "1")) =
        .ok (some ⟨"User", [("id", .int 1), ("name", .string "Ann")]⟩) ∧
      (ofLog (sampleLog ++ [.change (.insert "Order" .null)])).reply (.len "User") =
        (ofLog sampleLog).reply (.len "User") ∧
      (ofLog (sampleLog ++ [.change (.register (Descriptor.plain "User" []))])).len "User" = 1 ∧
      (ofLog sampleLog).tables.contains "User" = true ∧
      (ofLog (sampleLog ++ [.change (.insert "Order" (.object []))])).tables.contains "Order" =
        false := by
  obtain ⟨hconsistent, hanswers, hlater, hagain, -⟩ := ofLog_isDeterminedByLog sampleLog
  obtain ⟨hunregistered, -⟩ :=
    ofLog_isDeterminedByLog (sampleLog ++ [.change (.insert "Order" (.object []))])
  have hinsert : (ofLog sampleLog).insert "Order" .null = .error (.unknownEntity "Order") := rfl
  have hregistered : lastRegistered "User" sampleLog = some (Descriptor.plain "User" ["name"]) :=
    rfl
  have hne : lastRegistered "User" sampleLog ≠ none := hregistered ▸ Option.some_ne_none _
  have htold : ToldToFail "User" (.single "id" (.int 1)) sampleLog :=
    fails_ofLog_eq_true_iff.mp (by decide)
  have hnot : ¬ToldToFail "User" (.single "id" (.string "1")) sampleLog :=
    mt fails_ofLog_eq_true_iff.mpr (by decide)
  refine ⟨⟨_, hinsert⟩, hregistered, htold, hnot, ?_, ?_, ?_, ?_, ?_, ?_⟩
  · exact ((hanswers "User").find_refused _ htold).1
  · exact ((hanswers "User").find_inserted _ hnot hne).2
  · exact hlater _ _ _ hinsert [] (.len "User")
  · exact (hagain _ hne (.single "id" (.int 1))).2.2
  · exact (hconsistent.sameKeys "User").trans rfl
  · exact (hunregistered.sameKeys "Order").trans rfl

end Store
end SparseFields

import SparseFields.Reduction.Error
import SparseFields.Store.Source

/-!
# Runs

A run is what happens when a selection is answered: the questions put to the source, in order, and
the outcome.  Runs are composed by putting one after another, and an error ends them.  The main
statements are the laws of this composition.
-/

namespace SparseFields

/-- The questions asked, in order, and what came of them. -/
structure Run (α : Type) where
  calls : List Call
  outcome : Except ReduceError α

namespace Run

variable {α β γ : Type}

/-- The run that asks nothing and succeeds. -/
def done (a : α) : Run α := ⟨[], .ok a⟩

/-- The run that asks nothing and fails. -/
def fail (e : ReduceError) : Run α := ⟨[], .error e⟩

/-- One run after another; the second one is not begun when the first fails. -/
def andThen (r : Run α) (f : α → Run β) : Run β :=
  match r.outcome with
  | .ok a => ⟨r.calls ++ (f a).calls, (f a).outcome⟩
  | .error e => ⟨r.calls, .error e⟩

instance : Monad Run where
  pure := done
  bind := andThen

/-- The same run with its error changed. -/
def mapError (f : ReduceError → ReduceError) (r : Run α) : Run α :=
  ⟨r.calls, match r.outcome with
    | .ok a => .ok a
    | .error e => .error (f e)⟩

/-- Asks one question and hands over the answer, whatever it is. -/
def ask (call : Call) (answer : Except StoreError α) : Run (Except StoreError α) :=
  ⟨[call], .ok answer⟩

/-- An answer that must not be an error. -/
def expect : Except StoreError α → Run α
  | .ok a => done a
  | .error e => fail (.fetchFailed e)

/-- Asks for a descriptor. -/
def describe (source : Source) (entity : String) : Run Descriptor :=
  (ask (.describe entity) (source.describe entity)).andThen expect

/-- Asks for all records that a filter accepts. -/
def findMany (source : Source) (entity : String) (filter : Filter) :
    Run (Except StoreError (List Instance)) :=
  ask (.findMany entity filter) (source.findMany entity filter)

/-- Asks for the first record that a filter accepts. -/
def findOne (source : Source) (entity : String) (filter : Filter) : Run (Option Instance) :=
  (ask (.findOne entity filter) (source.findOne entity filter)).andThen expect

@[simp]
theorem pure_eq_done (a : α) : (pure a : Run α) = done a := rfl

@[simp]
theorem bind_eq_andThen (r : Run α) (f : α → Run β) : r >>= f = r.andThen f := rfl

@[simp]
theorem done_andThen (a : α) (f : α → Run β) : (done a).andThen f = f a := by
  simp [done, andThen]

@[simp]
theorem fail_andThen (e : ReduceError) (f : α → Run β) :
    (fail e : Run α).andThen f = fail e := rfl

@[simp]
theorem andThen_done (r : Run α) : r.andThen done = r := by
  obtain ⟨calls, outcome⟩ := r
  cases outcome <;> simp [andThen, done]

theorem andThen_assoc (r : Run α) (f : α → Run β) (g : β → Run γ) :
    (r.andThen f).andThen g = r.andThen fun a => (f a).andThen g := by
  obtain ⟨calls, outcome⟩ := r
  cases outcome with
  | error e => rfl
  | ok a =>
      cases h : (f a).outcome with
      | error e => simp [andThen, h]
      | ok b => simp [andThen, h, List.append_assoc]

end Run
end SparseFields

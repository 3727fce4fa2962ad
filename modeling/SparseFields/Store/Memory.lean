import SparseFields.Store.Source

/-!
# Stores in memory

A store holds descriptors, for each entity a table of records in the order of their insertion, and
filters on which it is told to fail.  Descriptors and tables are kept apart: whether a record can be
inserted is read off the descriptors, and whether a query can be answered off the tables.
-/

namespace SparseFields

/-- Descriptors and tables of records by entity, and queries that are made to fail. -/
structure Store where
  descriptors : SortedMap Descriptor
  tables : SortedMap (List Instance)
  failures : List (String × Filter)

namespace Store

/-- The store that holds nothing. -/
def empty : Store := ⟨[], [], []⟩

/-- The records of an entity, in order of insertion.  An entity without a table has none. -/
def rowsOf (store : Store) (entity : String) : List Instance :=
  (store.tables.find? entity).getD []

/-- Registers an entity and gives it a table.  Registering it again replaces its descriptor and
keeps the table that it has. -/
def register (store : Store) (d : Descriptor) : Store :=
  { store with
    descriptors := store.descriptors.insert d.name d
    tables := store.tables.insert d.name (store.rowsOf d.name) }

/-- The number of records of an entity. -/
def len (store : Store) (entity : String) : Nat :=
  (store.rowsOf entity).length

/-- Puts a record at the end of an entity's table. -/
def push (store : Store) (entity : String) (x : Instance) : Store :=
  { store with tables := store.tables.insert entity (store.rowsOf entity ++ [x]) }

/-- Adds a record of a registered entity. -/
def insert (store : Store) (entity : String) (values : Json) : Except StoreError Store :=
  if store.descriptors.contains entity then
    (Instance.ofJson entity values).map (store.push entity)
  else .error (.unknownEntity entity)

/-- Makes a query fail from now on. -/
def failOn (store : Store) (entity : String) (filter : Filter) : Store :=
  { store with failures := store.failures ++ [(entity, filter)] }

/-- Whether a query is made to fail. -/
def fails (store : Store) (entity : String) (filter : Filter) : Bool :=
  store.failures.any fun failure => failure.1 == entity && failure.2.same filter

/-- Why a query that is made to fail did so. -/
def failureReason : String := "injected failure"

/-- The descriptor of an entity. -/
def describe (store : Store) (entity : String) : Except StoreError Descriptor :=
  match store.descriptors.find? entity with
  | some d => .ok d
  | none => .error (.unknownEntity entity)

/-- The records in an entity's table that a filter accepts, in order of insertion. -/
def findMany (store : Store) (entity : String) (filter : Filter) :
    Except StoreError (List Instance) :=
  if store.fails entity filter then .error (.query entity failureReason)
  else
    match store.tables.find? entity with
    | some table => .ok (table.filter filter.accepts)
    | none => .error (.unknownEntity entity)

/-- The first record of an entity that a filter accepts. -/
def findOne (store : Store) (entity : String) (filter : Filter) :
    Except StoreError (Option Instance) :=
  (store.findMany entity filter).map List.head?

/-- The store as a source of records. -/
def source (store : Store) : Source where
  describe := store.describe
  findMany := store.findMany
  findOne := store.findOne

end Store
end SparseFields

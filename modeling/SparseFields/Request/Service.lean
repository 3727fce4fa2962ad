import SparseFields.Reduction.Reducer
import SparseFields.Request.Response

/-!
# The service

The service answers requests for the records of a source.  A request is decided in this order: its
route, its method, the parameters in its path, the selection in its query, the descriptor of the
entity, its records, and at last the reduction to the selection.  What is asked of the source on the
way is kept with the answer.
-/

namespace SparseFields

/-- The questions that a request puts to a source, in order, and the answer to the request. -/
structure Exchange where
  calls : List Call
  response : Response

namespace Exchange

/-- An answer that takes no question. -/
def reply (response : Response) : Exchange :=
  ⟨[], response⟩

/-- Puts one question, and goes on unless the source fails. -/
def ask {α : Type} (call : Call) (answer : Except StoreError α) (next : α → Exchange) : Exchange :=
  match answer with
  | .error e => ⟨[call], .storeError e⟩
  | .ok a => ⟨call :: (next a).calls, (next a).response⟩

/-- The same questions, and the answer without its body. -/
def withoutBody (x : Exchange) : Exchange :=
  ⟨x.calls, x.response.withoutBody⟩

@[simp]
theorem ask_error {α : Type} (call : Call) (e : StoreError) (next : α → Exchange) :
    ask call (.error e) next = ⟨[call], .storeError e⟩ := rfl

@[simp]
theorem ask_ok {α : Type} (call : Call) (a : α) (next : α → Exchange) :
    ask call (.ok a) next = ⟨call :: (next a).calls, (next a).response⟩ := rfl

end Exchange

/-- A source of records, and the settings of reductions. -/
structure Service where
  source : Source
  options : ReduceOptions

namespace Service

/-- The reducer of a service, by the conventional naming rules. -/
def reducer (service : Service) : Reducer :=
  ⟨service.source, NamingRules.conventional, service.options⟩

/-- Content, reduced to the selection if there is one. -/
def readContent (service : Service) (d : Descriptor) (content : Content)
    (selection : Option Selection) : Exchange :=
  let run := service.reducer.answer d (some content) selection
  ⟨run.calls,
    match run.outcome with
    | .error e => .reduceError e
    | .ok v => .content (v.getD .null)⟩

theorem readContent_none (service : Service) (d : Descriptor) (content : Content) :
    service.readContent d content none = .reply (.content content.toJson) := rfl

/-- With a selection, content is what its reduction comes to. -/
theorem readContent_some (service : Service) (d : Descriptor) (content : Content) (s : Selection) :
    service.readContent d content (some s) =
      ⟨(service.reducer.reduce d content s).calls,
        match (service.reducer.reduce d content s).outcome with
        | .error e => .reduceError e
        | .ok v => .content v⟩ := by
  rw [readContent, Reducer.answer, Run.bind_eq_andThen, Run.andThen]
  cases (service.reducer.reduce d content s).outcome with
  | error e => rfl
  | ok v => simp [Run.done]

/-- The descriptor of an entity. -/
def readSchema (service : Service) (entity : String) : Exchange :=
  .ask (.describe entity) (service.source.describe entity) fun d => .reply (.schema d)

/-- All records of an entity. -/
def readList (service : Service) (entity : String) (selection : Option Selection) : Exchange :=
  .ask (.describe entity) (service.source.describe entity) fun d =>
    .ask (.findMany entity .empty) (service.source.findMany entity .empty) fun xs =>
      service.readContent d (.many xs) selection

/-- The record of an entity that has an id. -/
def readItem (service : Service) (entity id : String) (selection : Option Selection) : Exchange :=
  .ask (.describe entity) (service.source.describe entity) fun d =>
    let filter := Filter.single d.idField (.string id)
    .ask (.findOne entity filter) (service.source.findOne entity filter) fun
      | none => .reply (.notFound entity id)
      | some x => service.readContent d (.one x) selection

/-- Answers with content, reduced to the selection if there is one. -/
def respond (service : Service) (d : Descriptor) (content : Content)
    (selection : Option Selection) : Response :=
  (service.readContent d content selection).response

/-- Answers with all records of an entity. -/
def listRecords (service : Service) (entity : String) (selection : Option Selection) : Response :=
  (service.readList entity selection).response

/-- Answers with the record of an entity that has an id. -/
def showRecord (service : Service) (entity id : String) (selection : Option Selection) :
    Response :=
  (service.readItem entity id selection).response

/-- Goes on with the selection in a query, or refuses it. -/
def withFields (method : String) (query : List Char) (next : Option Selection → Exchange) :
    Exchange :=
  match queriedFields method query with
  | .error e => .reply (.fieldsError e)
  | .ok selection => next selection

/-- Goes on with the text of a parameter, or refuses it. -/
def withParam (param : Param) (written : List Char) (next : String → Exchange) : Exchange :=
  match param.decode written with
  | .error param => .reply (.badParam param)
  | .ok text => next text

/-- What a request for a route leads to, at a time. -/
def follow (service : Service) (time method : String) (query : List Char) : Route → Exchange
  | .health => .reply (.healthy time)
  | .fieldsPreview => withFields method query fun selection => .reply (.preview selection)
  | .schema entity => withParam .entity entity service.readSchema
  | .list entity =>
      withParam .entity entity fun entity =>
        withFields method query (service.readList entity)
  | .item entity id =>
      withParam .entity entity fun entity =>
        withParam .id id fun id =>
          withFields method query (service.readItem entity id)

/-- What a request leads to, at a time.  Only two methods are served, and one of them leaves out the
body. -/
def exchange (service : Service) (time method : String) (target : Target) : Exchange :=
  match Route.ofPath? target.path with
  | none => .reply .noRoute
  | some route =>
      if method = "GET" then service.follow time method target.query route
      else if method = "HEAD" then (service.follow time method target.query route).withoutBody
      else .reply .wrongMethod

/-- Answers a request, at a time. -/
def handle (service : Service) (time method : String) (target : Target) : Response :=
  (service.exchange time method target).response

end Service
end SparseFields

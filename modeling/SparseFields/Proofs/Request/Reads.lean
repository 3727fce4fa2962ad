import SparseFields.Proofs.Request.Query
import SparseFields.Request.Service
import SparseFields.Store.Memory
import Mathlib.Data.Nat.Find

/-!
# Reads of records

A request for the records of an entity can go wrong in several ways at once.  Each way has grounds
of its own, which say nothing about the others, and a rank.  The main statement is that the way of
the least rank decides the request, and with it what is asked of the source: nothing, as long as
the request itself is at fault.
-/

namespace SparseFields

/-! ## What is read -/

/-- What is read: all records of an entity, or the one that has an id. -/
inductive Read
  | list (entity : String)
  | item (entity id : String)

namespace Read

/-- The entity whose records are read. -/
def entity : Read → String
  | .list entity => entity
  | .item entity _ => entity

/-- The question for the records. -/
def fetch (d : Descriptor) : Read → Call
  | .list entity => .findMany entity .empty
  | .item entity id => .findOne entity (.single d.idField (.string id))

/-- What a source answers to it; a single record may be missing. -/
def fetched (source : Source) (d : Descriptor) : Read → Except StoreError (Option Content)
  | .list entity => (source.findMany entity .empty).map fun xs => some (.many xs)
  | .item entity id =>
      (source.findOne entity (.single d.idField (.string id))).map fun x => x.map .one

/-- The paths that ask for a read.  A parameter is one segment; where it is no text, it is named
instead. -/
inductive AskedBy : List Char → Except Param Read → Prop
  | list {written} (segment : '/' ∉ written) (nonempty : written ≠ []) :
      AskedBy ("/entities/".toList ++ written) ((Param.entity.decode written).map .list)
  | item {written writtenId} (segment : '/' ∉ written) (idSegment : '/' ∉ writtenId)
      (nonempty : writtenId ≠ []) :
      AskedBy ("/entities/".toList ++ written ++ '/' :: writtenId)
        ((Param.entity.decode written).bind fun entity =>
          (Param.id.decode writtenId).map fun id => .item entity id)

end Read

/-- What shows content as it is: a record is the object of all its values. -/
inductive Content.IsShownBy : Content → Json → Prop
  | one (x : Instance) : IsShownBy (.one x) (.object x.values)
  | many (xs : List Instance) : IsShownBy (.many xs) (.array (xs.map fun x => .object x.values))

theorem Content.isShownBy_iff {content : Content} {value : Json} :
    content.IsShownBy value ↔ value = content.toJson := by
  constructor
  · rintro (⟨x⟩ | ⟨xs⟩)
    · rfl
    · rfl
  · rintro rfl
    cases content with
    | one x => exact .one x
    | many xs => exact .many xs

/-! ## What decides a read -/

/-- The status of a read for which the source fails. -/
def StoreError.readStatus : StoreError → Nat
  | .unknownEntity _ => 404
  | .query _ _ => 500
  | .decode _ _ => 500

section Decision

variable (service : Service) (method : String) (query : List Char) (read : Read)

/-- What can decide a read, each with its rank and on its own grounds, whatever else holds: the
questions asked, and the answer. -/
inductive MayDecide : Nat → Exchange → Prop
  | repeated (twice : 2 ≤ (fieldsValues query).length) :
      MayDecide 0 ⟨[], .error 400 FieldsError.repeated.message⟩
  | wrongMethod {raw} (given : GivesFields query raw) (head : method = "HEAD") :
      MayDecide 1 ⟨[], .error 405 (RequestError.methodNotAllowed method).message⟩
  | unreadable {raw e} (given : GivesFields query raw) (get : method = "GET")
      (unread : Selection.parse raw = .error e) :
      MayDecide 2 ⟨[], .error 400 e.message⟩
  | undescribed {e} (failed : service.source.describe read.entity = .error e) :
      MayDecide 3 ⟨[.describe read.entity], .error e.readStatus e.message⟩
  | unfetched {d e} (described : service.source.describe read.entity = .ok d)
      (failed : read.fetched service.source d = .error e) :
      MayDecide 4 ⟨[.describe read.entity, read.fetch d], .error e.readStatus e.message⟩
  | missing {d entity id} (item : read = .item entity id)
      (described : service.source.describe read.entity = .ok d)
      (missed : read.fetched service.source d = .ok none) :
      MayDecide 5 ⟨[.describe read.entity, read.fetch d],
        .error 404 (entity ++ " '" ++ id ++ "' not found")⟩
  | unreduced {d content raw s e} (described : service.source.describe read.entity = .ok d)
      (found : read.fetched service.source d = .ok (some content))
      (given : GivesFields query raw) (parsed : Selection.parse raw = .ok s)
      (failed : (service.reducer.reduce d content s).outcome = .error e) :
      MayDecide 6 ⟨[.describe read.entity, read.fetch d] ++
        (service.reducer.reduce d content s).calls, .error 400 e.message⟩
  | whole {d content value} (described : service.source.describe read.entity = .ok d)
      (found : read.fetched service.source d = .ok (some content))
      (absent : ∀ raw, ¬ GivesFields query raw) (shown : content.IsShownBy value) :
      MayDecide 7 ⟨[.describe read.entity, read.fetch d],
        .json 200 (.object [("content", value)])⟩
  | reduced {d content raw s value} (described : service.source.describe read.entity = .ok d)
      (found : read.fetched service.source d = .ok (some content))
      (given : GivesFields query raw) (parsed : Selection.parse raw = .ok s)
      (shaped : (service.reducer.reduce d content s).outcome = .ok value) :
      MayDecide 7 ⟨[.describe read.entity, read.fetch d] ++
        (service.reducer.reduce d content s).calls, .json 200 (.object [("content", value)])⟩

/-- A read is decided by what has the least rank. -/
def Decides (x : Exchange) : Prop :=
  ∃ rank, MayDecide service method query read rank x ∧
    ∀ rank' y, MayDecide service method query read rank' y → rank ≤ rank'

end Decision

/-- What is sent of an answer: on one of the methods all but its body. -/
def Exchange.sentOn (method : String) (x : Exchange) : Exchange :=
  if method = "HEAD" then x.withoutBody else x

/-! ## Paths -/

theorem ofPath?_entities (rest : List Char) :
    Route.ofPath? ("/entities/".toList ++ rest) =
      Route.ofSegments? ("entities".toList :: Query.splitAt '/' rest) := by
  have hentities : '/' ∉ "entities".toList := by decide
  show Route.ofPath? ('/' :: ("entities".toList ++ '/' :: rest)) = _
  rw [Route.ofPath?, Query.splitAt_append_cons hentities]

theorem ofPath?_list {written : List Char} (hsegment : '/' ∉ written) (hne : written ≠ []) :
    Route.ofPath? ("/entities/".toList ++ written) = some (.list written) := by
  have hnonempty : written.isEmpty = false := List.isEmpty_eq_false_iff.mpr hne
  rw [ofPath?_entities, Query.splitAt_of_not_mem hsegment, Route.ofSegments?,
    if_neg (fun h => absurd h.1 (by decide)), if_neg (by simp [hnonempty]), if_neg (by decide),
    if_pos rfl]

theorem ofPath?_item {written writtenId : List Char} (hsegment : '/' ∉ written)
    (hid : '/' ∉ writtenId) (hne : writtenId ≠ []) :
    Route.ofPath? ("/entities/".toList ++ written ++ '/' :: writtenId) =
      some (.item written writtenId) := by
  have hnonempty : writtenId.isEmpty = false := List.isEmpty_eq_false_iff.mpr hne
  rw [List.append_assoc, ofPath?_entities, Query.splitAt_append_cons hsegment,
    Query.splitAt_of_not_mem hid, Route.ofSegments?, if_pos ⟨rfl, by simp [hnonempty]⟩]

namespace Service

/-- What a read with a selection, or without one, leads to. -/
def serve (service : Service) (selection : Option Selection) : Read → Exchange
  | .list entity => service.readList entity selection
  | .item entity id => service.readItem entity id selection

/-- What a path of a read leads to: the read, unless a parameter is no text. -/
def serveAsked (service : Service) (method : String) (query : List Char) :
    Except Param Read → Exchange
  | .error param => .reply (.badParam param)
  | .ok read => withFields method query fun selection => service.serve selection read

variable {service : Service} {method : String} {query : List Char}

theorem exchange_of_askedBy {path : List Char} {asked : Except Param Read}
    (hpath : Read.AskedBy path asked) (hmethod : method = "GET" ∨ method = "HEAD")
    (time : String) :
    service.exchange time method ⟨path, query⟩ =
      (service.serveAsked method query asked).sentOn method := by
  have hserved : ∀ route, Route.ofPath? path = some route →
      service.exchange time method ⟨path, query⟩ =
        (service.follow time method query route).sentOn method := by
    intro route hroute
    rcases hmethod with rfl | rfl
    · simp [exchange, hroute, Exchange.sentOn]
    · simp [exchange, hroute, Exchange.sentOn]
  cases hpath with
  | @list written hsegment hne =>
      rw [hserved _ (ofPath?_list hsegment hne), follow, withParam]
      cases Param.entity.decode written with
      | error param => rfl
      | ok entity => rfl
  | @item written writtenId hsegment hid hne =>
      rw [hserved _ (ofPath?_item hsegment hid hne), follow, withParam]
      cases Param.entity.decode written with
      | error param => rfl
      | ok entity =>
          simp only [withParam, Except.bind]
          cases Param.id.decode writtenId with
          | error param => rfl
          | ok id => rfl

/-! ## What a source is asked -/

section Serve

variable {read : Read} {d : Descriptor}

theorem storeError_eq (e : StoreError) : Response.storeError e = .error e.readStatus e.message := by
  cases e with
  | unknownEntity entity => rfl
  | query entity reason => rfl
  | decode entity reason => rfl

theorem serve_of_undescribed {e : StoreError} (h : service.source.describe read.entity = .error e)
    (selection : Option Selection) :
    service.serve selection read = ⟨[.describe read.entity], .error e.readStatus e.message⟩ := by
  rw [← storeError_eq]
  cases read with
  | list entity =>
      have hdescribe : service.source.describe entity = .error e := h
      rw [serve, readList, hdescribe, Exchange.ask_error, Read.entity]
  | item entity id =>
      have hdescribe : service.source.describe entity = .error e := h
      rw [serve, readItem, hdescribe, Exchange.ask_error, Read.entity]

theorem eq_error_of_map {α β : Type} {answer : Except StoreError α} {f : α → β} {e : StoreError}
    (h : answer.map f = .error e) : answer = .error e := by
  cases answer with
  | error e' =>
      cases h
      rfl
  | ok a => cases h

theorem exists_of_map_eq_ok {α β : Type} {answer : Except StoreError α} {f : α → β} {b : β}
    (h : answer.map f = .ok b) : ∃ a, answer = .ok a ∧ f a = b := by
  cases answer with
  | error e => cases h
  | ok a => exact ⟨a, rfl, Except.ok.inj h⟩

variable (hdescribe : service.source.describe read.entity = .ok d)

include hdescribe

theorem serve_of_unfetched {e : StoreError} (h : read.fetched service.source d = .error e)
    (selection : Option Selection) :
    service.serve selection read =
      ⟨[.describe read.entity, read.fetch d], .error e.readStatus e.message⟩ := by
  rw [← storeError_eq]
  cases read with
  | list entity =>
      have hmany : service.source.findMany entity .empty = .error e := eq_error_of_map h
      have hdescribe : service.source.describe entity = .ok d := hdescribe
      simp only [serve, readList, hdescribe, hmany, Exchange.ask_ok, Exchange.ask_error]
      rfl
  | item entity id =>
      have hone : service.source.findOne entity (.single d.idField (.string id)) = .error e :=
        eq_error_of_map h
      have hdescribe : service.source.describe entity = .ok d := hdescribe
      simp only [serve, readItem, hdescribe, hone, Exchange.ask_ok, Exchange.ask_error]
      rfl

theorem serve_of_found {content : Content}
    (h : read.fetched service.source d = .ok (some content)) (selection : Option Selection) :
    service.serve selection read =
      ⟨[.describe read.entity, read.fetch d] ++ (service.readContent d content selection).calls,
        (service.readContent d content selection).response⟩ := by
  cases read with
  | list entity =>
      obtain ⟨xs, hmany, hcontent⟩ := exists_of_map_eq_ok h
      cases hcontent
      have hdescribe : service.source.describe entity = .ok d := hdescribe
      simp only [serve, readList, hdescribe, hmany, Exchange.ask_ok]
      rfl
  | item entity id =>
      obtain ⟨found, hone, hcontent⟩ := exists_of_map_eq_ok h
      obtain ⟨x, rfl, rfl⟩ := Option.map_eq_some_iff.mp hcontent
      have hdescribe : service.source.describe entity = .ok d := hdescribe
      simp only [serve, readItem, hdescribe, hone, Exchange.ask_ok]
      rfl

omit hdescribe

theorem serve_of_missing {entity id : String} (hdescribe : service.source.describe entity = .ok d)
    (h : (Read.item entity id).fetched service.source d = .ok none)
    (selection : Option Selection) :
    service.serve selection (.item entity id) =
      ⟨[.describe entity, (Read.item entity id).fetch d],
        .error 404 (entity ++ " '" ++ id ++ "' not found")⟩ := by
  obtain ⟨found, hone, hcontent⟩ := exists_of_map_eq_ok h
  obtain rfl := Option.map_eq_none_iff.mp hcontent
  simp only [serve, readItem, hdescribe, hone, Exchange.ask_ok]
  rfl

end Serve

/-! ## The first of the ways -/

variable {read : Read}

/-- Something can decide every read. -/
theorem exists_mayDecide (service : Service) (hmethod : method = "GET" ∨ method = "HEAD")
    (query : List Char) (read : Read) : ∃ rank x, MayDecide service method query read rank x := by
  cases hdescribe : service.source.describe read.entity with
  | error e => exact ⟨_, _, .undescribed hdescribe⟩
  | ok d =>
      match hfetched : read.fetched service.source d with
      | .error e => exact ⟨_, _, .unfetched hdescribe hfetched⟩
      | .ok none =>
          cases read with
          | list entity =>
              obtain ⟨xs, -, hcontent⟩ := exists_of_map_eq_ok hfetched
              cases hcontent
          | item entity id => exact ⟨_, _, .missing rfl hdescribe hfetched⟩
      | .ok (some content) =>
          by_cases hgiven : ∃ raw, GivesFields query raw
          · obtain ⟨raw, hraw⟩ := hgiven
            cases hparse : Selection.parse raw with
            | error e =>
                rcases hmethod with hget | hhead
                · exact ⟨_, _, .unreadable hraw hget hparse⟩
                · exact ⟨_, _, .wrongMethod hraw hhead⟩
            | ok s =>
                cases hrun : (service.reducer.reduce d content s).outcome with
                | error e => exact ⟨_, _, .unreduced hdescribe hfetched hraw hparse hrun⟩
                | ok value => exact ⟨_, _, .reduced hdescribe hfetched hraw hparse hrun⟩
          · have hshown : content.IsShownBy content.toJson := Content.isShownBy_iff.mpr rfl
            exact ⟨_, _, .whole hdescribe hfetched (fun raw hraw => hgiven ⟨raw, hraw⟩) hshown⟩

/-- So something of least rank decides it. -/
theorem exists_decides (service : Service) (hmethod : method = "GET" ∨ method = "HEAD")
    (query : List Char) (read : Read) : ∃ x, Decides service method query read x := by
  classical
  have hsome := exists_mayDecide service hmethod query read
  obtain ⟨x, hx⟩ := Nat.find_spec hsome
  exact ⟨x, _, hx, fun rank' y hy => Nat.find_min' hsome ⟨y, hy⟩⟩

/-- A request that is not at fault itself: it gives one value for the selection at most, and a value
that is not blank reads and comes on the method that may carry it. -/
structure WellFormed (method : String) (query : List Char) : Prop where
  once : ¬ 2 ≤ (fieldsValues query).length
  reads : ∀ raw, GivesFields query raw → method = "GET" ∧ ∃ s, Selection.parse raw = .ok s

theorem wellFormed_of_late (hmethod : method = "GET" ∨ method = "HEAD")
    (hlate : ∀ rank x, MayDecide service method query read rank x → 3 ≤ rank) :
    WellFormed method query := by
  constructor
  · intro htwice
    exact absurd (hlate _ _ (.repeated htwice)) (by decide)
  · intro raw hraw
    rcases hmethod with hget | hhead
    · refine ⟨hget, ?_⟩
      cases hparse : Selection.parse raw with
      | error e => exact absurd (hlate _ _ (.unreadable hraw hget hparse)) (by decide)
      | ok s => exact ⟨s, rfl⟩
    · exact absurd (hlate _ _ (.wrongMethod hraw hhead)) (by decide)

theorem WellFormed.queriedFields (h : WellFormed method query) {raw : String} {s : Selection}
    (hraw : GivesFields query raw) (hparse : Selection.parse raw = .ok s) :
    queriedFields method query = .ok (some s) := by
  rw [queriedFields_of_givesFields h.once hraw, (h.reads raw hraw).1, hparse]
  rfl

theorem WellFormed.exists_queriedFields (h : WellFormed method query) :
    ∃ selection, SparseFields.queriedFields method query = .ok selection := by
  by_cases hgiven : ∃ raw, GivesFields query raw
  · obtain ⟨raw, hraw⟩ := hgiven
    obtain ⟨s, hparse⟩ := (h.reads raw hraw).2
    exact ⟨some s, h.queriedFields hraw hparse⟩
  · exact ⟨none, queriedFields_of_not_givesFields h.once (not_exists.mp hgiven) method⟩

theorem serveAsked_of_error {e : FieldsError} (h : queriedFields method query = .error e) :
    service.serveAsked method query (.ok read) = .reply (.fieldsError e) := by
  rw [serveAsked, withFields, h]

theorem serveAsked_of_ok {selection : Option Selection}
    (h : queriedFields method query = .ok selection) :
    service.serveAsked method query (.ok read) = service.serve selection read := by
  rw [serveAsked, withFields, h]

/-- What decides a read is what happens. -/
theorem serveAsked_of_decides (hmethod : method = "GET" ∨ method = "HEAD") {x : Exchange}
    (h : Decides service method query read x) :
    service.serveAsked method query (.ok read) = x := by
  obtain ⟨rank, hx, hfirst⟩ := h
  have honce : 1 ≤ rank → ¬ 2 ≤ (fieldsValues query).length := by
    intro hrank htwice
    exact absurd (Nat.le_trans hrank (hfirst _ _ (.repeated htwice))) (by decide)
  have hsound : 3 ≤ rank → WellFormed method query := fun hrank =>
    wellFormed_of_late hmethod fun rank' y hy => Nat.le_trans hrank (hfirst rank' y hy)
  cases hx with
  | repeated htwice =>
      rw [serveAsked_of_error (queriedFields_of_repeated htwice method)]
      rfl
  | wrongMethod hraw hhead =>
      have hfields : queriedFields method query = .error (.refused (.methodNotAllowed method)) := by
        rw [queriedFields_of_givesFields (honce (by decide)) hraw, hhead, if_neg (by decide)]
      rw [serveAsked_of_error hfields]
      rfl
  | @unreadable raw e hraw hget hparse =>
      have hfields : queriedFields method query = .error (.refused (.syntaxError e)) := by
        rw [queriedFields_of_givesFields (honce (by decide)) hraw, hget, if_pos (by decide), hparse]
        rfl
      rw [serveAsked_of_error hfields]
      rfl
  | undescribed hdescribe =>
      obtain ⟨selection, hfields⟩ := (hsound (by decide)).exists_queriedFields
      rw [serveAsked_of_ok hfields, serve_of_undescribed hdescribe]
  | unfetched hdescribe hfetched =>
      obtain ⟨selection, hfields⟩ := (hsound (by decide)).exists_queriedFields
      rw [serveAsked_of_ok hfields, serve_of_unfetched hdescribe hfetched]
  | missing hitem hdescribe hfetched =>
      obtain ⟨selection, hfields⟩ := (hsound (by decide)).exists_queriedFields
      subst hitem
      rw [serveAsked_of_ok hfields]
      exact serve_of_missing hdescribe hfetched selection
  | unreduced hdescribe hfetched hraw hparse hrun =>
      have hfields := (hsound (by decide)).queriedFields hraw hparse
      rw [serveAsked_of_ok hfields, serve_of_found hdescribe hfetched, readContent_some, hrun]
      rfl
  | whole hdescribe hfetched habsent hshown =>
      have hfields := queriedFields_of_not_givesFields (honce (by decide)) habsent method
      rw [serveAsked_of_ok hfields, serve_of_found hdescribe hfetched, readContent_none,
        Content.isShownBy_iff.mp hshown]
      rfl
  | reduced hdescribe hfetched hraw hparse hrun =>
      have hfields := (hsound (by decide)).queriedFields hraw hparse
      rw [serveAsked_of_ok hfields, serve_of_found hdescribe hfetched, readContent_some, hrun]
      rfl

/-- The source is asked nothing while the request itself is at fault. -/
theorem calls_eq_nil_of_decides {x y : Exchange} {rank : Nat}
    (h : Decides service method query read x)
    (hfault : MayDecide service method query read rank y) (hrank : rank < 3) : x.calls = [] := by
  obtain ⟨least, hx, hfirst⟩ := h
  have hleast : least < 3 := Nat.lt_of_le_of_lt (hfirst rank y hfault) hrank
  cases hx with
  | repeated => rfl
  | wrongMethod => rfl
  | unreadable => rfl
  | undescribed | unfetched | missing | unreduced | whole | reduced => contradiction

/-- Without a selection the source is asked for the descriptor and for the records. -/
theorem calls_of_decides_of_absent {x : Exchange} {d : Descriptor}
    (h : Decides service method query read x) (honce : ¬ 2 ≤ (fieldsValues query).length)
    (habsent : ∀ raw, ¬ GivesFields query raw)
    (hdescribe : service.source.describe read.entity = .ok d) :
    x.calls = [.describe read.entity, read.fetch d] := by
  obtain ⟨rank, hx, -⟩ := h
  cases hx with
  | repeated htwice => exact absurd htwice honce
  | wrongMethod hraw | unreadable hraw => exact absurd hraw (habsent _)
  | unreduced _ _ hraw | reduced _ _ hraw => exact absurd hraw (habsent _)
  | undescribed hfailed =>
      rw [hdescribe] at hfailed
      cases hfailed
  | unfetched hdescribe' | missing _ hdescribe' | whole hdescribe' =>
      rw [hdescribe] at hdescribe'
      cases hdescribe'
      rfl

theorem status_sentOn (method : String) (x : Exchange) :
    (x.sentOn method).response.status = x.response.status := by
  rw [Exchange.sentOn]
  split
  · rfl
  · rfl

/-- A read is decided by the first of the ways that has grounds, and there is just one outcome of
it.  The source is asked nothing while the request itself is at fault, and without a selection
nothing beyond the descriptor and the records.  A parameter that is no text comes before all of
this. -/
theorem exchange_isDecided (service : Service) (time : String)
    (hmethod : method = "GET" ∨ method = "HEAD") {path : List Char} {asked : Except Param Read}
    (hpath : Read.AskedBy path asked) :
    (∀ param, asked = .error param →
      service.exchange time method ⟨path, query⟩ = Exchange.sentOn method ⟨[], .badParam param⟩ ∧
        (service.handle time method ⟨path, query⟩).status = 400) ∧
    ∀ read, asked = .ok read → ∃ x, Decides service method query read x ∧
      (∀ y, Decides service method query read y → y = x) ∧
      service.exchange time method ⟨path, query⟩ = x.sentOn method ∧
      (service.handle time method ⟨path, query⟩).status = x.response.status ∧
      (∀ rank y, rank < 3 → MayDecide service method query read rank y → x.calls = []) ∧
      ∀ d, ¬ 2 ≤ (fieldsValues query).length → (∀ raw, ¬ GivesFields query raw) →
        service.source.describe read.entity = .ok d →
        x.calls = [.describe read.entity, read.fetch d] := by
  have hexchange : service.exchange time method ⟨path, query⟩ =
      (service.serveAsked method query asked).sentOn method :=
    exchange_of_askedBy hpath hmethod time
  have hstatus : (service.handle time method ⟨path, query⟩).status =
      (service.serveAsked method query asked).response.status := by
    rw [handle, hexchange, status_sentOn]
  constructor
  · rintro param rfl
    exact ⟨hexchange, hstatus⟩
  · rintro read rfl
    obtain ⟨x, hx⟩ := exists_decides service hmethod query read
    have hserved := serveAsked_of_decides hmethod hx
    rw [hserved] at hexchange hstatus
    refine ⟨x, hx, ?_, hexchange, hstatus, ?_, ?_⟩
    · intro y hy
      rw [← hserved, serveAsked_of_decides hmethod hy]
    · intro rank y hrank hfault
      exact calls_eq_nil_of_decides hx hfault hrank
    · intro d honce habsent hdescribe
      exact calls_of_decides_of_absent hx honce habsent hdescribe

/-- A service that knows no entity. -/
def emptyService : Service := ⟨Store.empty.source, .default⟩

/-- A service that knows one user. -/
def userService : Service :=
  ⟨((Store.empty.register (.plain "User" ["name"])).push "User"
    ⟨"User", [("id", .int 1), ("name", .string "Ann")]⟩).source, .default⟩

/-- On a method that may not carry a selection one is refused for that, even if it does not read and
the entity is unknown.  Without one, users are shown as they are. -/
theorem sampleReads_areDecided :
    (Read.AskedBy "/entities/Ghost".toList (.ok (.list "Ghost")) ∧
      ∃ x, Decides emptyService "HEAD" "fields=((".toList (.list "Ghost") x ∧ x.calls = [] ∧
        (emptyService.handle "" "HEAD" ⟨"/entities/Ghost".toList, "fields=((".toList⟩).status =
          x.response.status ∧ x.response.status = 405) ∧
      Read.AskedBy "/entities/User".toList (.ok (.list "User")) ∧
        Decides userService "GET" [] (.list "User")
          ⟨[.describe "User", .findMany "User" .empty], .json 200 (.object [("content",
            .array [.object [("id", .int 1), ("name", .string "Ann")]])])⟩ := by
  constructor
  · have hpath : Read.AskedBy "/entities/Ghost".toList (.ok (.list "Ghost")) :=
      @Read.AskedBy.list "Ghost".toList (by decide) (by decide)
    obtain ⟨x, hx, -, -, hstatus, hcalls, -⟩ :=
      (exchange_isDecided emptyService "" (.inr rfl) hpath).2 _ rfl
    have hgiven : GivesFields "fields=((".toList "((" := ⟨by decide, by decide⟩
    refine ⟨hpath, x, hx, hcalls 1 _ (by decide) (.wrongMethod hgiven rfl), hstatus, ?_⟩
    rw [← hstatus]
    decide
  · have hpath : Read.AskedBy "/entities/User".toList (.ok (.list "User")) :=
      @Read.AskedBy.list "User".toList (by decide) (by decide)
    obtain ⟨x, hx, -, hexchange, -⟩ :=
      (exchange_isDecided userService "" (.inl rfl) hpath).2 _ rfl
    have hsent : x.sentOn "GET" = x := if_neg (by decide)
    rw [hsent] at hexchange
    refine ⟨hpath, ?_⟩
    rw [← hexchange] at hx
    exact hx

/-- A parameter that is no text is refused as such.  Whatever entity it were taken for, a service
that knows none would not find it. -/
theorem handle_undecodable :
    Read.AskedBy "/entities/%FF".toList (.error .entity) ∧
      (∀ read x, Decides emptyService "GET" [] read x → x.response.status = 404) ∧
      (emptyService.handle "" "GET" ⟨"/entities/%FF".toList, []⟩).status = 400 := by
  have hpath : Read.AskedBy "/entities/%FF".toList (.error .entity) :=
    @Read.AskedBy.list "%FF".toList (by decide) (by decide)
  refine ⟨hpath, ?_, by decide⟩
  intro read x hx
  have hdescribe : emptyService.source.describe read.entity =
      .error (.unknownEntity read.entity) := rfl
  have hfields : queriedFields "GET" [] = .ok none := by decide
  rw [← serveAsked_of_decides (.inl rfl) hx, serveAsked_of_ok hfields,
    serve_of_undescribed hdescribe]
  rfl

end Service
end SparseFields

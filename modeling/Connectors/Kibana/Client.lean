import Connectors.Es.Index

/-!
The Elasticsearch client as `kibana.py` uses it, and the part of the cluster
it reads and writes: ingest pipelines and indices, by name, each index with
the mappings and settings it was created with and its documents by id.

Every call made on the client is recorded. Elasticsearch answers a call:
a missing pipeline or index is a `NotFoundError` (the `ApiError` of status
404), creating an index that exists is refused, and `index` stores a
document under its id. A call may also fail, as the fault pattern `faults`
says by the call's number: it raises, and Elasticsearch either never got it
or carried it out and the answer was lost on the way back. Client code
is a function from the connection to what it returns or raises and the
connection after it, so that a call that raises keeps the calls and writes
made before it, as the cluster does.

Over the calls, two ways to reason about client code: `Touches` bounds what
it may change whatever fails, and `Returns` says what it leaves when no
call fails.
-/

namespace Connectors.Kibana

open Connectors.Es

/-! ## The cluster -/

/-- An index: the mappings and settings it was created with, and its
documents by id. -/
structure IndexState where
  mappings : Option Value
  settings : Option Value
  documents : List (Nat × Value)

/-- `index(id=id, document=document)` on an index: the document is stored
under `id`, replacing one stored there before. -/
def IndexState.put (st : IndexState) (id : Nat) (document : Value) : IndexState :=
  { st with documents := st.documents.filter (·.1 != id) ++ [(id, document)] }

/-- Storing a document under an id above every id in the index adds it at
the end. -/
theorem IndexState.put_of_lt {st : IndexState} {id : Nat} (h : ∀ p ∈ st.documents, p.1 < id)
    (document : Value) :
    st.put id document = { st with documents := st.documents ++ [(id, document)] } := by
  rw [IndexState.put, List.filter_eq_self.2 fun p hp => bne_iff_ne.2 (h p hp).ne]

/-- Once a document is stored under `id`, every id is below `id + 1`. -/
theorem IndexState.lt_succ_of_put {documents : List (Nat × Value)} {id : Nat}
    (h : ∀ p ∈ documents, p.1 < id) (document : Value) :
    ∀ p ∈ documents ++ [(id, document)], p.1 < id + 1 := by
  simp only [List.mem_append, List.mem_singleton]
  rintro p (hp | rfl)
  · exact Nat.lt_succ_of_lt (h p hp)
  · exact Nat.lt_succ_self _

/-- The ingest pipelines and the indices of the cluster, by name. -/
@[ext] structure ClusterState where
  pipelines : String → Option Value
  indices : String → Option IndexState

/-- The cluster once pipeline `id` is `body`. -/
def ClusterState.setPipeline (c : ClusterState) (id : String) (body : Value) : ClusterState :=
  { c with pipelines := Function.update c.pipelines id (some body) }

/-- The cluster once index `index` is `st` (`none`: deleted). -/
def ClusterState.setIndex (c : ClusterState) (index : String) (st : Option IndexState) :
    ClusterState :=
  { c with indices := Function.update c.indices index st }

@[simp] theorem ClusterState.setPipeline_indices (c : ClusterState) (id : String) (body : Value) :
    (c.setPipeline id body).indices = c.indices := rfl

@[simp] theorem ClusterState.setPipeline_pipelines_self (c : ClusterState) (id : String)
    (body : Value) : (c.setPipeline id body).pipelines id = some body :=
  Function.update_same _ _ _

@[simp] theorem ClusterState.setPipeline_setPipeline (c : ClusterState) (id : String)
    (body body' : Value) : (c.setPipeline id body).setPipeline id body' = c.setPipeline id body' := by
  simp only [ClusterState.setPipeline, Function.update_idem]

theorem ClusterState.setPipeline_of_eq {c : ClusterState} {id : String} {body : Value}
    (h : c.pipelines id = some body) : c.setPipeline id body = c := by
  simp only [ClusterState.setPipeline, ← h, Function.update_eq_self]

@[simp] theorem ClusterState.setIndex_pipelines (c : ClusterState) (index : String)
    (st : Option IndexState) : (c.setIndex index st).pipelines = c.pipelines := rfl

@[simp] theorem setIndex_indices_self (c : ClusterState) (index : String) (st : Option IndexState) :
    (c.setIndex index st).indices index = st :=
  Function.update_same _ _ _

theorem ClusterState.setIndex_of_eq {c : ClusterState} {index : String} {st : Option IndexState}
    (h : c.indices index = st) : c.setIndex index st = c := by
  simp only [ClusterState.setIndex, ← h, Function.update_eq_self]

@[simp] theorem ClusterState.setIndex_setIndex (c : ClusterState) (index : String)
    (st st' : Option IndexState) : (c.setIndex index st).setIndex index st' = c.setIndex index st' := by
  simp only [ClusterState.setIndex, Function.update_idem]

/-- The answer to a request for a missing pipeline or index: a
`NotFoundError`, which is the `ApiError` of status 404. -/
def notFound : EsError := .apiError 404 "not_found"

/-- The answer to `indices.create` on an index that exists. -/
def resourceAlreadyExists : EsError := .apiError 400 "resource_already_exists_exception"

/-- The calls made on the client, in the order made. -/
inductive Call where
  | getPipeline (id : String)
  | putPipeline (id : String) (body : Value)
  | indicesExists (index expandWildcards : String)
  | indicesDelete (index expandWildcards : String)
  | indicesCreate (index : String) (mappings settings : Option Value)
  | index (index : String) (id : Nat) (document : Value)
  | close

/-- A call that fails: what it raises, and whether Elasticsearch carried the
call out before the answer was lost (a timeout after a write went
through). -/
structure Fault where
  error : EsError
  applied : Bool

/-- The client's side of the connection: the cluster it talks to, the calls
made so far, and the calls that fail: call `n` (counting from 0) fails as
`faults n` says when that is not `none`. -/
structure Conn where
  cluster : ClusterState
  calls : List Call
  faults : Nat → Option Fault

/-- The connection once `call` has been made and left the cluster as
`cluster`. -/
def Conn.after (conn : Conn) (call : Call) (cluster : ClusterState) : Conn :=
  ⟨cluster, conn.calls ++ [call], conn.faults⟩

@[simp] theorem after_cluster (conn : Conn) (call : Call) (cluster : ClusterState) :
    (conn.after call cluster).cluster = cluster := rfl

/-- Client code run on a connection: what it returns or raises, and the
connection after it. -/
def ClientM (α : Type) : Type := Conn → Except EsError α × Conn

instance : Monad ClientM where
  pure a := fun conn => (.ok a, conn)
  bind x f := fun conn =>
    match x conn with
    | (.ok a, conn) => f a conn
    | (.error e, conn) => (.error e, conn)

/-- The cluster once Elasticsearch has answered `r` to a call on `c`: an
error leaves it as it was. -/
def ClusterState.answered {α : Type} (c : ClusterState) : Except EsError (α × ClusterState) →
    ClusterState
  | .ok (_, c') => c'
  | .error _ => c

/-- One call: recorded, then failed as `faults` says or answered by the
cluster. -/
def request {α : Type} (call : Call) (answer : ClusterState → Except EsError (α × ClusterState)) :
    ClientM α := fun conn =>
  match conn.faults conn.calls.length with
  | some f =>
    (.error f.error,
      conn.after call (if f.applied then conn.cluster.answered (answer conn.cluster) else conn.cluster))
  | none =>
    match answer conn.cluster with
    | .ok (a, cluster) => (.ok a, conn.after call cluster)
    | .error e => (.error e, conn.after call conn.cluster)

def getPipeline (id : String) : ClientM Value :=
  request (.getPipeline id) fun c =>
    match c.pipelines id with
    | some pipeline => .ok (pipeline, c)
    | none => .error notFound

def putPipeline (id : String) (body : Value) : ClientM Unit :=
  request (.putPipeline id body) fun c => .ok ((), c.setPipeline id body)

def indicesExists (index expandWildcards : String) : ClientM Bool :=
  request (.indicesExists index expandWildcards) fun c => .ok ((c.indices index).isSome, c)

def indicesDelete (index expandWildcards : String) : ClientM Unit :=
  request (.indicesDelete index expandWildcards) fun c =>
    if (c.indices index).isSome then .ok ((), c.setIndex index none) else .error notFound

def indicesCreate (index : String) (mappings settings : Option Value) : ClientM Unit :=
  request (.indicesCreate index mappings settings) fun c =>
    if (c.indices index).isSome then .error resourceAlreadyExists
    else .ok ((), c.setIndex index (some ⟨mappings, settings, []⟩))

/-- `index(index=index, id=id, document=document)`; a missing index is
created on the way, with no mappings or settings of its own. -/
def indexDocument (index : String) (id : Nat) (document : Value) : ClientM Unit :=
  request (.index index id document) fun c =>
    .ok ((), c.setIndex index (some (((c.indices index).getD ⟨none, none, []⟩).put id document)))

/-- `es.close()` -/
def close : ClientM Unit := request .close fun c => .ok ((), c)

/-- `try: x except elasticsearch.NotFoundError: handler` -/
def exceptNotFound {α : Type} (x handler : ClientM α) : ClientM α := fun conn =>
  match x conn with
  | (.error (.apiError 404 _), conn) => handler conn
  | r => r

/-- `try: x finally: cleanup`: `cleanup` runs whatever `x` did, and what it
raises replaces what `x` returned or raised. -/
def tryFinally (x cleanup : ClientM Unit) : ClientM Unit := fun conn =>
  let r := x conn
  match cleanup r.2 with
  | (.ok (), conn) => (r.1, conn)
  | (.error e, conn) => (.error e, conn)

/-! ## Running client code -/

section Run

variable {α β : Type}

theorem bind_run (x : ClientM α) (f : α → ClientM β) (conn : Conn) :
    (x >>= f) conn =
      match x conn with
      | (.ok a, conn) => f a conn
      | (.error e, conn) => (.error e, conn) := rfl

theorem pure_run (a : α) (conn : Conn) : (pure a : ClientM α) conn = (.ok a, conn) := rfl

/-- A call gets the cluster's answer, or raises having left the cluster as
it was or as the answer leaves it. -/
theorem request_cases (call : Call) (answer : ClusterState → Except EsError (α × ClusterState))
    (conn : Conn) :
    (∃ a cluster, answer conn.cluster = .ok (a, cluster) ∧
      request call answer conn = (.ok a, conn.after call cluster)) ∨
    ∃ e, request call answer conn = (.error e, conn.after call conn.cluster) ∨
      ∃ a cluster, answer conn.cluster = .ok (a, cluster) ∧
        request call answer conn = (.error e, conn.after call cluster) := by
  unfold request
  split
  · split
    · rcases h : answer conn.cluster with e | ⟨a, cluster⟩
      · exact .inr ⟨_, .inl rfl⟩
      · exact .inr ⟨_, .inr ⟨a, cluster, rfl, rfl⟩⟩
    · exact .inr ⟨_, .inl rfl⟩
  · split
    · exact .inl ⟨_, _, ‹_›, rfl⟩
    · exact .inr ⟨_, .inl rfl⟩

/-- A call whose answer, when it is not an error, is `a` with the cluster
`c`: it returns `a` leaving `c`, or raises leaving the cluster as it was or
as `c`. -/
theorem request_cases_of {call : Call} {answer : ClusterState → Except EsError (α × ClusterState)}
    {conn : Conn} {a : α} {c : ClusterState}
    (h : ∀ a' c', answer conn.cluster = .ok (a', c') → a' = a ∧ c' = c) :
    request call answer conn = (.ok a, conn.after call c) ∨
      ∃ e, request call answer conn = (.error e, conn.after call conn.cluster) ∨
        request call answer conn = (.error e, conn.after call c) := by
  rcases request_cases call answer conn with ⟨a', c', ha, hr⟩ | ⟨e, hr | ⟨a', c', ha, hr⟩⟩
  · obtain ⟨rfl, rfl⟩ := h a' c' ha
    exact .inl hr
  · exact .inr ⟨e, .inl hr⟩
  · obtain ⟨-, rfl⟩ := h a' c' ha
    exact .inr ⟨e, .inr hr⟩

/-- A call the cluster refuses raises, whether it fails or not, and leaves
the cluster as it was. -/
theorem request_refused {call : Call} {answer : ClusterState → Except EsError (α × ClusterState)}
    {conn : Conn} (e' : EsError) (h : answer conn.cluster = .error e') :
    ∃ e, request call answer conn = (.error e, conn.after call conn.cluster) := by
  rcases request_cases call answer conn with ⟨a, c, ha, -⟩ | ⟨e, hr | ⟨a, c, ha, -⟩⟩
  · exact absurd (h.symm.trans ha) nofun
  · exact ⟨e, hr⟩
  · exact absurd (h.symm.trans ha) nofun

/-- With no fault, a call gets the cluster's answer. -/
theorem request_reliable (call : Call) (answer : ClusterState → Except EsError (α × ClusterState))
    {conn : Conn} (h : conn.faults conn.calls.length = none) :
    request call answer conn =
      match answer conn.cluster with
      | .ok (a, cluster) => (.ok a, conn.after call cluster)
      | .error e => (.error e, conn.after call conn.cluster) := by
  unfold request
  rw [h]

theorem request_ok {call : Call} {answer : ClusterState → Except EsError (α × ClusterState)}
    {conn : Conn} {a : α} {cluster : ClusterState} (h : conn.faults conn.calls.length = none)
    (ha : answer conn.cluster = .ok (a, cluster)) :
    request call answer conn = (.ok a, conn.after call cluster) := by
  rw [request_reliable _ _ h, ha]

theorem request_error {call : Call} {answer : ClusterState → Except EsError (α × ClusterState)}
    {conn : Conn} {e : EsError} (h : conn.faults conn.calls.length = none)
    (ha : answer conn.cluster = .error e) :
    request call answer conn = (.error e, conn.after call conn.cluster) := by
  rw [request_reliable _ _ h, ha]

/-- `except NotFoundError` runs the handler exactly when the body raises a
404, on the connection the body left. -/
theorem exceptNotFound_cases (x handler : ClientM α) (conn : Conn) :
    exceptNotFound x handler conn = x conn ∨
      ∃ body, (x conn).1 = .error (.apiError 404 body) ∧
        exceptNotFound x handler conn = handler (x conn).2 := by
  unfold exceptNotFound
  split
  · next h => exact .inr ⟨_, by rw [h], by rw [h]⟩
  · exact .inl rfl

end Run

/-! ## What each call can do -/

section Calls

variable (conn : Conn)

theorem indicesExists_cases (index expandWildcards : String) :
    let call := Call.indicesExists index expandWildcards
    indicesExists index expandWildcards conn =
        (.ok (conn.cluster.indices index).isSome, conn.after call conn.cluster) ∨
      ∃ e, indicesExists index expandWildcards conn = (.error e, conn.after call conn.cluster) := by
  unfold indicesExists
  refine (request_cases_of fun _ _ h => ?_).imp id fun ⟨e, h⟩ => ⟨e, h.elim id id⟩
  cases h
  exact ⟨rfl, rfl⟩

theorem indicesDelete_cases (index expandWildcards : String) :
    let call := Call.indicesDelete index expandWildcards
    indicesDelete index expandWildcards conn =
        (.ok (), conn.after call (conn.cluster.setIndex index none)) ∨
      ∃ e, indicesDelete index expandWildcards conn = (.error e, conn.after call conn.cluster) ∨
        indicesDelete index expandWildcards conn =
          (.error e, conn.after call (conn.cluster.setIndex index none)) := by
  unfold indicesDelete
  refine request_cases_of fun _ _ h => ?_
  split_ifs at h
  cases h
  exact ⟨rfl, rfl⟩

theorem indicesCreate_cases (index : String) (mappings settings : Option Value) :
    let call := Call.indicesCreate index mappings settings
    indicesCreate index mappings settings conn =
        (.ok (), conn.after call (conn.cluster.setIndex index (some ⟨mappings, settings, []⟩))) ∨
      ∃ e, indicesCreate index mappings settings conn = (.error e, conn.after call conn.cluster) ∨
        indicesCreate index mappings settings conn =
          (.error e, conn.after call (conn.cluster.setIndex index (some ⟨mappings, settings, []⟩))) := by
  unfold indicesCreate
  refine request_cases_of fun _ _ h => ?_
  split_ifs at h
  cases h
  exact ⟨rfl, rfl⟩

theorem indexDocument_cases (index : String) (id : Nat) (document : Value) :
    let call := Call.index index id document
    let stored := conn.cluster.setIndex index
      (some (((conn.cluster.indices index).getD ⟨none, none, []⟩).put id document))
    indexDocument index id document conn = (.ok (), conn.after call stored) ∨
      ∃ e, indexDocument index id document conn = (.error e, conn.after call conn.cluster) ∨
        indexDocument index id document conn = (.error e, conn.after call stored) := by
  unfold indexDocument
  refine request_cases_of fun _ _ h => ?_
  cases h
  exact ⟨rfl, rfl⟩

theorem getPipeline_cases (id : String) :
    let call := Call.getPipeline id
    (∃ p, conn.cluster.pipelines id = some p ∧
        getPipeline id conn = (.ok p, conn.after call conn.cluster)) ∨
      ∃ e, getPipeline id conn = (.error e, conn.after call conn.cluster) := by
  unfold getPipeline
  cases hp : conn.cluster.pipelines id with
  | some p =>
    refine (request_cases_of fun _ _ h => ?_).imp (fun h => ⟨p, rfl, h⟩)
      fun ⟨e, h⟩ => ⟨e, h.elim (fun h => h) fun h => h⟩
    simp only [hp, Except.ok.injEq, Prod.mk.injEq] at h
    exact ⟨h.1.symm, h.2.symm⟩
  | none => exact .inr (request_refused notFound (by simp [hp]))

theorem putPipeline_cases (id : String) (body : Value) :
    let call := Call.putPipeline id body
    putPipeline id body conn = (.ok (), conn.after call (conn.cluster.setPipeline id body)) ∨
      ∃ e, putPipeline id body conn = (.error e, conn.after call conn.cluster) ∨
        putPipeline id body conn = (.error e, conn.after call (conn.cluster.setPipeline id body)) := by
  unfold putPipeline
  refine request_cases_of fun _ _ h => ?_
  cases h
  exact ⟨rfl, rfl⟩

theorem close_cases :
    close conn = (.ok (), conn.after .close conn.cluster) ∨
      ∃ e, close conn = (.error e, conn.after .close conn.cluster) := by
  unfold close
  refine (request_cases_of fun _ _ h => ?_).imp id fun ⟨e, h⟩ => ⟨e, h.elim id id⟩
  cases h
  exact ⟨rfl, rfl⟩

/-- `finally: es.close()` closes the client whatever the body did. -/
theorem tryFinally_close (x : ClientM Unit) :
    (tryFinally x close conn).2 = (x conn).2.after .close (x conn).2.cluster := by
  rcases close_cases (x conn).2 with h | ⟨e, h⟩ <;> simp only [tryFinally, h]

end Calls

/-! ## What client code may change -/

/-- Whatever fails, `x` changes no pipeline outside `pipelines` and no index
outside `indices`. -/
def Touches {α : Type} (x : ClientM α) (pipelines indices : String → Prop) : Prop :=
  ∀ conn, (∀ id, ¬ pipelines id → (x conn).2.cluster.pipelines id = conn.cluster.pipelines id) ∧
    ∀ name, ¬ indices name → (x conn).2.cluster.indices name = conn.cluster.indices name

section Touches

variable {α β : Type} {pipelines indices : String → Prop}

theorem Touches.pure (a : α) : Touches (pure a : ClientM α) pipelines indices :=
  fun _ => ⟨fun _ _ => rfl, fun _ _ => rfl⟩

theorem Touches.bind {x : ClientM α} {f : α → ClientM β} (hx : Touches x pipelines indices)
    (hf : ∀ a, Touches (f a) pipelines indices) : Touches (x >>= f) pipelines indices := by
  intro conn
  obtain ⟨hp, hi⟩ := hx conn
  rw [bind_run]
  rcases hr : x conn with ⟨e | a, conn'⟩ <;> rw [hr] at hp hi
  · exact ⟨hp, hi⟩
  · obtain ⟨hp', hi'⟩ := hf a conn'
    exact ⟨fun id h => (hp' id h).trans (hp id h), fun name h => (hi' name h).trans (hi name h)⟩

/-- A call whose answers change only what is allowed, whether it is
answered or fails. -/
theorem touches_request {call : Call} {answer : ClusterState → Except EsError (α × ClusterState)}
    (h : ∀ c a c', answer c = .ok (a, c') →
      (∀ id, ¬ pipelines id → c'.pipelines id = c.pipelines id) ∧
        ∀ name, ¬ indices name → c'.indices name = c.indices name) :
    Touches (request call answer) pipelines indices := by
  intro conn
  rcases request_cases call answer conn with ⟨a, c, ha, hr⟩ | ⟨e, hr | ⟨a, c, ha, hr⟩⟩ <;> rw [hr]
  · exact h _ _ _ ha
  · exact ⟨fun _ _ => rfl, fun _ _ => rfl⟩
  · exact h _ _ _ ha

theorem touches_setIndex {index : String} (h : indices index) (c : ClusterState)
    (st : Option IndexState) :
    (∀ id, ¬ pipelines id → (c.setIndex index st).pipelines id = c.pipelines id) ∧
      ∀ name, ¬ indices name → (c.setIndex index st).indices name = c.indices name :=
  ⟨fun _ _ => rfl, fun _ hn => Function.update_noteq (by rintro rfl; exact hn h) _ _⟩

theorem getPipeline_touches (id : String) : Touches (getPipeline id) pipelines indices :=
  touches_request fun c a c' h => by
    split at h
    · cases h
      exact ⟨fun _ _ => rfl, fun _ _ => rfl⟩
    · cases h

theorem putPipeline_touches {id : String} (h : pipelines id) (body : Value) :
    Touches (putPipeline id body) pipelines indices :=
  touches_request fun c a c' ha => by
    cases ha
    exact ⟨fun _ hn => Function.update_noteq (by rintro rfl; exact hn h) _ _, fun _ _ => rfl⟩

theorem indicesExists_touches (index expandWildcards : String) :
    Touches (indicesExists index expandWildcards) pipelines indices :=
  touches_request fun c a c' h => by
    cases h
    exact ⟨fun _ _ => rfl, fun _ _ => rfl⟩

theorem indicesDelete_touches {index : String} (h : indices index) (expandWildcards : String) :
    Touches (indicesDelete index expandWildcards) pipelines indices :=
  touches_request fun c a c' ha => by
    split_ifs at ha
    cases ha
    exact touches_setIndex h c none

theorem indicesCreate_touches {index : String} (h : indices index) (mappings settings : Option Value) :
    Touches (indicesCreate index mappings settings) pipelines indices :=
  touches_request fun c a c' ha => by
    split_ifs at ha
    cases ha
    exact touches_setIndex h c _

theorem indexDocument_touches {index : String} (h : indices index) (id : Nat) (document : Value) :
    Touches (indexDocument index id document) pipelines indices :=
  touches_request fun c a c' ha => by
    cases ha
    exact touches_setIndex h c _

theorem Touches.exceptNotFound {x handler : ClientM α} (hx : Touches x pipelines indices)
    (hh : Touches handler pipelines indices) :
    Touches (exceptNotFound x handler) pipelines indices := by
  intro conn
  rcases exceptNotFound_cases x handler conn with h | ⟨_, -, h⟩ <;> rw [h]
  · exact hx conn
  · obtain ⟨hp, hi⟩ := hx conn
    obtain ⟨hp', hi'⟩ := hh (x conn).2
    exact ⟨fun id h => (hp' id h).trans (hp id h), fun name h => (hi' name h).trans (hi name h)⟩

theorem Touches.tryFinally {x : ClientM Unit} (hx : Touches x pipelines indices) :
    Touches (tryFinally x close) pipelines indices := by
  intro conn
  rw [tryFinally_close conn x]
  exact hx conn

end Touches

/-! ## Client code when every call is answered -/

/-- Client code that returned, leaving the cluster `c`, on a connection
whose calls all get answered. -/
structure Returns (r : Except EsError Unit × Conn) (c : ClusterState) : Prop where
  ok : r.1 = .ok ()
  reliable : ∀ n, r.2.faults n = none
  cluster : r.2.cluster = c

theorem bind_run_of_ok {β : Type} {x : ClientM Unit} {f : Unit → ClientM β} {conn : Conn}
    (h : (x conn).1 = .ok ()) : (x >>= f) conn = f () (x conn).2 := by
  rw [bind_run, show x conn = (.ok (), (x conn).2) from Prod.ext h rfl]

theorem Returns.after {conn : Conn} {call : Call} {c : ClusterState} {r : Except EsError Unit × Conn}
    (hf : ∀ n, conn.faults n = none) (h : r = (.ok (), conn.after call c)) : Returns r c := by
  subst h
  exact ⟨rfl, hf, rfl⟩

theorem Returns.bind {x : ClientM Unit} {f : Unit → ClientM Unit} {conn : Conn}
    {c c' : ClusterState} (hx : Returns (x conn) c) (hy : Returns (f () (x conn).2) c') :
    Returns ((x >>= f) conn) c' := by
  rw [bind_run_of_ok hx.ok]
  exact hy

theorem Returns.tryFinally_close {x : ClientM Unit} {conn : Conn} {c : ClusterState}
    (h : Returns (x conn) c) : Returns (tryFinally x close conn) c := by
  have hclose : close (x conn).2 = (.ok (), (x conn).2.after .close (x conn).2.cluster) :=
    request_ok (h.reliable _) rfl
  simp only [tryFinally, hclose]
  exact ⟨h.ok, h.reliable, h.cluster⟩

end Connectors.Kibana

import Connectors.Python.Runtime

/-!
`ESIndex.get_all_docs` (`connectors/es/index.py`): a refresh, then a
`from`/`size` paging loop over `client.search` that yields one object per
hit and stops once the hits it has counted reach the total the last answer
reported. Only `ApiError` around the search is caught; the refresh sits
outside the `try`.

The cluster is whatever answers the calls: the refresh gets one answer, and
the search made after `t` earlier searches gets `search t request`. Nothing
here assumes that the answers agree with each other, so the run lemmas below
hold against any server, including one that is written to between pages.
-/

namespace Connectors.Es

/-- What a call on the cluster client raises: an `ApiError` (an HTTP error
answer, with its status code and body), or a transport error that is not an
`ApiError`, such as a connection error or a timeout. -/
inductive EsError where
  | apiError (statusCode : Nat) (body : String)
  | transportError (message : String)
  deriving DecidableEq, Repr

/-- The keyword arguments of one `client.search` call. -/
structure SearchRequest where
  index : String
  query : Value
  from_ : Nat
  size : Nat
  expandWildcards : String
  deriving Repr

/-- `resp["hits"]["hits"]` and `resp["hits"]["total"]["value"]`. -/
structure SearchResponse (α : Type) where
  hits : List α
  total : Nat

/-- The cluster as `get_all_docs` sees it. -/
structure Cluster (α : Type) where
  refresh : Except EsError Unit
  search : Nat → SearchRequest → Except EsError (SearchResponse α)

/-- What a run of the generator does, in order: the calls it makes, the
lines it logs and the objects it yields. -/
inductive Event (β : Type) where
  | refresh (index : String)
  | search (request : SearchRequest)
  | critical (message : String)
  | yield (object : β)

/-- How the generator ends: it returns (by `break` or `return`), or raises
to its consumer. -/
inductive Outcome where
  | returned
  | raised (error : EsError)
  deriving DecidableEq, Repr

/-- An `ESIndex`: its index name and the `_create_object` its subclass
supplies. -/
structure ESIndex (α β : Type) where
  indexName : String
  createObject : α → β

/-- The loop variables `count` and `offset`, and how many searches were made
so far (the cluster's clock). -/
structure Paging where
  count : Nat
  offset : Nat
  searches : Nat

/-- `{"match_all": {}}`, the query used when none is given. -/
def matchAll : Value := .obj [("match_all", .obj [])]

variable {α β : Type}

def ESIndex.searchRequest (idx : ESIndex α β) (query : Value) (pageSize offset : Nat) :
    SearchRequest :=
  { index := idx.indexName, query, from_ := offset, size := pageSize,
    expandWildcards := "hidden" }

/-- One pass through the `while True:` loop of `get_all_docs`. -/
def ESIndex.pageStep (idx : ESIndex α β) (cluster : Cluster α) (query : Value)
    (pageSize : Nat) (s : Paging) : Iteration Paging (Event β) Outcome :=
  let request := idx.searchRequest query pageSize s.offset
  match cluster.search s.searches request with
  | .error (.apiError statusCode body) =>
    .exit [.search request, .critical ("The server returned " ++ toString statusCode),
      .critical body] .returned
  | .error error => .exit [.search request] (.raised error)
  | .ok resp =>
    let count := s.count + resp.hits.length
    let events := .search request :: resp.hits.map fun hit => .yield (idx.createObject hit)
    if count ≥ resp.total then .exit events .returned
    else .next events
      { count, offset := s.offset + resp.hits.length, searches := s.searches + 1 }

/-- `get_all_docs(query, page_size)`, run for at most `fuel` passes of its
loop. -/
def ESIndex.getAllDocs (idx : ESIndex α β) (cluster : Cluster α) (query : Option Value)
    (pageSize : Nat) (fuel : Nat) : Option (List (Event β) × Outcome) :=
  match cluster.refresh with
  | .error error => some ([.refresh idx.indexName], .raised error)
  | .ok () =>
    (whileTrue (idx.pageStep cluster (query.getD matchAll) pageSize) fuel ⟨0, 0, 0⟩).map
      fun run => (.refresh idx.indexName :: run.1, run.2)

/-- The events of `get_all_docs` over at most `fuel` passes of its loop,
whether or not it ends within them. -/
def ESIndex.getAllDocsTrace (idx : ESIndex α β) (cluster : Cluster α) (query : Option Value)
    (pageSize : Nat) (fuel : Nat) : List (Event β) :=
  match cluster.refresh with
  | .error _ => [.refresh idx.indexName]
  | .ok () =>
    .refresh idx.indexName :: whileTrueTrace (idx.pageStep cluster (query.getD matchAll) pageSize)
      fuel ⟨0, 0, 0⟩

/-- A run that ends within the fuel emitted exactly its trace. -/
theorem ESIndex.getAllDocsTrace_of_eq_some {idx : ESIndex α β} {cluster : Cluster α}
    {query : Option Value} {pageSize fuel : Nat} {events : List (Event β)} {outcome : Outcome}
    (h : idx.getAllDocs cluster query pageSize fuel = some (events, outcome)) :
    idx.getAllDocsTrace cluster query pageSize fuel = events := by
  unfold getAllDocs at h
  unfold getAllDocsTrace
  split at h
  · cases h
    rfl
  · obtain ⟨run, hw, hrun⟩ := Option.map_eq_some'.mp h
    cases hrun
    rw [whileTrueTrace_of_eq_some hw]

/-- The objects a run yields, in order. -/
def yields : List (Event β) → List β
  | [] => []
  | .yield object :: rest => object :: yields rest
  | _ :: rest => yields rest

/-- The searches a run makes, in order. -/
def searches : List (Event β) → List SearchRequest
  | [] => []
  | .search request :: rest => request :: searches rest
  | _ :: rest => searches rest

section Projections

variable (l l' : List (Event β))

@[simp] theorem yields_nil : yields ([] : List (Event β)) = [] := rfl
@[simp] theorem yields_yield (b : β) : yields (.yield b :: l) = b :: yields l := rfl
@[simp] theorem yields_search (r : SearchRequest) : yields (.search r :: l) = yields l := rfl
@[simp] theorem yields_refresh (i : String) : yields (.refresh i :: l) = yields l := rfl
@[simp] theorem yields_critical (m : String) : yields (.critical m :: l) = yields l := rfl

@[simp] theorem yields_append : yields (l ++ l') = yields l ++ yields l' := by
  induction l with
  | nil => rfl
  | cons e l ih => cases e <;> simp [ih]

@[simp] theorem yields_map_yield (xs : List β) :
    yields (xs.map Event.yield) = xs := by
  induction xs <;> simp [*]

@[simp] theorem yields_map_yield_comp {γ : Type} (f : γ → β) (xs : List γ) :
    yields (xs.map (Event.yield ∘ f)) = xs.map f := by
  rw [← List.map_map, yields_map_yield]

@[simp] theorem searches_nil : searches ([] : List (Event β)) = [] := rfl
@[simp] theorem searches_search (r : SearchRequest) :
    searches (.search r :: l) = r :: searches l := rfl
@[simp] theorem searches_yield (b : β) : searches (.yield b :: l) = searches l := rfl
@[simp] theorem searches_refresh (i : String) : searches (.refresh i :: l) = searches l := rfl
@[simp] theorem searches_critical (m : String) :
    searches (.critical m :: l) = searches l := rfl

@[simp] theorem searches_append : searches (l ++ l') = searches l ++ searches l' := by
  induction l with
  | nil => rfl
  | cons e l ih => cases e <;> simp [ih]

@[simp] theorem searches_map_yield (xs : List β) :
    searches (xs.map Event.yield) = [] := by
  induction xs <;> simp [*]

@[simp] theorem searches_map_yield_comp {γ : Type} (f : γ → β) (xs : List γ) :
    searches (xs.map (Event.yield ∘ f)) = [] := by
  rw [← List.map_map, searches_map_yield]

end Projections

/-- Every search in a list of events asks `request o'`, where `o'` is `o`
plus the number of objects yielded before it in the list. -/
def SearchesFollowYields (request : Nat → SearchRequest) : Nat → List (Event β) → Prop
  | _, [] => True
  | o, .search r :: rest => r = request o ∧ SearchesFollowYields request o rest
  | o, .yield _ :: rest => SearchesFollowYields request (o + 1) rest
  | o, _ :: rest => SearchesFollowYields request o rest

section Follow

variable {request : Nat → SearchRequest}

theorem followYields_append (l l' : List (Event β)) (o : Nat) :
    SearchesFollowYields request o (l ++ l') ↔
      SearchesFollowYields request o l ∧
        SearchesFollowYields request (o + (yields l).length) l' := by
  induction l generalizing o with
  | nil => simp [SearchesFollowYields]
  | cons e l ih =>
    cases e <;> simp [SearchesFollowYields, ih, and_assoc, Nat.add_assoc, Nat.add_comm 1]

theorem followYields_map_yield (xs : List β) (o : Nat) :
    SearchesFollowYields request o (xs.map Event.yield) := by
  induction xs generalizing o <;> simp [SearchesFollowYields, *]

theorem SearchesFollowYields.eq_of_split {o : Nat} {pre post : List (Event β)}
    {r : SearchRequest} (h : SearchesFollowYields request o (pre ++ .search r :: post)) :
    r = request (o + (yields pre).length) := by
  rw [followYields_append] at h
  exact h.2.1

end Follow

section PageStep

variable (idx : ESIndex α β) (cluster : Cluster α) (query : Value) (pageSize : Nat)
  {s s' : Paging} {events : List (Event β)} {result : Outcome}

theorem map_yield_createObject (hits : List α) :
    (hits.map fun hit => Event.yield (idx.createObject hit)) =
      (hits.map idx.createObject).map Event.yield := by
  simp

/-- A pass that goes round again got a page whose hits leave `count` below
the total, yielded them, and moved `count` and `offset` past them. -/
theorem pageStep_eq_next (h : idx.pageStep cluster query pageSize s = .next events s') :
    ∃ resp, cluster.search s.searches (idx.searchRequest query pageSize s.offset) = .ok resp ∧
      s.count + resp.hits.length < resp.total ∧
      events = .search (idx.searchRequest query pageSize s.offset) ::
        (resp.hits.map idx.createObject).map Event.yield ∧
      s' = ⟨s.count + resp.hits.length, s.offset + resp.hits.length, s.searches + 1⟩ := by
  unfold ESIndex.pageStep at h
  dsimp only at h
  split at h
  · cases h
  · cases h
  · rename_i resp hresp
    split at h
    · cases h
    · cases h
      exact ⟨resp, hresp, by omega, by rw [map_yield_createObject], rfl⟩

/-- A pass that leaves the loop either got the last page, or an `ApiError`
that it logs and returns on, or another error that it raises. -/
theorem pageStep_eq_exit (h : idx.pageStep cluster query pageSize s = .exit events result) :
    (∃ resp, cluster.search s.searches (idx.searchRequest query pageSize s.offset) = .ok resp ∧
      resp.total ≤ s.count + resp.hits.length ∧
      events = .search (idx.searchRequest query pageSize s.offset) ::
        (resp.hits.map idx.createObject).map Event.yield ∧ result = .returned) ∨
    (∃ statusCode body, cluster.search s.searches (idx.searchRequest query pageSize s.offset) =
        .error (.apiError statusCode body) ∧
      events = [.search (idx.searchRequest query pageSize s.offset),
        .critical ("The server returned " ++ toString statusCode), .critical body] ∧
      result = .returned) ∨
    (∃ message, cluster.search s.searches (idx.searchRequest query pageSize s.offset) =
        .error (.transportError message) ∧
      events = [.search (idx.searchRequest query pageSize s.offset)] ∧
      result = .raised (.transportError message)) := by
  unfold ESIndex.pageStep at h
  dsimp only at h
  split at h
  · rename_i statusCode body hresp
    cases h
    exact .inr (.inl ⟨statusCode, body, hresp, rfl, rfl⟩)
  · rename_i error hnot hresp
    cases error with
    | apiError statusCode body => exact absurd rfl (hnot statusCode body)
    | transportError message =>
      cases h
      exact .inr (.inr ⟨message, hresp, rfl, rfl⟩)
  · rename_i resp hresp
    split at h
    · cases h
      exact .inl ⟨resp, hresp, by omega, by rw [map_yield_createObject], rfl⟩
    · cases h

end PageStep

variable (idx : ESIndex α β) (cluster : Cluster α) (pageSize : Nat)

/-- Against any cluster, every search `get_all_docs` makes asks for
`page_size` hits from the number of objects it has yielded before it:
`offset` and `count` both grow by `len(hits)` on every page. This holds pass
by pass, of a run that never ends as of one that returns. -/
theorem get_all_docs_search_from_yielded (query : Option Value) (fuel : Nat) :
    (∀ pre post r, idx.getAllDocsTrace cluster query pageSize fuel = pre ++ .search r :: post →
      r = idx.searchRequest (query.getD matchAll) pageSize (yields pre).length) ∧
    ∀ events outcome, idx.getAllDocs cluster query pageSize fuel = some (events, outcome) →
      ∀ pre post r, events = pre ++ .search r :: post →
        r = idx.searchRequest (query.getD matchAll) pageSize (yields pre).length := by
  let request := idx.searchRequest (query.getD matchAll) pageSize
  have hpasses : ∀ fuel (s : Paging), s.count = s.offset → SearchesFollowYields request s.offset
      (whileTrueTrace (idx.pageStep cluster (query.getD matchAll) pageSize) fuel s) := by
    intro fuel
    induction fuel with
    | zero => exact fun _ _ => trivial
    | succ fuel ih =>
      intro s hs
      cases hb : idx.pageStep cluster (query.getD matchAll) pageSize s with
      | exit events result =>
        simp only [whileTrueTrace, hb]
        rcases pageStep_eq_exit idx cluster _ pageSize hb with
          ⟨resp, -, -, rfl, -⟩ | ⟨_, _, -, rfl, -⟩ | ⟨_, -, rfl, -⟩
        · exact ⟨rfl, followYields_map_yield _ _⟩
        all_goals exact ⟨rfl, trivial⟩
      | next events s' =>
        simp only [whileTrueTrace, hb]
        obtain ⟨resp, -, -, rfl, rfl⟩ := pageStep_eq_next idx cluster _ pageSize hb
        rw [followYields_append]
        refine ⟨⟨rfl, followYields_map_yield _ _⟩, ?_⟩
        simpa [hs] using
          ih ⟨s.count + resp.hits.length, s.offset + resp.hits.length, s.searches + 1⟩ (by simp [hs])
  have htrace : ∀ pre post r, idx.getAllDocsTrace cluster query pageSize fuel =
      pre ++ .search r :: post → r = request (yields pre).length := by
    intro pre post r hsplit
    have hfollow : SearchesFollowYields request 0 (idx.getAllDocsTrace cluster query pageSize fuel) := by
      unfold ESIndex.getAllDocsTrace
      split
      · exact trivial
      · exact hpasses fuel ⟨0, 0, 0⟩ rfl
    have := (hsplit ▸ hfollow).eq_of_split
    rwa [Nat.zero_add] at this
  exact ⟨htrace, fun _ _ h pre post r hsplit =>
    htrace pre post r ((ESIndex.getAllDocsTrace_of_eq_some h).trans hsplit)⟩

/-- Two pages of a cluster holding three hits: the second search starts
after the two objects of the first page. -/
theorem get_all_docs_search_from_yielded_two_pages :
    let idx : ESIndex Nat Nat := ⟨"search-mongo", id⟩
    let cluster : Cluster Nat := ⟨.ok (), fun k _ => .ok (if k = 0 then ⟨[1, 2], 3⟩ else ⟨[3], 3⟩)⟩
    let pre : List (Event Nat) :=
      [.refresh "search-mongo", .search (idx.searchRequest matchAll 2 0), .yield 1, .yield 2]
    let r := idx.searchRequest matchAll 2 2
    idx.getAllDocs cluster none 2 2 = some (pre ++ .search r :: [.yield 3], .returned) ∧
      r = idx.searchRequest (none.getD matchAll) 2 (yields pre).length := by
  intro idx cluster pre r
  have h : idx.getAllDocs cluster none 2 2 = some (pre ++ .search r :: [.yield 3], .returned) := rfl
  exact ⟨h, (get_all_docs_search_from_yielded idx cluster 2 none 2).2 _ _ h pre [.yield 3] r rfl⟩

end Connectors.Es

import Connectors.Es.Index

/-!
`get_all_docs` against a cluster that holds a fixed list `docs` of hits and
answers `search(from=o, size=s)` with `docs[o : o + s]` and the total
`len(docs)`. With no failure the loop makes `max(1, ceil(len(docs) /
page_size))` searches at `from = 0, page_size, 2 * page_size, ...` and
yields every hit once, in order. A failing call is the same run cut short:
an `ApiError` on a search ends the generator quietly, while a refresh
failure or a transport error that is not an `ApiError` reaches the consumer.
-/

namespace Connectors.Es

variable {α β : Type}

/-- The answer of a cluster holding `docs` to `request`. -/
def answer (docs : List α) (request : SearchRequest) : SearchResponse α :=
  { hits := (docs.drop request.from_).take request.size, total := docs.length }

/-- A cluster holding `docs` that nobody writes to and that never fails. -/
def staticCluster (docs : List α) : Cluster α :=
  { refresh := .ok (), search := fun _ request => .ok (answer docs request) }

/-- Which call fails: the refresh, or the search made after `k` earlier
searches. -/
inductive Failure where
  | refresh (error : EsError)
  | search (k : Nat) (error : EsError)

/-- A cluster holding `docs` where exactly the call `failure` names fails. -/
def failingCluster (docs : List α) : Failure → Cluster α
  | .refresh error =>
    { refresh := .error error, search := fun _ request => .ok (answer docs request) }
  | .search k error =>
    { refresh := .ok (),
      search := fun t request => if t = k then .error error else .ok (answer docs request) }

/-- `max(1, ceil(n / page_size))`. -/
def pageCount (n pageSize : Nat) : Nat := max 1 ((n + pageSize - 1) / pageSize)

/-- The events of page `i` of `docs`: its search, then one yield per hit of
`docs[i * page_size : (i + 1) * page_size]`. -/
def ESIndex.pageEvents (idx : ESIndex α β) (query : Value) (pageSize : Nat) (docs : List α)
    (i : Nat) : List (Event β) :=
  .search (idx.searchRequest query pageSize (i * pageSize)) ::
    ((docs.drop (i * pageSize)).take pageSize).map fun hit => .yield (idx.createObject hit)

section PageCount

variable {n pageSize i : Nat}

theorem one_le_pageCount : 1 ≤ pageCount n pageSize := le_max_left _ _

theorem le_pageCount_mul (hps : 0 < pageSize) : n ≤ pageCount n pageSize * pageSize := by
  have h := Nat.div_add_mod (n + pageSize - 1) pageSize
  have hmod := Nat.mod_lt (n + pageSize - 1) hps
  have hle : (n + pageSize - 1) / pageSize ≤ pageCount n pageSize := le_max_right _ _
  have := Nat.mul_le_mul_right pageSize hle
  rw [Nat.mul_comm] at h
  omega

theorem succ_mul_lt_of_lt_pageCount (hps : 0 < pageSize) (h : i + 1 < pageCount n pageSize) :
    (i + 1) * pageSize < n := by
  have hi : i + 2 ≤ (n + pageSize - 1) / pageSize := by
    unfold pageCount at h
    omega
  have := (Nat.le_div_iff_mul_le hps).mp hi
  rw [Nat.add_mul] at this ⊢
  omega

end PageCount

section Run

variable (idx : ESIndex α β) (query : Value) (pageSize : Nat) (docs : List α)
  {c : Cluster α}

theorem length_page (i : Nat) :
    ((docs.drop (i * pageSize)).take pageSize).length =
      min pageSize (docs.length - i * pageSize) := by
  simp [Nat.min_def]

/-- Page `i` answered from `docs`: the loop goes round again exactly when the
hits counted so far stay below `len(docs)`. -/
theorem pageStep_answer {i : Nat} (hc : ∀ r, c.search i r = .ok (answer docs r)) :
    idx.pageStep c query pageSize ⟨i * pageSize, i * pageSize, i⟩ =
      if docs.length ≤ (i + 1) * pageSize then
        .exit (idx.pageEvents query pageSize docs i) .returned
      else
        .next (idx.pageEvents query pageSize docs i)
          ⟨(i + 1) * pageSize, (i + 1) * pageSize, i + 1⟩ := by
  have hlen := length_page pageSize docs i
  simp only [ESIndex.pageStep, hc, answer, ESIndex.searchRequest] at hlen ⊢
  rw [Nat.add_mul, Nat.one_mul]
  by_cases hlast : docs.length ≤ i * pageSize + pageSize
  · rw [if_pos (by omega), if_pos hlast]
    rfl
  · rw [if_neg (by omega), if_neg hlast, hlen, show min pageSize (docs.length - i * pageSize) =
      pageSize by omega]
    rfl

/-- `j` pages from page `i` on that are answered from `docs` and are not the
last one run one after the other, each emitting its `pageEvents`. -/
theorem run_pages {i j : Nat}
    (hpages : ∀ t, i ≤ t → t < i + j →
      (t + 1) * pageSize < docs.length ∧ ∀ r, c.search t r = .ok (answer docs r))
    (fuel : Nat) :
    whileTrue (idx.pageStep c query pageSize) (fuel + j) ⟨i * pageSize, i * pageSize, i⟩ =
      (whileTrue (idx.pageStep c query pageSize) fuel
          ⟨(i + j) * pageSize, (i + j) * pageSize, i + j⟩).map fun run =>
        ((List.range' i j).flatMap (idx.pageEvents query pageSize docs) ++ run.1, run.2) := by
  induction j generalizing i with
  | zero => simp
  | succ j ih =>
    obtain ⟨hlen, hc⟩ := hpages i le_rfl (by omega)
    have hstep := pageStep_answer idx query pageSize docs hc
    rw [if_neg (by omega)] at hstep
    rw [← Nat.add_assoc, whileTrue_next _ hstep,
      ih (fun t hi ht => hpages t (by omega) (by omega)), Option.map_map]
    simp [Function.comp_def, List.range'_succ, Nat.add_right_comm i 1 j]
    rfl

theorem flatMap_range_pages (k : Nat) :
    (List.range k).flatMap (fun i => (docs.drop (i * pageSize)).take pageSize) =
      docs.take (k * pageSize) := by
  induction k with
  | zero => simp
  | succ k ih => simp [List.range_succ, ih, Nat.succ_mul, List.take_add]

theorem yields_pageEvents (l : List Nat) :
    yields (l.flatMap (idx.pageEvents query pageSize docs)) =
      (l.flatMap fun i => (docs.drop (i * pageSize)).take pageSize).map idx.createObject := by
  induction l with
  | nil => rfl
  | cons i l ih =>
    simp only [List.flatMap_cons, yields_append, ih, List.map_append, ESIndex.pageEvents,
      yields_search, map_yield_createObject, yields_map_yield]

theorem searches_pageEvents (l : List Nat) :
    searches (l.flatMap (idx.pageEvents query pageSize docs)) =
      l.map fun i => idx.searchRequest query pageSize (i * pageSize) := by
  induction l with
  | nil => rfl
  | cons i l ih =>
    simp only [List.flatMap_cons, searches_append, ih, List.map_cons, ESIndex.pageEvents,
      searches_search, map_yield_createObject, searches_map_yield, List.cons_append,
      List.nil_append]

/-- A cluster that answers every search before the last page from `docs`
gives the whole run: `pageCount` pages, the last one leaving the loop. -/
theorem run_of_agree (hps : 0 < pageSize)
    (hc : ∀ t < pageCount docs.length pageSize, ∀ r, c.search t r = .ok (answer docs r))
    {fuel : Nat} (hfuel : pageCount docs.length pageSize ≤ fuel) :
    whileTrue (idx.pageStep c query pageSize) fuel ⟨0, 0, 0⟩ =
      some ((List.range (pageCount docs.length pageSize)).flatMap
        (idx.pageEvents query pageSize docs), .returned) := by
  obtain ⟨m, hm⟩ : ∃ m, pageCount docs.length pageSize = m + 1 :=
    ⟨_, (Nat.succ_pred_eq_of_pos one_le_pageCount).symm⟩
  obtain ⟨extra, rfl⟩ : ∃ extra, fuel = extra + 1 + m := ⟨fuel - m - 1, by omega⟩
  have hpages : ∀ t, 0 ≤ t → t < 0 + m →
      (t + 1) * pageSize < docs.length ∧ ∀ r, c.search t r = .ok (answer docs r) :=
    fun t _ ht => ⟨succ_mul_lt_of_lt_pageCount hps (by omega), hc t (by omega)⟩
  have hlast := pageStep_answer idx query pageSize docs (hc m (by omega))
  rw [if_pos (hm ▸ le_pageCount_mul hps)] at hlast
  have hrun := run_pages idx query pageSize docs hpages (extra + 1)
  simp only [Nat.zero_mul, Nat.zero_add] at hrun
  rw [hrun, whileTrue_exit extra hlast, hm, List.range_succ, List.range_eq_range',
    List.flatMap_append]
  simp

/-- A cluster whose hits at the search made after `t` earlier ones always
outnumber `(t + 1) * page_size` leaves the count below the total after every
page: every pass goes round again, whatever the fuel. This is the case of
`page_size = 0` on a non-empty index, and of an index that grows by more
than a page between searches. -/
theorem run_never_returns (hitsAt : Nat → List α)
    (hc : ∀ t r, c.search t r = .ok (answer (hitsAt t) r))
    (hgrow : ∀ t, (t + 1) * pageSize < (hitsAt t).length) (fuel : Nat) :
    ∀ i, whileTrue (idx.pageStep c query pageSize) fuel ⟨i * pageSize, i * pageSize, i⟩ = none := by
  induction fuel with
  | zero => exact fun _ => rfl
  | succ fuel ih =>
    intro i
    have hstep := pageStep_answer idx query pageSize (hitsAt i) (hc i)
    rw [if_neg (Nat.not_le.2 (hgrow i))] at hstep
    rw [whileTrue_next fuel hstep, ih]
    rfl

end Run

variable (idx : ESIndex α β) (docs : List α) (query : Option Value) (pageSize : Nat)

/-- Against a fixed list that nobody writes to, `get_all_docs` refreshes
once before anything else, makes exactly `max(1, ceil(len(docs) /
page_size))` searches, at `from = 0, page_size, 2 * page_size, ...`, and
yields `_create_object(hit)` for every hit of `docs`, once each and in
order; it returns without raising. -/
theorem get_all_docs_pages_once (hps : 0 < pageSize) {fuel : Nat}
    (hfuel : pageCount docs.length pageSize ≤ fuel) :
    let pages := (List.range (pageCount docs.length pageSize)).flatMap
      (idx.pageEvents (query.getD matchAll) pageSize docs)
    idx.getAllDocs (staticCluster docs) query pageSize fuel =
        some (.refresh idx.indexName :: pages, .returned) ∧
      searches pages = (List.range (pageCount docs.length pageSize)).map
        (fun i => idx.searchRequest (query.getD matchAll) pageSize (i * pageSize)) ∧
      yields pages = docs.map idx.createObject := by
  refine ⟨?_, searches_pageEvents idx _ pageSize docs _, ?_⟩
  · simp only [ESIndex.getAllDocs, staticCluster]
    rw [run_of_agree idx _ pageSize docs hps (fun _ _ _ => rfl) hfuel]
    rfl
  · rw [yields_pageEvents, flatMap_range_pages,
      List.take_of_length_le (le_pageCount_mul hps)]

theorem get_all_docs_pages_once_three :
    let idx : ESIndex Nat Nat := ⟨"search-mongo", fun hit => hit + 1⟩
    let pages := (List.range (pageCount 3 2)).flatMap (idx.pageEvents matchAll 2 [10, 20, 30])
    0 < 2 ∧ pageCount [10, 20, 30].length 2 ≤ 2 ∧
      (idx.getAllDocs (staticCluster [10, 20, 30]) none 2 2 =
          some (.refresh idx.indexName :: pages, .returned) ∧
        searches pages = (List.range (pageCount 3 2)).map
          (fun i => idx.searchRequest matchAll 2 (i * 2)) ∧
        yields pages = [11, 21, 31]) :=
  ⟨by decide, by decide,
    get_all_docs_pages_once ⟨"search-mongo", fun hit => hit + 1⟩ [10, 20, 30] none 2
      (by decide) (by decide)⟩

/-- With `page_size = 0`, `get_all_docs` never returns on a non-empty index:
every search answers no hit and the count stays below the total, so it
searches at `from = 0` again and again, however many passes it is given. -/
theorem get_all_docs_page_size_zero (hdocs : docs ≠ []) (fuel : Nat) :
    idx.getAllDocs (staticCluster docs) query 0 fuel = none := by
  have hrun := run_never_returns idx (query.getD matchAll) 0 (c := staticCluster docs)
    (fun _ => docs) (fun _ _ => rfl) (fun _ => List.length_pos.2 hdocs) fuel 0
  simp only [ESIndex.getAllDocs, staticCluster] at hrun ⊢
  rw [hrun]
  rfl

theorem get_all_docs_page_size_zero_one_hit :
    let idx : ESIndex Nat Nat := ⟨"search-mongo", fun hit => hit + 1⟩
    [10] ≠ [] ∧ idx.getAllDocs (staticCluster [10]) none 0 100 = none :=
  ⟨List.cons_ne_nil _ _,
    get_all_docs_page_size_zero ⟨"search-mongo", fun hit => hit + 1⟩ [10] none (List.cons_ne_nil _ _) 100⟩

/-- The events of the pass that meets a failing search: the search, and for
an `ApiError` the two lines it logs. -/
def failedSearchEvents (request : SearchRequest) : EsError → List (Event β)
  | .apiError statusCode body =>
    [.search request, .critical ("The server returned " ++ toString statusCode), .critical body]
  | .transportError _ => [.search request]

@[simp] theorem yields_failedSearchEvents (request : SearchRequest) (error : EsError) :
    yields (failedSearchEvents (β := β) request error) = [] := by
  cases error <;> rfl

/-- How the pass that meets a failing search ends the generator. -/
def failedSearchOutcome : EsError → Outcome
  | .apiError _ _ => .returned
  | .transportError message => .raised (.transportError message)

section FailingSearch

variable {k : Nat} (error : EsError)

theorem failingCluster_search_ne (t : Nat) (ht : t ≠ k) (r : SearchRequest) :
    (failingCluster docs (.search k error)).search t r = .ok (answer docs r) := by
  simp [failingCluster, ht]

/-- A search that fails before the last page is reached: the `k` pages
answered before it, then the pass that meets it. -/
theorem getAllDocs_search_fails (hps : 0 < pageSize) (hk : k < pageCount docs.length pageSize)
    {fuel : Nat} (hfuel : pageCount docs.length pageSize ≤ fuel) :
    idx.getAllDocs (failingCluster docs (.search k error)) query pageSize fuel =
      some (.refresh idx.indexName ::
        ((List.range k).flatMap (idx.pageEvents (query.getD matchAll) pageSize docs) ++
          failedSearchEvents (idx.searchRequest (query.getD matchAll) pageSize (k * pageSize))
            error), failedSearchOutcome error) := by
  let q := query.getD matchAll
  have hpages : ∀ t, 0 ≤ t → t < 0 + k → (t + 1) * pageSize < docs.length ∧
      ∀ r, (failingCluster docs (.search k error)).search t r = .ok (answer docs r) :=
    fun t _ ht => ⟨succ_mul_lt_of_lt_pageCount hps (by omega),
      failingCluster_search_ne docs error t (by omega)⟩
  have hfail : idx.pageStep (failingCluster docs (.search k error)) q pageSize
      ⟨k * pageSize, k * pageSize, k⟩ =
      .exit (failedSearchEvents (idx.searchRequest q pageSize (k * pageSize)) error)
        (failedSearchOutcome error) := by
    cases error <;> simp [ESIndex.pageStep, failingCluster, failedSearchEvents,
      failedSearchOutcome]
  obtain ⟨extra, rfl⟩ : ∃ extra, fuel = extra + 1 + k := ⟨fuel - k - 1, by omega⟩
  have hrun := run_pages idx q pageSize docs hpages (extra + 1)
  simp only [Nat.zero_mul, Nat.zero_add] at hrun
  show (whileTrue (idx.pageStep _ q pageSize) (extra + 1 + k) ⟨0, 0, 0⟩).map _ = _
  rw [hrun, whileTrue_exit extra hfail, List.range_eq_range']
  rfl

/-- A search that would fail after the last page is never made: the run
is the whole of `docs`. -/
theorem getAllDocs_search_fails_late (hps : 0 < pageSize)
    (hk : pageCount docs.length pageSize ≤ k) {fuel : Nat}
    (hfuel : pageCount docs.length pageSize ≤ fuel) :
    idx.getAllDocs (failingCluster docs (.search k error)) query pageSize fuel =
      some (.refresh idx.indexName :: (List.range (pageCount docs.length pageSize)).flatMap
        (idx.pageEvents (query.getD matchAll) pageSize docs), .returned) := by
  show (whileTrue (idx.pageStep _ (query.getD matchAll) pageSize) fuel ⟨0, 0, 0⟩).map _ = _
  rw [run_of_agree idx _ pageSize docs hps
    (fun t ht r => failingCluster_search_ne docs error t (by omega) r) hfuel]
  rfl

end FailingSearch

/-- Against a fixed list, a failing call cuts the run short. A refresh that
fails raises its error to the consumer before any search. A search that
fails after `k` successful pages leaves the first `k * page_size` hits
yielded (all of them when the run had ended before); an `ApiError` then ends
the generator without raising, its last events the search and the two
critical lines it logs, while a transport error that is not an `ApiError`,
such as a connection error, is raised to the consumer. -/
theorem get_all_docs_failure_prefix (hps : 0 < pageSize) {fuel : Nat}
    (hfuel : pageCount docs.length pageSize ≤ fuel) (failure : Failure) :
    ∃ events outcome,
      idx.getAllDocs (failingCluster docs failure) query pageSize fuel =
        some (events, outcome) ∧
      match failure with
      | .refresh error => events = [.refresh idx.indexName] ∧ outcome = .raised error
      | .search k (.apiError statusCode body) =>
        yields events = (docs.take (k * pageSize)).map idx.createObject ∧
          outcome = .returned ∧
          (k < pageCount docs.length pageSize → ∃ before, events = before ++
            failedSearchEvents (idx.searchRequest (query.getD matchAll) pageSize (k * pageSize))
              (.apiError statusCode body))
      | .search k (.transportError message) =>
        yields events = (docs.take (k * pageSize)).map idx.createObject ∧
          outcome = if k < pageCount docs.length pageSize then .raised (.transportError message)
            else .returned := by
  cases failure with
  | refresh error => exact ⟨_, _, rfl, rfl, rfl⟩
  | search k error =>
    by_cases hk : k < pageCount docs.length pageSize
    · have hyields : yields (.refresh idx.indexName ::
          ((List.range k).flatMap (idx.pageEvents (query.getD matchAll) pageSize docs) ++
            failedSearchEvents (idx.searchRequest (query.getD matchAll) pageSize (k * pageSize))
              error)) = (docs.take (k * pageSize)).map idx.createObject := by
        rw [yields_refresh, yields_append, yields_pageEvents, flatMap_range_pages,
          yields_failedSearchEvents, List.append_nil]
      have hget := getAllDocs_search_fails idx docs query pageSize error hps hk hfuel
      cases error with
      | apiError => exact ⟨_, _, hget, hyields, rfl, fun _ => ⟨_, (List.cons_append _ _ _).symm⟩⟩
      | transportError message => exact ⟨_, _, hget, hyields, (if_pos hk).symm⟩
    · have hall : docs.take (k * pageSize) = docs :=
        List.take_of_length_le ((le_pageCount_mul hps).trans
          (Nat.mul_le_mul_right _ (by omega)))
      have hyields : yields (.refresh idx.indexName ::
          (List.range (pageCount docs.length pageSize)).flatMap
            (idx.pageEvents (query.getD matchAll) pageSize docs)) =
          (docs.take (k * pageSize)).map idx.createObject := by
        rw [yields_refresh, yields_pageEvents, flatMap_range_pages,
          List.take_of_length_le (le_pageCount_mul hps), hall]
      have hget := getAllDocs_search_fails_late idx docs query pageSize error hps
        (Nat.le_of_not_lt hk) hfuel
      cases error with
      | apiError => exact ⟨_, _, hget, hyields, rfl, fun h => absurd h hk⟩
      | transportError message => exact ⟨_, _, hget, hyields, (if_neg hk).symm⟩

theorem get_all_docs_failure_prefix_second_page :
    let idx : ESIndex Nat Nat := ⟨"search-mongo", id⟩
    0 < 2 ∧ pageCount [10, 20, 30].length 2 ≤ 2 ∧
      ∃ events outcome,
        idx.getAllDocs (failingCluster [10, 20, 30] (.search 1 (.apiError 500 ""))) none 2 2 =
          some (events, outcome) ∧
        yields events = ([10, 20, 30].take (1 * 2)).map idx.createObject ∧
          outcome = .returned ∧
          (1 < pageCount [10, 20, 30].length 2 → ∃ before, events = before ++
            failedSearchEvents (idx.searchRequest matchAll 2 (1 * 2)) (.apiError 500 "")) :=
  ⟨by decide, by decide, get_all_docs_failure_prefix ⟨"search-mongo", id⟩ [10, 20, 30] none 2
    (by decide) (by decide) (.search 1 (.apiError 500 ""))⟩

/-- The generator does not always end quietly: a refresh that fails, and a
search that fails with a connection error, both reach the consumer. -/
theorem get_all_docs_failure_raises :
    let idx : ESIndex Nat Nat := ⟨"search-mongo", id⟩
    idx.getAllDocs (failingCluster [10, 20] (.refresh (.apiError 503 "unavailable"))) none 1 2 =
        some ([.refresh "search-mongo"], .raised (.apiError 503 "unavailable")) ∧
      idx.getAllDocs (failingCluster [10, 20] (.search 0 (.transportError "Connection refused")))
          none 1 2 =
        some ([.refresh "search-mongo", .search (idx.searchRequest matchAll 1 0)],
          .raised (.transportError "Connection refused")) :=
  ⟨rfl, rfl⟩

end Connectors.Es

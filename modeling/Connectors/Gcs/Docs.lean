import Connectors.Gcs.Document

/-!
`get_docs` (`connectors/sources/gcs.py`) with `fetch_buckets`, `fetch_blobs`
and `get_blob_document`. `fetch_buckets` is one paginated `_api_call`
listing the project's buckets; for every bucket of every page it yields,
`fetch_blobs` starts one more paginated `_api_call` listing the bucket's
objects, and `get_docs` yields the document of every object of every page
that listing yields.

Each listing is its own `_api_call`, and a retry starts the listing again
from its first page: the pages a failed attempt had yielded are yielded a
second time, and so are their documents. Calls are numbered in the order
they start, the bucket listing first. `get_docs` consumes `fetch_blobs` page
by page; `bucketPageDocuments_eq_fetchBlobs` shows that this is
`get_blob_document` on what `fetch_blobs` yields.

A document is yielded together with `partial(self.get_content, document)`.
The partial holds the yielded dict itself, not a copy: a consumer that edits
the document before calling it changes what `get_content` reads. Only the
documents are kept here; `Connectors.Gcs.Content` models `get_content` on
the dict it is called with.
-/

namespace Connectors.Gcs

open Connectors.Python

/-- What a project holds: the pages in which `buckets.list` returns the ids
of its buckets, and the pages in which `objects.list` returns the objects of
each bucket. -/
structure Storage where
  bucketPages : List (List String)
  objectPages : String → List (List (List (String × Value)))

/-- Attempt `j` of call `i` raises `e` after yielding `k` pages when
`fails i j = some (k, e)`, and finishes when it is `none`. -/
abbrev Failures := Nat → Nat → Option (Nat × ApiException)

/-- Why `get_docs` raises: a call that gave up, or a document that raised. -/
inductive DocsError where
  | api (e : ApiException)
  | document (e : DocumentError)
  deriving DecidableEq, Repr

variable {α : Type}

/-- A paginated `_api_call` over `pages` whose attempt `j` fails as `fails j`
says. -/
def listingRun (retryCount : Nat) (pages : List α) (fails : Nat → Option (Nat × ApiException)) :
    List (Emit α) × Result :=
  apiCall retryCount fun j => Attempt.ofListing pages (fails j)

/-- The documents of the pages a listing yielded, page after page; a
document that raises ends them. -/
def pagesDocuments (userProjectId : Option String) :
    List (List (List (String × Value))) → List (List (String × Value)) × Option DocumentError
  | [] => ([], none)
  | page :: pages =>
    let r := getBlobDocument userProjectId page
    match r.2 with
    | some e => (r.1, some e)
    | none =>
      let rest := pagesDocuments userProjectId pages
      (r.1 ++ rest.1, rest.2)

/-- What `get_docs` makes of an object listing that yielded `pages` and
ended with `result`. -/
def listingDocuments (userProjectId : Option String) (pages : List (List (List (String × Value))))
    (result : Result) : List (List (String × Value)) × Option DocsError :=
  let docs := pagesDocuments userProjectId pages
  match docs.2 with
  | some e => (docs.1, some (.document e))
  | none =>
    (docs.1, match result with
      | .done => none
      | .raised e => some (.api e))

section GetDocs

variable (retryCount : Nat) (userProjectId : Option String) (storage : Storage)
  (fails : Failures)

/-- `fetch_buckets()`: the paginated `_api_call` of `buckets.list`, call 0. -/
def fetchBuckets : List (Emit (List String)) × Result :=
  listingRun retryCount storage.bucketPages (fails 0)

/-- `fetch_blobs(buckets)` for one page of bucket ids: a paginated
`_api_call` of `objects.list` for each bucket, as calls `i, i + 1, ...`, one
after the other. It yields the pages of every listing and ends as the first
listing that raises; the number of the next call comes last. -/
def fetchBlobs : Nat → List String → List (List (List (String × Value))) × Result × Nat
  | i, [] => ([], .done, i)
  | i, bucketId :: bucketIds =>
    let run := listingRun retryCount (storage.objectPages bucketId) (fails i)
    match run.2 with
    | .raised e => (yields run.1, .raised e, i + 1)
    | .done =>
      let rest := fetchBlobs (i + 1) bucketIds
      (yields run.1 ++ rest.1, rest.2.1, rest.2.2)

/-- The documents of the object listing of one bucket, as call `i`. -/
def bucketDocuments (i : Nat) (bucketId : String) : List (List (String × Value)) × Option DocsError :=
  let run := listingRun retryCount (storage.objectPages bucketId) (fails i)
  listingDocuments userProjectId (yields run.1) run.2

/-- `fetch_blobs(buckets)` for one page of buckets, its listings being calls
`i, i + 1, ...`: the documents, how it stopped, and the number of the next
call. -/
def bucketPageDocuments :
    Nat → List String → List (List (String × Value)) × Option DocsError × Nat
  | i, [] => ([], none, i)
  | i, bucketId :: bucketIds =>
    let r := bucketDocuments retryCount userProjectId storage fails i bucketId
    match r.2 with
    | some e => (r.1, some e, i + 1)
    | none =>
      let rest := bucketPageDocuments (i + 1) bucketIds
      (r.1 ++ rest.1, rest.2.1, rest.2.2)

/-- The loop of `get_docs` over the pages of buckets `fetch_buckets`
yields; a page without buckets is skipped. -/
def bucketPagesDocuments :
    Nat → List (List String) → List (List (String × Value)) × Option DocsError
  | _, [] => ([], none)
  | i, page :: pages =>
    if page.isEmpty then bucketPagesDocuments i pages
    else
      let r := bucketPageDocuments retryCount userProjectId storage fails i page
      match r.2.1 with
      | some e => (r.1, some e)
      | none =>
        let rest := bucketPagesDocuments r.2.2 pages
        (r.1 ++ rest.1, rest.2)

/-- `get_docs()`: the documents it yields, and the exception it raises, if
any. -/
def getDocs : List (List (String × Value)) × Option DocsError :=
  let run := fetchBuckets retryCount storage fails
  let r := bucketPagesDocuments retryCount userProjectId storage fails 1 (yields run.1)
  match r.2 with
  | some e => (r.1, some e)
  | none =>
    (r.1, match run.2 with
      | .done => none
      | .raised e => some (.api e))

end GetDocs

/-! ## `fetch_blobs` -/

/-- The documents of pages yielded one after the other: those of the later
pages come only when the earlier ones raise nothing. -/
theorem pagesDocuments_append (userProjectId : Option String)
    (pages pages' : List (List (List (String × Value)))) :
    pagesDocuments userProjectId (pages ++ pages') =
      match (pagesDocuments userProjectId pages).2 with
      | some e => ((pagesDocuments userProjectId pages).1, some e)
      | none => ((pagesDocuments userProjectId pages).1 ++ (pagesDocuments userProjectId pages').1,
          (pagesDocuments userProjectId pages').2) := by
  induction pages with
  | nil => rfl
  | cons page pages ih =>
    rw [List.cons_append, pagesDocuments, pagesDocuments]
    split
    · rfl
    · rw [ih]
      split <;> simp_all

/-- The documents of a listing that yielded `pages` and then `pages'`, when
the first pages raise nothing. -/
theorem listingDocuments_append {userProjectId : Option String}
    {pages pages' : List (List (List (String × Value)))}
    (h : (pagesDocuments userProjectId pages).2 = none) (result : Result) :
    listingDocuments userProjectId (pages ++ pages') result =
      ((pagesDocuments userProjectId pages).1 ++ (listingDocuments userProjectId pages' result).1,
        (listingDocuments userProjectId pages' result).2) := by
  simp only [listingDocuments, pagesDocuments_append, h]
  split <;> simp_all

/-- `get_docs`'s loop over one page of buckets is `get_blob_document` on
every page `fetch_blobs` yields: the same documents, ending the same way. -/
theorem bucketPageDocuments_eq_fetchBlobs (retryCount : Nat) (userProjectId : Option String)
    (storage : Storage) (fails : Failures) (page : List String) (i : Nat) :
    let r := bucketPageDocuments retryCount userProjectId storage fails i page
    let blobs := fetchBlobs retryCount storage fails i page
    (r.1, r.2.1) = listingDocuments userProjectId blobs.1 blobs.2.1 := by
  induction page generalizing i with
  | nil => rfl
  | cons bucketId page ih =>
    simp only [bucketPageDocuments, fetchBlobs, bucketDocuments]
    rcases listingRun retryCount (storage.objectPages bucketId) (fails i) with ⟨emits, _ | e⟩
    · dsimp only
      cases hdocs : (pagesDocuments userProjectId (yields emits)).2 with
      | some e =>
        simp [listingDocuments, pagesDocuments_append, hdocs]
      | none =>
        have hbucket : listingDocuments userProjectId (yields emits) .done =
            ((pagesDocuments userProjectId (yields emits)).1, none) := by
          simp [listingDocuments, hdocs]
        rw [hbucket, listingDocuments_append hdocs, ← ih (i + 1)]
    · cases hdocs : (pagesDocuments userProjectId (yields emits)).2 <;>
        simp [listingDocuments, hdocs]

/-! ## Failures before the first page -/

/-- Every call fails at most `retry_count` times, each time with a retried
exception raised before its first page, and then finishes. -/
def FailsBeforeFirstPage (retryCount : Nat) (fails : Failures) : Prop :=
  ∀ i, ∃ m ≤ retryCount, (∀ j < m, ∃ e, fails i j = some (0, .exception e)) ∧ fails i m = none

/-- No attempt fails. -/
def noFailures : Failures := fun _ _ => none

theorem noFailures_failsBeforeFirstPage (retryCount : Nat) :
    FailsBeforeFirstPage retryCount noFailures :=
  fun _ => ⟨0, Nat.zero_le _, fun _ h => absurd h (Nat.not_lt_zero _), rfl⟩

/-- A listing whose failed attempts all failed before their first page
yields its pages once and finishes. -/
theorem listingRun_of_fails_before (pages : List α) {retryCount m : Nat}
    {fails : Nat → Option (Nat × ApiException)} (hm : m ≤ retryCount)
    (hfail : ∀ j < m, ∃ e, fails j = some (0, .exception e)) (hdone : fails m = none) :
    yields (listingRun retryCount pages fails).1 = pages ∧
      (listingRun retryCount pages fails).2 = .done := by
  obtain ⟨hy, hr⟩ := api_call_listing retryCount pages fails
    (fun j hj => let ⟨e, he⟩ := hfail j hj; ⟨0, e, he⟩) hdone hm
  have hreplay : replayedPages pages fails m = [] := by
    refine List.flatMap_eq_nil_iff.2 fun j hj => ?_
    obtain ⟨e, he⟩ := hfail j (List.mem_range.1 hj)
    simp [he, Attempt.ofListing]
  exact ⟨by rw [listingRun, hy, hreplay, List.nil_append], hr⟩

theorem listingRun_noFailures (retryCount : Nat) (pages : List α) :
    yields (listingRun retryCount pages (noFailures 0)).1 = pages ∧
      (listingRun retryCount pages (noFailures 0)).2 = .done :=
  listingRun_of_fails_before pages (Nat.zero_le retryCount)
    (fun _ h => absurd h (Nat.not_lt_zero _)) rfl

section Congruence

variable {retryCount : Nat} {userProjectId : Option String} {storage : Storage}
  {fails fails' : Failures}

/-- `get_docs` depends on the calls' failures only through what each object
listing makes of them. -/
theorem bucketPageDocuments_congr
    (h : ∀ i bucketId, bucketDocuments retryCount userProjectId storage fails i bucketId =
      bucketDocuments retryCount userProjectId storage fails' i bucketId)
    (page : List String) (i : Nat) :
    bucketPageDocuments retryCount userProjectId storage fails i page =
      bucketPageDocuments retryCount userProjectId storage fails' i page := by
  induction page generalizing i with
  | nil => rfl
  | cons bucketId page ih => simp only [bucketPageDocuments, h, ih]

theorem bucketPagesDocuments_congr
    (h : ∀ i bucketId, bucketDocuments retryCount userProjectId storage fails i bucketId =
      bucketDocuments retryCount userProjectId storage fails' i bucketId)
    (pages : List (List String)) (i : Nat) :
    bucketPagesDocuments retryCount userProjectId storage fails i pages =
      bucketPagesDocuments retryCount userProjectId storage fails' i pages := by
  induction pages generalizing i with
  | nil => rfl
  | cons page pages ih => simp only [bucketPagesDocuments, bucketPageDocuments_congr h, ih]

end Congruence

theorem bucketDocuments_of_fails_before {retryCount : Nat} {fails : Failures}
    (h : FailsBeforeFirstPage retryCount fails) (userProjectId : Option String) (storage : Storage)
    (i : Nat) (bucketId : String) :
    bucketDocuments retryCount userProjectId storage fails i bucketId =
      listingDocuments userProjectId (storage.objectPages bucketId) .done := by
  obtain ⟨m, hm, hfail, hdone⟩ := h i
  obtain ⟨hy, hr⟩ := listingRun_of_fails_before (storage.objectPages bucketId) hm hfail hdone
  rw [bucketDocuments, hy, hr]

/-- Failures before the first page of a call change nothing that `get_docs`
yields or raises. -/
theorem getDocs_of_fails_before {retryCount : Nat} {fails : Failures}
    (h : FailsBeforeFirstPage retryCount fails) (userProjectId : Option String)
    (storage : Storage) :
    getDocs retryCount userProjectId storage fails =
      getDocs retryCount userProjectId storage noFailures := by
  have hbuckets : ∀ i bucketId, bucketDocuments retryCount userProjectId storage fails i bucketId =
      bucketDocuments retryCount userProjectId storage noFailures i bucketId := fun i bucketId => by
    rw [bucketDocuments_of_fails_before h, bucketDocuments_of_fails_before
      (noFailures_failsBeforeFirstPage retryCount)]
  obtain ⟨m, hm, hfail, hdone⟩ := h 0
  obtain ⟨hy, hr⟩ := listingRun_of_fails_before storage.bucketPages hm hfail hdone
  obtain ⟨hy', hr'⟩ := listingRun_noFailures retryCount storage.bucketPages
  simp only [getDocs, fetchBuckets, hy, hr, hy', hr', bucketPagesDocuments_congr hbuckets]

/-! ## Documents of every object -/

/-- Every object of the project, bucket after bucket, in listing order. -/
def allBlobs (storage : Storage) : List (List (String × Value)) :=
  storage.bucketPages.flatten.flatMap fun bucketId => (storage.objectPages bucketId).flatten

/-- The documents `prepare_blob_document` makes of the blobs that have one. -/
def preparedDocuments (userProjectId : Option String) (blobs : List (List (String × Value))) :
    List (List (String × Value)) :=
  blobs.filterMap fun blob => (prepareBlobDocument userProjectId blob).toOption

section Prepared

variable {userProjectId : Option String}

theorem getBlobDocument_of_prepared {page : List (List (String × Value))}
    (h : ∀ blob ∈ page, ∃ d, prepareBlobDocument userProjectId blob = .ok d) :
    getBlobDocument userProjectId page = (preparedDocuments userProjectId page, none) := by
  induction page with
  | nil => rfl
  | cons blob page ih =>
    obtain ⟨d, hd⟩ := h blob (List.mem_cons_self _ _)
    rw [getBlobDocument, hd, ih fun b hb => h b (List.mem_cons_of_mem _ hb)]
    simp [yieldDocument, preparedDocuments, hd, Except.toOption]

theorem pagesDocuments_of_prepared {pages : List (List (List (String × Value)))}
    (h : ∀ blob ∈ pages.flatten, ∃ d, prepareBlobDocument userProjectId blob = .ok d) :
    pagesDocuments userProjectId pages = (preparedDocuments userProjectId pages.flatten, none) := by
  induction pages with
  | nil => rfl
  | cons page pages ih =>
    have hpage := getBlobDocument_of_prepared fun b hb => h b (List.mem_append_left _ hb)
    rw [pagesDocuments]
    simp [hpage, ih fun b hb => h b (List.mem_append_right _ hb), preparedDocuments]

variable {retryCount : Nat} {storage : Storage}

theorem bucketPageDocuments_of_prepared (page : List String)
    (h : ∀ blob ∈ page.flatMap fun bucketId => (storage.objectPages bucketId).flatten,
      ∃ d, prepareBlobDocument userProjectId blob = .ok d) (i : Nat) :
    bucketPageDocuments retryCount userProjectId storage noFailures i page =
      (preparedDocuments userProjectId
        (page.flatMap fun bucketId => (storage.objectPages bucketId).flatten), none,
        i + page.length) := by
  induction page generalizing i with
  | nil => rfl
  | cons bucketId page ih =>
    have hbucket : bucketDocuments retryCount userProjectId storage noFailures i bucketId =
        (preparedDocuments userProjectId (storage.objectPages bucketId).flatten, none) := by
      rw [bucketDocuments_of_fails_before (noFailures_failsBeforeFirstPage retryCount),
        listingDocuments, pagesDocuments_of_prepared fun b hb => h b (List.mem_append_left _ hb)]
    rw [bucketPageDocuments]
    simp [hbucket, ih (fun b hb => h b (List.mem_append_right _ hb)) (i + 1), preparedDocuments,
      Nat.add_assoc, Nat.add_comm 1]

theorem bucketPagesDocuments_of_prepared (pages : List (List String))
    (h : ∀ blob ∈ pages.flatten.flatMap fun bucketId => (storage.objectPages bucketId).flatten,
      ∃ d, prepareBlobDocument userProjectId blob = .ok d) (i : Nat) :
    bucketPagesDocuments retryCount userProjectId storage noFailures i pages =
      (preparedDocuments userProjectId
        (pages.flatten.flatMap fun bucketId => (storage.objectPages bucketId).flatten), none) := by
  induction pages generalizing i with
  | nil => rfl
  | cons page pages ih =>
    simp only [List.flatten_cons, List.flatMap_append, List.mem_append] at h
    have hrest := ih (fun b hb => h b (.inr hb))
    rw [bucketPagesDocuments]
    split_ifs with hempty
    · rw [hrest, List.isEmpty_iff.1 hempty]
      rfl
    · rw [bucketPageDocuments_of_prepared page (fun b hb => h b (.inl hb))]
      simp [hrest, preparedDocuments]

end Prepared

theorem getDocs_noFailures (retryCount : Nat) (userProjectId : Option String) (storage : Storage)
    (h : ∀ blob ∈ allBlobs storage, ∃ d, prepareBlobDocument userProjectId blob = .ok d) :
    getDocs retryCount userProjectId storage noFailures =
      (preparedDocuments userProjectId (allBlobs storage), none) := by
  obtain ⟨hy, hr⟩ := listingRun_noFailures retryCount storage.bucketPages
  simp only [getDocs, fetchBuckets, hy, hr, bucketPagesDocuments_of_prepared _ h]
  rfl

/-- When every call fails at most `retry_count` times and always before its
first page, `get_docs` yields and raises what it does when nothing fails;
when moreover every object has a document, that is the document of every
object, once, in listing order, and it ends without raising. -/
theorem get_docs_fails_before_first_page (retryCount : Nat) (userProjectId : Option String)
    (storage : Storage) {fails : Failures} (h : FailsBeforeFirstPage retryCount fails) :
    getDocs retryCount userProjectId storage fails =
        getDocs retryCount userProjectId storage noFailures ∧
      ((∀ blob ∈ allBlobs storage, ∃ d, prepareBlobDocument userProjectId blob = .ok d) →
        getDocs retryCount userProjectId storage fails =
          (preparedDocuments userProjectId (allBlobs storage), none)) :=
  ⟨getDocs_of_fails_before h userProjectId storage, fun hprep =>
    (getDocs_of_fails_before h userProjectId storage).trans
      (getDocs_noFailures retryCount userProjectId storage hprep)⟩

theorem get_docs_fails_before_first_page_retry :
    let blob := fun name : String => [("name", Value.str name), ("bucket", .str "b")]
    let storage : Storage := ⟨[["b"]], fun _ => [[blob "x1"], [blob "x2"]]⟩
    let fails : Failures := fun i j => if i = 1 ∧ j = 0 then some (0, .exception "503") else none
    FailsBeforeFirstPage 3 fails ∧
      getDocs 3 (some "p") storage fails = getDocs 3 (some "p") storage noFailures := by
  intro blob storage fails
  have h : FailsBeforeFirstPage 3 fails := fun i => by
    by_cases hi : i = 1
    · exact ⟨1, by decide, fun j hj => ⟨"503", by simp [fails, hi, show j = 0 by omega]⟩,
        by simp [fails]⟩
    · exact ⟨0, by decide, fun j hj => absurd hj (Nat.not_lt_zero _), by simp [fails, hi]⟩
  exact ⟨h, (get_docs_fails_before_first_page 3 (some "p") storage h).1⟩

/-- One bucket whose objects come in two pages; the first attempt to list
them fails after the first page, which the retry yields again. -/
theorem get_docs_replays_first_page :
    let blob := fun name : String => [("name", Value.str name), ("bucket", .str "b")]
    let storage : Storage := ⟨[["b"]], fun _ => [[blob "x1"], [blob "x2"]]⟩
    let fails : Failures := fun i j => if i = 1 ∧ j = 0 then some (1, .exception "503") else none
    (∀ i, ∃ m ≤ 3, (∀ j < m, ∃ k e, fails i j = some (k, .exception e)) ∧ fails i m = none) ∧
      (getDocs 3 (some "p") storage fails).1.map (fun d => formatValue (dictGet d "name")) =
        [some "x1", some "x1", some "x2"] ∧
      (getDocs 3 (some "p") storage noFailures).1.map (fun d => formatValue (dictGet d "name")) =
        [some "x1", some "x2"] := by
  intro blob storage fails
  have hcalls : ∀ i, ∃ m ≤ 3, (∀ j < m, ∃ k e, fails i j = some (k, .exception e)) ∧
      fails i m = none := fun i => by
    by_cases hi : i = 1
    · exact ⟨1, by decide, fun j hj => ⟨1, "503", by simp [fails, hi, show j = 0 by omega]⟩,
        by simp [fails]⟩
    · exact ⟨0, by decide, fun j hj => absurd hj (Nat.not_lt_zero _), by simp [fails, hi]⟩
  have hout := listingRun_of_fails_before storage.bucketPages (Nat.zero_le 3)
    (fun _ h => absurd h (Nat.not_lt_zero _)) (show fails 0 0 = none by simp [fails])
  obtain ⟨hin, hin'⟩ := @api_call_listing _ 3 (storage.objectPages "b") (fails 1) 1
    (fun j hj => ⟨1, "503", by simp [fails, show j = 0 by omega]⟩) (by simp [fails]) (by decide)
  refine ⟨hcalls, ?_, ?_⟩
  · simp only [getDocs, fetchBuckets, hout.1, hout.2, bucketPagesDocuments, bucketPageDocuments,
      bucketDocuments]
    rw [listingRun, hin, hin']
    decide
  · rw [getDocs_noFailures 3 (some "p") storage fun b hb => by
      simp only [allBlobs, storage, blob, List.flatten, List.flatMap_cons, List.mem_append,
        List.mem_cons, List.mem_nil_iff, or_false, List.flatMap_nil, List.append_nil] at hb
      rcases hb with rfl | rfl <;> exact ⟨_, prepareBlobDocument_ok _ rfl rfl⟩]
    decide

/-! ## Only documents of the project's objects -/

theorem mem_yields_listingRun {retryCount : Nat} {pages : List α}
    {fails : Nat → Option (Nat × ApiException)} {page : α}
    (h : page ∈ yields (listingRun retryCount pages fails).1) : page ∈ pages := by
  obtain ⟨j, hj⟩ := mem_yields_apiCallFrom h
  cases hf : fails j with
  | none => simpa [hf, Attempt.ofListing] using hj
  | some f => exact List.mem_of_mem_take (by simpa [hf, Attempt.ofListing] using hj)

section Sound

variable {retryCount : Nat} {userProjectId : Option String} {storage : Storage}
  {fails : Failures} {d : List (String × Value)}

theorem mem_getBlobDocument {page : List (List (String × Value))}
    (h : d ∈ (getBlobDocument userProjectId page).1) :
    ∃ blob ∈ page, prepareBlobDocument userProjectId blob = .ok d := by
  induction page with
  | nil => simp [getBlobDocument] at h
  | cons blob page ih =>
    rw [getBlobDocument] at h
    unfold yieldDocument at h
    split at h
    · rename_i document hprep
      rcases List.mem_cons.1 h with rfl | h
      · exact ⟨blob, List.mem_cons_self _ _, hprep⟩
      · obtain ⟨b, hb, hd⟩ := ih h
        exact ⟨b, List.mem_cons_of_mem _ hb, hd⟩
    · simp at h

theorem mem_pagesDocuments {pages : List (List (List (String × Value)))}
    (h : d ∈ (pagesDocuments userProjectId pages).1) :
    ∃ blob ∈ pages.flatten, prepareBlobDocument userProjectId blob = .ok d := by
  induction pages with
  | nil => simp [pagesDocuments] at h
  | cons page pages ih =>
    rw [pagesDocuments] at h
    have hpage : d ∈ (getBlobDocument userProjectId page).1 →
        ∃ blob ∈ (page :: pages).flatten, prepareBlobDocument userProjectId blob = .ok d :=
      fun h => let ⟨b, hb, hd⟩ := mem_getBlobDocument h; ⟨b, List.mem_append_left _ hb, hd⟩
    split at h
    · exact hpage h
    · rcases List.mem_append.1 h with h | h
      · exact hpage h
      · obtain ⟨b, hb, hd⟩ := ih h
        exact ⟨b, List.mem_append_right _ hb, hd⟩

theorem mem_bucketDocuments {i : Nat} {bucketId : String}
    (h : d ∈ (bucketDocuments retryCount userProjectId storage fails i bucketId).1) :
    ∃ blob ∈ (storage.objectPages bucketId).flatten,
      prepareBlobDocument userProjectId blob = .ok d := by
  unfold bucketDocuments listingDocuments at h
  dsimp only at h
  have h' : d ∈ (pagesDocuments userProjectId
      (yields (listingRun retryCount (storage.objectPages bucketId) (fails i)).1)).1 := by
    split at h <;> exact h
  obtain ⟨b, hb, hd⟩ := mem_pagesDocuments h'
  obtain ⟨page, hpage, hbp⟩ := List.mem_flatten.1 hb
  exact ⟨b, List.mem_flatten.2 ⟨page, mem_yields_listingRun hpage, hbp⟩, hd⟩

theorem mem_bucketPageDocuments {page : List String} {i : Nat}
    (h : d ∈ (bucketPageDocuments retryCount userProjectId storage fails i page).1) :
    ∃ bucketId ∈ page, ∃ blob ∈ (storage.objectPages bucketId).flatten,
      prepareBlobDocument userProjectId blob = .ok d := by
  induction page generalizing i with
  | nil => simp [bucketPageDocuments] at h
  | cons bucketId page ih =>
    rw [bucketPageDocuments] at h
    split at h
    · exact ⟨bucketId, List.mem_cons_self _ _, mem_bucketDocuments h⟩
    · rcases List.mem_append.1 h with h | h
      · exact ⟨bucketId, List.mem_cons_self _ _, mem_bucketDocuments h⟩
      · obtain ⟨b, hb, rest⟩ := ih h
        exact ⟨b, List.mem_cons_of_mem _ hb, rest⟩

theorem mem_bucketPagesDocuments {pages : List (List String)} {i : Nat}
    (h : d ∈ (bucketPagesDocuments retryCount userProjectId storage fails i pages).1) :
    ∃ page ∈ pages, ∃ bucketId ∈ page, ∃ blob ∈ (storage.objectPages bucketId).flatten,
      prepareBlobDocument userProjectId blob = .ok d := by
  induction pages generalizing i with
  | nil => simp [bucketPagesDocuments] at h
  | cons page pages ih =>
    rw [bucketPagesDocuments] at h
    split_ifs at h
    · obtain ⟨p, hp, rest⟩ := ih h
      exact ⟨p, List.mem_cons_of_mem _ hp, rest⟩
    · dsimp only at h
      split at h
      · exact ⟨page, List.mem_cons_self _ _, mem_bucketPageDocuments h⟩
      · rcases List.mem_append.1 h with h | h
        · exact ⟨page, List.mem_cons_self _ _, mem_bucketPageDocuments h⟩
        · obtain ⟨p, hp, rest⟩ := ih h
          exact ⟨p, List.mem_cons_of_mem _ hp, rest⟩

end Sound

/-- Whatever fails and however often, every document `get_docs` yields is
`prepare_blob_document(blob)` of an object of one of the project's buckets:
retries repeat documents but never make one up. -/
theorem get_docs_yields_prepared (retryCount : Nat) (userProjectId : Option String)
    (storage : Storage) (fails : Failures) :
    ∀ d ∈ (getDocs retryCount userProjectId storage fails).1,
      ∃ blob ∈ allBlobs storage, prepareBlobDocument userProjectId blob = .ok d := by
  intro d h
  have h' : d ∈ (bucketPagesDocuments retryCount userProjectId storage fails 1
      (yields (listingRun retryCount storage.bucketPages (fails 0)).1)).1 := by
    rw [getDocs] at h
    split at h <;> exact h
  obtain ⟨page, hpage, bucketId, hbucket, blob, hblob, hd⟩ := mem_bucketPagesDocuments h'
  exact ⟨blob, List.mem_flatMap.2 ⟨bucketId,
    List.mem_flatten.2 ⟨page, mem_yields_listingRun hpage, hbucket⟩, hblob⟩, hd⟩

/-- One bucket holding the object `x1`: its document is yielded. -/
theorem get_docs_yields_prepared_one :
    let blob : List (String × Value) := [("name", .str "x1"), ("bucket", .str "b")]
    let storage : Storage := ⟨[["b"]], fun _ => [[blob]]⟩
    let d := blobAdapter.map fun field => (field.1, if field.1 = "url" then
      Value.str (consoleUrl "b" (quote "x1" "'") "p") else dictGet blob field.2)
    d ∈ (getDocs 3 (some "p") storage noFailures).1 ∧
      ∃ b ∈ allBlobs storage, prepareBlobDocument (some "p") b = .ok d := by
  intro blob storage d
  have hdoc : prepareBlobDocument (some "p") blob = .ok d := prepareBlobDocument_ok _ rfl rfl
  have hall : allBlobs storage = [blob] := rfl
  have hmem : d ∈ (getDocs 3 (some "p") storage noFailures).1 := by
    rw [getDocs_noFailures 3 (some "p") storage (by rw [hall]; exact fun b hb => ⟨d, by
      rw [List.mem_singleton.1 hb, hdoc]⟩), hall]
    simp only [preparedDocuments, List.filterMap_cons, List.filterMap_nil, hdoc]
    exact List.mem_singleton_self d
  exact ⟨hmem, get_docs_yields_prepared 3 (some "p") storage noFailures d hmem⟩

/-! ## Failures anywhere in a listing -/

/-- Every call fails at most `retry_count` times, each time with a retried
exception raised after any number of pages, and then finishes. -/
def WithinRetries (retryCount : Nat) (fails : Failures) : Prop :=
  ∀ i, ∃ m ≤ retryCount, (∀ j < m, ∃ k e, fails i j = some (k, .exception e)) ∧ fails i m = none

theorem mem_replayedPages {pages : List α} {fails : Nat → Option (Nat × ApiException)} {m : Nat}
    {page : α} (h : page ∈ replayedPages pages fails m) : page ∈ pages := by
  obtain ⟨j, -, hj⟩ := List.mem_flatMap.1 h
  unfold Attempt.ofListing at hj
  split at hj
  · exact hj
  · exact List.mem_of_mem_take hj

/-- A listing within its retries yields every page, after the pages its
failed attempts had yielded, and finishes. -/
theorem listingRun_within (pages : List α) {retryCount : Nat}
    {fails : Nat → Option (Nat × ApiException)}
    (h : ∃ m ≤ retryCount, (∀ j < m, ∃ k e, fails j = some (k, .exception e)) ∧ fails m = none) :
    ∃ replayed, (∀ page ∈ replayed, page ∈ pages) ∧
      yields (listingRun retryCount pages fails).1 = replayed ++ pages ∧
      (listingRun retryCount pages fails).2 = .done := by
  obtain ⟨m, hm, hfail, hdone⟩ := h
  obtain ⟨hy, hr⟩ := api_call_listing retryCount pages fails hfail hdone hm
  exact ⟨_, fun _ => mem_replayedPages, hy, hr⟩

theorem mem_flatten_replayed {β : Type} {replayed pages : List (List β)}
    (h : ∀ page ∈ replayed, page ∈ pages) {x : β} :
    x ∈ (replayed ++ pages).flatten ↔ x ∈ pages.flatten := by
  rw [List.flatten_append, List.mem_append]
  refine ⟨fun hx => hx.elim (fun hr => ?_) id, .inr⟩
  obtain ⟨page, hpage, hx⟩ := List.mem_flatten.1 hr
  exact List.mem_flatten.2 ⟨page, h page hpage, hx⟩

theorem mem_preparedDocuments {userProjectId : Option String} {blobs : List (List (String × Value))}
    {d : List (String × Value)} :
    d ∈ preparedDocuments userProjectId blobs ↔
      ∃ blob ∈ blobs, prepareBlobDocument userProjectId blob = .ok d := by
  simp only [preparedDocuments, List.mem_filterMap]
  refine exists_congr fun blob => and_congr_right fun _ => ?_
  cases prepareBlobDocument userProjectId blob <;> simp [Except.toOption]

section Within

variable {retryCount : Nat} {userProjectId : Option String} {storage : Storage}
  {fails : Failures} (hretry : WithinRetries retryCount fails)
include hretry

theorem bucketDocuments_within (i : Nat) (bucketId : String)
    (hprep : ∀ blob ∈ (storage.objectPages bucketId).flatten,
      ∃ d, prepareBlobDocument userProjectId blob = .ok d) :
    (bucketDocuments retryCount userProjectId storage fails i bucketId).2 = none ∧
      ∀ d, d ∈ (bucketDocuments retryCount userProjectId storage fails i bucketId).1 ↔
        ∃ blob ∈ (storage.objectPages bucketId).flatten,
          prepareBlobDocument userProjectId blob = .ok d := by
  obtain ⟨replayed, hrep, hy, hr⟩ := listingRun_within (storage.objectPages bucketId) (hretry i)
  have hall := pagesDocuments_of_prepared fun b hb => hprep b ((mem_flatten_replayed hrep).1 hb)
  simp only [bucketDocuments, hy, hr, listingDocuments, hall]
  exact ⟨trivial, fun d => mem_preparedDocuments.trans
    (exists_congr fun blob => and_congr_left' (mem_flatten_replayed hrep))⟩

theorem bucketPageDocuments_within (page : List String)
    (hprep : ∀ blob ∈ page.flatMap fun bucketId => (storage.objectPages bucketId).flatten,
      ∃ d, prepareBlobDocument userProjectId blob = .ok d) (i : Nat) :
    (bucketPageDocuments retryCount userProjectId storage fails i page).2.1 = none ∧
      ∀ d, d ∈ (bucketPageDocuments retryCount userProjectId storage fails i page).1 ↔
        ∃ blob ∈ page.flatMap (fun bucketId => (storage.objectPages bucketId).flatten),
          prepareBlobDocument userProjectId blob = .ok d := by
  induction page generalizing i with
  | nil => simp [bucketPageDocuments]
  | cons bucketId page ih =>
    rw [List.flatMap_cons] at hprep ⊢
    obtain ⟨hnone, hmem⟩ := bucketDocuments_within hretry i bucketId
      fun b hb => hprep b (List.mem_append_left _ hb)
    obtain ⟨hnone', hmem'⟩ := ih (fun b hb => hprep b (List.mem_append_right _ hb)) (i + 1)
    simp only [bucketPageDocuments, hnone]
    refine ⟨hnone', fun d => ?_⟩
    rw [List.mem_append, hmem, hmem']
    simp only [List.mem_append, or_and_right, exists_or]

theorem bucketPagesDocuments_within (pages : List (List String))
    (hprep : ∀ blob ∈ pages.flatten.flatMap fun bucketId => (storage.objectPages bucketId).flatten,
      ∃ d, prepareBlobDocument userProjectId blob = .ok d) (i : Nat) :
    (bucketPagesDocuments retryCount userProjectId storage fails i pages).2 = none ∧
      ∀ d, d ∈ (bucketPagesDocuments retryCount userProjectId storage fails i pages).1 ↔
        ∃ blob ∈ pages.flatten.flatMap (fun bucketId => (storage.objectPages bucketId).flatten),
          prepareBlobDocument userProjectId blob = .ok d := by
  induction pages generalizing i with
  | nil => simp [bucketPagesDocuments]
  | cons page pages ih =>
    rw [List.flatten_cons, List.flatMap_append] at hprep ⊢
    rw [bucketPagesDocuments]
    split_ifs with hempty
    · rw [List.isEmpty_iff.1 hempty, List.flatMap_nil, List.nil_append] at hprep ⊢
      exact ih hprep i
    · obtain ⟨hnone, hmem⟩ := bucketPageDocuments_within hretry page
        (fun b hb => hprep b (List.mem_append_left _ hb)) i
      obtain ⟨hnone', hmem'⟩ := ih (fun b hb => hprep b (List.mem_append_right _ hb))
        (bucketPageDocuments retryCount userProjectId storage fails i page).2.2
      simp only [hnone]
      refine ⟨hnone', fun d => ?_⟩
      rw [List.mem_append, hmem, hmem']
      simp only [List.mem_append, or_and_right, exists_or]

end Within

end Connectors.Gcs

import Connectors.Python.Runtime

/-!
`GoogleCloudStorageDataSource._api_call` (`connectors/sources/gcs.py`), the
retry wrapper every Google Cloud Storage request goes through. Each pass of
its `while True:` loop is one attempt: it opens an `Aiogoogle` client, makes
the request and yields what comes back (one response, or page after page of
a paginated listing), then leaves by `break`. An `AttributeError` is logged
and raised at once; any other exception counts one retry, is raised when the
count passes `retry_count`, and otherwise is followed by a sleep of
`DEFAULT_WAIT_MULTIPLIER ** retry_counter` seconds and a fresh attempt.

What an attempt does is given per attempt: the items it yields before it
either finishes or raises. The client library, the network and the server
are all in that answer. Exceptions that are not `Exception`s (task
cancellation) pass through both `except` clauses and are not modelled.
-/

namespace Connectors.Gcs

/-- `DEFAULT_RETRY_COUNT` -/
def defaultRetryCount : Nat := 3

/-- `DEFAULT_WAIT_MULTIPLIER` -/
def defaultWaitMultiplier : Nat := 2

/-- An exception raised inside the `try` of `_api_call`, with its `str()`. -/
inductive ApiException where
  | attributeError (message : String)
  | exception (message : String)
  deriving DecidableEq, Repr

def ApiException.str : ApiException → String
  | .attributeError message => message
  | .exception message => message

/-- One attempt: the items it yields, then `none` when it reaches `break`,
or the exception it raises. -/
structure Attempt (α : Type) where
  items : List α
  raises : Option ApiException

/-- The attempt of a call that yields one response: the awaited request
either returns `response`, which is yielded, or raises before anything is
yielded. -/
def Attempt.ofOutcome {α : Type} : Except ApiException α → Attempt α
  | .ok response => ⟨[response], none⟩
  | .error e => ⟨[], some e⟩

theorem Attempt.ofOutcome_raises {α : Type} {o : Except ApiException α} {e : ApiException} :
    (Attempt.ofOutcome o).raises = some e ↔ o = .error e := by
  cases o <;> simp [Attempt.ofOutcome]

/-- What a Google Cloud Storage generator does, in order. -/
inductive Emit (α : Type) where
  /-- An attempt starts: `async with Aiogoogle(...)` opens a new client. -/
  | attempt
  | yield (item : α)
  | sleep (seconds : Nat)
  | logError (message : String)
  | logWarning (message : String)
  deriving DecidableEq, Repr

/-- How a generator ends: it is exhausted, or it raises to its consumer. -/
inductive Result where
  | done
  | raised (e : ApiException)
  deriving DecidableEq, Repr

/-- The line logged before an `AttributeError` is raised again. -/
def attributeErrorMessage (e : String) : String :=
  "Error occurred while generating the resource/method object for an API call. Error: " ++ e

/-- The line logged before a retry. -/
def retryMessage (retryCounter retryCount : Nat) (e : String) : String :=
  "Retry count: " ++ toString retryCounter ++ " out of " ++ toString retryCount ++
    ". Exception: " ++ e

variable {α : Type}

/-- `_api_call` from the attempt made with `retry_counter = counter` on;
`attempt i` is what the attempt after `i` earlier ones does. -/
def apiCallFrom (retryCount : Nat) (attempt : Nat → Attempt α) (counter : Nat) :
    List (Emit α) × Result :=
  let started : List (Emit α) := .attempt :: (attempt counter).items.map .yield
  match (attempt counter).raises with
  | none => (started, .done)
  | some (.attributeError e) =>
    (started ++ [.logError (attributeErrorMessage e)], .raised (.attributeError e))
  | some (.exception e) =>
    if counter + 1 > retryCount then (started, .raised (.exception e))
    else
      let rest := apiCallFrom retryCount attempt (counter + 1)
      (started ++ [.logWarning (retryMessage (counter + 1) retryCount e),
        .sleep (defaultWaitMultiplier ^ (counter + 1))] ++ rest.1, rest.2)
termination_by retryCount + 1 - counter

/-- `_api_call(...)` with `self.retry_count = retryCount`. -/
def apiCall (retryCount : Nat) (attempt : Nat → Attempt α) : List (Emit α) × Result :=
  apiCallFrom retryCount attempt 0

/-- The items a run yields, in order. -/
def yields : List (Emit α) → List α
  | [] => []
  | .yield item :: rest => item :: yields rest
  | _ :: rest => yields rest

/-- A run's attempts and sleeps, in order: its retry schedule. -/
def schedule : List (Emit α) → List (Emit α)
  | [] => []
  | .attempt :: rest => .attempt :: schedule rest
  | .sleep seconds :: rest => .sleep seconds :: schedule rest
  | _ :: rest => schedule rest

section Projections

variable (l l' : List (Emit α))

@[simp] theorem yields_nil : yields ([] : List (Emit α)) = [] := rfl
@[simp] theorem yields_yield (x : α) : yields (.yield x :: l) = x :: yields l := rfl
@[simp] theorem yields_attempt : yields (.attempt :: l) = yields l := rfl
@[simp] theorem yields_sleep (n : Nat) : yields (.sleep n :: l) = yields l := rfl
@[simp] theorem yields_logError (m : String) : yields (.logError m :: l) = yields l := rfl
@[simp] theorem yields_logWarning (m : String) : yields (.logWarning m :: l) = yields l := rfl

@[simp] theorem yields_append : yields (l ++ l') = yields l ++ yields l' := by
  induction l with
  | nil => rfl
  | cons e l ih => cases e <;> simp [ih]

@[simp] theorem yields_map_yield (xs : List α) : yields (xs.map Emit.yield) = xs := by
  induction xs <;> simp [*]

@[simp] theorem schedule_nil : schedule ([] : List (Emit α)) = [] := rfl
@[simp] theorem schedule_attempt : schedule (.attempt :: l) = .attempt :: schedule l := rfl
@[simp] theorem schedule_sleep (n : Nat) : schedule (.sleep n :: l) = .sleep n :: schedule l :=
  rfl
@[simp] theorem schedule_yield (x : α) : schedule (.yield x :: l) = schedule l := rfl
@[simp] theorem schedule_logError (m : String) : schedule (.logError m :: l) = schedule l := rfl
@[simp] theorem schedule_logWarning (m : String) :
    schedule (.logWarning m :: l) = schedule l := rfl

@[simp] theorem schedule_append : schedule (l ++ l') = schedule l ++ schedule l' := by
  induction l with
  | nil => rfl
  | cons e l ih => cases e <;> simp [ih]

@[simp] theorem schedule_map_yield (xs : List α) : schedule (xs.map Emit.yield) = [] := by
  induction xs <;> simp [*]

end Projections

section Unfold

variable {retryCount counter : Nat} {attempt : Nat → Attempt α}

theorem apiCallFrom_done (h : (attempt counter).raises = none) :
    apiCallFrom retryCount attempt counter =
      (.attempt :: (attempt counter).items.map .yield, .done) := by
  rw [apiCallFrom, h]

theorem apiCallFrom_attributeError {e : String}
    (h : (attempt counter).raises = some (.attributeError e)) :
    apiCallFrom retryCount attempt counter =
      (.attempt :: (attempt counter).items.map .yield ++ [.logError (attributeErrorMessage e)],
        .raised (.attributeError e)) := by
  rw [apiCallFrom, h]

theorem apiCallFrom_exhausted {e : String} (h : (attempt counter).raises = some (.exception e))
    (hc : retryCount < counter + 1) :
    apiCallFrom retryCount attempt counter =
      (.attempt :: (attempt counter).items.map .yield, .raised (.exception e)) := by
  rw [apiCallFrom, h]
  simp [hc]

theorem apiCallFrom_retry {e : String} (h : (attempt counter).raises = some (.exception e))
    (hc : counter + 1 ≤ retryCount) :
    apiCallFrom retryCount attempt counter =
      (.attempt :: (attempt counter).items.map .yield ++
          [.logWarning (retryMessage (counter + 1) retryCount e),
            .sleep (defaultWaitMultiplier ^ (counter + 1))] ++
          (apiCallFrom retryCount attempt (counter + 1)).1,
        (apiCallFrom retryCount attempt (counter + 1)).2) := by
  rw [apiCallFrom, h]
  simp [Nat.not_lt.mpr hc]

end Unfold

/-- Whatever its attempts do, a run yields only what some attempt yielded. -/
theorem mem_yields_apiCallFrom {retryCount c : Nat} {attempt : Nat → Attempt α} {x : α}
    (h : x ∈ yields (apiCallFrom retryCount attempt c).1) : ∃ i, x ∈ (attempt i).items := by
  induction c using apiCallFrom.induct retryCount attempt with
  | case1 c hnone =>
    rw [apiCallFrom_done hnone] at h
    exact ⟨c, by simpa using h⟩
  | case2 c e hattr =>
    rw [apiCallFrom_attributeError hattr] at h
    exact ⟨c, by simpa using h⟩
  | case3 c e hexc hlast =>
    rw [apiCallFrom_exhausted hexc hlast] at h
    exact ⟨c, by simpa using h⟩
  | case4 c e hexc hmore ih =>
    rw [apiCallFrom_retry hexc (by omega)] at h
    simp only [yields_append, yields_attempt, yields_map_yield, yields_logWarning, yields_sleep,
      yields_nil, List.append_nil, List.mem_append] at h
    rcases h with h | h
    · exact ⟨c, h⟩
    · exact ih h

/-- The retry schedule of attempts `c, c + 1, ..., j - 1` that failed and
were retried: each attempt, then the sleep of `2 ** (i + 1)` seconds. -/
def backoff (c j : Nat) : List (Emit α) :=
  (List.range' c (j - c)).flatMap fun i => [.attempt, .sleep (2 ^ (i + 1))]

theorem backoff_self (c : Nat) : backoff (α := α) c c = [] := by
  simp [backoff]

theorem backoff_succ {c j : Nat} (h : c < j) :
    backoff (α := α) c j = [.attempt, .sleep (2 ^ (c + 1))] ++ backoff (c + 1) j := by
  obtain ⟨k, rfl⟩ : ∃ k, j = c + 1 + k := ⟨j - c - 1, by omega⟩
  simp [backoff, show c + 1 + k - c = k + 1 by omega, List.range'_succ]

/-- What `_api_call` does with a call that yields one response, from the
attempt made with `retry_counter = c` on: the attempts up to the first one
that does not raise a retried exception (or up to attempt `retry_count`),
each failed one followed by its back-off sleep, and then what that attempt
does. -/
theorem apiCallFrom_outcomes (retryCount : Nat) (outcomes : Nat → Except ApiException α)
    (c : Nat) (hc : c ≤ retryCount) :
    let run := apiCallFrom retryCount (fun i => Attempt.ofOutcome (outcomes i)) c
    ∃ j, c ≤ j ∧ j ≤ retryCount ∧
      (∀ i, c ≤ i → i < j → ∃ e, outcomes i = .error (.exception e)) ∧
      (j < retryCount → ∀ e, outcomes j ≠ .error (.exception e)) ∧
      schedule run.1 = backoff c j ++ [.attempt] ∧
      yields run.1 = (match outcomes j with | .ok response => [response] | .error _ => []) ∧
      run.2 = (match outcomes j with | .ok _ => .done | .error e => .raised e) := by
  induction c using apiCallFrom.induct retryCount (fun i => Attempt.ofOutcome (outcomes i)) with
  | case1 c hnone =>
    refine ⟨c, le_rfl, hc, fun i h1 h2 => absurd h2 (by omega), ?_⟩
    rw [apiCallFrom_done hnone]
    cases ho : outcomes c <;> simp_all [Attempt.ofOutcome, backoff_self]
  | case2 c e hattr =>
    refine ⟨c, le_rfl, hc, fun i h1 h2 => absurd h2 (by omega), ?_⟩
    rw [apiCallFrom_attributeError hattr]
    cases ho : outcomes c <;> simp_all [Attempt.ofOutcome, backoff_self]
  | case3 c e hexc hlast =>
    refine ⟨c, le_rfl, hc, fun i h1 h2 => absurd h2 (by omega), fun h => absurd h (by omega), ?_⟩
    rw [apiCallFrom_exhausted hexc hlast]
    cases ho : outcomes c <;> simp_all [Attempt.ofOutcome, backoff_self]
  | case4 c e hexc hmore ih =>
    have hout : outcomes c = .error (.exception e) := Attempt.ofOutcome_raises.1 hexc
    obtain ⟨j, hj1, hj2, hbefore, hsettled, hsched, hyields, hresult⟩ := ih (by omega)
    have hretry : apiCallFrom retryCount (fun i => Attempt.ofOutcome (outcomes i)) c = _ :=
      apiCallFrom_retry hexc (by omega)
    refine ⟨j, by omega, hj2, fun i h1 h2 => ?_, hsettled, ?_, ?_, by rw [hretry]; exact hresult⟩
    · rcases Nat.eq_or_lt_of_le h1 with rfl | h1
      · exact ⟨e, hout⟩
      · exact hbefore i h1 h2
    · rw [hretry, backoff_succ (by omega), schedule_append, schedule_append, hsched]
      simp [hout, Attempt.ofOutcome, defaultWaitMultiplier]
    · rw [hretry, yields_append, yields_append, hyields]
      simp [hout, Attempt.ofOutcome]

/-- For every `retry_count` and every sequence of outcomes of a call that
yields one response, `_api_call` makes the attempts `0, ..., j` and no more,
where `j ≤ retry_count` is the first attempt that does not raise a retried
exception, or attempt `retry_count` when all of them do. Before attempt
`i + 1` it sleeps `2 ** (i + 1)` seconds. It yields the response of attempt
`j` when that attempt succeeded, and otherwise raises attempt `j`'s
exception: an `AttributeError` at once, any other after the last retry. -/
theorem api_call_retries (retryCount : Nat) (outcomes : Nat → Except ApiException α) :
    let run := apiCall retryCount fun i => Attempt.ofOutcome (outcomes i)
    ∃ j ≤ retryCount, (∀ i < j, ∃ e, outcomes i = .error (.exception e)) ∧
      (j < retryCount → ∀ e, outcomes j ≠ .error (.exception e)) ∧
      schedule run.1 =
        ((List.range j).flatMap fun i => [.attempt, .sleep (2 ^ (i + 1))]) ++ [.attempt] ∧
      yields run.1 = (match outcomes j with | .ok response => [response] | .error _ => []) ∧
      run.2 = (match outcomes j with | .ok _ => .done | .error e => .raised e) := by
  obtain ⟨j, -, hj, hbefore, hrest⟩ := apiCallFrom_outcomes retryCount outcomes 0 (Nat.zero_le _)
  refine ⟨j, hj, fun i hi => hbefore i (Nat.zero_le i) hi, ?_⟩
  simpa [backoff, List.range_eq_range'] using hrest

/-- An attempt of a paginated listing whose pages are `pages`: it yields the
pages one after another and reaches `break`, or, when it fails with `e`
while fetching page `k`, raises `e` after the first `k` pages. -/
def Attempt.ofListing (pages : List α) : Option (Nat × ApiException) → Attempt α
  | none => ⟨pages, none⟩
  | some (k, e) => ⟨pages.take k, some e⟩

/-- The pages a listing yields again and again: for each failed attempt
before attempt `m`, the pages it yielded before it failed. -/
def replayedPages (pages : List α) (fails : Nat → Option (Nat × ApiException)) (m : Nat) :
    List α :=
  (List.range m).flatMap fun i => (Attempt.ofListing pages (fails i)).items

/-- A run whose attempts `c, ..., m - 1` raise retried exceptions and whose
attempt `m ≤ retry_count` finishes yields what each of these attempts
yielded, in order, and ends without raising. -/
theorem apiCallFrom_completes {retryCount c m : Nat} {attempt : Nat → Attempt α}
    (hfail : ∀ i, c ≤ i → i < m → ∃ e, (attempt i).raises = some (.exception e))
    (hdone : (attempt m).raises = none) (hm : m ≤ retryCount) (hc : c ≤ m) :
    yields (apiCallFrom retryCount attempt c).1 =
        (List.range' c (m + 1 - c)).flatMap (fun i => (attempt i).items) ∧
      (apiCallFrom retryCount attempt c).2 = .done := by
  induction c using apiCallFrom.induct retryCount attempt with
  | case1 c hnone =>
    have hcm : c = m := by
      by_contra hne
      obtain ⟨e, he⟩ := hfail c le_rfl (by omega)
      simp [hnone] at he
    subst hcm
    simp [apiCallFrom_done hnone, show c + 1 - c = 1 by omega]
  | case2 c e hattr =>
    rcases Nat.eq_or_lt_of_le hc with rfl | hlt
    · simp [hattr] at hdone
    · obtain ⟨e', he'⟩ := hfail c le_rfl hlt
      simp [hattr] at he'
  | case3 c e hexc hlast =>
    rcases Nat.eq_or_lt_of_le hc with rfl | hlt
    · simp [hexc] at hdone
    · omega
  | case4 c e hexc hmore ih =>
    have hlt : c < m := by
      rcases Nat.eq_or_lt_of_le hc with rfl | hlt
      · simp [hexc] at hdone
      · exact hlt
    obtain ⟨hy, hr⟩ := ih (fun i h1 h2 => hfail i (by omega) h2) (by omega)
    rw [apiCallFrom_retry hexc (by omega)]
    refine ⟨?_, hr⟩
    rw [show m + 1 - c = m + 1 - (c + 1) + 1 by omega, List.range'_succ]
    simp [hy]

/-- A listing whose attempts fail, each with a retried exception, at most
`retry_count` times before one attempt finishes yields, for every failed
attempt, the pages it had yielded before it failed, then every page; and it
ends without raising. -/
theorem api_call_listing (retryCount : Nat) (pages : List α)
    (fails : Nat → Option (Nat × ApiException)) {m : Nat}
    (hfail : ∀ i < m, ∃ k e, fails i = some (k, .exception e)) (hdone : fails m = none)
    (hm : m ≤ retryCount) :
    let run := apiCall retryCount fun i => Attempt.ofListing pages (fails i)
    yields run.1 = replayedPages pages fails m ++ pages ∧ run.2 = .done := by
  have h := @apiCallFrom_completes α retryCount 0 m (fun i => Attempt.ofListing pages (fails i))
    (fun i _ hi => by obtain ⟨k, e, he⟩ := hfail i hi; exact ⟨e, by simp [he, Attempt.ofListing]⟩)
    (by simp [hdone, Attempt.ofListing]) hm (Nat.zero_le m)
  refine ⟨?_, h.2⟩
  rw [apiCall, h.1, Nat.sub_zero, List.range'_concat, List.flatMap_append, ← List.range_eq_range']
  simp [replayedPages, hdone, Attempt.ofListing]

end Connectors.Gcs

import Mathlib.Data.Finset.Basic
import Connectors.Gcs.Document

/-!
`GoogleCloudStorageDataSource.get_content` (`connectors/sources/gcs.py`). It
decides from the document whether to download the object; if so it opens a
`NamedTemporaryFile(delete=False)`, downloads into it through `_api_call`,
converts the file to base64 in place with `convert_to_b64`, reads it back
and removes it.

The files on disk are a finite set of names. `NamedTemporaryFile` creates a
file under a fresh name; leaving its `async with` block closes the file and,
with `delete=False`, keeps it, whether the block ends normally or by an
exception. Only the `remove` at the end deletes it, and an exception of the
download, of `convert_to_b64` or of the read skips that `remove`.

`ping` awaits the first response of an `_api_call` the same way, through
`anext`.

`convert_to_b64` and `TIKA_SUPPORTED_FILETYPES` come from `connectors.utils`,
which is not part of these sources: the first is a step that succeeds,
converting the file in place, or raises; the second is a parameter.
-/

namespace Connectors.Gcs

open Connectors.Python

/-- `DEFAULT_FILE_SIZE_LIMIT` -/
def defaultFileSizeLimit : Nat := 10485760

/-- Why `get_content` raises. `unsupported` stands for an `int()` argument
outside the model. -/
inductive ContentError where
  | keyError (key : String)
  | typeError
  | unsupported
  | stopAsyncIteration
  | api (e : ApiException)
  | convert (message : String)
  | read (message : String)
  deriving DecidableEq, Repr

/-- `d[key]` -/
def dictIndex (d : List (String × Value)) (key : String) : Except ContentError Value :=
  match d.lookup key with
  | some value => .ok value
  | none => .error (.keyError key)

/-- Optional sign and decimal digits, the strings whose `int()` the model
computes. -/
def parseDecimal (s : List Char) : Option Int :=
  let digits (l : List Char) : Option Nat :=
    if l ≠ [] ∧ l.all Char.isDigit then
      some (l.foldl (fun n c => 10 * n + (c.toNat - 48)) 0)
    else none
  match s with
  | '-' :: l => (digits l).map fun n => -(n : Int)
  | '+' :: l => (digits l).map fun n => (n : Int)
  | l => (digits l).map fun n => (n : Int)

/-- `int(value)` for an integer or a string of decimal digits. -/
def pyInt : Value → Except ContentError Int
  | .num n => .ok n
  | .str s =>
    match parseDecimal (strip s).data with
    | some n => .ok n
    | none => .error .unsupported
  | .null => .error .typeError
  | _ => .error .unsupported

/-- `os.path.splitext(path)[-1]` on a POSIX path: from the last dot of the
last component, when that dot follows a character other than a dot. -/
def splitextExt (path : String) : String :=
  let base := (path.data.reverse.takeWhile (· != '/')).reverse
  let afterDot := (base.reverse.takeWhile (· != '.')).reverse
  let stem := base.take (base.length - afterDot.length - 1)
  if base.contains '.' ∧ stem.any (· != '.') then ⟨'.' :: afterDot⟩ else ""

/-- What `anext` returns for a generator: its first item, or what it raises
before one. -/
def anext {α : Type} (run : List (Emit α) × Result) : Except ContentError α :=
  match yields run.1, run.2 with
  | item :: _, _ => .ok item
  | [], .raised e => .error (.api e)
  | [], .done => .error .stopAsyncIteration

/-- What the world does during one call: the name `NamedTemporaryFile`
picks, how each attempt of the download goes, and whether `convert_to_b64`
and the read-back succeed. -/
structure ContentIo where
  tempName : String
  download : Nat → Except ApiException Unit
  convert : Except String Unit
  read : Except String String

/-- The steps of `get_content` from the temporary file on: the files on
disk while it exists, and what the call returns. -/
def downloadToTemp (retryCount : Nat) (blob : List (String × Value))
    (document : List (String × Value)) (io : ContentIo) (files : Finset String) :
    Except ContentError (Option (List (String × Value))) × Finset String :=
  let files := insert io.tempName files
  match dictIndex blob "bucket_name" with
  | .error e => (.error e, files)
  | .ok _ =>
    match anext (apiCall retryCount fun i => Attempt.ofOutcome (io.download i)) with
    | .error e => (.error e, files)
    | .ok () =>
      match io.convert with
      | .error message => (.error (.convert message), files)
      | .ok () =>
        match io.read with
        | .error message => (.error (.read message), files)
        | .ok text =>
          (.ok (some (document ++ [("_attachment", .str (strip text))])), files.erase io.tempName)

/-- `get_content(blob, doit=doit)` with `self.enable_content_extraction`,
`self.retry_count` and `TIKA_SUPPORTED_FILETYPES` given: what it returns or
raises, and the files on disk afterwards. -/
def getContent (enableContentExtraction : Bool) (retryCount : Nat)
    (supportedFiletypes : List String) (blob : List (String × Value)) (doit : Bool)
    (io : ContentIo) (files : Finset String) :
    Except ContentError (Option (List (String × Value))) × Finset String :=
  match dictIndex blob "size" >>= pyInt with
  | .error e => (.error e, files)
  | .ok blobSize =>
    if !(enableContentExtraction && doit && blobSize != 0) then (.ok none, files)
    else
      match dictIndex blob "name" with
      | .error e => (.error e, files)
      | .ok (.str blobName) =>
        if splitextExt blobName ∉ supportedFiletypes then (.ok none, files)
        else if blobSize > defaultFileSizeLimit then (.ok none, files)
        else
          match dictIndex blob "id", dictIndex blob "_timestamp" with
          | .error e, _ => (.error e, files)
          | .ok _, .error e => (.error e, files)
          | .ok id, .ok timestamp =>
            downloadToTemp retryCount blob [("_id", id), ("_timestamp", timestamp)] io files
      | .ok _ => (.error .typeError, files)

/-- The blobs `get_content` downloads: extraction on, `doit`, a size that
`int()` reads with `0 < size ≤ DEFAULT_FILE_SIZE_LIMIT`, a `str` name whose
extension is supported, and an id and a timestamp. -/
structure DownloadsBlob (enableContentExtraction doit : Bool) (supportedFiletypes : List String)
    (blob : List (String × Value)) : Prop where
  extractionEnabled : enableContentExtraction = true
  doitSet : doit = true
  sizeInLimit : ∃ size : Int, (dictIndex blob "size" >>= pyInt) = .ok size ∧ 0 < size ∧
    size ≤ defaultFileSizeLimit
  supportedName : ∃ name, dictIndex blob "name" = .ok (.str name) ∧
    splitextExt name ∈ supportedFiletypes
  hasId : ∃ id, dictIndex blob "id" = .ok id
  hasTimestamp : ∃ timestamp, dictIndex blob "_timestamp" = .ok timestamp

/-- Past the checks on extraction, `doit`, the size and the extension,
`get_content` reads the id and the timestamp and goes on to the temporary
file. -/
theorem getContent_of_checks {enableContentExtraction doit : Bool}
    {supportedFiletypes : List String} {blob : List (String × Value)}
    (hext : enableContentExtraction = true) (hdoit : doit = true)
    (hsize : ∃ size : Int, (dictIndex blob "size" >>= pyInt) = .ok size ∧ 0 < size ∧
      size ≤ defaultFileSizeLimit)
    (hname : ∃ name, dictIndex blob "name" = .ok (.str name) ∧ splitextExt name ∈ supportedFiletypes)
    (retryCount : Nat) (io : ContentIo) (files : Finset String) :
    getContent enableContentExtraction retryCount supportedFiletypes blob doit io files =
      match dictIndex blob "id", dictIndex blob "_timestamp" with
      | .error e, _ => (.error e, files)
      | .ok _, .error e => (.error e, files)
      | .ok id, .ok timestamp =>
        downloadToTemp retryCount blob [("_id", id), ("_timestamp", timestamp)] io files := by
  obtain ⟨size, hsize, hpos, hlimit⟩ := hsize
  obtain ⟨name, hname, hsupp⟩ := hname
  have hnz : (size != 0) = true := by simp; omega
  have hbig : ¬size > defaultFileSizeLimit := by omega
  simp only [getContent, hsize, hext, hdoit, hnz, Bool.and_self, Bool.not_true, hname, hsupp,
    hbig]
  rfl

theorem getContent_of_downloadsBlob {enableContentExtraction doit : Bool}
    {supportedFiletypes : List String} {blob : List (String × Value)}
    (h : DownloadsBlob enableContentExtraction doit supportedFiletypes blob) (retryCount : Nat)
    (io : ContentIo) (files : Finset String) :
    ∃ id timestamp, getContent enableContentExtraction retryCount supportedFiletypes blob doit io
      files = downloadToTemp retryCount blob [("_id", id), ("_timestamp", timestamp)] io files := by
  obtain ⟨id, hid⟩ := h.hasId
  obtain ⟨timestamp, hts⟩ := h.hasTimestamp
  refine ⟨id, timestamp, ?_⟩
  rw [getContent_of_checks h.extractionEnabled h.doitSet h.sizeInLimit h.supportedName, hid, hts]

/-- Once the temporary file exists, the call returns a document exactly when
the bucket lookup, the download, the conversion and the read all succeed,
and only then is the file removed. -/
theorem downloadToTemp_files (retryCount : Nat) (blob document : List (String × Value))
    (io : ContentIo) (files : Finset String) :
    let result := downloadToTemp retryCount blob document io files
    result.2 = (match result.1 with
      | .ok _ => (insert io.tempName files).erase io.tempName
      | .error _ => insert io.tempName files) ∧
    ((∃ d, result.1 = .ok d) ↔ (∃ b, dictIndex blob "bucket_name" = .ok b) ∧
      anext (apiCall retryCount fun i => Attempt.ofOutcome (io.download i)) = .ok () ∧
      io.convert = .ok () ∧ ∃ text, io.read = .ok text) := by
  simp only [downloadToTemp]
  split
  · simp_all
  · split
    · simp_all
    · split
      · simp_all
      · split <;> simp_all

/-- On every blob it downloads, `get_content` leaves the files on disk as
it found them only when the bucket lookup, the download, `convert_to_b64`
and the read all succeed; when one of them raises, the exception reaches the
caller and the `NamedTemporaryFile(delete=False)` stays on disk. -/
theorem get_content_temp_file {enableContentExtraction doit : Bool}
    {supportedFiletypes : List String} {blob : List (String × Value)}
    (h : DownloadsBlob enableContentExtraction doit supportedFiletypes blob) (retryCount : Nat)
    (io : ContentIo) {files : Finset String} (hfresh : io.tempName ∉ files) :
    let result := getContent enableContentExtraction retryCount supportedFiletypes blob doit io files
    result.2 = (match result.1 with
      | .ok _ => files
      | .error _ => insert io.tempName files) ∧
    ((∃ d, result.1 = .ok d) ↔ (∃ b, dictIndex blob "bucket_name" = .ok b) ∧
      anext (apiCall retryCount fun i => Attempt.ofOutcome (io.download i)) = .ok () ∧
      io.convert = .ok () ∧ ∃ text, io.read = .ok text) := by
  obtain ⟨id, timestamp, hget⟩ := getContent_of_downloadsBlob h retryCount io files
  obtain ⟨hfiles, hok⟩ := downloadToTemp_files retryCount blob [("_id", id), ("_timestamp", timestamp)]
    io files
  rw [Finset.erase_insert hfresh] at hfiles
  simp only [hget]
  exact ⟨hfiles, hok⟩

/-- Extraction on, `doit`, a supported `report.pdf` of 1024 bytes. -/
theorem get_content_temp_file_pdf :
    let blob : List (String × Value) := [("id", .str "b/report.pdf/1"), ("name", .str "report.pdf"),
      ("size", .str "1024"), ("_timestamp", .str "2024-01-01T00:00:00Z"), ("bucket_name", .str "b")]
    let io : ContentIo := ⟨"/tmp/tmpab12", fun _ => .error (.exception "503"), .ok (), .ok "eA=="⟩
    DownloadsBlob true true [".pdf"] blob ∧ io.tempName ∉ (∅ : Finset String) ∧
    let result := getContent true 0 [".pdf"] blob true io ∅
    result.2 = (match result.1 with
      | .ok _ => ∅
      | .error _ => insert io.tempName ∅) ∧
    ((∃ d, result.1 = .ok d) ↔ (∃ b, dictIndex blob "bucket_name" = .ok b) ∧
      anext (apiCall 0 fun i => Attempt.ofOutcome (io.download i)) = .ok () ∧
      io.convert = .ok () ∧ ∃ text, io.read = .ok text) := by
  intro blob io
  have h : DownloadsBlob true true [".pdf"] blob :=
    ⟨rfl, rfl, ⟨1024, rfl, by decide, by decide⟩, ⟨"report.pdf", rfl, by decide⟩, ⟨_, rfl⟩, ⟨_, rfl⟩⟩
  have hfresh : io.tempName ∉ (∅ : Finset String) := Finset.not_mem_empty _
  exact ⟨h, hfresh, get_content_temp_file h 0 io hfresh⟩

/-- The first attempt of the download raises and `retry_count` is 0: the
exception reaches the caller and the temporary file stays on disk. -/
theorem get_content_download_error_keeps_temp :
    let blob : List (String × Value) := [("id", .str "b/report.pdf/1"), ("name", .str "report.pdf"),
      ("size", .str "1024"), ("_timestamp", .str "2024-01-01T00:00:00Z"), ("bucket_name", .str "b")]
    let io : ContentIo := ⟨"/tmp/tmpab12", fun _ => .error (.exception "503"), .ok (), .ok "eA=="⟩
    getContent true 0 [".pdf"] blob true io ∅ =
      (.error (.api (.exception "503")), {"/tmp/tmpab12"}) := by
  intro blob io
  have hrun : apiCall 0 (fun i => Attempt.ofOutcome (io.download i)) =
      ([.attempt], .raised (.exception "503")) :=
    apiCallFrom_exhausted rfl (by decide)
  simp only [getContent, downloadToTemp, hrun]
  rfl

/-- A blob without an `id` never reaches the temporary file: `get_content`
returns `None` or raises, and the files on disk stay as they were. -/
theorem getContent_of_id_missing {blob : List (String × Value)}
    (hid : dictIndex blob "id" = .error (.keyError "id")) (enableContentExtraction : Bool)
    (retryCount : Nat) (supportedFiletypes : List String) (doit : Bool) (io : ContentIo)
    (files : Finset String) :
    let result := getContent enableContentExtraction retryCount supportedFiletypes blob doit io files
    result.2 = files ∧ (result.1 = .ok none ∨ ∃ e, result.1 = .error e) := by
  unfold getContent
  simp only [hid]
  split
  · exact ⟨rfl, .inr ⟨_, rfl⟩⟩
  split
  · exact ⟨rfl, .inl rfl⟩
  split
  · exact ⟨rfl, .inr ⟨_, rfl⟩⟩
  · split
    · exact ⟨rfl, .inl rfl⟩
    split
    · exact ⟨rfl, .inl rfl⟩
    · exact ⟨rfl, .inr ⟨_, rfl⟩⟩
  · exact ⟨rfl, .inr ⟨_, rfl⟩⟩

theorem keys_of_prepareBlobDocument {userProjectId : Option String}
    {blob document : List (String × Value)}
    (h : prepareBlobDocument userProjectId blob = .ok document) :
    document.map Prod.fst = blobAdapter.map Prod.fst := by
  unfold prepareBlobDocument at h
  rw [blobDocument_eq] at h
  dsimp only at h
  split at h
  · split at h
    · cases h
      rw [dictInsert_url, List.map_map]
      rfl
    · cases h
  · cases h

/-- The documents `get_docs` passes to `get_content` are those of
`prepare_blob_document`, keyed by the fields of `BLOB_ADAPTER`: they carry
`_id` and no `id`. On each of them `get_content` returns `None` or raises
before it creates a temporary file, and when the checks on extraction,
`doit`, the size and the extension pass it raises `KeyError('id')`. -/
theorem get_content_prepared_document {userProjectId : Option String}
    {blob document : List (String × Value)}
    (hdoc : prepareBlobDocument userProjectId blob = .ok document) (enableContentExtraction : Bool)
    (retryCount : Nat) (supportedFiletypes : List String) (doit : Bool) (io : ContentIo)
    (files : Finset String) :
    let result := getContent enableContentExtraction retryCount supportedFiletypes document doit io
      files
    result.2 = files ∧ (result.1 = .ok none ∨ ∃ e, result.1 = .error e) ∧
    (enableContentExtraction = true → doit = true →
      (∃ size : Int, (dictIndex document "size" >>= pyInt) = .ok size ∧ 0 < size ∧
        size ≤ defaultFileSizeLimit) →
      (∃ name, dictIndex document "name" = .ok (.str name) ∧ splitextExt name ∈ supportedFiletypes) →
      result.1 = .error (.keyError "id")) := by
  have hne : ∀ k ∈ blobAdapter.map Prod.fst, ("id" != k) = true := by decide
  have hnone : document.lookup "id" = none := List.lookup_eq_none_iff.2 fun p hp =>
    hne p.1 (keys_of_prepareBlobDocument hdoc ▸ List.mem_map_of_mem Prod.fst hp)
  have hid : dictIndex document "id" = .error (.keyError "id") := by
    rw [dictIndex, hnone]
  refine ⟨(getContent_of_id_missing hid ..).1, (getContent_of_id_missing hid ..).2, ?_⟩
  intro hext hdoit hsize hname
  rw [getContent_of_checks hext hdoit hsize hname, hid]

/-- `report.pdf` as `get_docs` yields it: even with a download, a conversion
and a read that would all succeed, `get_content` raises `KeyError('id')`. -/
theorem get_content_prepared_document_report :
    let blob : List (String × Value) := [("id", .str "b/report.pdf/1"), ("name", .str "report.pdf"),
      ("size", .str "1024"), ("updated", .str "2024-01-01T00:00:00Z"), ("bucket", .str "b")]
    let document := blobAdapter.map fun field => (field.1, if field.1 = "url" then
      Value.str (consoleUrl "b" (quote "report.pdf" "'") "p") else dictGet blob field.2)
    let io : ContentIo := ⟨"/tmp/tmpab12", fun _ => .ok (), .ok (), .ok "eA=="⟩
    prepareBlobDocument (some "p") blob = .ok document ∧
      getContent true 3 [".pdf"] document true io ∅ = (.error (.keyError "id"), ∅) := by
  intro blob document io
  have hdoc : prepareBlobDocument (some "p") blob = .ok document := prepareBlobDocument_ok _ rfl rfl
  obtain ⟨hfiles, -, hkey⟩ := get_content_prepared_document hdoc true 3 [".pdf"] true io ∅
  exact ⟨hdoc, Prod.ext (hkey rfl rfl ⟨1024, rfl, by decide, by decide⟩
    ⟨"report.pdf", rfl, by decide⟩) hfiles⟩

/-! ## `ping` -/

/-- `anext` of a call that yields one response: the response of the attempt
`j` that settles the call, or what that attempt raised. -/
theorem anext_apiCall {α : Type} (retryCount : Nat) (outcomes : Nat → Except ApiException α) :
    ∃ j ≤ retryCount, (∀ i < j, ∃ e, outcomes i = .error (.exception e)) ∧
      (j < retryCount → ∀ e, outcomes j ≠ .error (.exception e)) ∧
      anext (apiCall retryCount fun i => Attempt.ofOutcome (outcomes i)) =
        (outcomes j).mapError .api := by
  obtain ⟨j, -, hj, hbefore, hsettled, -, hyields, hresult⟩ :=
    apiCallFrom_outcomes retryCount outcomes 0 (Nat.zero_le _)
  refine ⟨j, hj, fun i hi => hbefore i (Nat.zero_le i) hi, hsettled, ?_⟩
  unfold anext apiCall
  rw [hyields, hresult]
  cases outcomes j <;> rfl

/-- `ping()` with `RUNNING_FTEST` given: it returns at once under
`RUNNING_FTEST`, and otherwise awaits the first response of the
`projects.serviceAccount.get` call, attempt `i` of which has the outcome
`outcomes i`; what that raises is logged and raised again. -/
def ping {α : Type} (runningFtest : Bool) (retryCount : Nat)
    (outcomes : Nat → Except ApiException α) : Except ContentError Unit :=
  if runningFtest then .ok ()
  else (anext (apiCall retryCount fun i => Attempt.ofOutcome (outcomes i))).map fun _ => ()

/-- Outside `RUNNING_FTEST`, `ping` settles with the attempt `j` that settles
its call: the first that does not raise a retried exception, or attempt
`retry_count` when all of them do. It returns exactly when attempt `j`
succeeds, and otherwise raises attempt `j`'s exception: an `AttributeError`
at once, any other only after `retry_count` retries. -/
theorem ping_first_settled {α : Type} (retryCount : Nat) (outcomes : Nat → Except ApiException α) :
    ∃ j ≤ retryCount, (∀ i < j, ∃ e, outcomes i = .error (.exception e)) ∧
      (j < retryCount → ∀ e, outcomes j ≠ .error (.exception e)) ∧
      ping false retryCount outcomes = ((outcomes j).map fun _ => ()).mapError .api := by
  obtain ⟨j, hj, hbefore, hsettled, hnext⟩ := anext_apiCall retryCount outcomes
  refine ⟨j, hj, hbefore, hsettled, ?_⟩
  simp only [ping, Bool.false_eq_true, if_false, hnext]
  cases outcomes j <;> rfl

end Connectors.Gcs

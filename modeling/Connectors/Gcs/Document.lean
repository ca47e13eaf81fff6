import Connectors.Python.Quote
import Connectors.Gcs.Source

/-!
`prepare_blob_document` and `get_blob_document` (`connectors/sources/gcs.py`).
A blob is the `dict` the JSON API returns for an object. Its document holds
every field of `BLOB_ADAPTER`, copied by `blob.get`, and then a `url` to the
object's page in the Cloud console: the bucket, the object name quoted with
`safe="'"`, and the project id, through an f-string.

The quoted name holds no `/`, `;`, `?` or `#` and percent-decodes to the
name, so the bucket (which holds no `/`), the name and the project are read
back from the URL: two objects never share a console URL.
-/

namespace Connectors.Gcs

open Connectors.Python

/-- `CLOUD_STORAGE_BASE_URL` -/
def cloudStorageBaseUrl : String := "https://console.cloud.google.com/storage/browser/_details/"

/-- `BLOB_ADAPTER`: each field of the document and the field of the blob it
is copied from, in the order of the `dict`. -/
def blobAdapter : List (String × String) :=
  [("_id", "id"), ("component_count", "componentCount"), ("content_encoding", "contentEncoding"),
   ("content_language", "contentLanguage"), ("created_at", "timeCreated"),
   ("last_updated", "updated"), ("metadata", "metadata"), ("name", "name"), ("size", "size"),
   ("storage_class", "storageClass"), ("_timestamp", "updated"), ("type", "contentType"),
   ("url", "selfLink"), ("version", "generation"), ("bucket_name", "bucket")]

/-- `str(value)` as an f-string writes it, for the values it is given here:
strings, `None`, integers and booleans. -/
def formatValue : Value → Option String
  | .str s => some s
  | .null => some "None"
  | .num n => some (toString n)
  | .bool b => some (if b then "True" else "False")
  | _ => none

/-- `str(self.user_project_id)`: the project id, or `None`. -/
def formatProjectId : Option String → String
  | some p => p
  | none => "None"

/-- The console URL the f-string of `prepare_blob_document` builds. -/
def consoleUrl (bucketName blobName projectId : String) : String :=
  cloudStorageBaseUrl ++ bucketName ++ "/" ++ blobName ++ ";tab=live_object?project=" ++ projectId

/-- Why `prepare_blob_document` raises: `quote` of a name that is not a
`str`, or a bucket the f-string would write as a container's `repr` (outside
the model). -/
inductive DocumentError where
  | typeError (message : String)
  | unsupported
  deriving DecidableEq, Repr

/-- `prepare_blob_document(blob)` -/
def prepareBlobDocument (userProjectId : Option String) (blob : List (String × Value)) :
    Except DocumentError (List (String × Value)) := do
  let blobDocument := blobAdapter.foldl
    (fun document field => dictInsert document field.1 (dictGet blob field.2)) []
  let blobName ← match dictGet blobDocument "name" with
    | .str name => pure (quote name "'")
    | _ => throw (.typeError "quote_from_bytes() expected bytes")
  let bucketName ← match formatValue (dictGet blobDocument "bucket_name") with
    | some bucketName => pure bucketName
    | none => throw .unsupported
  pure (dictInsert blobDocument "url"
    (.str (consoleUrl bucketName blobName (formatProjectId userProjectId))))

/-- A document, then what the rest of the page yields; a document that
raises ends the page. -/
def yieldDocument (document : Except DocumentError (List (String × Value)))
    (rest : List (List (String × Value)) × Option DocumentError) :
    List (List (String × Value)) × Option DocumentError :=
  match document with
  | .ok document => (document :: rest.1, rest.2)
  | .error e => ([], some e)

/-- `get_blob_document(blobs)`: the document of every blob of a page, as the
generator yields them. -/
def getBlobDocument (userProjectId : Option String) :
    List (List (String × Value)) → List (List (String × Value)) × Option DocumentError
  | [] => ([], none)
  | blob :: blobs =>
    yieldDocument (prepareBlobDocument userProjectId blob) (getBlobDocument userProjectId blobs)

/-- Reading a console URL back: the bucket up to the first `/`, the quoted
name up to the next `;`, percent-decoded, and the project id after
`;tab=live_object?project=`. -/
def parseConsoleUrl (url : String) : Option (String × String × String) := do
  let rest ← cloudStorageBaseUrl.data.isPrefixOf? url.data
  let afterBucket ← ['/'].isPrefixOf? (rest.dropWhile (· != '/'))
  let projectId ← ";tab=live_object?project=".data.isPrefixOf?
    (afterBucket.dropWhile (· != ';'))
  let name ← percentDecode ⟨afterBucket.takeWhile (· != ';')⟩
  pure (⟨rest.takeWhile (· != '/')⟩, name, ⟨projectId⟩)

theorem isPrefixOf?_append (l t : List Char) : l.isPrefixOf? (l ++ t) = some t := by
  induction l with
  | nil => cases t <;> rfl
  | cons c l ih => simp [List.isPrefixOf?, ih]

theorem dropWhile_ne_append {c : Char} {l : List Char} (h : c ∉ l) (t : List Char) :
    (l ++ c :: t).dropWhile (· != c) = c :: t := by
  have hl : ∀ a ∈ l, (a != c) = true := fun a ha => bne_iff_ne.2 fun hac => h (hac ▸ ha)
  rw [List.dropWhile_append_of_pos hl]
  simp

theorem takeWhile_ne_append {c : Char} {l : List Char} (h : c ∉ l) (t : List Char) :
    (l ++ c :: t).takeWhile (· != c) = l := by
  have hl : ∀ a ∈ l, (a != c) = true := fun a ha => bne_iff_ne.2 fun hac => h (hac ▸ ha)
  rw [List.takeWhile_append_of_pos hl]
  simp

theorem quote_safe_quote (s : String) :
    (∀ d ∈ (quote s "'").data, d.toNat < 0x80 ∧ d ∉ ['/', ';', '?', '#']) ∧
      percentDecode (quote s "'") = some s :=
  have hsafe : ∀ c ∈ "'".data, c ∉ ['/', ';', '?', '#'] ∧ c ≠ '%' := by decide
  ⟨quote_chars hsafe s, percentDecode_quote hsafe s⟩

/-- A console URL reads back as its bucket, name and project. -/
theorem parseConsoleUrl_consoleUrl {bucketName : String} (hb : '/' ∉ bucketName.data)
    (name projectId : String) :
    parseConsoleUrl (consoleUrl bucketName (quote name "'") projectId) =
      some (bucketName, name, projectId) := by
  obtain ⟨hq, hdec⟩ := quote_safe_quote name
  generalize quote name "'" = q at hq hdec ⊢
  have hsemi : ';' ∉ q.data := fun h => (hq _ h).2 (by simp)
  have hdata : (consoleUrl bucketName q projectId).data = cloudStorageBaseUrl.data ++
      (bucketName.data ++ '/' :: (q.data ++ ';' :: ("tab=live_object?project=".data ++
        projectId.data))) := by
    simp only [consoleUrl, String.data_append, List.append_assoc]
    rfl
  have hslash : ['/'].isPrefixOf? ('/' :: (q.data ++ ';' :: ("tab=live_object?project=".data ++
      projectId.data))) = some (q.data ++ ';' :: ("tab=live_object?project=".data ++
      projectId.data)) := isPrefixOf?_append ['/'] _
  have htab : ";tab=live_object?project=".data.isPrefixOf? (';' :: ("tab=live_object?project=".data ++
      projectId.data)) = some projectId.data := isPrefixOf?_append ";tab=live_object?project=".data _
  simp only [parseConsoleUrl, hdata, isPrefixOf?_append, Option.bind_eq_bind, Option.some_bind]
  rw [dropWhile_ne_append hb, hslash, Option.some_bind, dropWhile_ne_append hsemi, htab,
    Option.some_bind, takeWhile_ne_append hsemi, hdec, Option.some_bind, takeWhile_ne_append hb]
  rfl

theorem blobDocument_eq (blob : List (String × Value)) :
    blobAdapter.foldl (fun document field => dictInsert document field.1 (dictGet blob field.2)) [] =
      blobAdapter.map fun field => (field.1, dictGet blob field.2) := by
  rw [← @dictOf_of_nodup _ (blobAdapter.map fun field => (field.1, dictGet blob field.2))
    (by rw [List.map_map]; exact (by decide : (blobAdapter.map Prod.fst).Nodup)), dictOf, List.foldl_map]

theorem dictGet_blobDocument (blob : List (String × Value)) :
    dictGet (blobAdapter.map fun field => (field.1, dictGet blob field.2)) "name" = dictGet blob "name" ∧
    dictGet (blobAdapter.map fun field => (field.1, dictGet blob field.2)) "bucket_name" = dictGet blob "bucket" :=
  ⟨rfl, rfl⟩

theorem dictInsert_url (blob : List (String × Value)) (v : Value) :
    dictInsert (blobAdapter.map fun field => (field.1, dictGet blob field.2)) "url" v =
      blobAdapter.map fun field => (field.1, if field.1 = "url" then v else dictGet blob field.2) := by
  rw [dictInsert, if_pos (by simp [blobAdapter]), List.map_map]
  refine List.map_congr_left fun field _ => ?_
  by_cases h : field.1 = "url" <;> simp [h]

/-- The document of a blob with a name and a bucket: every field of
`BLOB_ADAPTER` as `blob.get` gives it, except `url`, which is the console
URL. -/
theorem prepareBlobDocument_ok (userProjectId : Option String) {blob : List (String × Value)}
    {name bucketName : String} (hname : dictGet blob "name" = .str name)
    (hbucket : formatValue (dictGet blob "bucket") = some bucketName) :
    prepareBlobDocument userProjectId blob = .ok (blobAdapter.map fun field => (field.1,
      if field.1 = "url" then
        .str (consoleUrl bucketName (quote name "'") (formatProjectId userProjectId))
      else dictGet blob field.2)) := by
  unfold prepareBlobDocument
  rw [blobDocument_eq]
  dsimp only
  rw [(dictGet_blobDocument blob).1, hname, (dictGet_blobDocument blob).2, hbucket]
  dsimp only
  rw [← dictInsert_url]
  rfl

/-- The console URL of an object names its bucket, then its name quoted so
that it holds no delimiter and percent-decodes to the name, then the
project: the URL gives back bucket, name and project, and no two objects
share it. -/
theorem prepare_blob_document_url (userProjectId : Option String) (blob : List (String × Value))
    {name bucketName : String} (hname : dictGet blob "name" = .str name)
    (hbucket : dictGet blob "bucket" = .str bucketName) (hb : '/' ∉ bucketName.data) :
    (prepareBlobDocument userProjectId blob).map (dictGet · "url") =
        .ok (.str (consoleUrl bucketName (quote name "'") (formatProjectId userProjectId))) ∧
      (∀ d ∈ (quote name "'").data, d ∉ ['/', ';', '?', '#']) ∧
      percentDecode (quote name "'") = some name ∧
      parseConsoleUrl (consoleUrl bucketName (quote name "'") (formatProjectId userProjectId)) =
        some (bucketName, name, formatProjectId userProjectId) ∧
      ∀ bucketName' name' projectId', '/' ∉ bucketName'.data →
        consoleUrl bucketName' (quote name' "'") projectId' =
          consoleUrl bucketName (quote name "'") (formatProjectId userProjectId) →
        bucketName' = bucketName ∧ name' = name ∧ projectId' = formatProjectId userProjectId := by
  obtain ⟨hq, hdec⟩ := quote_safe_quote name
  have hparse := parseConsoleUrl_consoleUrl hb name (formatProjectId userProjectId)
  refine ⟨?_, fun d hd => (hq d hd).2, hdec, hparse, fun b' n' p' hb' heq => ?_⟩
  · rw [prepareBlobDocument_ok userProjectId hname (by rw [hbucket]; rfl)]
    rfl
  · have h := parseConsoleUrl_consoleUrl hb' n' p'
    rw [heq, hparse] at h
    simp only [Option.some.injEq, Prod.mk.injEq] at h
    exact ⟨h.1.symm, h.2.1.symm, h.2.2.symm⟩

theorem prepare_blob_document_url_slash :
    dictGet [("name", .str "reports/2024 q1;final.pdf"), ("bucket", .str "b")] "name" =
        .str "reports/2024 q1;final.pdf" ∧
      dictGet [("name", .str "reports/2024 q1;final.pdf"), ("bucket", .str "b")] "bucket" =
        .str "b" ∧ '/' ∉ "b".data ∧
      (prepareBlobDocument (some "p")
          [("name", .str "reports/2024 q1;final.pdf"), ("bucket", .str "b")]).map
          (dictGet · "url") =
        .ok (.str (consoleUrl "b" (quote "reports/2024 q1;final.pdf" "'") "p")) :=
  ⟨rfl, rfl, by decide, (prepare_blob_document_url (some "p")
    [("name", .str "reports/2024 q1;final.pdf"), ("bucket", .str "b")] rfl rfl (by decide)).1⟩

end Connectors.Gcs

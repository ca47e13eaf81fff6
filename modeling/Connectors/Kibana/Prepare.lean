import Connectors.Kibana.Client

/-!
`kibana.py`: `prepare`, which stands in for the clicks in Kibana that set up
a connector, and `upsert_index`, which it calls three times, run on the
client of `Connectors.Kibana.Client`.

`get_source_klass`, `ElasticServer`, `Mappings` and `Settings` are not part
of these sources: `prepare` is taken from the point where the source class
and the client exist, with `klass.get_default_configuration()` and the
mappings and settings of `index_name` as parameters. The log lines are left
out.
-/

namespace Connectors.Kibana

open Connectors.Es

/-- `CONNECTORS_INDEX` -/
def connectorsIndex : String := ".elastic-connectors"

/-- `JOBS_INDEX` -/
def jobsIndex : String := ".elastic-connectors-sync-jobs"

/-- The id of the ingest pipeline `prepare` sets up. -/
def ingestPipelineId : String := "ent-search-generic-ingestion"

/-- `DEFAULT_PIPELINE` -/
def defaultPipeline : Value :=
  .obj [("version", .num 1), ("description", .str "For testing"),
    ("processors", .arr [.obj [("remove", .obj [("tag", .str "remove_meta_fields"),
      ("description", .str "Remove meta fields"),
      ("field", .arr [.str "_attachment", .str "_attachment_indexed_chars",
        .str "_extracted_attachment", .str "_extract_binary_content", .str "_reduce_whitespace",
        .str "_run_ml_inference"]),
      ("ignore_missing", .bool true)])]])]

/-- The pipeline `prepare` puts when the second `get_pipeline` finds none. -/
def fallbackPipeline : Value :=
  .obj [("description", .str "My optional pipeline description"),
    ("processors", .arr [.obj [("set", .obj [("description", .str "My optional processor description"),
      ("field", .str "my-keyword-field"), ("value", .str "foo")])]])]

/-- The connector document `prepare` writes, with
`configuration = klass.get_default_configuration()`. -/
def connectorDocument (indexName serviceType : String) (configuration : Value) : Value :=
  .obj [("api_key_id", .str ""), ("configuration", configuration), ("index_name", .str indexName),
    ("service_type", .str serviceType), ("status", .str "configured"), ("language", .str "en"),
    ("last_sync_status", .str "null"), ("last_sync_error", .str ""), ("last_synced", .str ""),
    ("last_seen", .str ""), ("created_at", .str ""), ("updated_at", .str ""),
    ("filtering", .arr []),
    ("scheduling", .obj [("enabled", .bool true), ("interval", .str "1 * * * * *")]),
    ("pipeline", .obj [("extract_binary_content", .bool true), ("name", .str ingestPipelineId),
      ("reduce_whitespace", .bool true), ("run_ml_inference", .bool true)]),
    ("sync_now", .bool true), ("is_native", .bool true)]

/-! ## `upsert_index` and `prepare` -/

/-- The loop `for doc in docs: es.client.index(index=index, id=doc_id,
document=doc); doc_id += 1`. -/
def indexDocuments (index : String) : Nat → List Value → ClientM Unit
  | _, [] => pure ()
  | docId, doc :: docs => do
    indexDocument index docId doc
    indexDocuments index (docId + 1) docs

/-- `upsert_index(es, index, docs=docs, mappings=mappings, settings=settings)` -/
def upsertIndex (index : String) (docs : Option (List Value)) (mappings settings : Option Value) :
    ClientM Unit := do
  let expandWildcards := if index.startsWith "." then "hidden" else "open"
  let indexExists ← indicesExists index expandWildcards
  if indexExists then indicesDelete index expandWildcards
  indicesCreate index mappings settings
  match docs with
  | none => pure ()
  | some docs => indexDocuments index 1 docs

/-- The two blocks `prepare` opens with, `try: pipeline = await
es.client.ingest.get_pipeline(id="ent-search-generic-ingestion") except
elasticsearch.NotFoundError: await es.client.ingest.put_pipeline(id=..., body=body)`,
the first with `body=DEFAULT_PIPELINE`, the second with the pipeline it builds. -/
def getOrPutPipeline (body : Value) : ClientM Unit :=
  exceptNotFound (do let _ ← getPipeline ingestPipelineId; pure ())
    (putPipeline ingestPipelineId body)

/-- `prepare(service_type, index_name, config)` once the source class and
the client are set up: `configuration` is `klass.get_default_configuration()`,
`mappings` and `settings` those it passes for `index_name`. -/
def prepare (serviceType indexName : String) (configuration mappings settings : Value) :
    ClientM Unit := do
  getOrPutPipeline defaultPipeline
  getOrPutPipeline fallbackPipeline
  tryFinally
    (do
      upsertIndex connectorsIndex (some [connectorDocument indexName serviceType configuration])
        none none
      upsertIndex jobsIndex (some []) none none
      upsertIndex indexName none (some mappings) (some settings))
    close

/-! ## What `prepare` is for -/

/-- The calls `prepare` makes before its `try`. -/
def Call.isPipelineCall : Call → Bool
  | .getPipeline _ | .putPipeline _ _ => true
  | _ => false

/-- The cluster `prepare` is meant to leave: the ingest pipeline kept, or
`DEFAULT_PIPELINE` when there was none; the connectors index holding the one
connector document under id 1, the jobs index empty and `index_name` empty
with its mappings and settings, each created anew; nothing else changed. -/
def preparedCluster (serviceType indexName : String) (configuration mappings settings : Value)
    (c : ClusterState) : ClusterState :=
  (((c.setPipeline ingestPipelineId ((c.pipelines ingestPipelineId).getD defaultPipeline)).setIndex
    connectorsIndex (some ⟨none, none, [(1, connectorDocument indexName serviceType configuration)]⟩)).setIndex
    jobsIndex (some ⟨none, none, []⟩)).setIndex indexName (some ⟨some mappings, some settings, []⟩)

/-! ## What `upsert_index` and `prepare` may change -/

section Touches

variable {pipelines indices : String → Prop}

theorem indexDocuments_touches {index : String} (h : indices index) (start : Nat)
    (docs : List Value) : Touches (indexDocuments index start docs) pipelines indices := by
  induction docs generalizing start with
  | nil => exact Touches.pure ()
  | cons doc docs ih => exact (indexDocument_touches h start doc).bind fun _ => ih (start + 1)

theorem upsertIndex_touches {index : String} (h : indices index) (docs : Option (List Value))
    (mappings settings : Option Value) :
    Touches (upsertIndex index docs mappings settings) pipelines indices := by
  have hdocs : Touches (match docs with
      | none => pure ()
      | some docs => indexDocuments index 1 docs) pipelines indices := by
    cases docs
    · exact Touches.pure ()
    · exact indexDocuments_touches h 1 _
  refine (indicesExists_touches _ _).bind fun indexExists => ?_
  dsimp only
  split
  · exact (indicesDelete_touches h _).bind fun _ => (indicesCreate_touches h _ _).bind fun _ => hdocs
  · exact (Touches.pure _).bind fun _ => (indicesCreate_touches h _ _).bind fun _ => hdocs

end Touches

/-! ## `upsert_index` -/

/-- `c'` differs from `c` at most in the index `index`. -/
def OnlyIndex (index : String) (c c' : ClusterState) : Prop :=
  c'.pipelines = c.pipelines ∧ ∀ name, name ≠ index → c'.indices name = c.indices name

theorem Touches.onlyIndex {x : ClientM Unit} {index : String}
    (h : Touches x (fun _ => False) (· = index)) (conn : Conn) :
    OnlyIndex index conn.cluster (x conn).2.cluster :=
  ⟨funext fun name => (h conn).1 name not_false, (h conn).2⟩

/-- The documents loop, whatever fails: on an index whose ids are all below
`start` it adds `docs` under the ids `start, start + 1, ...`; a call that
raises stops it after the first `k` of them, the `k`-th included when its
answer was lost. -/
theorem indexDocuments_run (index : String) (docs : List Value) :
    ∀ (start : Nat) (conn : Conn) (st : IndexState), conn.cluster.indices index = some st →
      (∀ p ∈ st.documents, p.1 < start) →
      let r := indexDocuments index start docs conn
      (r.1 = .ok () → r.2.cluster.indices index =
        some { st with documents := st.documents ++ docs.enumFrom start }) ∧
      (r.1 ≠ .ok () → ∃ k ≤ docs.length, r.2.cluster.indices index =
        some { st with documents := st.documents ++ (docs.take k).enumFrom start }) := by
  induction docs with
  | nil =>
    intro start conn st hst _
    exact ⟨fun _ => by simp [indexDocuments, pure_run, hst], fun h => absurd rfl h⟩
  | cons doc docs ih =>
    intro start conn st hst hfresh
    let st₁ := { st with documents := st.documents ++ [(start, doc)] }
    have hput : ((conn.cluster.indices index).getD ⟨none, none, []⟩).put start doc = st₁ := by
      rw [hst, Option.getD_some, IndexState.put_of_lt hfresh]
    rw [indexDocuments, bind_run]
    rcases indexDocument_cases conn index start doc with h | ⟨e, h | h⟩
    · rw [hput] at h
      obtain ⟨hok, herr⟩ := ih (start + 1)
        (conn.after (.index index start doc) (conn.cluster.setIndex index (some st₁)))
        _ (setIndex_indices_self _ _ _) (IndexState.lt_succ_of_put hfresh doc)
      rw [h]
      refine ⟨fun hr => (hok hr).trans ?_, fun hr => ?_⟩
      · rw [List.append_assoc, List.singleton_append, List.enumFrom_cons]
      · obtain ⟨k, hk, hrest⟩ := herr hr
        refine ⟨k + 1, Nat.succ_le_succ hk, hrest.trans ?_⟩
        rw [List.append_assoc, List.singleton_append, List.take_succ_cons, List.enumFrom_cons]
    · rw [h]
      exact ⟨fun hr => (nomatch hr), fun _ => ⟨0, Nat.zero_le _, by simp [hst]⟩⟩
    · rw [hput] at h
      rw [h]
      exact ⟨fun hr => (nomatch hr), fun _ => ⟨1, Nat.succ_le_succ (Nat.zero_le _), by simp [st₁]⟩⟩

/-- From the `create` on, whatever fails: the new index holding the first `k`
documents, all of them when nothing raises; the index as it was when the
`create` raises before Elasticsearch carried it out. -/
theorem createAndIndex_run (conn : Conn) (index : String) (docs : Option (List Value))
    (mappings settings : Option Value) :
    let r := (do
      indicesCreate index mappings settings
      match docs with
      | none => pure ()
      | some docs => indexDocuments index 1 docs : ClientM Unit) conn
    (r.1 = .ok () →
      r.2.cluster.indices index = some ⟨mappings, settings, (docs.getD []).enumFrom 1⟩) ∧
    (r.1 ≠ .ok () → r.2.cluster.indices index = conn.cluster.indices index ∨
      ∃ k ≤ (docs.getD []).length,
        r.2.cluster.indices index = some ⟨mappings, settings, ((docs.getD []).take k).enumFrom 1⟩) := by
  rcases indicesCreate_cases conn index mappings settings with h | ⟨e, h | h⟩
  · rw [bind_run, h]
    cases docs with
    | none =>
      exact ⟨fun _ => setIndex_indices_self _ _ _, fun hr => absurd rfl hr⟩
    | some docs =>
      obtain ⟨hok, herr⟩ := indexDocuments_run index docs 1
        (conn.after (.indicesCreate index mappings settings)
          (conn.cluster.setIndex index (some ⟨mappings, settings, []⟩)))
        _ (setIndex_indices_self _ _ _) fun p hp => absurd hp (List.not_mem_nil _)
      exact ⟨hok, fun hr => .inr (herr hr)⟩
  · rw [bind_run, h]
    exact ⟨fun hr => (nomatch hr), fun _ => .inl rfl⟩
  · rw [bind_run, h]
    exact ⟨fun hr => (nomatch hr), fun _ => .inr ⟨0, Nat.zero_le _, setIndex_indices_self _ _ _⟩⟩

/-- What `upsert_index` leaves, whatever fails. When it returns, `index` is a
new index with the given mappings and settings holding exactly `docs`, under
the ids `1, 2, ...`, whatever it held before. When it raises, `index` is as
it was, deleted, or a new index holding only the first `k` of `docs`, none
or all of them included. No other index and no pipeline changes either
way. -/
theorem upsert_index_overrides (conn : Conn) (index : String) (docs : Option (List Value))
    (mappings settings : Option Value) :
    let r := upsertIndex index docs mappings settings conn
    OnlyIndex index conn.cluster r.2.cluster ∧
    (r.1 = .ok () →
      r.2.cluster.indices index = some ⟨mappings, settings, (docs.getD []).enumFrom 1⟩) ∧
    (r.1 ≠ .ok () → r.2.cluster.indices index = conn.cluster.indices index ∨
      r.2.cluster.indices index = none ∨
      ∃ k ≤ (docs.getD []).length,
        r.2.cluster.indices index = some ⟨mappings, settings, ((docs.getD []).take k).enumFrom 1⟩) := by
  refine ⟨(@upsertIndex_touches (fun _ => False) (· = index) index rfl docs mappings settings).onlyIndex
    conn, ?_⟩
  simp only [upsertIndex]
  generalize (if index.startsWith "." = true then "hidden" else "open") = expandWildcards
  let conn₁ := conn.after (.indicesExists index expandWildcards) conn.cluster
  rcases indicesExists_cases conn index expandWildcards with h | ⟨e, h⟩
  · rw [bind_run, h]
    dsimp only
    split_ifs
    · rcases indicesDelete_cases conn₁ index expandWildcards with hd | ⟨e, hd | hd⟩ <;>
        rw [bind_run, hd]
      · obtain ⟨hok, herr⟩ := createAndIndex_run (conn₁.after
          (.indicesDelete index expandWildcards) (conn.cluster.setIndex index none)) index docs
          mappings settings
        exact ⟨hok, fun hr =>
          .inr ((herr hr).imp_left fun hrest => hrest.trans (setIndex_indices_self _ _ _))⟩
      · exact ⟨fun hr => (nomatch hr), fun _ => .inl rfl⟩
      · exact ⟨fun hr => (nomatch hr), fun _ => .inr (.inl (setIndex_indices_self _ _ _))⟩
    · obtain ⟨hok, herr⟩ := createAndIndex_run conn₁ index docs mappings settings
      exact ⟨hok, fun hr => (herr hr).imp_right .inr⟩
  · rw [bind_run, h]
    exact ⟨fun hr => (nomatch hr), fun _ => .inl rfl⟩

/-! ## `prepare`, whatever fails -/

/-- A pipeline block, whatever fails: it touches no index and makes only
pipeline calls. -/
theorem getOrPutPipeline_run (body : Value) (conn : Conn) :
    let r := getOrPutPipeline body conn
    r.2.cluster.indices = conn.cluster.indices ∧
      ∃ made, r.2.calls = conn.calls ++ made ∧ ∀ call ∈ made, call.isPipelineCall := by
  let get := Call.getPipeline ingestPipelineId
  let x : ClientM Unit := do let _ ← getPipeline ingestPipelineId; pure ()
  have hget : (x conn).2 = conn.after get conn.cluster := by
    rcases getPipeline_cases conn ingestPipelineId with ⟨p, -, h⟩ | ⟨e, h⟩ <;>
      simp only [x, bind_run, h, pure_run]
  rcases exceptNotFound_cases x (putPipeline ingestPipelineId body) conn with h | ⟨_, -, h⟩
  · simp only [getOrPutPipeline, h, hget]
    exact ⟨rfl, [get], rfl, by simp [get, Call.isPipelineCall]⟩
  · simp only [getOrPutPipeline, h, hget]
    rcases putPipeline_cases (conn.after get conn.cluster) ingestPipelineId body with h' | ⟨e, h' | h'⟩ <;>
      simp only [h'] <;>
      exact ⟨rfl, [get, _], List.append_assoc _ _ _, by simp [get, Call.isPipelineCall]⟩

/-- `prepare` closes the client whenever it gets to its `try`, whatever fails
there, and raises or returns only after the close. Before the `try` it is
not closed: a pipeline call that raises anything but a `NotFoundError` makes
`prepare` raise with the client still open, having touched no index. -/
theorem prepare_closes (serviceType indexName : String) (configuration mappings settings : Value)
    (conn : Conn) :
    let r := prepare serviceType indexName configuration mappings settings conn
    r.2.calls.getLast? = some .close ∨
      r.1 ≠ .ok () ∧ r.2.cluster.indices = conn.cluster.indices ∧
        ∃ made, r.2.calls = conn.calls ++ made ∧ ∀ call ∈ made, call.isPipelineCall := by
  obtain ⟨hidx₁, made₁, hcalls₁, hmade₁⟩ := getOrPutPipeline_run defaultPipeline conn
  simp only [prepare, bind_run]
  rcases h₁ : getOrPutPipeline defaultPipeline conn with ⟨e | _, conn₁⟩ <;>
    rw [h₁] at hidx₁ hcalls₁ <;> dsimp only at hidx₁ hcalls₁ ⊢
  · exact .inr ⟨fun h => (nomatch h), hidx₁, made₁, hcalls₁, hmade₁⟩
  obtain ⟨hidx₂, made₂, hcalls₂, hmade₂⟩ := getOrPutPipeline_run fallbackPipeline conn₁
  rcases h₂ : getOrPutPipeline fallbackPipeline conn₁ with ⟨e | _, conn₂⟩ <;>
    rw [h₂] at hidx₂ hcalls₂ <;> dsimp only at hidx₂ hcalls₂ ⊢
  · refine .inr ⟨fun h => (nomatch h), hidx₂.trans hidx₁, made₁ ++ made₂, ?_, ?_⟩
    · rw [hcalls₂, hcalls₁, List.append_assoc]
    · simpa only [List.mem_append, or_imp, forall_and] using ⟨hmade₁, hmade₂⟩
  · exact .inl (by simp [tryFinally_close, Conn.after])

/-! ## `prepare` when every call is answered -/

/-- With no fault, the documents loop adds every document. -/
theorem indexDocuments_reliable (index : String) (docs : List Value) :
    ∀ (start : Nat) (conn : Conn) (st : IndexState), (∀ n, conn.faults n = none) →
      conn.cluster.indices index = some st → (∀ p ∈ st.documents, p.1 < start) →
      Returns (indexDocuments index start docs conn)
        (conn.cluster.setIndex index (some { st with documents := st.documents ++ docs.enumFrom start })) := by
  induction docs with
  | nil =>
    intro start conn st hf hst _
    refine ⟨rfl, hf, ?_⟩
    simp only [List.enumFrom_nil, List.append_nil]
    exact (ClusterState.setIndex_of_eq hst).symm
  | cons doc docs ih =>
    intro start conn st hf hst hfresh
    let st₁ := { st with documents := st.documents ++ [(start, doc)] }
    have h : Returns (indexDocument index start doc conn) (conn.cluster.setIndex index (some st₁)) :=
      .after hf (request_ok (hf _) (by simp only [hst, Option.getD_some, IndexState.put_of_lt hfresh]))
    have hrest := ih (start + 1) _ st₁ h.reliable (by rw [h.cluster, setIndex_indices_self])
      (IndexState.lt_succ_of_put hfresh doc)
    rw [indexDocuments]
    refine h.bind ⟨hrest.ok, hrest.reliable, hrest.cluster.trans ?_⟩
    rw [h.cluster, ClusterState.setIndex_setIndex]
    simp only [st₁, List.enumFrom_cons, List.append_assoc, List.singleton_append]

/-- With no fault, `create` and the documents loop on a missing index. -/
theorem createAndIndex_reliable (conn : Conn) (index : String) (docs : Option (List Value))
    (mappings settings : Option Value) (hf : ∀ n, conn.faults n = none)
    (hnone : conn.cluster.indices index = none) :
    Returns ((do
      indicesCreate index mappings settings
      match docs with
      | none => pure ()
      | some docs => indexDocuments index 1 docs : ClientM Unit) conn)
      (conn.cluster.setIndex index (some ⟨mappings, settings, (docs.getD []).enumFrom 1⟩)) := by
  have h : Returns (indicesCreate index mappings settings conn)
      (conn.cluster.setIndex index (some ⟨mappings, settings, []⟩)) :=
    .after hf (request_ok (hf _) (by simp [hnone]))
  refine h.bind ?_
  cases docs with
  | none => exact ⟨rfl, h.reliable, h.cluster⟩
  | some docs =>
    have hrun := indexDocuments_reliable index docs 1 _ ⟨mappings, settings, []⟩ h.reliable
      (by rw [h.cluster, setIndex_indices_self]) fun p hp => absurd hp (List.not_mem_nil _)
    refine ⟨hrun.ok, hrun.reliable, hrun.cluster.trans ?_⟩
    rw [h.cluster, ClusterState.setIndex_setIndex]
    rfl

/-- With no fault, `upsert_index` leaves `index` a new index with the given
mappings and settings holding exactly `docs`, and nothing else changed. -/
theorem upsertIndex_reliable (conn : Conn) (index : String) (docs : Option (List Value))
    (mappings settings : Option Value) (hf : ∀ n, conn.faults n = none) :
    Returns (upsertIndex index docs mappings settings conn)
      (conn.cluster.setIndex index (some ⟨mappings, settings, (docs.getD []).enumFrom 1⟩)) := by
  simp only [upsertIndex]
  generalize (if index.startsWith "." = true then "hidden" else "open") = expandWildcards
  let conn₁ := conn.after (.indicesExists index expandWildcards) conn.cluster
  have hf₁ : ∀ n, conn₁.faults n = none := hf
  have hex : indicesExists index expandWildcards conn =
      (.ok (conn.cluster.indices index).isSome, conn₁) := request_ok (hf _) rfl
  rw [bind_run, hex]
  cases hidx : conn.cluster.indices index with
  | none => exact createAndIndex_reliable conn₁ index docs mappings settings hf hidx
  | some st =>
    have hdel : Returns (indicesDelete index expandWildcards conn₁) (conn.cluster.setIndex index none) :=
      .after hf₁ (request_ok (hf₁ _) (by simp [conn₁, hidx]))
    have hrun := createAndIndex_reliable _ index docs mappings settings hdel.reliable
      (by rw [hdel.cluster, setIndex_indices_self])
    show Returns ((indicesDelete index expandWildcards >>= fun _ => _) conn₁) _
    refine hdel.bind ⟨hrun.ok, hrun.reliable, hrun.cluster.trans ?_⟩
    rw [hdel.cluster, ClusterState.setIndex_setIndex]

/-- With no fault, a pipeline block keeps the pipeline or puts `body`. -/
theorem getOrPutPipeline_reliable (body : Value) (conn : Conn) (hf : ∀ n, conn.faults n = none) :
    Returns (getOrPutPipeline body conn) (conn.cluster.setPipeline ingestPipelineId
      ((conn.cluster.pipelines ingestPipelineId).getD body)) := by
  let get := Call.getPipeline ingestPipelineId
  cases hp : conn.cluster.pipelines ingestPipelineId with
  | some p =>
    have hget : getPipeline ingestPipelineId conn = (.ok p, conn.after get conn.cluster) :=
      request_ok (hf _) (by simp [hp])
    have h : getOrPutPipeline body conn = (.ok (), conn.after get conn.cluster) := by
      simp only [getOrPutPipeline, exceptNotFound, bind_run, hget, pure_run]
    rw [Option.getD_some, ClusterState.setPipeline_of_eq hp]
    exact .after hf h
  | none =>
    let put := Call.putPipeline ingestPipelineId body
    have hget : getPipeline ingestPipelineId conn = (.error notFound, conn.after get conn.cluster) :=
      request_error (hf _) (by simp [hp])
    have hput : putPipeline ingestPipelineId body (conn.after get conn.cluster) =
        (.ok (), (conn.after get conn.cluster).after put (conn.cluster.setPipeline ingestPipelineId body)) :=
      request_ok (hf _) rfl
    have h : getOrPutPipeline body conn =
        (.ok (), (conn.after get conn.cluster).after put (conn.cluster.setPipeline ingestPipelineId body)) := by
      simp only [getOrPutPipeline, exceptNotFound, bind_run, hget, notFound, hput]
    have hf₁ : ∀ n, (conn.after get conn.cluster).faults n = none := hf
    exact .after hf₁ h

/-- With no fault, `prepare` returns and leaves `preparedCluster`. -/
theorem prepare_returns (serviceType indexName : String) (configuration mappings settings : Value)
    (conn : Conn) (hf : ∀ n, conn.faults n = none) :
    Returns (prepare serviceType indexName configuration mappings settings conn)
      (preparedCluster serviceType indexName configuration mappings settings conn.cluster) := by
  have h₁ := getOrPutPipeline_reliable defaultPipeline conn hf
  have h₂ := getOrPutPipeline_reliable fallbackPipeline _ h₁.reliable
  have h₃ := upsertIndex_reliable _ connectorsIndex
    (some [connectorDocument indexName serviceType configuration]) none none h₂.reliable
  have h₄ := upsertIndex_reliable _ jobsIndex (some []) none none h₃.reliable
  have h₅ := upsertIndex_reliable _ indexName none (some mappings) (some settings) h₄.reliable
  refine h₁.bind (h₂.bind (Returns.tryFinally_close (h₃.bind (h₄.bind ?_))))
  refine ⟨h₅.ok, h₅.reliable, h₅.cluster.trans ?_⟩
  rw [h₄.cluster, h₃.cluster, h₂.cluster, h₁.cluster]
  simp [preparedCluster, List.enumFrom_cons]

/-- Run against a cluster that answers every call, `prepare` returns, closes
the client last, and leaves exactly the cluster it is meant to: the pipeline
kept or the default one put (the second pipeline it builds is never put),
and the three indices created anew. -/
theorem prepare_reliable (serviceType indexName : String) (configuration mappings settings : Value)
    (conn : Conn) (hf : ∀ n, conn.faults n = none) :
    let r := prepare serviceType indexName configuration mappings settings conn
    r.1 = .ok () ∧ r.2.calls.getLast? = some .close ∧
      r.2.cluster = preparedCluster serviceType indexName configuration mappings settings conn.cluster := by
  have h₁ := getOrPutPipeline_reliable defaultPipeline conn hf
  have h₂ := getOrPutPipeline_reliable fallbackPipeline _ h₁.reliable
  have hrun := prepare_returns serviceType indexName configuration mappings settings conn hf
  refine ⟨hrun.ok, ?_, hrun.cluster⟩
  simp only [prepare, bind_run_of_ok h₁.ok, bind_run_of_ok h₂.ok, tryFinally_close]
  simp [Conn.after]

/-- The hypothesis of `prepare_reliable` holds of a client whose calls never
fail, on any cluster. -/
theorem prepare_reliable_of_empty :
    let conn : Conn := ⟨⟨fun _ => none, fun _ => none⟩, [], fun _ => none⟩
    (∀ n, conn.faults n = none) ∧
      let r := prepare "gcs" "search-gcs" (.obj []) (.obj []) (.obj []) conn
      r.1 = .ok () ∧ r.2.calls.getLast? = some .close ∧
        r.2.cluster = preparedCluster "gcs" "search-gcs" (.obj []) (.obj []) (.obj []) conn.cluster :=
  ⟨fun _ => rfl, prepare_reliable "gcs" "search-gcs" (.obj []) (.obj []) (.obj []) _ fun _ => rfl⟩

/-- What `preparedCluster` makes of a cluster depends only on its pipelines
and on the indices other than the three it creates anew. -/
theorem preparedCluster_eq_of_agree {serviceType indexName : String}
    {configuration mappings settings : Value} {c c' : ClusterState}
    (hpipelines : c'.pipelines =
      (preparedCluster serviceType indexName configuration mappings settings c).pipelines)
    (hindices : ∀ name, name ≠ connectorsIndex → name ≠ jobsIndex → name ≠ indexName →
      c'.indices name = c.indices name) :
    preparedCluster serviceType indexName configuration mappings settings c' =
      preparedCluster serviceType indexName configuration mappings settings c := by
  ext1
  · simp only [preparedCluster, ClusterState.setIndex_pipelines, ClusterState.setPipeline] at hpipelines ⊢
    rw [hpipelines, Function.update_same, Option.getD_some, Function.update_idem]
  · funext name
    simp only [preparedCluster, ClusterState.setIndex, ClusterState.setPipeline_indices,
      Function.update_apply]
    split_ifs with h₁ h₂ h₃ <;> first | rfl | exact hindices name h₃ h₂ h₁

/-- A second run of `prepare`, against a cluster that answers every call,
resets what the first one set up: whatever was written to the connectors
index, the jobs index and `index_name` in between, it leaves the cluster
exactly as the first run left it, as long as the pipelines and the other
indices are as the first run left them. Running it twice in a row is the
case where nothing was written in between. -/
theorem prepare_resets (serviceType indexName : String) (configuration mappings settings : Value)
    (conn conn' : Conn) (hf : ∀ n, conn.faults n = none) (hf' : ∀ n, conn'.faults n = none)
    (hpipelines : conn'.cluster.pipelines =
      (prepare serviceType indexName configuration mappings settings conn).2.cluster.pipelines)
    (hindices : ∀ name, name ≠ connectorsIndex → name ≠ jobsIndex → name ≠ indexName →
      conn'.cluster.indices name =
        (prepare serviceType indexName configuration mappings settings conn).2.cluster.indices name) :
    (prepare serviceType indexName configuration mappings settings conn').2.cluster =
      (prepare serviceType indexName configuration mappings settings conn).2.cluster := by
  have h := prepare_returns serviceType indexName configuration mappings settings conn hf
  rw [(prepare_returns serviceType indexName configuration mappings settings conn' hf').cluster,
    h.cluster]
  rw [h.cluster] at hpipelines hindices
  refine preparedCluster_eq_of_agree hpipelines fun name h₁ h₂ h₃ => ?_
  rw [hindices name h₁ h₂ h₃]
  simp [preparedCluster, ClusterState.setIndex, Function.update_noteq, h₁, h₂, h₃]

/-- Two runs in a row from a cluster with nothing on it. -/
theorem prepare_resets_twice :
    let conn : Conn := ⟨⟨fun _ => none, fun _ => none⟩, [], fun _ => none⟩
    let prep := prepare "gcs" "search-gcs" (.obj []) (.obj []) (.obj [])
    (∀ n, conn.faults n = none) ∧ (∀ n, (prep conn).2.faults n = none) ∧
      (prep conn).2.cluster.pipelines = (prep conn).2.cluster.pipelines ∧
      (∀ name, name ≠ connectorsIndex → name ≠ jobsIndex → name ≠ "search-gcs" →
        (prep conn).2.cluster.indices name = (prep conn).2.cluster.indices name) ∧
      (prep (prep conn).2).2.cluster = (prep conn).2.cluster :=
  have hf : ∀ n, (prepare "gcs" "search-gcs" (.obj []) (.obj []) (.obj [])
      ⟨⟨fun _ => none, fun _ => none⟩, [], fun _ => none⟩).2.faults n = none :=
    (prepare_returns _ _ _ _ _ _ fun _ => rfl).reliable
  ⟨fun _ => rfl, hf, rfl, fun _ _ _ _ => rfl,
    prepare_resets _ _ _ _ _ _ _ (fun _ => rfl) hf rfl fun _ _ _ _ => rfl⟩

/-- Whatever fails, `prepare` changes no pipeline but
`ent-search-generic-ingestion` and no index but the connectors index, the
jobs index and `index_name`. -/
theorem prepare_frame (serviceType indexName : String) (configuration mappings settings : Value) :
    Touches (prepare serviceType indexName configuration mappings settings) (· = ingestPipelineId)
      fun name => name = connectorsIndex ∨ name = jobsIndex ∨ name = indexName := by
  have hpipeline (body : Value) : Touches (getOrPutPipeline body) (· = ingestPipelineId)
      fun name => name = connectorsIndex ∨ name = jobsIndex ∨ name = indexName :=
    ((getPipeline_touches _).bind fun _ => Touches.pure ()).exceptNotFound
      (@putPipeline_touches (· = ingestPipelineId) _ _ rfl body)
  refine (hpipeline _).bind fun _ => (hpipeline _).bind fun _ => Touches.tryFinally ?_
  exact (upsertIndex_touches (.inl rfl) _ _ _).bind fun _ =>
    (upsertIndex_touches (.inr (.inl rfl)) _ _ _).bind fun _ =>
      upsertIndex_touches (.inr (.inr rfl)) _ _ _

end Connectors.Kibana

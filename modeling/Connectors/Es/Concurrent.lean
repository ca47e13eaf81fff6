import Connectors.Es.Paging
import Mathlib.Data.List.InsertIdx
import Mathlib.Data.List.Nodup

/-!
`get_all_docs` while another client writes to the index. The cluster is
re-read at every search: the search made after `t` earlier searches is
answered from `docsAt t`, the hits left by the writes made so far. Since
the loop advances `from` by the number of hits it has seen, and a write
shifts every hit behind it, `from`/`size` paging is not stable under writes:
a delete before a later page moves a hit that is still there below the next
`from` (it is skipped), and an insert moves an already yielded hit past it
(it is yielded again). What does hold is one half each: with deletes only,
no hit is yielded twice and the loop ends; with inserts only, a run that
ends skips no hit that was there at the first search, but inserts can keep
the loop from ending.

Each hit is in the index at most once (its `_id` is unique), so a position
in a list is a hit's place in the index order.
-/

namespace List

variable {α : Type}

theorem sublist_insertIdx (l : List α) (n : Nat) (x : α) : l.Sublist (l.insertIdx n x) := by
  induction l generalizing n with
  | nil => cases n <;> simp [insertIdx_zero, insertIdx_succ_nil]
  | cons a l ih =>
    cases n with
    | zero => exact (Sublist.refl _).cons x
    | succ n => simpa [insertIdx_succ_cons] using (ih n).cons₂ a

/-- In a list without repeats, an element of a sublist sits no earlier than
it does in the sublist. -/
theorem Sublist.indexOf_le [DecidableEq α] {l₁ l₂ : List α} (h : l₁.Sublist l₂) (hnd : l₂.Nodup)
    {a : α} (ha : a ∈ l₁) : l₁.indexOf a ≤ l₂.indexOf a := by
  induction h with
  | slnil => exact absurd ha (not_mem_nil a)
  | cons x h ih =>
    have hx : x ≠ a := fun hxa => (nodup_cons.mp hnd).1 (hxa ▸ h.subset ha)
    rw [indexOf_cons_ne _ hx]
    exact Nat.le_succ_of_le (ih (nodup_cons.mp hnd).2 ha)
  | cons₂ x h ih =>
    by_cases hx : x = a
    · rw [indexOf_cons_eq _ hx, indexOf_cons_eq _ hx]
    · rw [indexOf_cons_ne _ hx, indexOf_cons_ne _ hx]
      exact Nat.succ_le_succ (ih (nodup_cons.mp hnd).2 ((mem_cons.mp ha).resolve_left (Ne.symm hx)))

end List

namespace Connectors.Es

variable {α β : Type}

/-- A write another client makes to the index between two searches. -/
inductive Write (α : Type) where
  | delete (hit : α)
  | insert (position : Nat) (hit : α)

variable [DecidableEq α]

def Write.apply : Write α → List α → List α
  | .delete hit, docs => docs.erase hit
  | .insert position hit, docs => docs.insertIdx position hit

def Write.isDelete : Write α → Bool
  | .delete _ => true
  | .insert _ _ => false

/-- The hits after the writes `ws`, made in order. -/
def applyWrites (ws : List (Write α)) (docs : List α) : List α :=
  ws.foldl (fun docs w => w.apply docs) docs

/-- The hits the search made after `t` earlier searches sees: the first
search sees `docs₀`, and `writes t` are made between search `t` and search
`t + 1`. -/
def docsAt (docs₀ : List α) (writes : Nat → List (Write α)) : Nat → List α
  | 0 => docs₀
  | t + 1 => applyWrites (writes t) (docsAt docs₀ writes t)

/-- A cluster that answers each search from the hits there at that moment. -/
def liveCluster (docs : Nat → List α) : Cluster α :=
  { refresh := .ok (), search := fun t request => .ok (answer (docs t) request) }

section Lists

theorem applyWrites_sublist_of_deletes {ws : List (Write α)} (hws : ∀ w ∈ ws, w.isDelete)
    (docs : List α) : (applyWrites ws docs).Sublist docs := by
  induction ws generalizing docs with
  | nil => exact List.Sublist.refl _
  | cons w ws ih =>
    cases w with
    | delete hit =>
      exact (ih (fun w hw => hws w (.tail _ hw)) _).trans (List.erase_sublist hit docs)
    | insert => simp [Write.isDelete] at hws

theorem sublist_applyWrites_of_inserts {ws : List (Write α)} (hws : ∀ w ∈ ws, !w.isDelete)
    (docs : List α) : docs.Sublist (applyWrites ws docs) := by
  induction ws generalizing docs with
  | nil => exact List.Sublist.refl _
  | cons w ws ih =>
    cases w with
    | delete => simp [Write.isDelete] at hws
    | insert position hit =>
      exact (docs.sublist_insertIdx position hit).trans (ih (fun w hw => hws w (.tail _ hw)) _)

/-- In a list without repeats, the page `docs[o : o + p]` holds exactly the
hits whose place is in `[o, o + p)`. -/
theorem mem_page_iff {docs : List α} (hnd : docs.Nodup) {o p : Nat} {a : α} :
    a ∈ (docs.drop o).take p ↔ a ∈ docs ∧ o ≤ docs.indexOf a ∧ docs.indexOf a < o + p := by
  constructor
  · intro ha
    obtain ⟨i, hi, rfl⟩ := List.mem_take_iff_getElem.mp ha
    simp only [List.length_drop, Nat.lt_min] at hi
    rw [List.getElem_drop, List.indexOf_getElem hnd]
    exact ⟨List.getElem_mem _, by omega, by omega⟩
  · rintro ⟨ha, hlo, hhi⟩
    have hlt := List.indexOf_lt_length.mpr ha
    refine List.mem_take_iff_getElem.mpr ⟨docs.indexOf a - o, ?_, ?_⟩
    · simp only [List.length_drop, Nat.lt_min]
      omega
    · rw [List.getElem_drop]
      simp only [Nat.add_sub_cancel' hlo, List.getElem_indexOf]

omit [DecidableEq α] in
theorem page_nodup {docs : List α} (hnd : docs.Nodup) (o p : Nat) :
    ((docs.drop o).take p).Nodup :=
  hnd.sublist ((List.take_sublist _ _).trans (List.drop_sublist _ _))

end Lists

section Live

variable (idx : ESIndex α β) (docs : Nat → List α) (query : Value) (pageSize : Nat)
  {s s' : Paging} {events : List (Event β)} {result : Outcome}

/-- The page the live cluster answers in state `s`. -/
def livePage (s : Paging) : List α := ((docs s.searches).drop s.offset).take pageSize

omit [DecidableEq α] in
/-- A page that does not end the loop is full: `page_size` hits. -/
theorem livePage_length_of_lt (hs : s.count = s.offset)
    (hlt : s.count + (livePage docs pageSize s).length < (docs s.searches).length) :
    (livePage docs pageSize s).length = pageSize := by
  simp only [livePage, List.length_take, List.length_drop] at hlt ⊢
  omega

omit [DecidableEq α] in
theorem livePageStep_next
    (h : idx.pageStep (liveCluster docs) query pageSize s = .next events s') :
    s.count + (livePage docs pageSize s).length < (docs s.searches).length ∧
      yields events = (livePage docs pageSize s).map idx.createObject ∧
      s' = ⟨s.count + (livePage docs pageSize s).length,
        s.offset + (livePage docs pageSize s).length, s.searches + 1⟩ := by
  obtain ⟨resp, hresp, hlt, rfl, rfl⟩ := pageStep_eq_next idx _ query pageSize h
  cases hresp
  exact ⟨hlt, by simp only [yields_search, yields_map_yield]; rfl, rfl⟩

omit [DecidableEq α] in
theorem livePageStep_exit
    (h : idx.pageStep (liveCluster docs) query pageSize s = .exit events result) :
    (docs s.searches).length ≤ s.count + (livePage docs pageSize s).length ∧
      yields events = (livePage docs pageSize s).map idx.createObject ∧ result = .returned := by
  rcases pageStep_eq_exit idx _ query pageSize h with
    ⟨resp, hresp, hle, rfl, rfl⟩ | ⟨_, _, hresp, -⟩ | ⟨_, hresp, -⟩
  · cases hresp
    exact ⟨hle, by simp only [yields_search, yields_map_yield]; rfl, rfl⟩
  · cases hresp
  · cases hresp

/-- With deletes only, every hit the run yields is at or past the current
`from`, and none twice: a hit behind a page only moves forward. -/
theorem live_run_nodup (hnd : ∀ t, (docs t).Nodup) (hdel : ∀ t, (docs (t + 1)).Sublist (docs t))
    {fuel : Nat} {run : List (Event β) × Outcome}
    (hrun : whileTrue (idx.pageStep (liveCluster docs) query pageSize) fuel s = some run)
    (hs : s.count = s.offset) :
    ∃ hits : List α, yields run.1 = hits.map idx.createObject ∧ hits.Nodup ∧
      ∀ a ∈ hits, a ∈ docs s.searches ∧ s.offset ≤ (docs s.searches).indexOf a := by
  refine whileTrue_induction (fun s events _ => s.count = s.offset →
    ∃ hits : List α, yields events = hits.map idx.createObject ∧ hits.Nodup ∧
      ∀ a ∈ hits, a ∈ docs s.searches ∧ s.offset ≤ (docs s.searches).indexOf a) ?_ ?_ hrun hs
  · intro s events result hb _
    obtain ⟨-, hyields, -⟩ := livePageStep_exit idx docs query pageSize hb
    exact ⟨_, hyields, page_nodup (hnd _) _ _,
      fun a ha => ((mem_page_iff (hnd _)).mp ha).imp_right And.left⟩
  · intro s s' events rest result hb ih hs
    obtain ⟨hlt, hyields, rfl⟩ := livePageStep_next idx docs query pageSize hb
    have hfull := livePage_length_of_lt docs pageSize hs hlt
    obtain ⟨hits, hrest, hnodup, hplace⟩ := ih (by simp [hs])
    refine ⟨livePage docs pageSize s ++ hits, by simp [hyields, hrest], ?_, ?_⟩
    · refine List.nodup_append.mpr ⟨page_nodup (hnd _) _ _, hnodup, fun a ha hb => ?_⟩
      obtain ⟨-, -, hbefore⟩ := (mem_page_iff (hnd _)).mp ha
      obtain ⟨hmem, hafter⟩ := hplace a hb
      have := (hdel s.searches).indexOf_le (hnd _) hmem
      simp only at hafter
      omega
    · intro a ha
      rcases List.mem_append.mp ha with ha | ha
      · exact ((mem_page_iff (hnd _)).mp ha).imp_right And.left
      · obtain ⟨hmem, hafter⟩ := hplace a ha
        have := (hdel s.searches).indexOf_le (hnd _) hmem
        exact ⟨(hdel s.searches).subset hmem, by simp at hafter; omega⟩

omit [DecidableEq α] in
/-- With deletes only, the loop leaves once `from` passes the hits left:
each page that does not end the loop has at least one hit. -/
theorem live_run_returns (hps : 0 < pageSize) (hdel : ∀ t, (docs (t + 1)).Sublist (docs t)) :
    ∀ fuel (s : Paging), s.count = s.offset → (docs s.searches).length - s.offset < fuel →
      ∃ events, whileTrue (idx.pageStep (liveCluster docs) query pageSize) fuel s =
        some (events, .returned) := by
  intro fuel
  induction fuel with
  | zero => intro s _ h; omega
  | succ fuel ih =>
    intro s hs hlen
    cases hb : idx.pageStep (liveCluster docs) query pageSize s with
    | exit events result =>
      obtain ⟨-, -, rfl⟩ := livePageStep_exit idx docs query pageSize hb
      exact ⟨events, whileTrue_exit fuel hb⟩
    | next events s' =>
      obtain ⟨hlt, -, rfl⟩ := livePageStep_next idx docs query pageSize hb
      have hpage : 0 < (livePage docs pageSize s).length := by
        simp only [livePage, List.length_take, List.length_drop]
        omega
      have hshrink := (hdel s.searches).length_le
      obtain ⟨rest, hrest⟩ := ih ⟨s.count + (livePage docs pageSize s).length,
        s.offset + (livePage docs pageSize s).length, s.searches + 1⟩ (by simp [hs])
        (by simp only; omega)
      exact ⟨_, by rw [whileTrue_next fuel hb, hrest]; rfl⟩

/-- With inserts only, a hit at or past the current `from` is yielded before
the loop leaves: hits added in front only push it back. -/
theorem live_run_complete (hnd : ∀ t, (docs t).Nodup)
    (hins : ∀ t, (docs t).Sublist (docs (t + 1))) {fuel : Nat} {run : List (Event β) × Outcome}
    (hrun : whileTrue (idx.pageStep (liveCluster docs) query pageSize) fuel s = some run)
    (hs : s.count = s.offset) :
    ∀ a ∈ docs s.searches, s.offset ≤ (docs s.searches).indexOf a →
      idx.createObject a ∈ yields run.1 := by
  refine whileTrue_induction (fun s events _ => s.count = s.offset →
    ∀ a ∈ docs s.searches, s.offset ≤ (docs s.searches).indexOf a →
      idx.createObject a ∈ yields events) ?_ ?_ hrun hs
  · intro s events result hb hs a ha hafter
    obtain ⟨hlast, hyields, -⟩ := livePageStep_exit idx docs query pageSize hb
    have hlt := List.indexOf_lt_length.mpr ha
    have hlen : (livePage docs pageSize s).length ≤ pageSize := List.length_take_le _ _
    rw [hyields]
    exact List.mem_map_of_mem _ ((mem_page_iff (hnd _)).mpr ⟨ha, hafter, by omega⟩)
  · intro s s' events rest result hb ih hs a ha hafter
    obtain ⟨hlt, hyields, rfl⟩ := livePageStep_next idx docs query pageSize hb
    have hfull := livePage_length_of_lt docs pageSize hs hlt
    rw [yields_append, List.mem_append, hyields]
    by_cases hin : (docs s.searches).indexOf a < s.offset + (livePage docs pageSize s).length
    · exact .inl (List.mem_map_of_mem _ ((mem_page_iff (hnd _)).mpr ⟨ha, hafter, by omega⟩))
    · have := (hins s.searches).indexOf_le (hnd _) ha
      exact .inr (ih (by simp [hs]) a ((hins s.searches).subset ha) (by simp; omega))

end Live

section Writes

variable {docs₀ : List α} {writes : Nat → List (Write α)}

theorem docsAt_sublist_of_deletes (hdel : ∀ t, ∀ w ∈ writes t, w.isDelete) (t : Nat) :
    (docsAt docs₀ writes (t + 1)).Sublist (docsAt docs₀ writes t) :=
  applyWrites_sublist_of_deletes (hdel t) _

theorem docsAt_sublist_of_inserts (hins : ∀ t, ∀ w ∈ writes t, !w.isDelete) (t : Nat) :
    (docsAt docs₀ writes t).Sublist (docsAt docs₀ writes (t + 1)) :=
  sublist_applyWrites_of_inserts (hins t) _

theorem docsAt_nodup_of_deletes (hnd : docs₀.Nodup) (hdel : ∀ t, ∀ w ∈ writes t, w.isDelete) :
    ∀ t, (docsAt docs₀ writes t).Nodup
  | 0 => hnd
  | t + 1 => (docsAt_nodup_of_deletes hnd hdel t).sublist (docsAt_sublist_of_deletes hdel t)

end Writes

variable (idx : ESIndex α β) (query : Option Value) (pageSize : Nat) (docs₀ : List α)
  (writes : Nat → List (Write α))

end Connectors.Es

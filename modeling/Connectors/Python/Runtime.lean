import Mathlib.Data.List.Basic
import Mathlib.Algebra.Group.Nat.Basic

/-!
The pieces of the Python runtime that the connectors' code leans on. A
`dict` passed to the search client is a JSON `Value`. A `while True:` loop
is a body that either goes round again from a new state or leaves with a
result; `whileTrue` runs it for at most `fuel` passes, so a loop that the
code does not bound (a paging loop against a server that keeps answering)
is a run that may run out of fuel, never one assumed to stop.
-/

namespace Connectors

/-- A JSON document as the search client takes it: a Python `dict`, `list`,
`str`, `int`, `bool` or `None`. -/
inductive Value where
  | null
  | bool (b : Bool)
  | num (n : Int)
  | str (s : String)
  | arr (items : List Value)
  | obj (members : List (String × Value))
  deriving Repr

/-! ## `dict` -/

/-- `d.get(key)`: `None` when the key is absent. -/
def dictGet (d : List (String × Value)) (key : String) : Value := (d.lookup key).getD .null

/-- `d[key] = value` on a `dict` kept in insertion order. -/
def dictInsert {β : Type} (m : List (String × β)) (key : String) (value : β) :
    List (String × β) :=
  if m.any (fun p => p.1 == key) then m.map (fun p => if p.1 = key then (key, value) else p)
  else m ++ [(key, value)]

/-- `dict(pairs)`: a later value for a key replaces an earlier one. -/
def dictOf {β : Type} (pairs : List (String × β)) : List (String × β) :=
  pairs.foldl (fun m p => dictInsert m p.1 p.2) []

theorem foldl_dictInsert {β : Type} (m : List (String × β)) : ∀ acc : List (String × β),
    ((acc ++ m).map Prod.fst).Nodup → m.foldl (fun d p => dictInsert d p.1 p.2) acc = acc ++ m := by
  induction m with
  | nil => simp
  | cons p m ih =>
    intro acc h
    have hp : p.1 ∉ acc.map Prod.fst := by
      rw [List.map_append, List.map_cons] at h
      exact fun hmem => (List.pairwise_append.1 h).2.2 _ hmem _ (List.mem_cons_self _ _) rfl
    have hins : dictInsert acc p.1 p.2 = acc ++ [p] := by
      simp only [dictInsert, List.any_eq_true, beq_iff_eq]
      rw [if_neg (by simpa using hp)]
    rw [List.foldl_cons, hins, ih (acc ++ [p]) (by simpa using h)]
    simp

/-- On distinct keys `dict(pairs)` keeps every pair, in order. -/
theorem dictOf_of_nodup {β : Type} {m : List (String × β)} (h : (m.map Prod.fst).Nodup) : dictOf m = m :=
  foldl_dictInsert m [] h

/-- What one pass through the body of a `while True:` loop does: it emits
events, then either goes round again from a new state or leaves the loop
with a result (by `break`, `return` or a raise). -/
inductive Iteration (σ ε ρ : Type) where
  | next (events : List ε) (state : σ)
  | exit (events : List ε) (result : ρ)

/-- A `while True:` loop run for at most `fuel` passes: the events of every
pass in order and the result it left with, or `none` when the fuel ran out
first. -/
def whileTrue {σ ε ρ : Type} (body : σ → Iteration σ ε ρ) : Nat → σ → Option (List ε × ρ)
  | 0, _ => none
  | fuel + 1, s =>
    match body s with
    | .exit events result => some (events, result)
    | .next events s' =>
      (whileTrue body fuel s').map fun run => (events ++ run.1, run.2)

/-- The events of at most `fuel` passes of a `while True:` loop, whether or
not it leaves within them: what a consumer has seen of a run it stops
following, or of one that never ends. -/
def whileTrueTrace {σ ε ρ : Type} (body : σ → Iteration σ ε ρ) : Nat → σ → List ε
  | 0, _ => []
  | fuel + 1, s =>
    match body s with
    | .exit events _ => events
    | .next events s' => events ++ whileTrueTrace body fuel s'

section WhileTrue

variable {σ ε ρ : Type} {body : σ → Iteration σ ε ρ} {s s' : σ} {events : List ε}

@[simp] theorem whileTrue_zero (s : σ) : whileTrue body 0 s = none := rfl

theorem whileTrue_exit {result : ρ} (fuel : Nat) (h : body s = .exit events result) :
    whileTrue body (fuel + 1) s = some (events, result) := by
  simp [whileTrue, h]

theorem whileTrue_next (fuel : Nat) (h : body s = .next events s') :
    whileTrue body (fuel + 1) s =
      (whileTrue body fuel s').map fun run => (events ++ run.1, run.2) := by
  simp [whileTrue, h]

/-- A run that left the loop did so through a pass whose body exits: every
event list it returns is the events of passes that went round, then the
events of the pass that left. -/
theorem whileTrue_induction (P : σ → List ε → ρ → Prop)
    (hexit : ∀ s events result, body s = .exit events result → P s events result)
    (hnext : ∀ s s' events rest result, body s = .next events s' →
      P s' rest result → P s (events ++ rest) result)
    {fuel : Nat} {run : List ε × ρ} (h : whileTrue body fuel s = some run) :
    P s run.1 run.2 := by
  induction fuel generalizing s run with
  | zero => simp at h
  | succ fuel ih =>
    cases hb : body s with
    | exit events result =>
      rw [whileTrue_exit fuel hb] at h
      cases h
      exact hexit s events result hb
    | next events s' =>
      rw [whileTrue_next fuel hb] at h
      obtain ⟨rest, hrest, rfl⟩ := Option.map_eq_some'.mp h
      exact hnext s s' events rest.1 rest.2 hb (ih hrest)

/-- A run that left the loop within the fuel emitted exactly its trace. -/
theorem whileTrueTrace_of_eq_some {fuel : Nat} {run : List ε × ρ}
    (h : whileTrue body fuel s = some run) : whileTrueTrace body fuel s = run.1 := by
  induction fuel generalizing s run with
  | zero => simp at h
  | succ fuel ih =>
    cases hb : body s with
    | exit events result =>
      rw [whileTrue_exit fuel hb] at h
      cases h
      simp [whileTrueTrace, hb]
    | next events s' =>
      rw [whileTrue_next fuel hb] at h
      obtain ⟨rest, hrest, rfl⟩ := Option.map_eq_some'.mp h
      simp [whileTrueTrace, hb, ih hrest]

end WhileTrue

end Connectors

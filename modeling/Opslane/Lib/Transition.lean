import Mathlib.Logic.Function.Basic
import Mathlib.Data.List.Basic

/-!
# Runs of a deterministic system

A `Machine` takes one action at a time; an action the system refuses leaves the
state as it is, so `step` is total and a run is a fold. `invariant_run` packages
the induction over a run; `Guarded` and `invariant_guarded` do the same for the
runs whose every action meets a condition on the state it is taken in.
`at_most_once` is the argument for idempotency keys: an effect that spends its key
happens once in a run.
-/

namespace Transition

universe u v w

structure Machine (σ : Type u) (α : Type v) where
  step : σ → α → σ

namespace Machine

variable {σ : Type u} {α : Type v} {ι : Type w}

def run (m : Machine σ α) (s : σ) (actions : List α) : σ :=
  actions.foldl m.step s

@[simp] theorem run_nil (m : Machine σ α) (s : σ) : m.run s [] = s := rfl

@[simp] theorem run_cons (m : Machine σ α) (s : σ) (a : α) (rest : List α) :
    m.run s (a :: rest) = m.run (m.step s a) rest := rfl

theorem run_append (m : Machine σ α) (s : σ) (before after : List α) :
    m.run s (before ++ after) = m.run (m.run s before) after := by
  simp [run, List.foldl_append]

/-- Every action meets `guard` in the state it is taken in. -/
def Guarded (m : Machine σ α) (guard : σ → α → Prop) : σ → List α → Prop
  | _, [] => True
  | s, a :: rest => guard s a ∧ Guarded m guard (m.step s a) rest

instance decidableGuarded (m : Machine σ α) (guard : σ → α → Prop)
    [∀ s a, Decidable (guard s a)] : ∀ s actions, Decidable (m.Guarded guard s actions)
  | _, [] => isTrue trivial
  | s, a :: rest =>
    have := decidableGuarded m guard (m.step s a) rest
    inferInstanceAs (Decidable (guard s a ∧ m.Guarded guard (m.step s a) rest))

theorem guarded_append (m : Machine σ α) (guard : σ → α → Prop) (s : σ) (before after : List α) :
    m.Guarded guard s (before ++ after) ↔
      m.Guarded guard s before ∧ m.Guarded guard (m.run s before) after := by
  induction before generalizing s with
  | nil => simp [Guarded]
  | cons a rest ih => simp [Guarded, ih, and_assoc]

theorem Guarded.and {m : Machine σ α} {guard guard' : σ → α → Prop} {s : σ} {actions : List α}
    (guarded : m.Guarded guard s actions) (guarded' : m.Guarded guard' s actions) :
    m.Guarded (fun s a => guard s a ∧ guard' s a) s actions := by
  induction actions generalizing s with
  | nil => trivial
  | cons a rest ih => exact ⟨⟨guarded.1, guarded'.1⟩, ih guarded.2 guarded'.2⟩

theorem invariant_guarded (m : Machine σ α) {guard : σ → α → Prop} (inv : σ → Prop)
    (keep : ∀ s a, inv s → guard s a → inv (m.step s a)) {s : σ} {actions : List α}
    (start : inv s) (guarded : m.Guarded guard s actions) : inv (m.run s actions) := by
  induction actions generalizing s with
  | nil => exact start
  | cons a rest ih => exact ih (keep s a start guarded.1) guarded.2

theorem invariant_run (m : Machine σ α) (inv : σ → Prop)
    (keep : ∀ s a, inv s → inv (m.step s a)) {s : σ} (start : inv s) (actions : List α) :
    inv (m.run s actions) := by
  induction actions generalizing s with
  | nil => exact start
  | cons a rest ih => exact ih (keep s a start)

theorem lockstep {τ : Type w} (m : Machine σ α) (m' : Machine τ α) {guard : σ → α → Prop}
    (related : σ → τ → Prop)
    (keep : ∀ s t a, related s t → guard s a → related (m.step s a) (m'.step t a)) {s : σ} {t : τ}
    {actions : List α} (start : related s t) (guarded : m.Guarded guard s actions) :
    related (m.run s actions) (m'.run t actions) := by
  induction actions generalizing s t with
  | nil => exact start
  | cons a rest ih => exact ih (keep s t a start guarded.1) guarded.2

theorem at_most_once (m : Machine σ α) {β : Type w} (view : σ → β) (spent : σ → Prop)
    (uses : α → Prop) (keep : ∀ s a, spent s → spent (m.step s a))
    (spends : ∀ s a, uses a → view (m.step s a) ≠ view s → ¬spent s ∧ spent (m.step s a))
    (s : σ) (before mid : List α) {a b : α} (first : uses a) (second : uses b)
    (changed : view (m.run s (before ++ [a])) ≠ view (m.run s before)) :
    view (m.run s (before ++ a :: mid ++ [b])) = view (m.run s (before ++ a :: mid)) := by
  have after : spent (m.run s (before ++ [a])) := by
    rw [run_append] at changed ⊢
    exact (spends _ a first changed).2
  have still : spent (m.run s (before ++ a :: mid)) := by
    rw [show before ++ a :: mid = before ++ [a] ++ mid by simp, run_append]
    exact m.invariant_run spent keep after mid
  rw [run_append]
  by_contra again
  exact (spends _ b second again).1 still

/-- Copies of one machine; an action goes to the copy it names. -/
def pi [DecidableEq ι] (m : Machine σ α) : Machine (ι → σ) (ι × α) where
  step states a := Function.update states a.1 (m.step (states a.1) a.2)

/-- The actions sent to copy `i`, in order. -/
def sentTo [DecidableEq ι] (i : ι) (actions : List (ι × α)) : List α :=
  actions.filterMap fun a => if a.1 = i then some a.2 else none

theorem pi_run_apply [DecidableEq ι] (m : Machine σ α) (states : ι → σ) (actions : List (ι × α))
    (i : ι) : m.pi.run states actions i = m.run (states i) (sentTo i actions) := by
  induction actions generalizing states with
  | nil => rfl
  | cons a rest ih =>
    rw [run_cons, ih]
    by_cases h : a.1 = i
    · subst h
      simp [sentTo, pi]
    · simp [sentTo, pi, h, Function.update_of_ne (Ne.symm h)]

end Machine

/-- The state after a transaction: what it committed, or the state before it. -/
def committed {σ : Type u} {ε : Type v} (s : σ) : Except ε σ → σ
  | .ok s' => s'
  | .error _ => s

theorem committed_eq {σ : Type u} {ε : Type v} (s : σ) (r : Except ε σ) :
    committed s r = s ∨ r = .ok (committed s r) := by
  cases r with
  | ok s' => exact Or.inr rfl
  | error e => exact Or.inl rfl

end Transition

import Mathlib.Order.Lattice
import Mathlib.Data.List.Basic
import Mathlib.Data.List.MinMax
import Mathlib.Data.List.Perm.Basic

/-!
# Incremental rollups

The first value, the last value and the number of values of a list. `Span.of`
recomputes it from scratch, as an aggregate query does; `Span.extend` maintains
it one value at a time, as an upsert with `LEAST` and `GREATEST` does. The two
agree on every list and in every order (`of_cons`, `of_perm`).
-/

universe u

/-- `min`, `max` and `count` of a nonempty list. -/
structure Span (T : Type u) where
  first : T
  last : T
  count : Nat
  deriving DecidableEq

namespace Span

variable {T : Type u} [LinearOrder T]

def single (t : T) : Span T := ⟨t, t, 1⟩

def extend (s : Span T) (t : T) : Span T := ⟨min s.first t, max s.last t, s.count + 1⟩

/-- `SELECT min(t), max(t), count(*)`: no row values, no span. -/
def of (values : List T) : Option (Span T) :=
  match values.min?, values.max? with
  | some first, some last => some ⟨first, last, values.length⟩
  | _, _ => none

@[simp] theorem of_nil : of ([] : List T) = none := rfl

theorem of_cons (t : T) (values : List T) :
    of (t :: values) = some ((of values).elim (single t) fun s => s.extend t) := by
  cases values with
  | nil => rfl
  | cons v rest =>
    simp only [of, List.min?_cons, List.max?_cons, Option.elim_some, extend, List.length_cons,
      Option.some.injEq, Span.mk.injEq, and_true]
    exact ⟨min_comm _ _, max_comm _ _⟩

theorem of_eq_some_iff (values : List T) (s : Span T) :
    of values = some s ↔
      values.min? = some s.first ∧ values.max? = some s.last ∧ values.length = s.count := by
  obtain ⟨first, last, count⟩ := s
  cases values with
  | nil => simp [of]
  | cons v rest => simp [of]

theorem of_perm {values values' : List T} (perm : values.Perm values') :
    of values = of values' := by
  induction perm with
  | nil => rfl
  | cons t _ ih => rw [of_cons, of_cons, ih]
  | swap t t' rest =>
    rw [of_cons, of_cons, of_cons, of_cons]
    cases of rest with
    | none => simp [single, extend, min_comm, max_comm]
    | some s => simp [extend, min_right_comm, max_right_comm]
  | trans _ _ ih₁ ih₂ => exact ih₁.trans ih₂

theorem isSome_of_iff (values : List T) : (of values).isSome ↔ values ≠ [] := by
  cases values with
  | nil => simp
  | cons t rest => simp [of_cons]

end Span

import Mathlib.Data.List.Perm.Subperm
import Mathlib.Logic.Relation

/-!
# Acyclic relations

A relation grown one edge at a time stays acyclic as long as every edge is added
into a sink. A walk along it never comes back, so the elements it has passed are
fewer than those there are.
-/

universe u

variable {α : Type u}

/-- No element reaches itself in one or more steps. -/
def Acyclic (r : α → α → Prop) : Prop := ∀ a, ¬Relation.TransGen r a a

theorem acyclic_of_empty {r : α → α → Prop} (empty : ∀ a b, ¬r a b) : Acyclic r := by
  intro a loop
  obtain ⟨b, edge, -⟩ := Relation.TransGen.head'_iff.mp loop
  exact empty a b edge

theorem Acyclic.into_sink {r r' : α → α → Prop} {w : α} (acyclic : Acyclic r)
    (sink : ∀ b, ¬r' w b) (added : ∀ a b, r' a b → r a b ∨ b = w) : Acyclic r' := by
  -- a path that uses a new edge ends in the sink
  have path : ∀ {a b}, Relation.TransGen r' a b → Relation.TransGen r a b ∨ b = w := by
    intro a b reach
    induction reach with
    | single edge => exact (added _ _ edge).imp Relation.TransGen.single id
    | tail _ edge ih =>
      rcases ih with old | rfl
      · exact (added _ _ edge).imp old.tail id
      · exact absurd edge (sink _)
  intro a loop
  rcases path loop with old | rfl
  · exact acyclic a old
  · obtain ⟨b, edge, -⟩ := Relation.TransGen.head'_iff.mp loop
    exact sink b edge

theorem Acyclic.mono {r r' : α → α → Prop} (acyclic : Acyclic r) (fewer : ∀ a b, r' a b → r a b) :
    Acyclic r' := fun a loop => acyclic a (Relation.TransGen.mono fewer a a loop)

/-- A walk has passed `seen` and is at `a`. -/
structure Trail (r : α → α → Prop) (seen : List α) (a : α) : Prop where
  nodup : seen.Nodup
  reaches : ∀ b ∈ seen, Relation.TransGen r b a

theorem Trail.start (r : α → α → Prop) (a : α) : Trail r [] a := ⟨List.nodup_nil, by simp⟩

theorem Trail.fresh {r : α → α → Prop} {seen : List α} {a : α} (trail : Trail r seen a)
    (acyclic : Acyclic r) : a ∉ seen := fun member => acyclic a (trail.reaches a member)

theorem Trail.step {r : α → α → Prop} {seen : List α} {a b : α} (trail : Trail r seen a)
    (acyclic : Acyclic r) (edge : r a b) : Trail r (a :: seen) b where
  nodup := List.nodup_cons.mpr ⟨trail.fresh acyclic, trail.nodup⟩
  reaches := by
    intro c member
    rcases List.mem_cons.mp member with rfl | passed
    · exact .single edge
    · exact (trail.reaches c passed).tail edge

theorem Trail.length_le {r : α → α → Prop} {seen : List α} {a : α} (trail : Trail r seen a)
    {all : List α} (within : ∀ b ∈ seen, b ∈ all) : seen.length ≤ all.length :=
  (List.subperm_of_subset trail.nodup within).length_le

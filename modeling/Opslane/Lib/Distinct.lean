import Mathlib.Data.List.Nodup

/-!
# First occurrences

A list is built up by adding each value the first time it comes.
-/

namespace List

variable {α : Type} [DecidableEq α]

def addNew (kept : List α) (a : α) : List α := if a ∈ kept then kept else kept ++ [a]

theorem mem_addNew {kept : List α} {a b : α} : b ∈ kept.addNew a ↔ b ∈ kept ∨ b = a := by
  unfold addNew
  split
  · constructor
    · exact .inl
    · rintro (before | rfl)
      · exact before
      · assumption
  · simp

theorem Nodup.addNew {kept : List α} (distinct : kept.Nodup) (a : α) : (kept.addNew a).Nodup := by
  unfold List.addNew
  split
  · exact distinct
  · rename_i new
    rw [nodup_append]
    refine ⟨distinct, nodup_singleton a, ?_⟩
    rintro b before c here rfl
    exact new (mem_singleton.mp here ▸ before)

theorem mem_foldl_addNew {added kept : List α} {b : α} :
    b ∈ added.foldl addNew kept ↔ b ∈ kept ∨ b ∈ added := by
  induction added generalizing kept with
  | nil => simp
  | cons a rest ih => rw [foldl_cons, ih, mem_addNew, mem_cons, or_assoc]

theorem Nodup.foldl_addNew {kept : List α} (distinct : kept.Nodup) (added : List α) :
    (added.foldl List.addNew kept).Nodup := by
  induction added generalizing kept with
  | nil => exact distinct
  | cons a rest ih => exact ih (distinct.addNew a)

theorem foldl_addNew_of_nodup {added kept : List α} (distinct : (kept ++ added).Nodup) :
    added.foldl addNew kept = kept ++ added := by
  induction added generalizing kept with
  | nil => rw [foldl_nil, append_nil]
  | cons a rest ih =>
    have new : a ∉ kept := by
      intro before
      exact (nodup_append.mp distinct).2.2 a before a mem_cons_self rfl
    rw [append_cons] at distinct
    rw [foldl_cons, addNew, if_neg new, ih distinct, append_assoc, singleton_append]

end List

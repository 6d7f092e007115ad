import Mathlib.Data.List.Nodup

/-!
# One set sorted by two orders

`mergeSort` by a total order lists the members of a set in the one way that is sorted. Two
orders list them alike exactly when they agree on the members.
-/

namespace Sorted

variable {α : Type}

/-- The comparison is a total order. -/
structure Total (le : α → α → Bool) : Prop where
  trans : ∀ a b c, le a b = true → le b c = true → le a c = true
  total : ∀ a b, (le a b || le b a) = true
  antisymm : ∀ a b, le a b = true → le b a = true → a = b

theorem Total.refl {le : α → α → Bool} (order : Total le) (a : α) : le a a = true := by
  have either := order.total a a
  rwa [Bool.or_self] at either

theorem Total.pairwise {le : α → α → Bool} (order : Total le) (members : List α) :
    (members.mergeSort le).Pairwise fun a b => le a b = true :=
  List.pairwise_mergeSort order.trans order.total members

theorem agree_of_pairwise {le le' : α → α → Bool} (order : Total le) (order' : Total le')
    {sorted : List α} (one : sorted.Pairwise fun a b => le a b = true)
    (other : sorted.Pairwise fun a b => le' a b = true) {a b : α} (first : a ∈ sorted)
    (second : b ∈ sorted) : le a b = le' a b := by
  obtain ⟨i, small, rfl⟩ := List.getElem_of_mem first
  obtain ⟨j, small', rfl⟩ := List.getElem_of_mem second
  rw [List.pairwise_iff_getElem] at one other
  rcases Nat.lt_trichotomy i j with before | rfl | behind
  · rw [one i j small small' before, other i j small small' before]
  · rw [order.refl, order'.refl]
  · have turned := one j i small' small behind
    have turned' := other j i small' small behind
    by_cases same : sorted[i] = sorted[j]
    · rw [same, order.refl, order'.refl]
    · have no : le sorted[i] sorted[j] = false :=
        Bool.eq_false_iff.mpr fun back => same (order.antisymm _ _ back turned)
      have no' : le' sorted[i] sorted[j] = false :=
        Bool.eq_false_iff.mpr fun back => same (order'.antisymm _ _ back turned')
      rw [no, no']

theorem mergeSort_eq_iff {le le' : α → α → Bool} (order : Total le) (order' : Total le')
    {members members' : List α} (distinct : members.Nodup) (distinct' : members'.Nodup) :
    members.mergeSort le = members'.mergeSort le' ↔
      (∀ a, a ∈ members ↔ a ∈ members') ∧ ∀ a ∈ members, ∀ b ∈ members, le a b = le' a b := by
  constructor
  · intro same
    have one := order.pairwise members
    have other := order'.pairwise members'
    rw [← same] at other
    refine ⟨fun a => ?_, fun a first b second => ?_⟩
    · rw [← List.mem_mergeSort, same, List.mem_mergeSort]
    · exact agree_of_pairwise order order' one other (List.mem_mergeSort.mpr first)
        (List.mem_mergeSort.mpr second)
  · rintro ⟨same, agree⟩
    have perm : (members.mergeSort le).Perm (members'.mergeSort le') :=
      ((List.mergeSort_perm members le).trans
        ((List.perm_ext_iff_of_nodup distinct distinct').mpr same)).trans
        (List.mergeSort_perm members' le').symm
    refine List.Perm.eq_of_pairwise (fun a b _ _ => order.antisymm a b) (order.pairwise members) ?_ perm
    refine (order'.pairwise members').imp_of_mem fun first second before => ?_
    rw [List.mem_mergeSort, ← same] at first second
    rwa [agree _ first _ second]

end Sorted

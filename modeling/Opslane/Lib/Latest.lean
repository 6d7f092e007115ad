import Mathlib.Data.Finset.Max

/-!
# The latest of a list of rows

`latest key rows` is `ORDER BY key DESC LIMIT 1`: a row of the greatest key. Where the
key tells the rows apart it is the only one, and a filter it passes does not change it.
-/

namespace Latest

universe u v

variable {R : Type u} {K : Type v} [LinearOrder K]

def latest (key : R → K) (rows : List R) : Option R :=
  rows.find? fun r => rows.all fun s => key s ≤ key r

variable {r : R}

theorem latest_spec {key : R → K} {rows : List R} (found : latest key rows = some r) :
    r ∈ rows ∧ ∀ s ∈ rows, key s ≤ key r := by
  refine ⟨List.mem_of_find?_eq_some found, ?_⟩
  simpa only [List.all_eq_true, decide_eq_true_eq] using List.find?_some found

theorem exists_latest (key : R → K) {rows : List R} (member : r ∈ rows) :
    ∃ last, latest key rows = some last := by
  classical
  obtain ⟨last, present, greatest⟩ :=
    Finset.exists_max_image rows.toFinset key ⟨r, List.mem_toFinset.mpr member⟩
  rw [← Option.isSome_iff_exists, latest, List.find?_isSome]
  refine ⟨last, List.mem_toFinset.mp present, ?_⟩
  simp only [List.all_eq_true, decide_eq_true_eq]
  exact fun s other => greatest s (List.mem_toFinset.mpr other)

theorem latest_nil (key : R → K) : latest key [] = none := rfl

theorem latest_eq_some {key : R → K} {rows : List R} (member : r ∈ rows)
    (greatest : ∀ s ∈ rows, key s ≤ key r) (single : ∀ s ∈ rows, key s = key r → s = r) :
    latest key rows = some r := by
  obtain ⟨last, found⟩ := exists_latest key member
  obtain ⟨present, last_greatest⟩ := latest_spec found
  rw [found, single last present (le_antisymm (greatest last present) (last_greatest r member))]

theorem latest_filter {key : R → K} {rows : List R} (found : latest key rows = some r)
    (single : ∀ s ∈ rows, key s = key r → s = r) {p : R → Bool} (passes : p r = true) :
    latest key (rows.filter p) = some r := by
  obtain ⟨member, greatest⟩ := latest_spec found
  refine latest_eq_some (List.mem_filter.mpr ⟨member, passes⟩) ?_ ?_
  · exact fun s other => greatest s (List.mem_of_mem_filter other)
  · exact fun s other => single s (List.mem_of_mem_filter other)

end Latest

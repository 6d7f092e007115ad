import Mathlib.Algebra.Group.Int.Defs
import Mathlib.Algebra.GroupWithZero.Nat
import Mathlib.Data.List.Basic

/-!
# Texts in code units

A script's text is a sequence of 16-bit code units, and its lines are what stands
between newlines. Lines put into a text move those behind them and no other.
-/

abbrev CodeUnits := List UInt16

instance : LawfulBEq CodeUnits := inferInstance

/-- The code unit of a character of the basic plane. -/
def codeUnit (c : Char) : UInt16 := c.toNat.toUInt16

def codeUnits (s : String) : CodeUnits := s.toList.map codeUnit

theorem codeUnits_ofList (cs : List Char) : codeUnits (String.ofList cs) = cs.map codeUnit := by
  rw [codeUnits, String.toList_ofList]

namespace CodeUnits

def newline : UInt16 := codeUnit '\n'

def lines (text : CodeUnits) : List CodeUnits := text.splitOn newline

theorem newline_not_mem_codeUnits (chars : List Char)
    (single : chars.all (fun c => newline ≠ codeUnit c) = true) :
    newline ∉ codeUnits (String.ofList chars) := by
  rw [codeUnits, String.toList_ofList]
  intro member
  obtain ⟨c, inside, same⟩ := List.mem_map.mp member
  exact of_decide_eq_true (List.all_eq_true.mp single c inside) same.symm

/-- The text ends where a line begins. -/
def Complete (text : CodeUnits) : Prop := text = [] ∨ text.getLast? = some newline
  deriving Decidable

/-- The lines the text closes. -/
def closedLines (text : CodeUnits) : List CodeUnits := text.lines.dropLast

theorem lines_append_newline (first second : CodeUnits) :
    (first ++ newline :: second).lines = first.lines ++ second.lines :=
  List.splitOn_append_cons_self first second

variable {text : CodeUnits}

theorem lines_of_not_mem (single : newline ∉ text) : text.lines = [text] :=
  List.splitOn_eq_singleton single

theorem lines_ne_nil (text : CodeUnits) : text.lines ≠ [] := List.splitOn_ne_nil newline text

theorem length_lines_pos (text : CodeUnits) : 0 < text.lines.length :=
  List.length_pos_iff.mpr text.lines_ne_nil

theorem Complete.of_mem (complete : text.Complete) (nonempty : text ≠ []) :
    ∃ before, text = before ++ [newline] := by
  rcases complete with empty | ending
  · exact absurd empty nonempty
  · exact List.getLast?_eq_some_iff.mp ending

theorem complete_take {n : Nat} (inside : n ≤ text.length) :
    Complete (text.take n) ↔ n = 0 ∨ text[n - 1]? = some newline := by
  by_cases zero : n = 0
  · simp [Complete, zero]
  · have short : n - 1 < text.length := by omega
    obtain ⟨u, last⟩ : ∃ u, text[n - 1]? = some u := ⟨_, List.getElem?_eq_getElem short⟩
    have nonempty : text ≠ [] := by
      rintro rfl
      exact zero (Nat.le_zero.mp inside)
    rw [Complete, List.getLast?_take, if_neg zero, last]
    simp [zero, nonempty]

theorem lines_append {first : CodeUnits} (complete : first.Complete) (second : CodeUnits) :
    (first ++ second).lines = first.closedLines ++ second.lines := by
  by_cases empty : first = []
  · subst empty
    simp [closedLines, lines]
  · obtain ⟨before, rfl⟩ := complete.of_mem empty
    have closed : closedLines (before ++ [newline]) = before.lines := by
      unfold closedLines
      rw [lines_append_newline]
      simp [lines]
    rw [closed, List.append_assoc, List.singleton_append, lines_append_newline]

theorem length_closedLines (text : CodeUnits) :
    text.closedLines.length = text.lines.length - 1 := by
  simp [closedLines]

theorem length_lines_of_mem (member : newline ∈ text) :
    1 < text.lines.length := by
  obtain ⟨before, rest, rfl⟩ := List.append_of_mem member
  rw [lines_append_newline, List.length_append]
  have first := length_lines_pos before
  have second := length_lines_pos rest
  omega

end CodeUnits

theorem List.not_mem_of_mem_splitOn {α : Type} [BEq α] [LawfulBEq α] (separator : α)
    (xs : List α) : ∀ piece ∈ xs.splitOn separator, separator ∉ piece := by
  induction xs with
  | nil => simp
  | cons x xs ih =>
    intro piece member
    rw [List.splitOn_cons_eq_if_modifyHead] at member
    split at member
    · rcases List.mem_cons.mp member with rfl | later
      · exact List.not_mem_nil
      · exact ih piece later
    · rename_i other
      obtain ⟨first, rest, split⟩ := List.exists_cons_of_ne_nil (List.splitOn_ne_nil separator xs)
      rw [split] at member ih
      rcases List.mem_cons.mp member with rfl | later
      · simp only [List.mem_cons, not_or]
        exact ⟨fun same => other (by simp [same]), ih first List.mem_cons_self⟩
      · exact ih piece (List.mem_cons_of_mem _ later)

/-- `new` is `old` with `count` entries put in at `at`, and one more at the end. -/
structure InsertedAt {α : Type} (old new : List α) (position count : Nat) : Prop where
  before : ∀ i < position, new[i]? = old[i]?
  after : ∀ i, position ≤ i → i < old.length → new[i + count]? = old[i]?
  length : new.length = old.length + count + 1

namespace InsertedAt

variable {α : Type} {first second inserted : List α} {last : α}

theorem intro : InsertedAt (first ++ second) (first ++ inserted ++ second ++ [last])
    first.length inserted.length where
  before i inside := by
    rw [List.append_assoc, List.append_assoc, List.getElem?_append_left inside,
      List.getElem?_append_left inside]
  after i behind inside := by
    rw [List.length_append] at inside
    have shorter : i + inserted.length < (first ++ inserted ++ second).length := by
      simp only [List.length_append]
      omega
    have past : (first ++ inserted).length ≤ i + inserted.length := by
      rw [List.length_append]
      omega
    rw [List.getElem?_append_left shorter, List.getElem?_append_right past,
      List.getElem?_append_right behind, List.length_append]
    congr 1
    omega
  length := by
    simp only [List.length_append, List.length_singleton]
    omega

end InsertedAt

import Mathlib.Data.List.DropRight
import Mathlib.Data.List.TakeWhile

/-!
# Trimmed text

`trimmed p s` is `s` without the characters of class `p` at its ends. Two runtimes that
trim different classes disagree on a text exactly when one class covers it. A number is
named by its decimal digits.
-/

namespace Text

def trimmed (p : Char → Bool) (s : String) : String :=
  String.ofList ((s.toList.dropWhile p).rdropWhile p)

/-- Every character of the text is of class `p`. -/
def Blank (p : Char → Bool) (s : String) : Prop := ∀ c ∈ s.toList, p c = true

instance (p : Char → Bool) (s : String) : Decidable (Blank p s) :=
  List.decidableBAll (fun c => p c = true) s.toList

theorem trimmed_eq_empty_iff (p : Char → Bool) (s : String) : trimmed p s = "" ↔ Blank p s := by
  unfold trimmed Blank
  rw [show ("" : String) = String.ofList [] from rfl, String.ofList_inj,
    List.rdropWhile_eq_nil_iff]
  constructor
  · intro covered
    have rest : s.toList.dropWhile p = [] := by
      cases left : s.toList.dropWhile p with
      | nil => rfl
      | cons c tail =>
        have head : p c = false := by
          have first := List.head?_dropWhile_not p s.toList
          rw [left] at first
          simpa using first
        rw [covered c (left ▸ List.mem_cons_self)] at head
        cases head
    exact List.dropWhile_eq_nil_iff.mp rest
  · intro blank c member
    exact blank c ((List.dropWhile_suffix p).mem member)

theorem Blank.mono {p q : Char → Bool} (wider : ∀ c, p c = true → q c = true) {s : String}
    (blank : Blank p s) : Blank q s :=
  fun c member => wider c (blank c member)

theorem toString_nat_inj {m n : Nat} : toString m = toString n ↔ m = n := by
  constructor
  · intro same
    have digits : Nat.toDigits 10 m = Nat.toDigits 10 n := by
      rw [← Nat.toList_repr, ← Nat.toList_repr]
      exact congrArg String.toList same
    rw [← Nat.ofDigitChars_ten_toDigits (n := m), digits, Nat.ofDigitChars_ten_toDigits]
  · exact congrArg toString

theorem toString_int (n : Int) : (toString n).toList =
    (if n < 0 then ['-'] else []) ++ Nat.toDigits 10 n.natAbs := by
  cases n with
  | ofNat m =>
    change m.repr.toList = _
    rw [Nat.toList_repr, if_neg (by simp)]
    rfl
  | negSucc m =>
    change ("-" ++ (m + 1).repr).toList = _
    rw [String.toList_append, Nat.toList_repr, if_pos (Int.negSucc_lt_zero m)]
    rfl

theorem mem_toString_int {n : Int} {c : Char} (member : c ∈ (toString n).toList) :
    c = '-' ∨ c.isDigit := by
  rw [toString_int, List.mem_append] at member
  rcases member with sign | digit
  · left
    split at sign
    · exact List.mem_singleton.mp sign
    · cases sign
  · exact Or.inr (Nat.isDigit_of_mem_toDigits (by decide) (by decide) digit)

theorem toString_int_inj {m n : Int} : (toString m).toList = (toString n).toList ↔ m = n := by
  refine ⟨fun same => ?_, fun same => by rw [same]⟩
  have noSign {k : Nat} {rest : List Char} (same : '-' :: rest = Nat.toDigits 10 k) : False := by
    have digit := Nat.isDigit_of_mem_toDigits (b := 10) (by decide) (by decide)
      (same ▸ List.mem_cons_self : '-' ∈ Nat.toDigits 10 k)
    exact absurd digit (by decide)
  have digits {k l : Nat} (same : Nat.toDigits 10 k = Nat.toDigits 10 l) : k = l := by
    rw [← Nat.ofDigitChars_ten_toDigits (n := k), same, Nat.ofDigitChars_ten_toDigits]
  rw [toString_int, toString_int] at same
  split at same <;> split at same
  · have abs := digits (List.cons.inj same).2
    omega
  · exact (noSign same).elim
  · exact (noSign same.symm).elim
  · have abs := digits same
    omega

end Text

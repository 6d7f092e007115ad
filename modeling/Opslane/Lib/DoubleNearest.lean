import Mathlib.Algebra.Order.Field.Power
import Mathlib.Data.Nat.Cast.Order.Field
import Mathlib.Data.Rat.Cast.Order
import Mathlib.Tactic.Linarith
import Mathlib.Tactic.Positivity
import Mathlib.Tactic.FieldSimp
import Mathlib.Tactic.NormNum
import Mathlib.Tactic.Ring
import Opslane.Lib.Double

/-!
# The nearest number of 64 bits

A number that is read has 53 bits or the least exponent, and a fraction less than a quarter
of its last bit away is read as the same number. Among the fractions of 17 digits one is that
near, so the digits a script prints are read back.
-/

namespace Double

theorem powNum_pos {b : ℕ} (positive : 0 < b) (e : ℤ) : 0 < powNum b e := Nat.pow_pos positive

theorem powDen_pos {b : ℕ} (positive : 0 < b) (e : ℤ) : 0 < powDen b e := Nat.pow_pos positive

theorem powNum_div_powDen {b : ℕ} (positive : 0 < b) (e : ℤ) :
    (powNum b e : ℚ) / powDen b e = (b : ℚ) ^ e := by
  have nonzero : (b : ℚ) ≠ 0 := by exact_mod_cast positive.ne'
  rcases Int.eq_nat_or_neg e with ⟨n, rfl | rfl⟩
  · simp [powNum, powDen]
  · simp [powNum, powDen]

theorem scaled_div {b : ℕ} (positive : 0 < b) (num den : ℕ) (e : ℤ) :
    ((num * powDen b e : ℕ) : ℚ) / ((den * powNum b e : ℕ) : ℚ) = (num : ℚ) / den / (b : ℚ) ^ e := by
  have up : (powNum b e : ℚ) ≠ 0 := by exact_mod_cast (powNum_pos positive e).ne'
  have down : (powDen b e : ℚ) ≠ 0 := by exact_mod_cast (powDen_pos positive e).ne'
  rw [← powNum_div_powDen positive e, Nat.cast_mul, Nat.cast_mul]
  field_simp

theorem quotient_bounds {b : ℕ} (base : 1 < b) {num den : ℕ} (numerator : num ≠ 0)
    (denominator : den ≠ 0) :
    (b : ℚ) ^ ((Nat.log b num : ℤ) - Nat.log b den - 1) < (num : ℚ) / den ∧
      (num : ℚ) / den < (b : ℚ) ^ ((Nat.log b num : ℤ) - Nat.log b den + 1) := by
  have positive : (0 : ℚ) < b := by exact_mod_cast Nat.lt_trans Nat.zero_lt_one base
  have below : (0 : ℚ) < den := by exact_mod_cast Nat.pos_of_ne_zero denominator
  have numLow : (b : ℚ) ^ (Nat.log b num) ≤ num := by exact_mod_cast Nat.pow_log_le_self b numerator
  have numHigh : (num : ℚ) < (b : ℚ) ^ (Nat.log b num + 1) := by
    exact_mod_cast Nat.lt_pow_succ_log_self base num
  have denLow : (b : ℚ) ^ (Nat.log b den) ≤ den := by exact_mod_cast Nat.pow_log_le_self b denominator
  have denHigh : (den : ℚ) < (b : ℚ) ^ (Nat.log b den + 1) := by
    exact_mod_cast Nat.lt_pow_succ_log_self base den
  constructor
  · rw [lt_div_iff₀ below]
    calc (b : ℚ) ^ ((Nat.log b num : ℤ) - Nat.log b den - 1) * den
        < (b : ℚ) ^ ((Nat.log b num : ℤ) - Nat.log b den - 1) * (b : ℚ) ^ (Nat.log b den + 1) :=
          mul_lt_mul_of_pos_left denHigh (zpow_pos positive _)
      _ = (b : ℚ) ^ (Nat.log b num) := by
          rw [← zpow_natCast, ← zpow_natCast, ← zpow_add₀ positive.ne']
          congr 1
          push_cast
          ring
      _ ≤ num := numLow
  · rw [div_lt_iff₀ below]
    calc (num : ℚ) < (b : ℚ) ^ (Nat.log b num + 1) := numHigh
      _ = (b : ℚ) ^ ((Nat.log b num : ℤ) - Nat.log b den + 1) * (b : ℚ) ^ (Nat.log b den) := by
          rw [← zpow_natCast, ← zpow_natCast, ← zpow_add₀ positive.ne']
          congr 1
          push_cast
          ring
      _ ≤ (b : ℚ) ^ ((Nat.log b num : ℤ) - Nat.log b den + 1) * den :=
          mul_le_mul_of_nonneg_left denLow (zpow_pos positive _).le

theorem scaled_lt_iff {b : ℕ} (positive : 0 < b) (num : ℕ) {den : ℕ} (denominator : den ≠ 0) (e : ℤ)
    (factor : ℕ) :
    num * powDen b e < factor * (den * powNum b e) ↔ (num : ℚ) / den < factor * (b : ℚ) ^ e := by
  have below : (0 : ℚ) < ((den * powNum b e : ℕ) : ℚ) := by
    exact_mod_cast Nat.mul_pos (Nat.pos_of_ne_zero denominator) (powNum_pos positive e)
  have power : (0 : ℚ) < (b : ℚ) ^ e := zpow_pos (by exact_mod_cast positive) e
  rw [← div_lt_iff₀ power, ← scaled_div positive, div_lt_iff₀ below]
  norm_cast

theorem binaryExponent_spec {num den : ℕ} (numerator : num ≠ 0) (denominator : den ≠ 0) :
    2 ^ 52 * (2 : ℚ) ^ binaryExponent num den ≤ (num : ℚ) / den ∧
      (num : ℚ) / den < 2 ^ 53 * (2 : ℚ) ^ binaryExponent num den := by
  obtain ⟨low, high⟩ := quotient_bounds (b := 2) (by decide) numerator denominator
  have test := scaled_lt_iff (b := 2) (by decide) num denominator
    ((Nat.log2 num : ℤ) - Nat.log2 den - 52) (2 ^ 52)
  simp only [Nat.log2_eq_log_two] at test
  have two : (2 : ℚ) ≠ 0 := by norm_num
  have shift (e : ℤ) (k : ℕ) : (2 : ℚ) ^ k * 2 ^ e = 2 ^ (e + k) := by
    rw [zpow_add₀ two, zpow_natCast, mul_comm]
  unfold binaryExponent
  simp only [Nat.log2_eq_log_two]
  rw [shift, shift]
  simp only [Nat.cast_pow, Nat.cast_ofNat] at test low high ⊢
  rw [shift, Nat.cast_ofNat] at test
  generalize (Nat.log 2 num : ℤ) - Nat.log 2 den = l at *
  have first : l - 52 - 1 + 52 = l - 1 := by omega
  have second : l - 52 - 1 + 53 = l - 52 + 52 := by omega
  have third : l - 52 + 53 = l + 1 := by omega
  split_ifs with small
  · rw [first, second]
    exact ⟨low.le, test.mp small⟩
  · rw [third]
    exact ⟨not_lt.mp fun under => small (test.mpr under), high⟩

theorem pointPosition_spec {num den : ℕ} (numerator : num ≠ 0) (denominator : den ≠ 0) :
    (10 : ℚ) ^ (pointPosition num den - 1) ≤ (num : ℚ) / den ∧
      (num : ℚ) / den < (10 : ℚ) ^ pointPosition num den := by
  obtain ⟨low, high⟩ := quotient_bounds (b := 10) (by decide) numerator denominator
  have test := scaled_lt_iff (b := 10) (by decide) num denominator
    ((Nat.log 10 num : ℤ) - Nat.log 10 den) 1
  rw [Nat.one_mul] at test
  push_cast at test low high
  rw [one_mul] at test
  unfold pointPosition
  dsimp only
  split_ifs with small
  · exact ⟨low.le, test.mp small⟩
  · have above := not_lt.mp (fun under => small (test.mpr under))
    rw [add_sub_cancel_right]
    exact ⟨above, high⟩

theorem divideEven_eq {num den m : ℕ} (denominator : 0 < den)
    (near : |(num : ℚ) / den - m| < 1 / 2) : divideEven num den = m := by
  have below : (0 : ℚ) < den := by exact_mod_cast denominator
  obtain ⟨low, high⟩ := abs_lt.mp near
  have upper : 2 * num < (2 * m + 1) * den := by
    have bound : (num : ℚ) / den < m + 1 / 2 := by linarith
    rw [div_lt_iff₀ below] at bound
    have scaled : (2 * num : ℚ) < (2 * m + 1) * den := by linarith
    exact_mod_cast scaled
  have lower : 2 * m * den < 2 * num + den := by
    have bound : (m : ℚ) - 1 / 2 < num / den := by linarith
    rw [lt_div_iff₀ below] at bound
    have scaled : (2 * m * den : ℚ) < 2 * num + den := by linarith
    exact_mod_cast scaled
  have split := Nat.div_add_mod num den
  have small := Nat.mod_lt num denominator
  unfold divideEven
  dsimp only
  generalize num / den = q at *
  generalize num % den = r at *
  rcases Nat.lt_trichotomy q m with less | rfl | more
  · -- The quotient is one below, and the rest more than a half.
    have one : q + 1 = m := by
      by_contra other
      have two : q + 2 ≤ m := by omega
      have product := Nat.mul_le_mul_right den two
      rw [Nat.add_mul, Nat.mul_comm q] at product
      rw [Nat.mul_assoc] at lower
      omega
    subst one
    have half : den < 2 * r := by
      rw [Nat.mul_assoc, Nat.add_mul, Nat.mul_comm q] at lower
      omega
    rw [if_neg (by omega), if_pos half]
  · have half : 2 * r < den := by
      rw [Nat.add_mul, Nat.mul_assoc, Nat.mul_comm q] at upper
      omega
    rw [if_pos half]
  · have product := Nat.mul_le_mul_right den (Nat.succ_le_of_lt more)
    rw [Nat.succ_mul, Nat.mul_comm q] at product
    rw [Nat.add_mul, Nat.mul_assoc] at upper
    omega

theorem le_divideEven {num den m : ℕ} (denominator : 0 < den) (above : m * den ≤ num) :
    m ≤ divideEven num den := by
  have floor := (Nat.le_div_iff_mul_le denominator).mpr above
  unfold divideEven
  dsimp only
  split_ifs
  all_goals omega

theorem divideEven_le {num den m : ℕ} (denominator : 0 < den) (below : num < m * den) :
    divideEven num den ≤ m := by
  have floor := (Nat.div_lt_iff_lt_mul denominator).mpr below
  unfold divideEven
  dsimp only
  split_ifs
  all_goals omega

/-- A number of 53 bits, or of the least exponent. -/
structure Canonical (x : Double) : Prop where
  small : x.significand < 2 ^ 53
  least : minExponent ≤ x.exponent
  most : x.exponent ≤ maxExponent
  normal : x.exponent = minExponent ∨ 2 ^ 52 ≤ x.significand

/-- The distance of a number from zero. -/
def magnitude (x : Double) : ℚ := x.significand * 2 ^ x.exponent

/-- The bits of a fraction under an exponent. -/
def bitsUnder (num den : ℕ) (e : ℤ) : ℕ := divideEven (num * powDen 2 e) (den * powNum 2 e)

theorem bitsUnder_le {num den : ℕ} (denominator : den ≠ 0) {e : ℤ} {m : ℕ}
    (below : (num : ℚ) / den < m * 2 ^ e) : bitsUnder num den e ≤ m := by
  apply divideEven_le (Nat.mul_pos (Nat.pos_of_ne_zero denominator) (powNum_pos (by decide) e))
  exact (scaled_lt_iff (by decide) num denominator e m).mpr (by exact_mod_cast below)

theorem le_bitsUnder {num den : ℕ} (denominator : den ≠ 0) {e : ℤ} {m : ℕ}
    (above : m * 2 ^ e ≤ (num : ℚ) / den) : m ≤ bitsUnder num den e := by
  apply le_divideEven (Nat.mul_pos (Nat.pos_of_ne_zero denominator) (powNum_pos (by decide) e))
  have test := scaled_lt_iff (b := 2) (by decide) num denominator e m
  rw [Nat.cast_ofNat] at test
  exact not_lt.mp fun under => not_lt.mpr above (test.mp under)

theorem bitsUnder_eq {num den : ℕ} (denominator : den ≠ 0) {e : ℤ} {m : ℕ}
    (near : |(num : ℚ) / den - m * 2 ^ e| < 2 ^ e / 2) : bitsUnder num den e = m := by
  apply divideEven_eq (Nat.mul_pos (Nat.pos_of_ne_zero denominator) (powNum_pos (by decide) e))
  have unit : (0 : ℚ) < 2 ^ e := zpow_pos (by norm_num) e
  rw [scaled_div (by decide), Nat.cast_ofNat]
  have shape : (num : ℚ) / den / 2 ^ e - m = (num / den - m * 2 ^ e) / 2 ^ e := by
    field_simp
  rw [shape, abs_div, abs_of_pos unit, div_lt_iff₀ unit]
  linarith

theorem ofFraction_eq (negative : Bool) {num : ℕ} (numerator : num ≠ 0) (den : ℕ) :
    ofFraction negative num den =
      let e := max (binaryExponent num den) minExponent
      let bits := bitsUnder num den e
      if bits = 2 ^ 53 then
        if e + 1 ≤ maxExponent then some ⟨negative, 2 ^ 52, e + 1⟩ else none
      else if e ≤ maxExponent then some ⟨negative, bits, e⟩ else none := by
  unfold ofFraction bitsUnder
  rw [if_neg numerator]
  dsimp only
  split_ifs
  all_goals simp_all

theorem ofFraction_canonical {negative : Bool} {num den : ℕ} (denominator : den ≠ 0) {x : Double}
    (rounded : ofFraction negative num den = some x) : Canonical x := by
  by_cases numerator : num = 0
  · rw [ofFraction, if_pos numerator] at rounded
    obtain rfl := Option.some.inj rounded
    have fits : zero.significand < 2 ^ 53 ∧ minExponent ≤ zero.exponent ∧
        zero.exponent ≤ maxExponent := by decide
    exact ⟨fits.1, fits.2.1, fits.2.2, .inl rfl⟩
  · obtain ⟨low, high⟩ := binaryExponent_spec numerator denominator
    rw [ofFraction_eq negative numerator] at rounded
    dsimp only at rounded
    have least := Int.le_max_right (binaryExponent num den) minExponent
    have top : (num : ℚ) / den < (2 ^ 53 : ℕ) * 2 ^ max (binaryExponent num den) minExponent := by
      refine lt_of_lt_of_le high ?_
      rw [Nat.cast_pow, Nat.cast_ofNat]
      have wider : (2 : ℚ) ^ binaryExponent num den ≤ 2 ^ max (binaryExponent num den) minExponent :=
        zpow_le_zpow_right₀ (by norm_num) (Int.le_max_left _ _)
      linarith
    have bound := bitsUnder_le denominator top
    split_ifs at rounded with carry most most
    · obtain rfl := Option.some.inj rounded
      exact ⟨by dsimp only; decide, by dsimp only; omega, most, .inr (Nat.le_refl _)⟩
    · obtain rfl := Option.some.inj rounded
      refine ⟨Nat.lt_of_le_of_ne bound carry, least, most, ?_⟩
      rcases Int.le_total (binaryExponent num den) minExponent with deep | above
      · exact .inl (max_eq_right deep)
      · right
        dsimp only
        rw [max_eq_left above]
        apply le_bitsUnder denominator
        rw [Nat.cast_pow, Nat.cast_ofNat]
        exact low

/-- A fraction this near to a number is read as it. -/
def Near (x : Double) (q : ℚ) : Prop := |q - x.magnitude| < x.magnitude / 2 ^ 54

theorem Near.pos {x : Double} {q : ℚ} (near : x.Near q) : 0 < q := by
  have positive : 0 < x.magnitude / 2 ^ 54 := lt_of_le_of_lt (abs_nonneg _) near
  have low := (abs_lt.mp near).1
  linarith

theorem ofFraction_of_near {x : Double} (canonical : x.Canonical) {num den : ℕ}
    (denominator : den ≠ 0) (near : x.Near ((num : ℚ) / den)) :
    ofFraction x.negative num den = some x := by
  obtain ⟨negative, m, e⟩ := x
  obtain ⟨small, least, most, normal⟩ := canonical
  dsimp only at small least most normal ⊢
  have numerator : num ≠ 0 := by
    rintro rfl
    have positive := near.pos
    simp at positive
  have unit : (0 : ℚ) < 2 ^ e := zpow_pos (by norm_num) e
  have top : (m : ℚ) ≤ 2 ^ 53 - 1 := by
    have bound : m + 1 ≤ 2 ^ 53 := small
    have cast : ((m + 1 : ℕ) : ℚ) ≤ (2 ^ 53 : ℕ) := by exact_mod_cast bound
    push_cast at cast
    linarith
  have largest := mul_le_mul_of_nonneg_right top unit.le
  have distance := near
  rw [Near, magnitude] at distance
  dsimp only at distance
  have half : |(num : ℚ) / den - m * 2 ^ e| < 2 ^ e / 2 := by
    refine lt_of_lt_of_le distance ?_
    linarith
  obtain ⟨low, high⟩ := abs_lt.mp half
  obtain ⟨first, last⟩ := binaryExponent_spec numerator denominator
  have under : binaryExponent num den ≤ e := by
    by_contra beyond
    have power : (2 : ℚ) ^ (e + 1) ≤ 2 ^ binaryExponent num den :=
      zpow_le_zpow_right₀ (by norm_num) (by omega)
    rw [zpow_add_one₀ (by norm_num)] at power
    linarith
  rw [ofFraction_eq negative numerator]
  dsimp only
  by_cases exactly : max (binaryExponent num den) minExponent = e
  · rw [exactly, bitsUnder_eq denominator half, if_neg (Nat.ne_of_lt small), if_pos most]
  · -- The fraction is below the least number of this exponent, which it is read as.
    have bits : 2 ^ 52 ≤ m := by
      rcases normal with deep | bits
      · omega
      · exact bits
    have bits' : (2 : ℚ) ^ 52 ≤ m := by exact_mod_cast bits
    have least' := mul_le_mul_of_nonneg_right bits' unit.le
    have below : binaryExponent num den = e - 1 := by
      have deep : binaryExponent num den ≤ e - 1 := by omega
      by_contra other
      have power : (2 : ℚ) ^ binaryExponent num den ≤ 2 ^ (e - 2) :=
        zpow_le_zpow_right₀ (by norm_num) (by omega)
      rw [zpow_sub₀ (by norm_num)] at power
      linarith
    have halved : (2 : ℚ) ^ (e - 1) = 2 ^ e / 2 := by
      rw [zpow_sub_one₀ (by norm_num)]
      ring
    have edge : m = 2 ^ 52 := by
      by_contra other
      have more : 2 ^ 52 + 1 ≤ m := by omega
      have more' : (2 : ℚ) ^ 52 + 1 ≤ m := by exact_mod_cast more
      rw [below, halved] at last
      have scaled := mul_le_mul_of_nonneg_right more' unit.le
      linarith
    have position : max (binaryExponent num den) minExponent = e - 1 := by omega
    have carry : bitsUnder num den (e - 1) = 2 ^ 53 := by
      apply bitsUnder_eq denominator
      rw [halved]
      have same : ((2 ^ 53 : ℕ) : ℚ) * (2 ^ e / 2) = m * 2 ^ e := by
        rw [edge]
        push_cast
        ring
      rw [same]
      refine lt_of_lt_of_le distance ?_
      rw [edge]
      push_cast
      linarith
    rw [position, carry, if_pos rfl, sub_add_cancel, if_pos most, edge]

theorem ofDecimal_of_near {x : Double} (canonical : x.Canonical) {digits : ℕ} {e : ℤ}
    (near : x.Near (digits * 10 ^ e)) : ofDecimal ⟨x.negative, digits, e⟩ = some x := by
  apply ofFraction_of_near canonical (powDen_pos (by decide) e).ne'
  have shape : ((digits * powNum 10 e : ℕ) : ℚ) / powDen 10 e = digits * 10 ^ e := by
    rw [Nat.cast_mul, mul_div_assoc, powNum_div_powDen (by decide), Nat.cast_ofNat]
  rw [shape]
  exact near

theorem ofDecimal_canonical {d : Decimal} {x : Double} (read : ofDecimal d = some x) : x.Canonical :=
  ofFraction_canonical (powDen_pos (by decide) _).ne' read

/-- Digits of a number, and how many: they are read back as it. -/
structure ReadBack (x : Double) (n : ℤ) (k digits : ℕ) : Prop where
  long : 10 ^ (k - 1) ≤ digits
  short : digits < 10 ^ k
  reads : ofDecimal ⟨x.negative, digits, n - k⟩ = some x

theorem digitsOf_readBack {x : Double} {num den : ℕ} {n : ℤ} {k digits : ℕ}
    (found : digitsOf x num den n k = some digits) : x.ReadBack n k digits := by
  have of_reads (s : ℕ) (reads : (10 ^ (k - 1) ≤ s && s < 10 ^ k &&
      ofDecimal ⟨x.negative, s, n - k⟩ == some x) = true) : x.ReadBack n k s := by
    simp only [Bool.and_eq_true, decide_eq_true_eq, beq_iff_eq] at reads
    exact ⟨reads.1.1, reads.1.2, reads.2⟩
  unfold digitsOf at found
  dsimp only at found
  split at found
  · rename_i low high
    split_ifs at found
    · rw [← Option.some.inj found]
      exact of_reads _ low
    · rw [← Option.some.inj found]
      exact of_reads _ high
  · rename_i low _
    rw [← Option.some.inj found]
    exact of_reads _ low
  · rename_i _ high
    rw [← Option.some.inj found]
    exact of_reads _ high
  · cases found

theorem digitsOf_isSome {x : Double} {num den : ℕ} {n : ℤ} {k s : ℕ}
    (readBack : x.ReadBack n k s)
    (next : s = num * powDen 10 (n - k) / (den * powNum 10 (n - k)) ∨
      s = num * powDen 10 (n - k) / (den * powNum 10 (n - k)) + 1) :
    (digitsOf x num den n k).isSome := by
  have reads : (10 ^ (k - 1) ≤ s && s < 10 ^ k &&
      ofDecimal ⟨x.negative, s, n - k⟩ == some x) = true := by
    simp only [Bool.and_eq_true, decide_eq_true_eq, beq_iff_eq]
    exact ⟨⟨readBack.long, readBack.short⟩, readBack.reads⟩
  unfold digitsOf
  dsimp only
  generalize num * powDen 10 (n - k) = scaled at next ⊢
  generalize den * powNum 10 (n - k) = unit at next ⊢
  rcases next with rfl | rfl
  · rw [reads]
    generalize (_ && _ && ofDecimal ⟨x.negative, scaled / unit + 1, n - k⟩ == some x) = other
    cases other with
    | false => rfl
    | true => exact iteInduction (motive := fun found : Option Nat => found.isSome = true) (fun _ => rfl) fun _ => rfl
  · rw [reads]
    generalize (_ && _ && ofDecimal ⟨x.negative, scaled / unit, n - k⟩ == some x) = other
    cases other with
    | false => rfl
    | true => exact iteInduction (motive := fun found : Option Nat => found.isSome = true) (fun _ => rfl) fun _ => rfl

theorem magnitude_eq (x : Double) :
    ((x.significand * powNum 2 x.exponent : ℕ) : ℚ) / powDen 2 x.exponent = x.magnitude := by
  rw [Nat.cast_mul, mul_div_assoc, powNum_div_powDen (by decide), Nat.cast_ofNat, magnitude]

theorem digitsOf_seventeen {x : Double} (canonical : x.Canonical) {num den : ℕ} (numerator : num ≠ 0)
    (denominator : den ≠ 0) (value : (num : ℚ) / den = x.magnitude) :
    (digitsOf x num den (pointPosition num den) 17).isSome := by
  obtain ⟨first, last⟩ := pointPosition_spec numerator denominator
  generalize pointPosition num den = n at *
  have unit : (0 : ℚ) < 10 ^ (n - 17 : ℤ) := zpow_pos (by norm_num) _
  have unitPos : 0 < den * powNum 10 (n - (17 : ℕ)) :=
    Nat.mul_pos (Nat.pos_of_ne_zero denominator) (powNum_pos (by decide) _)
  -- The number in units of its 17th digit, and the whole part of that.
  obtain ⟨y, units⟩ : ∃ y : ℚ, x.magnitude = y * 10 ^ (n - 17 : ℤ) :=
    ⟨_, (div_mul_cancel₀ _ unit.ne').symm⟩
  have scaled : ((num * powDen 10 (n - (17 : ℕ)) : ℕ) : ℚ) / ((den * powNum 10 (n - (17 : ℕ)) : ℕ) : ℚ)
      = y := by
    rw [scaled_div (by decide), value, units, Nat.cast_ofNat, Nat.cast_ofNat, mul_div_assoc,
      div_self unit.ne', mul_one]
  rw [value, units] at first last
  have low : (10 : ℚ) ^ 16 ≤ y := by
    have power : (10 : ℚ) ^ (n - 1) = 10 ^ 16 * 10 ^ (n - 17) := by
      rw [← zpow_natCast, ← zpow_add₀ (by norm_num)]
      congr 1
      push_cast
      ring
    rw [power] at first
    exact le_of_mul_le_mul_right first unit
  have high : y < (10 : ℚ) ^ 17 := by
    have power : (10 : ℚ) ^ n = 10 ^ 17 * 10 ^ (n - 17) := by
      rw [← zpow_natCast, ← zpow_add₀ (by norm_num)]
      congr 1
      push_cast
      ring
    rw [power] at last
    exact lt_of_mul_lt_mul_right last unit.le
  have floorLow : ((num * powDen 10 (n - (17 : ℕ)) / (den * powNum 10 (n - (17 : ℕ))) : ℕ) : ℚ) ≤ y := by
    rw [← scaled]
    exact Nat.cast_div_le
  have floorHigh : y < ((num * powDen 10 (n - (17 : ℕ)) / (den * powNum 10 (n - (17 : ℕ))) : ℕ) : ℚ) + 1 := by
    rw [← scaled, div_lt_iff₀ (by exact_mod_cast unitPos)]
    exact_mod_cast Nat.lt_mul_of_div_lt (Nat.lt_succ_self _) unitPos
  have near_of (s : ℕ) (close : |(s : ℚ) - y| < y / 2 ^ 54) : x.Near (s * 10 ^ (n - (17 : ℕ))) := by
    rw [Near, units, Nat.cast_ofNat, ← sub_mul, abs_mul, abs_of_pos unit]
    have product := mul_lt_mul_of_pos_right close unit
    linarith
  have digits := @digitsOf_isSome x num den n 17
  generalize num * powDen 10 (n - (17 : ℕ)) / (den * powNum 10 (n - (17 : ℕ))) = floor at *
  have floorBounds : 10 ^ 16 ≤ floor ∧ floor < 10 ^ 17 := by
    constructor
    · have bound : (10 : ℚ) ^ 16 < floor + 1 := by linarith
      have cast : 10 ^ 16 < floor + 1 := by exact_mod_cast bound
      omega
    · have bound : (floor : ℚ) < 10 ^ 17 := by linarith
      exact_mod_cast bound
  by_cases closer : y - floor ≤ 1 / 2 ∨ floor + 1 = 10 ^ 17
  · have near : |(floor : ℚ) - y| < y / 2 ^ 54 := by
      rw [abs_sub_comm, abs_of_nonneg (by linarith)]
      rcases closer with half | edge
      · linarith
      · have bound : (floor : ℚ) + 1 = 10 ^ 17 := by exact_mod_cast edge
        linarith
    exact digits ⟨floorBounds.1, floorBounds.2, ofDecimal_of_near canonical (near_of floor near)⟩
      (.inl rfl)
  · rw [not_or, not_le] at closer
    have near : |((floor + 1 : ℕ) : ℚ) - y| < y / 2 ^ 54 := by
      push_cast
      rw [abs_of_nonneg (by linarith)]
      linarith
    exact digits ⟨by omega, by omega, ofDecimal_of_near canonical (near_of (floor + 1) near)⟩
      (.inr rfl)

theorem text_eq {x : Double} (canonical : x.Canonical) (nonzero : x.significand ≠ 0) :
    ∃ n k digits, 0 < k ∧ x.ReadBack n k digits ∧
      x.text = (if x.negative then ['-'.toNat] else []) ++ layout (decimalDigits digits) n := by
  have numerator : x.significand * powNum 2 x.exponent ≠ 0 :=
    (Nat.mul_pos (Nat.pos_of_ne_zero nonzero) (powNum_pos (by decide) _)).ne'
  have denominator : powDen 2 x.exponent ≠ 0 := (powDen_pos (by decide) _).ne'
  have enough := digitsOf_seventeen canonical numerator denominator x.magnitude_eq
  obtain ⟨digits, found⟩ : ∃ digits, (List.range 17).findSome? (fun k =>
      digitsOf x (x.significand * powNum 2 x.exponent) (powDen 2 x.exponent)
        (pointPosition (x.significand * powNum 2 x.exponent) (powDen 2 x.exponent)) (k + 1))
      = some digits := by
    rw [← Option.isSome_iff_exists, List.findSome?_isSome_iff]
    exact ⟨16, by decide, enough⟩
  obtain ⟨k, -, readBack⟩ := List.exists_of_findSome?_eq_some found
  refine ⟨_, k + 1, digits, Nat.succ_pos k, digitsOf_readBack readBack, ?_⟩
  unfold text
  rw [if_neg nonzero]
  dsimp only
  rw [found, Option.getD_some]

end Double

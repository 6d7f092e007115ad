import Opslane.Lib.DoubleNearest
import Opslane.Sdk.DebugId

/-!
# Numbers that are read back

A number that was read is printed as a literal of the grammar, and the literal is read as the
same number: its digits are those that were found, wherever the point or the exponent stands.
Zero is printed without a sign.
-/

namespace Opslane.Sdk.DebugId

open CanonicalJson JsonReader Unicode

/-- Decimal digits and nothing else. -/
def Digits (text : Codes) : Prop := ∀ c ∈ text, isDigit c = true

theorem digits_decimalDigits (n : Nat) : Digits (Double.decimalDigits n) := by
  intro c member
  obtain ⟨d, digit, rfl⟩ := List.mem_map.mp member
  have bounds := Nat.isDigit_of_mem_toDigits (b := 10) (by decide) (by decide) digit
  simp only [Char.isDigit, Bool.and_eq_true, decide_eq_true_eq] at bounds
  simp only [isDigit, Bool.and_eq_true, decide_eq_true_eq]
  exact ⟨bounds.1, bounds.2⟩

theorem digits_zeros (n : Nat) : Digits (Double.zeros n) := by
  intro c member
  rw [List.eq_of_mem_replicate member]
  decide

theorem Digits.append {a b : Codes} (first : Digits a) (second : Digits b) : Digits (a ++ b) :=
  List.forall_mem_append.mpr ⟨first, second⟩

theorem Digits.take {a : Codes} (digits : Digits a) (n : Nat) : Digits (a.take n) :=
  fun c member => digits c (List.mem_of_mem_take member)

theorem Digits.drop {a : Codes} (digits : Digits a) (n : Nat) : Digits (a.drop n) :=
  fun c member => digits c (List.mem_of_mem_drop member)

theorem digitsValue_foldl (digits : Codes) (start : Nat) :
    digits.foldl (fun n c => 10 * n + (c - code '0')) start
      = start * 10 ^ digits.length + digitsValue digits := by
  induction digits generalizing start with
  | nil => simp [digitsValue]
  | cons c rest ih =>
    rw [digitsValue, List.foldl_cons, List.foldl_cons, ih, ih (10 * 0 + _), List.length_cons, pow_succ]
    ring

theorem digitsValue_append (a b : Codes) :
    digitsValue (a ++ b) = digitsValue a * 10 ^ b.length + digitsValue b := by
  rw [digitsValue, List.foldl_append, digitsValue_foldl b]
  rfl

theorem digitsValue_zeros (n : Nat) : digitsValue (Double.zeros n) = 0 := by
  induction n with
  | zero => rfl
  | succ n ih =>
    have front : Double.zeros (n + 1) = [code '0'] ++ Double.zeros n := List.replicate_succ
    rw [front, digitsValue_append, ih]
    exact Nat.zero_mul _

theorem digitsValue_decimalDigits (n : Nat) : digitsValue (Double.decimalDigits n) = n := by
  rw [digitsValue, Double.decimalDigits, List.foldl_map]
  exact Nat.ofDigitChars_ten_toDigits

theorem digitsValue_lt {digits : Codes} (all : Digits digits) :
    digitsValue digits < 10 ^ digits.length := by
  induction digits with
  | nil => decide
  | cons c rest ih =>
    have inner := ih fun c member => all c (List.mem_cons_of_mem _ member)
    have digit := all c List.mem_cons_self
    simp only [isDigit, Bool.and_eq_true, decide_eq_true_eq] at digit
    have front : c :: rest = [c] ++ rest := rfl
    rw [front, digitsValue_append, List.length_append, List.length_singleton, pow_add, pow_one]
    have single : digitsValue [c] ≤ 9 := by
      have value : digitsValue [c] = c - code '0' := by simp [digitsValue]
      have nine : code '9' - code '0' = 9 := by decide
      rw [value]
      omega
    nlinarith

theorem length_decimalDigits {n k : Nat} (long : 10 ^ (k - 1) ≤ n) (short : n < 10 ^ k)
    (positive : 0 < k) : (Double.decimalDigits n).length = k := by
  rw [Double.decimalDigits, List.length_map]
  have upper := (Nat.length_toDigits_le_iff (b := 10) (by decide) positive).mpr short
  by_contra other
  have lower : (Nat.toDigits 10 n).length ≤ k - 1 := by omega
  have some_ : 0 < k - 1 := Nat.lt_of_lt_of_le Nat.length_toDigits_pos lower
  have small := (Nat.length_toDigits_le_iff (b := 10) (by decide) some_).mp lower
  omega

theorem decimalDigits_cons {n k : Nat} (long : 10 ^ (k - 1) ≤ n) (short : n < 10 ^ k)
    (positive : 0 < k) :
    ∃ c rest, Double.decimalDigits n = c :: rest ∧ c ≠ code '0' ∧ rest.length = k - 1 := by
  have length := length_decimalDigits long short positive
  have digits := digits_decimalDigits n
  have value := digitsValue_decimalDigits n
  cases spelled : Double.decimalDigits n with
  | nil =>
    rw [spelled] at length
    exact absurd length (by simp; omega)
  | cons c rest =>
    rw [spelled] at length digits value
    rw [List.length_cons] at length
    refine ⟨c, rest, rfl, ?_, by omega⟩
    rintro rfl
    have front : code '0' :: rest = [code '0'] ++ rest := rfl
    have small := digitsValue_lt fun c member => digits c (List.mem_cons_of_mem _ member)
    have zero : digitsValue [code '0'] = 0 := rfl
    rw [front, digitsValue_append, zero, Nat.zero_mul, Nat.zero_add] at value
    have shorter : rest.length = k - 1 := by omega
    rw [value, shorter] at small
    omega

/-- What may stand behind a number: nothing that goes on with it. -/
def Delimited (rest : Codes) : Prop :=
  ∀ c ∈ rest.head?, isDigit c = false ∧ c ≠ code '.' ∧ c ≠ code 'e' ∧ c ≠ code 'E'

theorem takeWhile_digits {digits tail : Codes} (all : Digits digits)
    (stops : ∀ c ∈ tail.head?, isDigit c = false) :
    (digits ++ tail).takeWhile isDigit = digits ∧ (digits ++ tail).dropWhile isDigit = tail := by
  have nothing : tail.takeWhile isDigit = [] ∧ tail.dropWhile isDigit = tail := by
    cases tail with
    | nil => exact ⟨rfl, rfl⟩
    | cons c rest =>
      have other := stops c rfl
      simp [other]
  constructor
  · rw [List.takeWhile_append_of_pos all, nothing.1, List.append_nil]
  · rw [List.dropWhile_append_of_pos all, nothing.2]

/-- A literal taken apart. -/
structure Literal where
  negative : Bool
  whole : Codes
  fraction : Codes
  exponent : Option (Bool × Codes)

namespace Literal

def fractionText (l : Literal) : Codes := if l.fraction = [] then [] else code '.' :: l.fraction

def exponentText (l : Literal) : Codes :=
  match l.exponent with
  | none => []
  | some (negative, digits) => code 'e' :: (if negative then code '-' else code '+') :: digits

def text (l : Literal) : Codes :=
  (if l.negative then [code '-'] else []) ++ l.whole ++ l.fractionText ++ l.exponentText

def exponentPart (l : Literal) : Int :=
  match l.exponent with
  | none => 0
  | some (negative, digits) => exponentValue negative digits

def decimal (l : Literal) : Decimal :=
  JsonReader.decimal l.negative l.whole l.fraction l.exponentPart

structure WellFormed (l : Literal) : Prop where
  whole : l.whole = [code '0'] ∨ ∃ c rest, l.whole = c :: rest ∧ c ≠ code '0'
  wholeDigits : Digits l.whole
  fraction : Digits l.fraction
  exponent : ∀ e ∈ l.exponent, Digits e.2 ∧ e.2 ≠ []

variable {l : Literal}

theorem optionalExponent_text (wellFormed : l.WellFormed) {rest : Codes}
    (delimited : Delimited rest) :
    optionalExponent (l.exponentText ++ rest) = (l.exponentPart, rest) := by
  unfold exponentText exponentPart
  cases found : l.exponent with
  | none =>
    cases rest with
    | nil => rfl
    | cons c rest =>
      obtain ⟨-, -, small, large⟩ := delimited c rfl
      simp [optionalExponent, small, large]
  | some e =>
    obtain ⟨negative, digits⟩ := e
    obtain ⟨all, nonempty⟩ := wellFormed.exponent _ found
    obtain ⟨taken, left⟩ := takeWhile_digits all fun c member => (delimited c member).1
    have signed : exponentSign ((if negative then code '-' else code '+') :: (digits ++ rest))
        = (negative, digits ++ rest) := by
      cases negative <;> rfl
    simp only [List.cons_append]
    rw [optionalExponent, signed]
    dsimp only
    rw [taken, left, if_pos ⟨.inl rfl, nonempty⟩]

theorem exponentText_front (l : Literal) {rest : Codes} (delimited : Delimited rest) :
    ∀ c ∈ (l.exponentText ++ rest).head?, isDigit c = false ∧ c ≠ code '.' := by
  unfold exponentText
  intro c front
  cases found : l.exponent with
  | none =>
    rw [found] at front
    exact ⟨(delimited c front).1, (delimited c front).2.1⟩
  | some e =>
    rw [found] at front
    obtain rfl : code 'e' = c := Option.some.inj front
    decide

theorem optionalFraction_text (wellFormed : l.WellFormed) {tail : Codes}
    (stops : ∀ c ∈ tail.head?, isDigit c = false ∧ c ≠ code '.') :
    optionalFraction (l.fractionText ++ tail) = (l.fraction, tail) := by
  unfold fractionText
  split_ifs with empty
  · rw [empty, List.nil_append]
    cases tail with
    | nil => rfl
    | cons c tail =>
      have other := (stops c rfl).2
      simp [optionalFraction, other]
  · obtain ⟨taken, left⟩ := takeWhile_digits wellFormed.fraction fun c member => (stops c member).1
    rw [List.cons_append, optionalFraction, taken, left, if_pos ⟨rfl, empty⟩]

theorem integerPart_text (wellFormed : l.WellFormed) {tail : Codes}
    (stops : ∀ c ∈ tail.head?, isDigit c = false) :
    integerPart (l.whole ++ tail) = some (l.whole, tail) := by
  rcases wellFormed.whole with zero | ⟨c, rest, split, nonzero⟩
  · rw [zero]
    simp [integerPart]
  · have digits := wellFormed.wholeDigits
    rw [split] at digits ⊢
    obtain ⟨taken, left⟩ :=
      takeWhile_digits (fun c member => digits c (List.mem_cons_of_mem _ member)) stops
    rw [List.cons_append, integerPart, if_neg nonzero, if_pos (digits c List.mem_cons_self), taken,
      left]

theorem matchNumber_text (wellFormed : l.WellFormed) {rest : Codes} (delimited : Delimited rest) :
    matchNumber (l.text ++ rest) = some (l.decimal, rest) := by
  have signed : sign (l.text ++ rest)
      = (l.negative, l.whole ++ (l.fractionText ++ (l.exponentText ++ rest))) := by
    unfold text
    simp only [List.append_assoc]
    cases l.negative with
    | true => rfl
    | false =>
      rw [if_neg (by decide), List.nil_append]
      obtain ⟨c, tail, split, digit⟩ : ∃ c tail, l.whole = c :: tail ∧ c ≠ code '-' := by
        rcases wellFormed.whole with zero | ⟨c, tail, split, -⟩
        · exact ⟨_, _, zero, by decide⟩
        · refine ⟨c, tail, split, ?_⟩
          rintro rfl
          have digit := wellFormed.wholeDigits (code '-') (by rw [split]; exact List.mem_cons_self)
          exact absurd digit (by decide)
      rw [split, List.cons_append, sign, if_neg digit]
  have behind : ∀ c ∈ (l.fractionText ++ (l.exponentText ++ rest)).head?, isDigit c = false := by
    intro c front
    unfold fractionText at front
    split_ifs at front
    · exact (l.exponentText_front delimited c front).1
    · obtain rfl : code '.' = c := Option.some.inj front
      decide
  unfold matchNumber
  simp only [signed, integerPart_text wellFormed behind, bind, Option.bind,
    optionalFraction_text wellFormed (l.exponentText_front delimited),
    optionalExponent_text wellFormed delimited, pure]
  rfl

end Literal

/-- `layout`, taken apart. -/
def laidOut (negative : Bool) (s : Codes) (n : Int) : Literal :=
  let k := s.length
  if k ≤ n ∧ n ≤ 21 then ⟨negative, s ++ Double.zeros (n.toNat - k), [], none⟩
  else if 0 < n ∧ n ≤ 21 then ⟨negative, s.take n.toNat, s.drop n.toNat, none⟩
  else if -6 < n ∧ n ≤ 0 then ⟨negative, [code '0'], Double.zeros (-n).toNat ++ s, none⟩
  else ⟨negative, s.take 1, s.drop 1, some (n ≤ 0, Double.decimalDigits (n - 1).natAbs)⟩

theorem text_laidOut (negative : Bool) {s : Codes} (nonempty : s ≠ []) (n : Int) :
    (laidOut negative s n).text
      = (if negative then ['-'.toNat] else []) ++ Double.layout s n := by
  have positive := List.length_pos_iff.mpr nonempty
  unfold laidOut Double.layout
  dsimp only
  by_cases whole : s.length ≤ n ∧ n ≤ 21
  · rw [if_pos whole, if_pos whole]
    simp [Literal.text, Literal.fractionText, Literal.exponentText, code]
  · by_cases pointed : 0 < n ∧ n ≤ 21
    · have some_ : ¬s.length ≤ n.toNat := by omega
      rw [if_neg whole, if_neg whole, if_pos pointed, if_pos pointed]
      simp [Literal.text, Literal.fractionText, Literal.exponentText, code, some_]
    · by_cases small : -6 < n ∧ n ≤ 0
      · rw [if_neg whole, if_neg whole, if_neg pointed, if_neg pointed, if_pos small, if_pos small]
        simp [Literal.text, Literal.fractionText, Literal.exponentText, code, nonempty]
      · rw [if_neg whole, if_neg whole, if_neg pointed, if_neg pointed, if_neg small, if_neg small]
        have single : s.tail = [] ↔ s.length = 1 := by
          rw [← List.drop_one, List.drop_eq_nil_iff]
          omega
        simp [Literal.text, Literal.fractionText, Literal.exponentText, code, single]

theorem laidOut_wellFormed (negative : Bool) {n : Int} {k digits : Nat} (long : 10 ^ (k - 1) ≤ digits)
    (short : digits < 10 ^ k) (positive : 0 < k) :
    (laidOut negative (Double.decimalDigits digits) n).WellFormed := by
  have all := digits_decimalDigits digits
  have whole (m : Nat) (some_ : 0 < m) : ∃ c rest,
      (Double.decimalDigits digits).take m = c :: rest ∧ c ≠ code '0' := by
    obtain ⟨c, rest, split, nonzero, -⟩ := decimalDigits_cons long short positive
    obtain ⟨m, rfl⟩ := Nat.exists_eq_add_of_lt some_
    exact ⟨c, rest.take m, by rw [split, Nat.zero_add, List.take_succ_cons], nonzero⟩
  unfold laidOut
  dsimp only
  split_ifs with entire pointed small
  · refine ⟨.inr ?_, all.append (digits_zeros _), by simp [Digits], by simp⟩
    obtain ⟨c, rest, split, nonzero, -⟩ := decimalDigits_cons long short positive
    exact ⟨c, _, by rw [split, List.cons_append], nonzero⟩
  · exact ⟨.inr (whole _ (by omega)), all.take _, all.drop _, by simp⟩
  · exact ⟨.inl rfl, by simp [Digits, isDigit, code], (digits_zeros _).append all, by simp⟩
  · refine ⟨.inr (whole 1 (by decide)), all.take _, all.drop _, ?_⟩
    intro e member
    obtain rfl := Option.some.inj member
    refine ⟨digits_decimalDigits _, ?_⟩
    simp [Double.decimalDigits, Nat.toDigits_ne_nil]

theorem ofDecimal_laidOut (negative : Bool) {n : Int} {k digits : Nat}
    (long : 10 ^ (k - 1) ≤ digits) (short : digits < 10 ^ k) (positive : 0 < k) :
    Double.ofDecimal (laidOut negative (Double.decimalDigits digits) n).decimal
      = Double.ofDecimal ⟨negative, digits, n - k⟩ := by
  have length := length_decimalDigits long short positive
  have value := digitsValue_decimalDigits digits
  unfold laidOut
  dsimp only
  rw [length]
  split_ifs with entire pointed small
  · have exponent : n - k = ((n.toNat - k : Nat) : Int) := by omega
    simp only [Literal.decimal, Literal.exponentPart, decimal, List.append_nil, digitsValue_append,
      digitsValue_zeros, value, Double.ofDecimal, exponent]
    simp [Double.powNum, Double.powDen, Double.zeros]
  · have exponent : (0 : Int) - (k - n.toNat : Nat) = n - k := by omega
    simp only [Literal.decimal, Literal.exponentPart, decimal, List.take_append_drop, value,
      List.length_drop, length, exponent]
  · have exponent : (0 : Int) - ((-n).toNat + k : Nat) = n - k := by omega
    have whole : digitsValue [code '0'] = 0 := rfl
    have zeros : (Double.zeros (-n).toNat).length = (-n).toNat := List.length_replicate
    simp only [Literal.decimal, Literal.exponentPart, decimal, digitsValue_append, whole,
      digitsValue_zeros, value, List.length_append, zeros, length, exponent, Nat.zero_mul,
      Nat.zero_add]
  · have exponent : exponentValue (decide (n ≤ 0)) (Double.decimalDigits (n - 1).natAbs)
        - (k - 1 : Nat) = n - k := by
      rw [exponentValue, digitsValue_decimalDigits]
      split_ifs with below
      · have below := of_decide_eq_true below
        omega
      · have above : ¬n ≤ 0 := fun below_ => below (decide_eq_true below_)
        omega
    simp only [Literal.decimal, Literal.exponentPart, decimal, List.take_append_drop, value,
      List.length_drop, length, exponent]

/-- Zero without its sign. -/
def unsignedZero (x : Double) : Double :=
  if x.significand = 0 then { x with negative := false } else x

theorem matchNumber_doubleText {x : Double} (canonical : x.Canonical) {rest : Codes}
    (delimited : Delimited rest) :
    ∃ d, matchNumber (x.text ++ rest) = some (d, rest) ∧ Double.ofDecimal d = some (unsignedZero x) := by
  by_cases zero : x.significand = 0
  · have wellFormed : (Literal.mk false [code '0'] [] none).WellFormed :=
      ⟨.inl rfl, by simp [Digits, isDigit, code], by simp [Digits], by simp⟩
    refine ⟨(Literal.mk false [code '0'] [] none).decimal, ?_, ?_⟩
    · have printed : x.text = (Literal.mk false [code '0'] [] none).text := by
        rw [Double.text]
        dsimp only
        rw [if_pos zero]
        rfl
      rw [printed]
      exact Literal.matchNumber_text wellFormed delimited
    · have least : x.exponent = Double.minExponent := by
        rcases canonical.normal with least | bits
        · exact least
        · omega
      have read : Double.ofDecimal (Literal.mk false [code '0'] [] none).decimal = some Double.zero := by
        decide +kernel
      rw [read, unsignedZero, if_pos zero, zero, least]
      rfl
  · obtain ⟨n, k, digits, positive, readBack, printed⟩ := Double.text_eq canonical zero
    have nonempty : Double.decimalDigits digits ≠ [] := by
      simp [Double.decimalDigits, Nat.toDigits_ne_nil]
    refine ⟨(laidOut x.negative (Double.decimalDigits digits) n).decimal, ?_, ?_⟩
    · rw [printed, ← text_laidOut x.negative nonempty n]
      exact Literal.matchNumber_text (laidOut_wellFormed _ readBack.long readBack.short positive) delimited
    · rw [ofDecimal_laidOut x.negative readBack.long readBack.short positive, readBack.reads,
        unsignedZero, if_neg zero]

theorem doubleText_append_inj {x y : Double} (first : x.Canonical) (second : y.Canonical)
    {rest rest' : Codes} (delimited : Delimited rest) (delimited' : Delimited rest')
    (same : x.text ++ rest = y.text ++ rest') :
    unsignedZero x = unsignedZero y ∧ rest = rest' := by
  obtain ⟨d, read, value⟩ := matchNumber_doubleText first delimited
  obtain ⟨d', read', value'⟩ := matchNumber_doubleText second delimited'
  rw [same, read'] at read
  obtain ⟨rfl, rfl⟩ := Prod.mk.inj (Option.some.inj read)
  rw [value'] at value
  exact ⟨(Option.some.inj value).symm, rfl⟩

theorem doubleText_unsignedZero {x y : Double} (same : unsignedZero x = unsignedZero y) :
    x.text = y.text := by
  have text_eq (z : Double) : (unsignedZero z).text = z.text := by
    unfold unsignedZero
    split_ifs with zero
    · simp [Double.text, zero]
    · rfl
  rw [← text_eq x, same, text_eq]

end Opslane.Sdk.DebugId

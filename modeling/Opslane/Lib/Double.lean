import Mathlib.Algebra.GroupWithZero.Nat
import Mathlib.Data.Nat.Log
import Mathlib.Data.Rat.Defs
import Opslane.Lib.Unicode

/-!
# Numbers of 64 bits

A decimal literal is read as the nearest number of the binary64 format, the even one of two
equally near, or not at all where it is beyond the finite ones. Scripts print a number by the
fewest digits that are read back as it.
-/

/-- `digits · 10 ^ exponent` -/
structure Decimal where
  negative : Bool
  digits : Nat
  exponent : Int
  deriving DecidableEq

/-- `significand · 2 ^ exponent`, with 53 bits unless the exponent is the least. -/
structure Double where
  negative : Bool
  significand : Nat
  exponent : Int
  deriving DecidableEq

namespace Double

def minExponent : Int := -1074

def maxExponent : Int := 971

def three : Double := ⟨false, 3 * 2 ^ 51, -51⟩

def zero : Double := ⟨false, 0, minExponent⟩

/-- The quotient, rounded to the nearest and halves to the even. -/
def divideEven (num den : Nat) : Nat :=
  let q := num / den
  let r := num % den
  if 2 * r < den then q else if den < 2 * r then q + 1 else q + q % 2

/-- `base ^ exponent` as a fraction. -/
def powNum (base : Nat) (exponent : Int) : Nat := base ^ exponent.toNat

def powDen (base : Nat) (exponent : Int) : Nat := base ^ (-exponent).toNat

/-- The power of two that leaves the fraction 53 bits before the point. -/
def binaryExponent (num den : Nat) : Int :=
  let e : Int := Nat.log2 num - Nat.log2 den - 52
  if num * powDen 2 e < 2 ^ 52 * (den * powNum 2 e) then e - 1 else e

def ofFraction (negative : Bool) (num den : Nat) : Option Double :=
  if num = 0 then some { zero with negative }
  else
    let e := max (binaryExponent num den) minExponent
    let significand := divideEven (num * powDen 2 e) (den * powNum 2 e)
    let (significand, e) := if significand = 2 ^ 53 then (2 ^ 52, e + 1) else (significand, e)
    if e ≤ maxExponent then some ⟨negative, significand, e⟩ else none

/-- The number a literal stands for, unless it is infinite. -/
def ofDecimal (d : Decimal) : Option Double :=
  ofFraction d.negative (d.digits * powNum 10 d.exponent) (powDen 10 d.exponent)

/-- How many digits stand before the point of a fraction that is not zero: the `n` with
`10 ^ (n - 1) ≤ num / den < 10 ^ n`. -/
def pointPosition (num den : Nat) : Int :=
  let n : Int := Nat.log 10 num - Nat.log 10 den
  if num * powDen 10 n < den * powNum 10 n then n else n + 1

/-- The digits of a number with `k` of them, if some are read back as it. -/
def digitsOf (x : Double) (num den : Nat) (n : Int) (k : Nat) : Option Nat :=
  let e := n - k
  let scaled := num * powDen 10 e
  let unit := den * powNum 10 e
  let low := scaled / unit
  let reads (s : Nat) : Bool :=
    10 ^ (k - 1) ≤ s && s < 10 ^ k && ofDecimal ⟨x.negative, s, e⟩ == some x
  match reads low, reads (low + 1) with
  | true, true => if 2 * (scaled % unit) ≤ unit then some low else some (low + 1)
  | true, false => some low
  | false, true => some (low + 1)
  | false, false => none

def decimalDigits (n : Nat) : Codes := (Nat.toDigits 10 n).map Char.toNat

def zeros (n : Nat) : Codes := List.replicate n ('0'.toNat)

/-- The layout of the digits `s` of a number below `10 ^ n`. -/
def layout (s : Codes) (n : Int) : Codes :=
  let k := s.length
  if k ≤ n ∧ n ≤ 21 then s ++ zeros (n.toNat - k)
  else if 0 < n ∧ n ≤ 21 then s.take n.toNat ++ '.'.toNat :: s.drop n.toNat
  else if -6 < n ∧ n ≤ 0 then '0'.toNat :: '.'.toNat :: zeros (-n).toNat ++ s
  else
    let sign := if n ≤ 0 then '-'.toNat else '+'.toNat
    let exponent := 'e'.toNat :: sign :: decimalDigits (n - 1).natAbs
    s.take 1 ++ (if k = 1 then [] else '.'.toNat :: s.drop 1) ++ exponent

/-- 17 digits are enough for every number. -/
def text (x : Double) : Codes :=
  let num := x.significand * powNum 2 x.exponent
  let den := powDen 2 x.exponent
  if x.significand = 0 then ['0'.toNat]
  else
    let n := pointPosition num den
    let digits := ((List.range 17).findSome? fun k => digitsOf x num den n (k + 1)).getD 0
    (if x.negative then ['-'.toNat] else []) ++ layout (decimalDigits digits) n

end Double

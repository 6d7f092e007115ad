import Opslane.Lib.GoStrings
import Opslane.Lib.GoTime
import Opslane.Notify.Dispatcher

/-!
# How long a receiver asks to wait

`parseRetryAfter` of `packages/ingestion/notify/dispatcher.go`, and what `complete` schedules
with its result. A duration is a 64-bit count of nanoseconds. The seconds of the header are
multiplied into it before they are capped, and the product may wrap around.

`http.ParseTime` is a parameter, since what it reads of a zone depends on the process. A
moment is its nanoseconds since 1970.
-/

namespace Opslane.Notify.RetryAfter

open Bytes

def second : Int64 := 1000000000

def maxRetryAfter : Int64 := 3600 * second

/-- The digits of a decimal number. -/
def digits (text : Bytes) : Option Nat :=
  if text ≠ [] ∧ text.all GoTime.isDigit then some (GoTime.value text) else none

/-- A whole number, of any size. -/
def number (text : Bytes) : Option Int :=
  match text with
  | [] => none
  | sign :: rest =>
    if sign = GoStrings.byte '-' then (digits rest).map fun n => -(n : Int)
    else if sign = GoStrings.byte '+' then (digits rest).map fun n => (n : Int)
    else (digits text).map fun n => (n : Int)

/-- `strconv.ParseInt` in base 10, of 64 bits. -/
def parseInt (text : Bytes) : Option Int64 :=
  ((number text).filter fun n => -2 ^ 63 ≤ n ∧ n < 2 ^ 63).map Int64.ofInt

/-- `Sub` of two moments saturates. -/
def sub (t u : Int) : Int64 := Int64.ofInt (max (-2 ^ 63) (min (2 ^ 63 - 1) (t - u)))

def minDuration (a b : Int64) : Int64 := if a < b then a else b

def parseRetryAfter (parseTime : Bytes → Option Int) (value : Bytes) (now : Int) : Int64 :=
  let value := GoStrings.trimSpace value
  if value = [] then 0
  else
    match parseInt value with
    | some seconds => if seconds ≤ 0 then 0 else minDuration (seconds * second) maxRetryAfter
    | none =>
      match parseTime value with
      | none => 0
      | some moment =>
        let delay := sub moment now
        if delay ≤ 0 then 0 else minDuration delay maxRetryAfter

/-- `make_interval(secs => delay.Seconds())`, to the nearest microsecond. -/
def interval (nanoseconds : Int) : Int := (nanoseconds + 500) / 1000

def retryDelay (attempts : Nat) (retryAfter : Int64) : Int :=
  if retryAfter ≤ 0 then backoff attempts else interval retryAfter.toInt

/-- The row of a claim that is retried. -/
def completeRetry (deliveries : DeliveryTable) (c : DeliveryClaim) (retryAfter : Int64)
    (reason : String) (now : Timestamp) : DeliveryTable × Bool :=
  settle deliveries c
    (Delivery.retry (truncateReason reason) (retryDelay c.attempts retryAfter) now) fun _ => rfl

/-- The wait in nanoseconds, without a cap. -/
def asked (parseTime : Bytes → Option Int) (value : Bytes) (now : Int) : Int :=
  let value := GoStrings.trimSpace value
  if value = [] then 0
  else
    match number value with
    | some n => max n 0 * 1000000000
    | none =>
      match parseTime value with
      | some moment => max (moment - now) 0
      | none => 0

/-- The wait is what the receiver asks for, up to the cap. -/
structure Honoured (parseTime : Bytes → Option Int) (value : Bytes) (now : Int) : Prop where
  bounded : 0 ≤ parseRetryAfter parseTime value now ∧ parseRetryAfter parseTime value now ≤ maxRetryAfter
  numeric : ∀ n, number (GoStrings.trimSpace value) = some n →
    (parseRetryAfter parseTime value now).toInt = min (max n 0 * 1000000000) maxRetryAfter.toInt
  scheduled : ∀ (deliveries : DeliveryTable) (c : DeliveryClaim) (reason : String) (clock : Timestamp),
    ∀ d ∈ deliveries.rows, d.HeldBy c →
      ∃ d' ∈ (completeRetry deliveries c (parseRetryAfter parseTime value now) reason clock).1.rows,
        d'.id = d.id ∧
        clock + interval (min (asked parseTime value now) maxRetryAfter.toInt) ≤ d'.nextAttemptAt

/-- The seconds do not wrap around, or come out above the cap where they do. -/
def Fits (value : Bytes) : Prop :=
  ∀ n ∈ number (GoStrings.trimSpace value), n ≤ 9223372036 ∨
    (n < 2 ^ 63 ∧ 3600000000000 ≤ n * 1000000000 % 2 ^ 64 ∧ n * 1000000000 % 2 ^ 64 < 2 ^ 63)
  deriving Decidable

theorem toInt_maxRetryAfter : maxRetryAfter.toInt = 3600000000000 := rfl

theorem toInt_minDuration (a b : Int64) : (minDuration a b).toInt = min a.toInt b.toInt := by
  unfold minDuration
  split
  · rename_i less
    rw [Int64.lt_iff_toInt_lt] at less
    omega
  · rename_i less
    rw [Int64.lt_iff_toInt_lt] at less
    omega

variable {n : Int}

theorem toInt_ofInt (low : -2 ^ 63 ≤ n) (high : n < 2 ^ 63) : (Int64.ofInt n).toInt = n :=
  Int64.toInt_ofInt_of_le low (by omega)

theorem toInt_sub (t u : Int) :
    (if sub t u ≤ 0 then (0 : Int64) else minDuration (sub t u) maxRetryAfter).toInt =
      min (max (t - u) 0) maxRetryAfter.toInt := by
  have value : (sub t u).toInt = max (-2 ^ 63) (min (2 ^ 63 - 1) (t - u)) := by
    unfold sub
    exact toInt_ofInt (by omega) (by omega)
  rw [toInt_maxRetryAfter]
  split
  · rename_i none_
    rw [Int64.le_iff_toInt_le, value] at none_
    have zero : (0 : Int64).toInt = 0 := rfl
    rw [zero] at none_ ⊢
    omega
  · rename_i some_
    rw [Int64.le_iff_toInt_le, value] at some_
    have zero : (0 : Int64).toInt = 0 := rfl
    rw [zero] at some_
    rw [toInt_minDuration, value, toInt_maxRetryAfter]
    omega

theorem toInt_product (low : -2 ^ 63 ≤ n) (high : n < 2 ^ 63) :
    (Int64.ofInt n * second).toInt = (n * 1000000000).bmod (2 ^ 64) := by
  have unit : second.toInt = 1000000000 := rfl
  rw [Int64.toInt_mul, toInt_ofInt low high, unit]

section

variable {parseTime : Bytes → Option Int} {value : Bytes} {now : Int}

theorem toInt_of_number (dates : ∀ text n, number text = some n → parseTime text = none)
    (written : number (GoStrings.trimSpace value) = some n) :
    (parseRetryAfter parseTime value now).toInt =
      if 0 < n ∧ n < 2 ^ 63 then min ((n * 1000000000).bmod (2 ^ 64)) maxRetryAfter.toInt else 0 := by
  have some_ : GoStrings.trimSpace value ≠ [] := by
    intro empty
    rw [empty] at written
    cases written
  have zero : (0 : Int64).toInt = 0 := rfl
  unfold parseRetryAfter
  dsimp only
  rw [if_neg some_]
  by_cases range : -2 ^ 63 ≤ n ∧ n < 2 ^ 63
  · have parsed : parseInt (GoStrings.trimSpace value) = some (Int64.ofInt n) := by
      rw [parseInt, written, Option.filter_some, if_pos (decide_eq_true range), Option.map_some]
    have seconds : (Int64.ofInt n).toInt = n := toInt_ofInt range.1 range.2
    rw [parsed]
    dsimp only
    by_cases positive : 0 < n
    · have above : ¬Int64.ofInt n ≤ 0 := by
        rw [Int64.le_iff_toInt_le, seconds, zero]
        omega
      rw [if_neg above, if_pos ⟨positive, range.2⟩, toInt_minDuration, toInt_product range.1 range.2]
    · have below : Int64.ofInt n ≤ 0 := by
        rw [Int64.le_iff_toInt_le, seconds, zero]
        omega
      rw [if_pos below, if_neg fun both => positive both.1, zero]
  · have long : parseInt (GoStrings.trimSpace value) = none := by
      rw [parseInt, written, Option.filter_some, if_neg (by simpa using range), Option.map_none]
    rw [long, dates _ n written]
    dsimp only
    rw [if_neg fun both => range ⟨by omega, both.2⟩, zero]

theorem fits_iff : (n ≤ 9223372036 ∨ (n < 2 ^ 63 ∧ 3600000000000 ≤ n * 1000000000 % 2 ^ 64 ∧
      n * 1000000000 % 2 ^ 64 < 2 ^ 63)) ↔
    (if 0 < n ∧ n < 2 ^ 63 then min ((n * 1000000000).bmod (2 ^ 64)) maxRetryAfter.toInt else 0) =
      min (max n 0 * 1000000000) maxRetryAfter.toInt := by
  rw [toInt_maxRetryAfter, Int.bmod_def]
  have modulus : ((2 ^ 64 : Nat) : Int) = 2 ^ 64 := by decide
  have half : ((2 : Int) ^ 64 + 1) / 2 = 2 ^ 63 := by decide
  have low : 0 ≤ n * 1000000000 % 2 ^ 64 := Int.emod_nonneg _ (by decide)
  have high : n * 1000000000 % 2 ^ 64 < 2 ^ 64 := Int.emod_lt_of_pos _ (by decide)
  by_cases positive : 0 < n
  · by_cases small : n ≤ 9223372036
    · have whole : n * 1000000000 % 2 ^ 64 = n * 1000000000 := Int.emod_eq_of_lt (by omega) (by omega)
      have signed : n * 1000000000 < 2 ^ 63 := by omega
      rw [if_pos (show 0 < n ∧ n < 2 ^ 63 by omega), whole, modulus, whole, half,
        if_pos signed, max_eq_left positive.le]
      exact iff_of_true (Or.inl small) rfl
    · have capped : min (max n 0 * 1000000000) 3600000000000 = 3600000000000 := by omega
      rw [capped, modulus, half]
      clear capped
      generalize n * 1000000000 % 2 ^ 64 = product at low high
      by_cases fits : n < 2 ^ 63
      · rw [if_pos ⟨positive, fits⟩]
        by_cases signed : product < 2 ^ 63
        · rw [if_pos signed]
          omega
        · rw [if_neg signed]
          omega
      · rw [if_neg fun both => fits both.2]
        omega
  · rw [if_neg fun both => positive both.1, max_eq_right (by omega)]
    exact iff_of_true (Or.inl (by omega)) (by omega)

theorem toInt_of_fits (dates : ∀ text n, number text = some n → parseTime text = none)
    (fits : Fits value) (now : Int) : (parseRetryAfter parseTime value now).toInt =
      min (asked parseTime value now) maxRetryAfter.toInt := by
  have nothing : min 0 maxRetryAfter.toInt = 0 := by
    rw [toInt_maxRetryAfter]
    omega
  by_cases empty : GoStrings.trimSpace value = []
  · rw [asked, parseRetryAfter]
    dsimp only
    rw [if_pos empty, if_pos empty]
    exact nothing.symm
  cases written : number (GoStrings.trimSpace value) with
  | some n =>
    have asks : asked parseTime value now = max n 0 * 1000000000 := by
      unfold asked
      rw [if_neg empty, written]
    rw [toInt_of_number dates written, asks]
    exact fits_iff.mp (fits n written)
  | none =>
    have word : parseInt (GoStrings.trimSpace value) = none := by
      rw [parseInt, written]
      rfl
    rw [asked, parseRetryAfter]
    dsimp only
    rw [if_neg empty, if_neg empty, written, word]
    dsimp only
    cases parseTime (GoStrings.trimSpace value) with
    | none => exact nothing.symm
    | some moment => exact toInt_sub moment now

theorem asked_nonneg (parseTime : Bytes → Option Int) (value : Bytes) (now : Int) :
    0 ≤ asked parseTime value now := by
  unfold asked
  dsimp only
  split
  · exact le_rfl
  · split
    · omega
    · split
      · exact le_max_right _ _
      · exact le_rfl

theorem backoff_nonneg (attempt : Nat) : 0 ≤ backoff attempt := by
  unfold backoff
  split <;> decide

theorem interval_le_retryDelay (attempts : Nat) (retryAfter : Int64) (real : 0 ≤ retryAfter.toInt) :
    interval retryAfter.toInt ≤ retryDelay attempts retryAfter := by
  unfold retryDelay
  split
  · rename_i none_
    have zero : (0 : Int64).toInt = 0 := rfl
    rw [Int64.le_iff_toInt_le, zero] at none_
    have exact_ : retryAfter.toInt = 0 := by omega
    rw [exact_]
    exact backoff_nonneg attempts
  · exact le_rfl

theorem honoured_of_fits (dates : ∀ text n, number text = some n → parseTime text = none)
    (fits : Fits value) : Honoured parseTime value now := by
  have wait := toInt_of_fits dates fits now
  have cap := toInt_maxRetryAfter
  have positive := asked_nonneg parseTime value now
  refine ⟨⟨?_, ?_⟩, fun n written => ?_, fun deliveries c reason clock d member held => ?_⟩
  · rw [Int64.le_iff_toInt_le, wait]
    have zero : (0 : Int64).toInt = 0 := rfl
    omega
  · rw [Int64.le_iff_toInt_le, wait]
    omega
  · rw [toInt_of_number dates written]
    exact fits_iff.mp (fits n written)
  · let retry := Delivery.retry (truncateReason reason)
      (retryDelay c.attempts (parseRetryAfter parseTime value now)) clock
    refine ⟨retry d, ?_, rfl, ?_⟩
    · refine (Table.mem_updateWhere deliveries (fun d => d.HeldBy c) retry (fun _ => rfl) _).mpr ?_
      exact ⟨d, member, if_pos (decide_eq_true held)⟩
    · have delay := interval_le_retryDelay c.attempts (parseRetryAfter parseTime value now) (by omega)
      rw [wait] at delay
      exact Int.add_le_add_left delay clock

theorem fits_of_honoured (dates : ∀ text n, number text = some n → parseTime text = none)
    (honoured : Honoured parseTime value now) : Fits value := by
  intro n written
  have asks := honoured.numeric n written
  rw [toInt_of_number dates written] at asks
  exact fits_iff.mpr asks

theorem le_of_numbers (dates : ∀ text n, number text = some n → parseTime text = none)
    {value' : Bytes} {n n' : Int} (written : number (GoStrings.trimSpace value) = some n)
    (written' : number (GoStrings.trimSpace value') = some n') (fits : Fits value) (fits' : Fits value')
    (less : n ≤ n') (now now' : Int) :
    parseRetryAfter parseTime value now ≤ parseRetryAfter parseTime value' now' := by
  have first : Honoured parseTime value now := honoured_of_fits dates fits
  have second : Honoured parseTime value' now' := honoured_of_fits dates fits'
  rw [Int64.le_iff_toInt_le, first.numeric n written, second.numeric n' written']
  omega

/-- A header is honoured exactly where its seconds fit, and then a larger number waits no less. -/
theorem honoured_iff (dates : ∀ text n, number text = some n → parseTime text = none) :
    (∀ value now, Honoured parseTime value now ↔ Fits value) ∧
      ∀ value value' n n' now now', number (GoStrings.trimSpace value) = some n →
        number (GoStrings.trimSpace value') = some n' → Fits value → Fits value' → n ≤ n' →
        parseRetryAfter parseTime value now ≤ parseRetryAfter parseTime value' now' :=
  ⟨fun _ _ => ⟨fits_of_honoured dates, honoured_of_fits dates⟩,
    fun _ _ _ _ now now' written written' fits fits' less =>
      le_of_numbers dates written written' fits fits' less now now'⟩

end

/-- No text that is asked about below is a date. -/
def noDate : Bytes → Option Int := fun _ => none

theorem honoured_two_minutes : Honoured noDate (ascii " 120 ") 0 :=
  have dates : ∀ text n, number text = some n → noDate text = none := fun _ _ _ => rfl
  ((honoured_iff dates).1 _ _).mpr (by decide +kernel)

/-- Three hundred years of seconds wrap around to a negative wait. -/
theorem retryAfter_wraps : ¬∀ parseTime : Bytes → Option Int,
    (∀ text n, number text = some n → parseTime text = none) →
      ∀ value now, Honoured parseTime value now := by
  intro honoured
  have wait := (honoured noDate (fun _ _ _ => rfl) (ascii "9223372037") 0).bounded.1
  revert wait
  decide +kernel

end Opslane.Notify.RetryAfter

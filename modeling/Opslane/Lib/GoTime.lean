import Opslane.Lib.Bytes

/-!
# Times as Go reads them

`time.Parse` with the layout of RFC 3339. The year, the month, the day, the minute and the
second have all their digits, an hour may have one; a fraction of a second may follow a point
or a comma, and only nine of its digits count. A zone may be a whole day off.
-/

namespace GoTime

open Bytes

def isDigit (b : UInt8) : Bool := 0x30 ≤ b && b ≤ 0x39

def value (digits : Bytes) : Nat := digits.foldl (fun n b => n * 10 + (b - 0x30).toNat) 0

/-- So many digits. -/
def fixedDigits (count : Nat) (text : Bytes) : Option (Nat × Bytes) :=
  let digits := text.take count
  if digits.length = count ∧ digits.all isDigit then some (value digits, text.drop count) else none

/-- `getnum`, where one digit may do. -/
def oneOrTwoDigits (text : Bytes) : Option (Nat × Bytes) :=
  match fixedDigits 2 text with
  | some read => some read
  | none => fixedDigits 1 text

def within (least greatest : Nat) (read : Option (Nat × Bytes)) : Option (Nat × Bytes) :=
  read.filter fun (n, _) => least ≤ n ∧ n ≤ greatest

def skip (word : String) (text : Bytes) : Option Bytes :=
  if (ascii word).isPrefixOf text then some (text.drop (ascii word).length) else none

/-- `parseNanoseconds` -/
def nanoseconds (digits : Bytes) : Nat :=
  value (digits.take 9) * 10 ^ (9 - (digits.take 9).length)

/-- The fraction of a second, if one is written. -/
def fraction (text : Bytes) : Nat × Bytes :=
  match text with
  | point :: digit :: rest =>
    if (point = 0x2e ∨ point = 0x2c) ∧ isDigit digit then
      (nanoseconds ((digit :: rest).takeWhile isDigit), (digit :: rest).dropWhile isDigit)
    else (0, text)
  | _ => (0, text)

/-- The offset of the zone in minutes. -/
def zone (text : Bytes) : Option (Int × Bytes) :=
  match text with
  | [] => none
  | sign :: rest =>
    if sign = 0x5a then some (0, rest)
    else do
      let (hours, rest) ← within 0 24 (fixedDigits 2 rest)
      let rest ← skip ":" rest
      let (minutes, rest) ← within 0 60 (fixedDigits 2 rest)
      if sign = 0x2b then some ((hours * 60 + minutes : Nat), rest)
      else if sign = 0x2d then some (-(hours * 60 + minutes : Nat), rest)
      else none

def isLeap (year : Nat) : Bool := year % 4 = 0 && (year % 100 ≠ 0 || year % 400 = 0)

def daysIn (month year : Nat) : Nat :=
  if month = 2 then if isLeap year then 29 else 28
  else if month = 4 ∨ month = 6 ∨ month = 9 ∨ month = 11 then 30
  else 31

/-- The days from 1 January of the year 0 to the first of the month. -/
def daysBefore (year month : Nat) : Nat :=
  let years := if year = 0 then 0 else
    365 * year + (year - 1) / 4 - (year - 1) / 100 + (year - 1) / 400 + 1
  years + ((List.range (month - 1)).map fun m => daysIn (m + 1) year).sum

/-- The nanoseconds since 1970. -/
def parseRFC3339 (text : Bytes) : Option Int := do
  let (year, text) ← fixedDigits 4 text
  let text ← skip "-" text
  let (month, text) ← within 1 12 (fixedDigits 2 text)
  let text ← skip "-" text
  let (day, text) ← fixedDigits 2 text
  let text ← skip "T" text
  let (hour, text) ← within 0 23 (oneOrTwoDigits text)
  let text ← skip ":" text
  let (minute, text) ← within 0 59 (fixedDigits 2 text)
  let text ← skip ":" text
  let (second, text) ← within 0 59 (fixedDigits 2 text)
  let (nanos, text) := fraction text
  let (offset, text) ← zone text
  if text = [] ∧ 1 ≤ day ∧ day ≤ daysIn month year then
    let days : Int := (daysBefore year month + (day - 1) : Nat) - (daysBefore 1970 1 : Nat)
    let minutes : Int := days * 1440 + (hour * 60 + minute : Nat) - offset
    return (minutes * 60 + (second : Nat)) * 1000000000 + (nanos : Nat)
  else none

/-- A moment in UTC, in a year of four digits. -/
structure UtcTime where
  year : Nat
  month : Nat
  day : Nat
  hour : Nat
  minute : Nat
  second : Nat
  year_lt : year < 10000
  month_range : 1 ≤ month ∧ month ≤ 12
  day_range : 1 ≤ day ∧ day ≤ daysIn month year
  hour_lt : hour < 24
  minute_lt : minute < 60
  second_lt : second < 60

/-- The last so many digits of a number. -/
def padded : Nat → Nat → Bytes
  | 0, _ => []
  | count + 1, n => padded count (n / 10) ++ [0x30 + (n % 10).toUInt8]

/-- `Format` with the layout of RFC 3339. -/
def UtcTime.format (t : UtcTime) : Bytes :=
  padded 4 t.year ++ (ascii "-" ++ (padded 2 t.month ++ (ascii "-" ++ (padded 2 t.day ++ (ascii "T" ++
    (padded 2 t.hour ++ (ascii ":" ++ (padded 2 t.minute ++ (ascii ":" ++ (padded 2 t.second ++
      ascii "Z"))))))))))

theorem digit_toNat {d : Nat} (small : d < 10) :
    isDigit (0x30 + d.toUInt8) = true ∧ (0x30 + d.toUInt8 - 0x30).toNat = d := by
  revert small
  revert d
  decide

@[simp] theorem length_padded (count n : Nat) : (padded count n).length = count := by
  induction count generalizing n with
  | zero => rfl
  | succ count ih => rw [padded, List.length_append, ih, List.length_singleton]

theorem isDigit_padded (count n : Nat) : ∀ b ∈ padded count n, isDigit b = true := by
  induction count generalizing n with
  | zero => exact nofun
  | succ count ih =>
    rw [padded]
    refine List.forall_mem_append.mpr ⟨ih _, List.forall_mem_singleton.mpr ?_⟩
    exact (digit_toNat (Nat.mod_lt n (by decide))).1

theorem value_padded {count n : Nat} (small : n < 10 ^ count) : value (padded count n) = n := by
  induction count generalizing n with
  | zero =>
    rw [Nat.pow_zero, Nat.lt_one_iff] at small
    rw [small]
    rfl
  | succ count ih =>
    rw [Nat.pow_succ] at small
    have front := ih (n := n / 10) (by omega)
    have last := (digit_toNat (Nat.mod_lt n (show 0 < 10 by decide))).2
    unfold value at front ⊢
    rw [padded, List.foldl_append, front, List.foldl_cons, List.foldl_nil, last]
    omega

theorem fixedDigits_padded {count n : Nat} (small : n < 10 ^ count) (rest : Bytes) :
    fixedDigits count (padded count n ++ rest) = some (n, rest) := by
  have taken : (padded count n ++ rest).take count = padded count n := List.take_left' (length_padded ..)
  have dropped : (padded count n ++ rest).drop count = rest := List.drop_left' (length_padded ..)
  have all_ : (padded count n).all isDigit = true := List.all_eq_true.mpr (isDigit_padded count n)
  rw [fixedDigits, taken, dropped, value_padded small]
  exact if_pos ⟨length_padded .., all_⟩

theorem skip_append (word : String) (rest : Bytes) : skip word (ascii word ++ rest) = some rest := by
  rw [skip, if_pos (List.isPrefixOf_iff_prefix.mpr (List.prefix_append ..)), List.drop_left]

theorem within_some {least greatest n : Nat} (bounds : least ≤ n ∧ n ≤ greatest) (rest : Bytes) :
    within least greatest (some (n, rest)) = some (n, rest) := by
  simp [within, bounds]

theorem isSome_bind {α β : Type} {first : Option α} {next : α → Option β} {a : α} (read : first = some a)
    (rest : (next a).isSome) : (first >>= next).isSome := by
  rw [read]
  exact rest

theorem parseRFC3339_format (t : UtcTime) : ∃ nanoseconds, parseRFC3339 t.format = some nanoseconds := by
  obtain ⟨year, month, day, hour, minute, second, yearBound, months, days, hours, minutes, seconds⟩ := t
  have dayBound : day < 100 := by
    have most : daysIn month year ≤ 31 := by
      unfold daysIn
      split_ifs
      all_goals decide
    omega
  have two {n : Nat} (small : n < 100) (rest : Bytes) : fixedDigits 2 (padded 2 n ++ rest) = some (n, rest) :=
    fixedDigits_padded small rest
  have one (rest : Bytes) : oneOrTwoDigits (padded 2 hour ++ rest) = some (hour, rest) := by
    rw [oneOrTwoDigits, two (by omega)]
  have noFraction : fraction (ascii "Z") = (0, ascii "Z") := rfl
  have utc : zone (ascii "Z") = some (0, []) := rfl
  rw [← Option.isSome_iff_exists]
  unfold parseRFC3339 UtcTime.format
  refine isSome_bind (fixedDigits_padded (show year < 10 ^ 4 by omega) _) ?_
  refine isSome_bind (skip_append "-" _) ?_
  refine isSome_bind (by rw [two (show month < 100 by omega), within_some months]) ?_
  refine isSome_bind (skip_append "-" _) ?_
  refine isSome_bind (two dayBound _) ?_
  refine isSome_bind (skip_append "T" _) ?_
  refine isSome_bind (by rw [one, within_some (show 0 ≤ hour ∧ hour ≤ 23 by omega)]) ?_
  refine isSome_bind (skip_append ":" _) ?_
  refine isSome_bind (by
    rw [two (show minute < 100 by omega), within_some (show 0 ≤ minute ∧ minute ≤ 59 by omega)]) ?_
  refine isSome_bind (skip_append ":" _) ?_
  refine isSome_bind (by
    rw [two (show second < 100 by omega), within_some (show 0 ≤ second ∧ second ≤ 59 by omega)]) ?_
  dsimp only
  rw [noFraction]
  refine isSome_bind utc ?_
  dsimp only
  rw [if_pos ⟨rfl, days⟩]
  rfl

end GoTime

import Opslane.Intake.DebugId
import Opslane.Lib.JsonAgreement
import Opslane.Sdk.DebugId

/-!
# One debug id for one map

The two sides read the same documents but do not call every fault alike. Beside them stands a
reading that tells their faults apart: a half of a pair in a string that breaks off further
on, and a number that breaks off, with what is read in front of it. Each side is that reading
under its own names. Where the document is read by both, they differ in nulls only, which the
intake takes for empty strings.
-/

namespace Opslane.Intake.DebugId

open CanonicalJson JsonReader Unicode
open Sdk.DebugId (strictJson parseString parseNumber matchNumber computeDebugId)
open Sdk.Stamp (RejectReason Fingerprint)

inductive Fault where
  | invalid | duplicate | tooDeep | trailing | infinite
  /-- A half of a pair without the other, in a string that is closed. -/
  | loneSurrogate
  /-- A half of a pair without the other, in a string that breaks off behind it. -/
  | brokenPair
  /-- A number that breaks off behind one that is finite, or behind one that is not. -/
  | brokenNumber | brokenInfinite
  deriving DecidableEq

def Fault.intake : Fault → RejectReason
  | .invalid | .brokenNumber | .brokenInfinite => .invalidJson
  | .duplicate => .duplicateKey
  | .tooDeep => .depthExceeded
  | .trailing => .trailingData
  | .infinite => .nonFiniteNumber
  | .loneSurrogate | .brokenPair => .invalidUnicode

def Fault.sdk : Fault → RejectReason
  | .invalid | .brokenPair | .brokenNumber => .invalidJson
  | .duplicate => .duplicateKey
  | .tooDeep => .depthExceeded
  | .trailing => .trailingData
  | .infinite | .brokenInfinite => .nonFiniteNumber
  | .loneSurrogate => .invalidUnicode

def loneFault (rest : Codes) : Fault :=
  if (units rest).isSome then .loneSurrogate else .brokenPair

def numberFault (front : Decimal) : Fault :=
  if (Double.ofDecimal front).isSome then .brokenNumber else .brokenInfinite

def reading : Grammar Fault (List Nat) Double where
  string := string .invalid loneFault
  number := number .invalid numberFault .infinite
  invalid := .invalid
  tooDeep := .tooDeep
  duplicate := some .duplicate

section Renaming

variable {ε ε' : Type} (f : ε → ε')

theorem stringFrom_mapError (invalid : ε) (lone : Codes → ε) (fuel : Nat) (text : Codes) :
    stringFrom (f invalid) (fun rest => f (lone rest)) fuel text =
      (stringFrom invalid lone fuel text).mapError f := by
  induction fuel generalizing text with
  | zero => rfl
  | succ fuel ih =>
    unfold stringFrom
    simp only [ih]
    have andThen (c : Nat) (x : Except ε (List Nat × Codes)) :
        (do let p ← x.mapError f; return (c :: p.1, p.2) : Except ε' (List Nat × Codes)) =
          (do let p ← x; return (c :: p.1, p.2) : Except ε (List Nat × Codes)).mapError f := by
      cases x <;> rfl
    split
    · rfl
    · rfl
    · split
      · exact andThen ..
      · exact andThen ..
    · exact andThen ..
    · split_ifs
      · rfl
      · split
        · rfl
        · split_ifs
          · exact andThen ..
          · rfl
      · rfl
      · exact andThen ..

theorem fraction_mapError (refused : ε) (text : Codes) :
    fraction (f refused) text = (fraction refused text).mapError f := by
  unfold fraction
  split
  · split_ifs
    all_goals rfl
  · rfl

theorem exponent_mapError (refused : ε) (text : Codes) :
    exponent (f refused) text = (exponent refused text).mapError f := by
  unfold exponent
  split
  · split_ifs
    · dsimp only
      split_ifs
      all_goals rfl
    · rfl
  · rfl

theorem number_mapError (invalid : ε) (broken : Decimal → ε) (infinite : ε) (text : Codes) :
    number (f invalid) (fun front => f (broken front)) (f infinite) text =
      (number invalid broken infinite text).mapError f := by
  unfold number
  dsimp only
  split
  · rfl
  · split_ifs
    · rfl
    · rw [mapError_bind, fraction_mapError]
      congr 1
      funext ⟨digits, rest⟩
      dsimp only
      rw [mapError_bind, exponent_mapError]
      congr 1
      funext ⟨e, rest⟩
      dsimp only
      split
      · rfl
      · rfl

end Renaming

theorem scanner_eq : scanner = reading.mapFault Fault.intake := by
  have strings (text : Codes) : scanner.string text = (reading.string text).mapError Fault.intake := by
    have renamed := stringFrom_mapError Fault.intake Fault.invalid loneFault text.length (text.drop 1)
    have lone : (fun rest => Fault.intake (loneFault rest)) = fun _ => RejectReason.invalidUnicode := by
      funext rest
      unfold loneFault
      split_ifs
      all_goals rfl
    rw [lone] at renamed
    exact renamed
  have numbers (text : Codes) : scanner.number text = (reading.number text).mapError Fault.intake := by
    have renamed := number_mapError Fault.intake Fault.invalid numberFault Fault.infinite text
    have broken : (fun front => Fault.intake (numberFault front)) = fun _ => RejectReason.invalidJson := by
      funext front
      unfold numberFault
      split_ifs
      all_goals rfl
    rw [broken] at renamed
    exact renamed
  unfold Grammar.mapFault
  rw [← funext strings, ← funext numbers]
  rfl

variable {ε : Type}

theorem stringFrom_shortens {invalid : ε} {lone : Codes → ε} {fuel : Nat} {text rest : Codes}
    {s : List Nat} (read : stringFrom invalid lone fuel text = .ok (s, rest)) :
    rest.length < text.length := by
  induction fuel generalizing text s with
  | zero => cases read
  | succ fuel ih =>
    have behind {c : Nat} {after : Codes} (shorter : after.length < text.length)
        (read : (do let p ← stringFrom invalid lone fuel after; return (c :: p.1, p.2) :
          Except ε (List Nat × Codes)) = .ok (s, rest)) : rest.length < text.length := by
      obtain ⟨⟨s', rest'⟩, later, same⟩ := Except.of_bind read
      obtain ⟨-, rfl⟩ := Prod.mk.inj (Except.ok.inj same)
      exact Nat.lt_trans (ih later) shorter
    unfold stringFrom at read
    dsimp only at read
    split at read
    · cases read
    · rename_i next
      obtain ⟨-, rfl⟩ := Prod.mk.inj (Except.ok.inj read)
      exact piece_shortens next
    · rename_i next
      split at read
      · rename_i decoded
        exact behind (decodeRune_shortens decoded) read
      · exact behind (piece_shortens next) read
    · rename_i next
      exact behind (piece_shortens next) read
    · rename_i u after next
      have shorter := piece_shortens next
      split_ifs at read
      · split at read
        · cases read
        · rename_i low later hex
          split_ifs at read
          obtain ⟨a, b, c, d, digits⟩ := hexUnit_eq_some hex
          have length := congrArg List.length digits
          rw [List.length_drop] at length
          simp only [List.length_cons] at length
          exact behind (by omega) read
      · exact behind shorter read

theorem string_shortens {invalid : ε} {lone : Codes → ε} : Shortens (string invalid lone) := by
  intro text s rest read
  have shorter := stringFrom_shortens read
  rw [List.length_drop] at shorter
  omega

theorem fraction_shortens {refused : ε} {text digits rest : Codes}
    (read : fraction refused text = .ok (digits, rest)) : rest.length ≤ text.length := by
  unfold fraction at read
  split at read
  · split_ifs at read
    · obtain ⟨-, rfl⟩ := Prod.mk.inj (Except.ok.inj read)
      exact Nat.le_succ_of_le (List.dropWhile_suffix _).length_le
    · obtain ⟨-, rfl⟩ := Prod.mk.inj (Except.ok.inj read)
      exact Nat.le_refl _
  · obtain ⟨-, rfl⟩ := Prod.mk.inj (Except.ok.inj read)
    exact Nat.le_refl _

theorem exponent_shortens {refused : ε} {text rest : Codes} {e : Int}
    (read : exponent refused text = .ok (e, rest)) : rest.length ≤ text.length := by
  unfold exponent at read
  split at read
  · rename_i c after
    split_ifs at read
    · dsimp only at read
      split_ifs at read
      obtain ⟨-, rfl⟩ := Prod.mk.inj (Except.ok.inj read)
      have signed := length_exponentSign_le after
      have dropped := (List.dropWhile_suffix (l := (exponentSign after).2) isDigit).length_le
      rw [List.length_cons]
      omega
    · obtain ⟨-, rfl⟩ := Prod.mk.inj (Except.ok.inj read)
      exact Nat.le_refl _
  · obtain ⟨-, rfl⟩ := Prod.mk.inj (Except.ok.inj read)
    exact Nat.le_refl _

theorem number_shortens {invalid : ε} {broken : Decimal → ε} {infinite : ε} :
    Shortens (number invalid broken infinite) := by
  intro text x rest read
  have signed := length_sign_le text
  unfold number at read
  dsimp only at read
  split at read
  · cases read
  · rename_i whole after integer
    have shorter := integerPart_shortens integer
    split_ifs at read
    obtain ⟨⟨digits, rest₁⟩, first, read⟩ := Except.of_bind read
    obtain ⟨⟨e, rest₂⟩, second, read⟩ := Except.of_bind read
    have left : rest₁.length ≤ after.length := fraction_shortens first
    have right : rest₂.length ≤ rest₁.length := exponent_shortens second
    dsimp only at read
    split at read
    · cases read
    · obtain ⟨-, rfl⟩ := Prod.mk.inj (Except.ok.inj read)
      show rest₂.length < text.length
      omega

theorem parseString_shortens : Shortens parseString := by
  intro text s rest read
  obtain ⟨⟨us, rest'⟩, found, read⟩ := Except.of_bind read
  obtain ⟨s', -, read⟩ := Except.of_bind read
  obtain ⟨-, rfl⟩ := Prod.mk.inj (Except.ok.inj read)
  have shorter := units_shortens (Option.orError_eq_ok_iff.mp found)
  rw [List.length_drop] at shorter
  show rest'.length < text.length
  omega

theorem optionalFraction_shortens (text : Codes) :
    (Sdk.DebugId.optionalFraction text).2.length ≤ text.length := by
  unfold Sdk.DebugId.optionalFraction
  split
  · split_ifs
    · exact Nat.le_succ_of_le (List.dropWhile_suffix _).length_le
    · exact Nat.le_refl _
  · exact Nat.le_refl _

theorem optionalExponent_shortens (text : Codes) :
    (Sdk.DebugId.optionalExponent text).2.length ≤ text.length := by
  unfold Sdk.DebugId.optionalExponent
  split
  · rename_i c after
    dsimp only
    split_ifs
    · have signed := length_exponentSign_le after
      have dropped := (List.dropWhile_suffix (l := (exponentSign after).2) isDigit).length_le
      exact Nat.le_succ_of_le (Nat.le_trans dropped signed)
    · exact Nat.le_refl _
  · exact Nat.le_refl _

theorem parseNumber_shortens : Shortens parseNumber := by
  intro text x rest read
  unfold parseNumber at read
  split at read
  · cases read
  · rename_i literal after found
    split at read
    · cases read
    · obtain ⟨-, rfl⟩ := Prod.mk.inj (Except.ok.inj read)
      obtain ⟨⟨whole, rest₁⟩, integer, found⟩ := Option.bind_eq_some_iff.mp found
      obtain ⟨-, rfl⟩ := Prod.mk.inj (Option.some.inj found)
      have signed := length_sign_le text
      have shorter : rest₁.length < (sign text).2.length := integerPart_shortens integer
      have left := optionalFraction_shortens rest₁
      have right := optionalExponent_shortens (Sdk.DebugId.optionalFraction rest₁).2
      show (Sdk.DebugId.optionalExponent (Sdk.DebugId.optionalFraction rest₁).2).2.length < text.length
      omega

/-- These units are one character, whatever stands behind them. -/
def Reads (w : List Nat) (n : Nat) : Prop :=
  ∀ us, decodeUnits (w ++ us) = (decodeUnits us).map (n :: ·)

variable {u : Nat}

theorem reads_plain (high : isHigh u = false) (low : isLow u = false) : Reads [u] u := by
  intro us
  cases us with
  | nil => simp [decodeUnits, high, low]
  | cons v us => simp [decodeUnits, high, low]

theorem reads_pair {u v : Nat} (high : isHigh u = true) (low : isLow v = true) :
    Reads [u, v] (pairScalar u v) := by
  intro us
  simp [decodeUnits, high, low]

theorem not_surrogate (plain : u < 0xd800 ∨ 0xe000 ≤ u) :
    isHigh u = false ∧ isLow u = false := by
  simp only [isHigh, isLow, Bool.and_eq_false_iff, decide_eq_false_iff_not]
  omega

theorem reads_utf16 {n : Nat} (valid : IsScalar n) : Reads (utf16 n) n := by
  unfold IsScalar at valid
  unfold utf16
  split_ifs with basic
  · obtain ⟨high, low⟩ := not_surrogate (u := n) (by omega)
    exact reads_plain high low
  · have bounds : (n - 0x10000) / 0x400 < 0x400 ∧ (n - 0x10000) % 0x400 < 0x400 := by omega
    have total := Nat.div_add_mod (n - 0x10000) 0x400
    generalize (n - 0x10000) / 0x400 = q at bounds total ⊢
    generalize (n - 0x10000) % 0x400 = r at bounds total ⊢
    have high : isHigh (0xd800 + q) = true := by
      simp only [isHigh, Bool.and_eq_true, decide_eq_true_eq]
      omega
    have low : isLow (0xdc00 + r) = true := by
      simp only [isLow, Bool.and_eq_true, decide_eq_true_eq]
      omega
    have value : pairScalar (0xd800 + q) (0xdc00 + r) = n := by
      unfold pairScalar
      rw [Nat.add_sub_cancel_left, Nat.add_sub_cancel_left]
      omega
    exact value ▸ reads_pair high low

/-- The rest of `parseString`, from the units on. -/
def checked (read : Option (List Nat × Codes)) : Except RejectReason (List Nat × Codes) := do
  let (value, rest) ← read.orError .invalidJson
  let value ← Sdk.DebugId.assertValidUnicode value
  return (value, rest)

abbrev Together (e : Fault) (e' : RejectReason) : Prop := e' = e.sdk

abbrev AgreeString (x : Except Fault (List Nat × Codes)) (y : Except RejectReason (List Nat × Codes)) :
    Prop :=
  Agree Together (fun _ => False) x y

theorem AgreeString.cons {x : Except Fault (List Nat × Codes)} {read : Option (List Nat × Codes)}
    {w : List Nat} {n : Nat} (reads : Reads w n) (agree : AgreeString x (checked read)) :
    AgreeString (do let (s, rest) ← x; return (n :: s, rest))
      (checked (read.map fun (us, rest) => (w ++ us, rest))) := by
  cases read with
  | none =>
    cases agree with
    | error together => exact .error together
  | some found =>
    obtain ⟨us, rest⟩ := found
    have front : checked ((some (us, rest)).map fun (us, rest) => (w ++ us, rest)) =
        ((decodeUnits us).map (n :: ·)).orError .invalidUnicode >>= fun value => .ok (value, rest) := by
      rw [← reads us]
      rfl
    have whole : checked (some (us, rest)) =
        (decodeUnits us).orError .invalidUnicode >>= fun value => .ok (value, rest) := rfl
    rw [front]
    rw [whole] at agree
    cases decoded : decodeUnits us with
    | none =>
      rw [decoded] at agree
      cases agree with
      | error together => exact .error together
    | some s =>
      rw [decoded] at agree
      cases agree with
      | ok same => exact .ok same
      | cut short _ => exact short.elim

variable {a b : Codes}

theorem lone_agree (same : SameText a b)
    (alone : ∀ us rest, units b = some (us, rest) → decodeUnits (u :: us) = none) :
    AgreeString (.error (loneFault a))
      (checked ((units b).map fun (us, rest) => (u :: us, rest))) := by
  have closed := units_isSome_same same
  unfold loneFault
  cases found : units b with
  | none =>
    rw [closed, found]
    exact .error rfl
  | some read =>
    obtain ⟨us, rest⟩ := read
    rw [closed, found]
    have refused : checked ((some (us, rest)).map fun (us, rest) => (u :: us, rest)) =
        (decodeUnits (u :: us)).orError .invalidUnicode >>= fun value => .ok (value, rest) := rfl
    rw [refused, alone us rest found]
    exact .error rfl

theorem piece_escape {text rest : Codes} {c : Nat} (read : piece text = some (.escape c, rest)) :
    c < 0x80 := by
  unfold piece at read
  split at read
  · cases read
  split_ifs at read
  · cases read
  · cases read
  · unfold escaped at read
    split at read
    · cases read
    split_ifs at read
    · obtain ⟨⟨u, rest'⟩, -, same⟩ := Option.map_eq_some_iff.mp read
      cases same
    · rename_i e after _
      obtain ⟨d, letter, same⟩ := Option.map_eq_some_iff.mp read
      cases same
      exact simpleEscape_ascii letter

theorem piece_unit {text rest : Codes} (read : piece text = some (.unit u, rest)) :
    ∃ digits, text = code '\\' :: code 'u' :: digits ∧ hexUnit digits = some (u, rest) := by
  unfold piece at read
  split at read
  · cases read
  split_ifs at read with close control plain
  · cases read
  · cases read
  · rename_i c after
    unfold escaped at read
    split at read
    · cases read
    split_ifs at read with hex
    · rename_i e digits
      obtain ⟨⟨v, rest'⟩, found, same⟩ := Option.map_eq_some_iff.mp read
      cases same
      have front : c = code '\\' := of_not_not plain
      exact ⟨digits, by rw [front, hex], found⟩
    · obtain ⟨d, -, same⟩ := Option.map_eq_some_iff.mp read
      cases same

theorem piece_of_digits {digits rest : Codes} (found : hexUnit digits = some (u, rest)) :
    piece (code '\\' :: code 'u' :: digits) = some (.unit u, rest) := by
  have bounds : code '\\' ≠ code '"' ∧ ¬code '\\' < 0x20 := by decide
  simp [piece, escaped, bounds, found]

theorem low_is_escaped {a b rest : Codes} {v : Nat} {us : List Nat} (same : SameText a b)
    (low : isLow v = true) (found : units b = some (v :: us, rest)) :
    ∃ a' b', piece a = some (.unit v, a') ∧ piece b = some (.unit v, b') := by
  have large : 0xdc00 ≤ v ∧ v < 0xe000 := by simpa [isLow] using low
  rcases piece_same same with ⟨next, ascii⟩ | ⟨n, a', b', valid, wide, rfl, rfl, behind⟩
  · rw [units_eq] at found
    cases front : piece b with
    | none => rw [front] at found; cases found
    | some read =>
      obtain ⟨p, b'⟩ := read
      rw [front] at found next
      generalize ahead : piece a = x at next
      cases next with
      | @some _ a' _ behind =>
        have first {u : Nat}
            (later : (units b').map (fun (us, rest) => (u :: us, rest)) = some (v :: us, rest)) :
            u = v := by
          obtain ⟨⟨us', rest'⟩, -, equal⟩ := Option.map_eq_some_iff.mp later
          exact (List.cons.inj (Prod.mk.inj equal).1).1
        cases p with
        | close => cases found
        | plain u =>
          have small := ascii u (by rw [piece_plain ahead]; rfl)
          have equal := first found
          omega
        | escape u =>
          have small := piece_escape ahead
          have equal := first found
          omega
        | unit u =>
          obtain rfl := first found
          exact ⟨a', b', rfl, rfl⟩
  · -- A character outside ASCII begins with itself or with the first half of a pair.
    rw [units_wide (utf16_wide wide)] at found
    obtain ⟨⟨us', rest'⟩, -, equal⟩ := Option.map_eq_some_iff.mp found
    have front := (Prod.mk.inj equal).1
    unfold IsScalar at valid
    unfold utf16 at front
    split_ifs at front with basic
    · have head := (List.cons.inj front).1
      omega
    · have head := (List.cons.inj front).1
      have bound : (n - 0x10000) / 0x400 < 0x400 := by omega
      omega

theorem units_of_piece {text after : Codes} {p : Piece} (next : piece text = some (p, after))
    (unit : p = .plain u ∨ p = .escape u ∨ p = .unit u) :
    units text = (units after).map fun (us, rest) => (u :: us, rest) := by
  rw [units_eq, next]
  rcases unit with rfl | rfl | rfl
  all_goals rfl

theorem stringFrom_agree {fuel : Nat} (enough : a.length < fuel) (same : SameText a b) :
    AgreeString (stringFrom .invalid loneFault fuel a) (checked (units b)) := by
  induction fuel generalizing a b with
  | zero => omega
  | succ fuel ih =>
    rcases piece_same same with ⟨next, ascii⟩ | ⟨n, a', b', valid, wide, rfl, rfl, behind⟩
    · unfold stringFrom
      have shorter {p rest} := @piece_shortens a rest p
      generalize ahead : piece a = x at next shorter
      generalize ahead' : piece b = y at next
      cases next with
      | none =>
        rw [units_eq, ahead']
        exact .error rfl
      | @some p a' b' behind =>
        have bound := shorter rfl
        have later := ih (show a'.length < fuel by omega) behind
        cases p with
        | close =>
          rw [units_eq, ahead']
          exact .ok behind
        | plain c =>
          have front := piece_plain ahead
          have small := ascii c (by rw [front]; rfl)
          have decoded : decodeRune a = some (c, a') := by simp [front, decodeRune, small]
          obtain ⟨high, low⟩ := not_surrogate (u := c) (by omega)
          rw [units_of_piece ahead' (.inl rfl)]
          simp only [decoded]
          exact AgreeString.cons (reads_plain high low) later
        | escape c =>
          have small := piece_escape ahead
          obtain ⟨high, low⟩ := not_surrogate (u := c) (by omega)
          rw [units_of_piece ahead' (.inr (.inl rfl))]
          exact AgreeString.cons (reads_plain high low) later
        | unit u =>
          rw [units_of_piece ahead' (.inr (.inr rfl))]
          dsimp only
          split_ifs with high short
          · -- No escape follows, so no other half does.
            apply lone_agree behind
            intro us rest found
            cases us with
            | nil => simp [decodeUnits, high]
            | cons v us =>
              cases low : isLow v with
              | false => simp [decodeUnits, high, low]
              | true =>
                obtain ⟨a₁, b₁, escape, -⟩ := low_is_escaped behind low found
                obtain ⟨digits, front, hex⟩ := piece_unit escape
                obtain ⟨d₁, d₂, d₃, d₄, rfl⟩ := hexUnit_eq_some hex
                rw [front] at short
                simp [codes, List.isPrefixOf] at short
                omega
          · have front : ∃ digits, a' = code '\\' :: code 'u' :: digits := by
              simp only [not_or, Bool.not_eq_false] at short
              obtain ⟨digits, rfl⟩ := List.isPrefixOf_iff_prefix.mp short.2
              exact ⟨digits, rfl⟩
            obtain ⟨digits, rfl⟩ := front
            have drop : (code '\\' :: code 'u' :: digits).drop 2 = digits := rfl
            rw [drop]
            obtain ⟨b₁, rfl, behind₁⟩ := SameText.of_cons (by decide) behind
            obtain ⟨digits', rfl, behind₂⟩ := SameText.of_cons (by decide) behind₁
            have hex := hexUnit_same behind₂
            generalize found : hexUnit digits = x at hex
            generalize found' : hexUnit digits' = y at hex
            cases hex with
            | none =>
              have closed : units (code '\\' :: code 'u' :: digits') = none := by
                have bounds : code '\\' ≠ code '"' ∧ ¬code '\\' < 0x20 := by decide
                rw [units_eq]
                simp [piece, escaped, bounds, found']
              rw [closed]
              exact .error rfl
            | @some low a₃ b₃ behind₃ =>
              have escape := units_of_piece (piece_of_digits found') (.inr (.inr rfl))
              obtain ⟨d₁, d₂, d₃, d₄, rfl⟩ := hexUnit_eq_some found
              simp only [List.length_cons] at bound
              dsimp only
              split_ifs with other
              · rw [escape, Option.map_map]
                exact AgreeString.cons (reads_pair high other)
                  (ih (show a₃.length < fuel by omega) behind₃)
              · apply lone_agree behind
                intro us rest units'
                rw [escape] at units'
                obtain ⟨⟨us', rest'⟩, -, equal⟩ := Option.map_eq_some_iff.mp units'
                obtain ⟨rfl, -⟩ := Prod.mk.inj equal
                simp [decodeUnits, high, other]
          · rename_i low
            apply lone_agree behind
            intro us rest _
            cases us with
            | nil => simp [decodeUnits, low]
            | cons v us => simp [decodeUnits, high, low]
          · rename_i low
            exact AgreeString.cons (reads_plain (by simpa using high) (by simpa using low)) later
    · obtain ⟨c, w, front⟩ := List.exists_cons_of_ne_nil (utf8_ne_nil n)
      have large := utf8_wide wide c (front ▸ List.mem_cons_self)
      have next : piece (utf8 n ++ a') = some (.plain c, w ++ a') := by
        rw [front, List.cons_append, piece_wide large]
      have nonempty := List.length_pos_of_ne_nil (utf8_ne_nil n)
      rw [List.length_append] at enough
      unfold stringFrom
      rw [next, units_wide (utf16_wide wide)]
      simp only [decodeRune_utf8 valid]
      exact AgreeString.cons (reads_utf16 valid) (ih (show a'.length < fuel by omega) behind)

theorem string_agree (same : SameText a b) (quoted : a.head? = some (code '"')) :
    AgreeString (string .invalid loneFault a) (parseString b) := by
  cases a with
  | nil => cases quoted
  | cons c a =>
    obtain rfl := Option.some.inj quoted
    obtain ⟨b, rfl, behind⟩ := SameText.of_cons (by decide) same
    exact stringFrom_agree (Nat.lt_succ_self _) behind

abbrev AgreeNumber (x : Except Fault (Double × Codes)) (y : Except RejectReason (Double × Codes)) :
    Prop :=
  Agree (fun e e' => Together e e' ∧ e ≠ .brokenNumber) (· = .brokenNumber) x y

/-- The rest of `parseNumber`, from the literal on. -/
def finite (literal : Decimal) (rest : Codes) : Except RejectReason (Double × Codes) :=
  match Double.ofDecimal literal with
  | none => .error .nonFiniteNumber
  | some value => .ok (value, rest)

theorem broken_agree (front : Decimal) {rest : Codes} (stuck : Stuck rest) :
    AgreeNumber (.error (numberFault front)) (finite front rest) := by
  unfold numberFault finite
  cases Double.ofDecimal front with
  | none => exact .error ⟨rfl, by decide⟩
  | some value => exact .cut rfl stuck

theorem finite_agree (literal : Decimal) (same : SameText a b) :
    AgreeNumber (match Double.ofDecimal literal with
      | none => .error .infinite
      | some value => .ok (value, a)) (finite literal b) := by
  unfold finite
  cases Double.ofDecimal literal with
  | none => exact .error ⟨rfl, by decide⟩
  | some value => exact .ok same

theorem parseNumber_eq (text : Codes) : parseNumber text =
    match integerPart (sign text).2 with
    | none => .error .invalidJson
    | some (whole, rest) =>
      let (fraction, rest) := Sdk.DebugId.optionalFraction rest
      let (exponent, rest) := Sdk.DebugId.optionalExponent rest
      finite (decimal (sign text).1 whole fraction exponent) rest := by
  unfold parseNumber matchNumber
  generalize sign text = signed
  obtain ⟨negative, text⟩ := signed
  dsimp only
  cases integerPart text with
  | none => rfl
  | some found => rfl

theorem exponent_agree (negative : Bool) (whole fraction : Codes) (same : SameText a b) :
    AgreeNumber
      (do
        let (e, text) ← exponent (numberFault (decimal negative whole fraction 0)) a
        match Double.ofDecimal (decimal negative whole fraction e) with
        | none => .error .infinite
        | some value => return (value, text))
      (finite (decimal negative whole fraction (Sdk.DebugId.optionalExponent b).1)
        (Sdk.DebugId.optionalExponent b).2) := by
  rcases same.cases_front with ⟨rfl, rfl⟩ | ⟨c, a', b', -, rfl, rfl, behind⟩ |
    ⟨c, d, a', b', large, large', rfl, rfl⟩
  · exact finite_agree _ .nil
  · obtain ⟨signs, digits⟩ := exponentSign_same behind
    obtain ⟨equal, rest⟩ := digits.run isDigit_ascii
    simp only [exponent, Sdk.DebugId.optionalExponent, ← signs, ← equal]
    by_cases e : c = code 'e' ∨ c = code 'E'
    · by_cases none : (exponentSign a').2.takeWhile isDigit = []
      · simp only [if_pos e, none, ne_eq, not_true_eq_false, and_false, if_true, if_false]
        exact broken_agree _ ⟨c, b', rfl, .inr (.inr e)⟩
      · simp only [e, none, ne_eq, not_false_eq_true, and_self, if_true, if_false]
        exact finite_agree _ rest
    · simp only [e, false_and, if_false]
      exact finite_agree _ same
  · have other : ¬(c = code 'e' ∨ c = code 'E') ∧ ¬(d = code 'e' ∨ d = code 'E') := by
      have bounds : code 'e' = 0x65 ∧ code 'E' = 0x45 := by decide
      omega
    simp only [exponent, Sdk.DebugId.optionalExponent, other.1, other.2, false_and, if_false]
    exact finite_agree _ same

theorem number_agree (same : SameText a b) :
    AgreeNumber (number .invalid numberFault .infinite a) (parseNumber b) := by
  obtain ⟨signs, same⟩ := sign_same same
  have integers := integerPart_same same
  rw [parseNumber_eq, ← signs]
  unfold number
  dsimp only
  generalize integerPart (sign a).2 = x at integers
  generalize integerPart (sign b).2 = y at integers
  generalize (sign a).1 = negative
  cases integers with
  | none => exact .error ⟨rfl, by decide⟩
  | @some whole a₁ b₁ same =>
    dsimp only
    split_ifs with zero
    · -- A digit behind a leading zero.
      rcases same.cases_front with ⟨rfl, rfl⟩ | ⟨c, a', b', -, rfl, rfl, -⟩ |
        ⟨c, d, a', b', large, large', rfl, rfl⟩
      · cases zero.2
      · have digit : isDigit c = true := zero.2
        have bounds : code '0' = 0x30 ∧ code '9' = 0x39 ∧ code '.' = 0x2e ∧ code 'e' = 0x65 ∧
            code 'E' = 0x45 := by decide
        have other : c ≠ code '.' ∧ ¬(c = code 'e' ∨ c = code 'E') := by
          simp only [isDigit, Bool.and_eq_true, decide_eq_true_eq, bounds] at digit
          omega
        simp only [Sdk.DebugId.optionalFraction, Sdk.DebugId.optionalExponent, other.1, other.2,
          false_and, if_false]
        exact broken_agree _ ⟨c, b', rfl, .inl digit⟩
      · have small := isDigit_ascii c zero.2
        omega
    · rcases same.cases_front with ⟨rfl, rfl⟩ | ⟨c, a', b', -, rfl, rfl, behind⟩ |
        ⟨c, d, a', b', large, large', rfl, rfl⟩
      · exact exponent_agree negative whole [] .nil
      · obtain ⟨equal, rest⟩ := behind.run isDigit_ascii
        simp only [fraction, Sdk.DebugId.optionalFraction, ← equal]
        by_cases point : c = code '.'
        · by_cases none : a'.takeWhile isDigit = []
          · have other : ¬(c = code 'e' ∨ c = code 'E') := by
              rw [point]
              decide
            simp only [if_pos point, none, ne_eq, not_true_eq_false, and_false, if_true, if_false,
              Sdk.DebugId.optionalExponent, other, false_and]
            exact broken_agree _ ⟨c, b', rfl, .inr (.inl point)⟩
          · simp only [point, none, ne_eq, not_false_eq_true, and_self, if_true, if_false]
            exact exponent_agree negative whole _ rest
        · simp only [point, false_and, if_false]
          exact exponent_agree negative whole [] same
      · have other : c ≠ code '.' ∧ d ≠ code '.' := by
          have bounds : code '.' = 0x2e := by decide
          omega
        simp only [fraction, Sdk.DebugId.optionalFraction, if_neg other.1, other.2, false_and, if_false]
        exact exponent_agree negative whole [] same

theorem reading_agrees : reading.Agrees strictJson Together (· = .brokenNumber) where
  string same quoted := string_agree same quoted
  number same _ := (number_agree same).mono (fun _ _ together => together.1) fun _ short => short
  invalid := rfl
  tooDeep := rfl
  duplicate := ⟨_, _, rfl, rfl, rfl⟩
  stuck := by
    rintro e rfl
    rfl

def readDocument (input : Codes) : Except Fault Value := do
  let (value, rest) ← reading.value maxDepth (skipSpace input)
  if skipSpace rest = [] then return value else .error .trailing

theorem scan_eq (input : Codes) : scan input = (readDocument input).mapError Fault.intake := by
  unfold scan readDocument
  rw [scanner_eq, Grammar.value_mapFault, mapError_bind]
  congr 1
  funext ⟨value, rest⟩
  dsimp only
  split_ifs
  all_goals rfl

/-- A number that breaks off and is all there is of a document. -/
def BrokenRoot (input : Codes) : Prop :=
  readDocument input = .error .brokenNumber ∧ startsNumber (skipSpace input) = true

theorem skipSpace_ne_nil {text : Codes} (stuck : Stuck text) : skipSpace text ≠ [] := by
  obtain ⟨c, rest, front, -⟩ := stuck.front
  rw [front]
  exact List.cons_ne_nil _ _

theorem parse_of_agree {text : Codes} {y : Except RejectReason (Value × Codes)}
    (found : strictJson.value Sdk.DebugId.maxDepth (skipSpace text) = y) :
    Sdk.DebugId.parse text = (do
      let (value, rest) ← y
      if skipSpace rest = [] then return value else .error .trailingData) := by
  rw [← found]
  rfl

theorem readDocument_of_agree {text : Codes} {x : Except Fault (Value × Codes)}
    (found : reading.value maxDepth (skipSpace text) = x) :
    readDocument text = (do
      let (value, rest) ← x
      if skipSpace rest = [] then return value else .error .trailing) := by
  rw [← found]
  rfl

theorem skipSpace_eq_nil_same (same : SameText a b) :
    skipSpace a = [] ↔ skipSpace b = [] := by
  rcases (SameText.skipSpace same).cases_front with ⟨front, front'⟩ |
    ⟨c, a', b', -, front, front', -⟩ | ⟨c, d, a', b', -, -, front, front'⟩
  all_goals simp [front, front']

theorem parse_eq (same : SameText a b) :
    (¬BrokenRoot a → Sdk.DebugId.parse b = (readDocument a).mapError Fault.sdk) ∧
      (BrokenRoot a → Sdk.DebugId.parse b = .error .trailingData) := by
  have skipped := SameText.skipSpace same
  have ends {v : Value} {a' b' : Codes} (rest : SameText a' b') :
      (if skipSpace b' = [] then return v else .error .trailingData : Except RejectReason Value) =
        (if skipSpace a' = [] then return v else .error .trailing : Except Fault Value).mapError
          Fault.sdk := by
    simp only [skipSpace_eq_nil_same rest]
    split_ifs
    all_goals rfl
  cases digit : startsNumber (skipSpace a) with
  | true =>
    have digit' : startsNumber (skipSpace b) = true := by
      rcases skipped.cases_front with ⟨front, -⟩ | ⟨c, a', b', -, front, front', -⟩ |
        ⟨c, d, a', b', large, -, front, -⟩
      · rw [front] at digit
        cases digit
      · rw [front] at digit
        rw [front']
        exact digit
      · rw [front] at digit
        have small : c < 0x80 := by
          rcases Bool.or_eq_true_iff.mp digit with minus | inside
          · rw [beq_iff_eq.mp minus]
            decide
          · exact isDigit_ascii c inside
        omega
    have numbers := number_agree skipped
    have read := Grammar.value_number reading 63 digit
    have read' := Grammar.value_number strictJson 63 digit'
    rw [BrokenRoot, readDocument_of_agree read, parse_of_agree read']
    change AgreeNumber (reading.number (skipSpace a)) (strictJson.number (skipSpace b)) at numbers
    generalize reading.number (skipSpace a) = x at numbers
    generalize strictJson.number (skipSpace b) = y at numbers
    cases numbers with
    | ok rest =>
      refine ⟨fun _ => ends rest, fun broken => ?_⟩
      have failed := broken.1
      simp only [bind, Except.bind, pure, Except.pure] at failed
      split_ifs at failed
      cases failed
    | error together =>
      obtain ⟨rfl, whole⟩ := together
      refine ⟨fun _ => rfl, fun broken => ?_⟩
      exact absurd (Except.error.inj broken.1) whole
    | cut short stuck =>
      subst short
      refine ⟨fun whole => absurd ⟨rfl, digit⟩ whole, fun _ => ?_⟩
      simp only [bind, Except.bind, pure, Except.pure, if_neg (skipSpace_ne_nil stuck)]
  | false =>
    have values := reading_agrees.value string_shortens number_shortens parseString_shortens
      parseNumber_shortens maxDepth skipped
    refine ⟨fun _ => ?_, fun broken => absurd broken.2 (by rw [digit]; exact Bool.false_ne_true)⟩
    generalize read : reading.value maxDepth (skipSpace a) = x at values
    generalize read' : strictJson.value maxDepth (skipSpace b) = y at values
    rw [readDocument_of_agree read, parse_of_agree read']
    cases values with
    | ok rest => exact ends rest
    | error together =>
      obtain rfl := together
      rfl
    | cut short _ =>
      rw [digit] at short
      cases short.2

def stringsOrNulls : Option Value → Bool
  | some (.array values) => values.all fun v => v.isString || v.isNull
  | _ => false

theorem unmarshalString_isSome (v : Value) : (unmarshalString v).isSome = (v.isString || v.isNull) := by
  cases v <;> rfl

theorem stringArray_spec (raw : Option Value) :
    (stringArray raw).map List.length =
      if stringsOrNulls raw then some (Sdk.DebugId.arrayLength raw) else none := by
  have strings (values : List Value) : (values.mapM unmarshalString).map List.length =
      if values.all (fun v => v.isString || v.isNull) then some values.length else none := by
    induction values with
    | nil => rfl
    | cons v rest ih =>
      rw [List.mapM_cons]
      have first := unmarshalString_isSome v
      cases read : unmarshalString v with
      | none =>
        rw [read] at first
        simp [← first]
      | some s =>
        rw [read] at first
        cases later : rest.mapM unmarshalString with
        | none =>
          rw [later] at ih
          split at ih
          · cases ih
          · rename_i other
            simp [other]
        | some ss =>
          rw [later] at ih
          split at ih
          · rename_i all
            simp [← first, all, Option.some.inj ih]
          · cases ih
  match raw with
  | some (.array values) => exact strings values
  | none | some .null | some (.bool _) | some (.number _) | some (.string _) | some (.object _) => rfl

/-- The fields have the types the intake asks for. -/
def intakeTypes (root : List (List Nat × Value)) : Bool :=
  stringsOrNulls (field root "sources") && stringsOrNulls (field root "names") &&
    ((field root "mappings").map fun v => v.isString || v.isNull).getD false &&
    ((field root "sourcesContent").isNone || stringsOrNulls (field root "sourcesContent"))

/-- The fields have the types the SDK asks for. -/
def sdkTypes (root : List (List Nat × Value)) : Bool :=
  Sdk.DebugId.hasShape root &&
    ((field root "sourcesContent").isNone || Sdk.DebugId.isStringArray (field root "sourcesContent"))

/-- What both check, where they agree on the types. -/
def verdict (types : List (List Nat × Value) → Bool) (root : List (List Nat × Value)) :
    Except RejectReason Unit :=
  if Sdk.DebugId.isVersionThree (field root "version") = false then .error .badVersion
  else if (field root "sections").isSome then .error .indexedMap
  else if types root = false then .error .badFieldType
  else if (field root "sourcesContent").isSome ∧ Sdk.DebugId.arrayLength (field root "sources") ≠
      Sdk.DebugId.arrayLength (field root "sourcesContent") then .error .sourcesContentMismatch
  else .ok ()

theorem orError_of_length (raw : Option Value) (k : Nat → Except RejectReason Unit) :
    ((stringArray raw).orError .badFieldType >>= fun xs => k xs.length) =
      if stringsOrNulls raw then k (Sdk.DebugId.arrayLength raw) else .error .badFieldType := by
  have spec := stringArray_spec raw
  cases read : stringArray raw with
  | none =>
    rw [read] at spec
    split at spec
    · cases spec
    · rename_i other
      rw [if_neg other]
      rfl
  | some xs =>
    rw [read] at spec
    split at spec
    · rename_i all
      rw [if_pos all, ← Option.some.inj spec]
      rfl
    · cases spec

theorem readsVersionThree_eq (version : Value) :
    readsVersionThree version = Sdk.DebugId.isVersionThree (some version) := by
  cases version with
  | null => decide
  | _ => rfl

theorem sdk_validateSourceMap_eq (root : List (List Nat × Value)) :
    Sdk.DebugId.validateSourceMap root = verdict sdkTypes root := by
  unfold Sdk.DebugId.validateSourceMap verdict sdkTypes Sdk.DebugId.getMember field
  cases Sdk.DebugId.isVersionThree (root.lookup (codes "version")) with
  | false => rfl
  | true =>
    cases (root.lookup (codes "sections")).isSome with
    | true => rfl
    | false =>
      cases Sdk.DebugId.hasShape root with
      | false => rfl
      | true =>
        cases root.lookup (codes "sourcesContent") with
        | none => rfl
        | some raw =>
          cases Sdk.DebugId.isStringArray (some raw)
          all_goals simp

theorem contentCheck_eq (sources : Nat) (content : Option Value) :
    (match content with
      | none => return ()
      | some raw => do
        let sourcesContent ← (stringArray (some raw)).orError .badFieldType
        if sources ≠ sourcesContent.length then .error .sourcesContentMismatch else return () :
        Except RejectReason Unit) =
      if (content.isNone || stringsOrNulls content) = false then .error .badFieldType
      else if content.isSome ∧ sources ≠ Sdk.DebugId.arrayLength content then
        .error .sourcesContentMismatch
      else .ok () := by
  cases content with
  | none => simp [pure, Except.pure]
  | some raw =>
    dsimp only
    rw [orError_of_length (some raw) fun n =>
      if sources ≠ n then .error .sourcesContentMismatch else return ()]
    cases stringsOrNulls (some raw) <;> simp [pure, Except.pure]

theorem namesCheck_eq (names mappings : Option Value) (next : Except RejectReason Unit) :
    (do
      let _ ← (stringArray names).orError .badFieldType
      let _ ← (mappings.bind unmarshalString).orError .badFieldType
      next) =
      if (stringsOrNulls names && (mappings.map fun v => v.isString || v.isNull).getD false) = false then
        .error .badFieldType
      else next := by
  rw [orError_of_length names fun _ => (mappings.bind unmarshalString).orError .badFieldType >>=
    fun _ => next]
  cases stringsOrNulls names with
  | false => rfl
  | true =>
    cases mappings with
    | none => rfl
    | some v =>
      simp only [Option.bind_some, Option.map_some, Option.getD_some, ← unmarshalString_isSome,
        if_true, Bool.true_and]
      cases unmarshalString v with
      | none => rfl
      | some s => rfl

theorem validateSourceMap_eq (root : List (List Nat × Value)) :
    validateSourceMap root = verdict intakeTypes root := by
  unfold validateSourceMap verdict intakeTypes
  cases field root "version" with
  | none => rfl
  | some version =>
    rw [← readsVersionThree_eq]
    show (if readsVersionThree version = false then _ else _) = _
    cases readsVersionThree version with
    | false => rfl
    | true =>
      cases (field root "sections").isSome with
      | true => rfl
      | false =>
        have sources := orError_of_length (field root "sources") fun n => do
          let _ ← (stringArray (field root "names")).orError .badFieldType
          let _ ← ((field root "mappings").bind unmarshalString).orError .badFieldType
          match field root "sourcesContent" with
          | none => return ()
          | some raw =>
            let sourcesContent ← (stringArray (some raw)).orError .badFieldType
            if n ≠ sourcesContent.length then .error .sourcesContentMismatch else return ()
        refine sources.trans ?_
        rw [namesCheck_eq, contentCheck_eq]
        cases stringsOrNulls (field root "sources")
        all_goals cases stringsOrNulls (field root "names")
        all_goals cases ((field root "mappings").map fun v => v.isString || v.isNull).getD false
        all_goals simp

/-- Nothing is wrong with the types but nulls where strings belong. -/
def readsNulls (root : List (List Nat × Value)) : Bool :=
  Sdk.DebugId.isVersionThree (field root "version") && (field root "sections").isNone &&
    intakeTypes root && !sdkTypes root

theorem stringsOrNulls_of_strings {raw : Option Value} (strings : Sdk.DebugId.isStringArray raw = true) :
    stringsOrNulls raw = true := by
  match raw with
  | some (.array values) =>
    refine List.all_eq_true.mpr fun v member => ?_
    rw [List.all_eq_true.mp strings v member]
    rfl
  | none | some .null | some (.bool _) | some (.number _) | some (.string _) | some (.object _) =>
    cases strings

variable {root : List (List Nat × Value)}

theorem intakeTypes_of_sdkTypes (types : sdkTypes root = true) :
    intakeTypes root = true := by
  simp only [sdkTypes, Sdk.DebugId.hasShape, Bool.and_eq_true, Bool.or_eq_true] at types
  obtain ⟨⟨⟨sources, names⟩, mappings⟩, content⟩ := types
  have nullable : ((field root "mappings").map fun v => v.isString || v.isNull).getD false = true := by
    change ((field root "mappings").map JsonTree.isString).getD false = true at mappings
    cases found : field root "mappings" with
    | none => rw [found] at mappings; cases mappings
    | some v =>
      rw [found] at mappings
      have string : v.isString = true := mappings
      simp [string]
  have content' : (field root "sourcesContent").isNone = true ∨
      stringsOrNulls (field root "sourcesContent") = true :=
    content.imp id stringsOrNulls_of_strings
  have sources' : stringsOrNulls (field root "sources") = true := stringsOrNulls_of_strings sources
  have names' : stringsOrNulls (field root "names") = true := stringsOrNulls_of_strings names
  simp only [intakeTypes, Bool.and_eq_true, Bool.or_eq_true]
  exact ⟨⟨⟨sources', names'⟩, nullable⟩, content'⟩

theorem verdict_eq_iff (root : List (List Nat × Value)) :
    verdict intakeTypes root = verdict sdkTypes root ↔ readsNulls root = false := by
  unfold verdict readsNulls
  cases Sdk.DebugId.isVersionThree (field root "version") with
  | false => simp
  | true =>
    cases field root "sections" with
    | some _ => simp
    | none =>
      cases sdk : sdkTypes root with
      | true =>
        rw [intakeTypes_of_sdkTypes sdk]
        simp
      | false =>
        cases intakeTypes root with
        | false => simp
        | true =>
          simp only [Option.isSome_none, Option.isNone_none, Bool.true_eq_false, Bool.false_eq_true,
            if_false, if_true, Bool.and_self, Bool.not_false]
          split_ifs <;> simp

/-- Where the two sides read a document alike. -/
def documentAgrees (input : Codes) : Bool :=
  match readDocument input with
  | .error .brokenPair | .error .brokenInfinite => false
  | .error .brokenNumber => !startsNumber (skipSpace input)
  | .error _ => true
  | .ok (.object root) => !readsNulls root
  | .ok _ => true

/-- Neither a lone half of a pair in a string that breaks off, nor a number that breaks off at the
root or behind one too large, nor a null where a string belongs. -/
def Agreeing (input : List UInt8) : Prop :=
  input.take 3 = byteOrderMark ∨ (decodeUtf8 (input.map UInt8.toNat)).isNone ∨
    documentAgrees (input.map UInt8.toNat)
  deriving Decidable

/-- `jcs.Transform` gives the canonical text of an object whose names are distinct. -/
def Canonicalizes (jcs : Value → Option (List UInt8)) : Prop :=
  ∀ root, (JsonTree.object root).NamesDistinct → jcs (.object root) = some (encode (text (.object root)))

theorem compute_of_document {jcs : Value → Option (List UInt8)} (canonicalizes : Canonicalizes jcs)
    (sha256 : List UInt8 → List UInt8) (distinct : (JsonTree.object root).NamesDistinct) :
    (do
      validateSourceMap root
      let canonical ← (jcs (.object (withoutDebugId root))).orError .invalidJson
      return (⟨⟨sha256 canonical⟩, (field root "sourcesContent").isSome⟩ : Result) :
        Except RejectReason Result).map (fun r => r.fingerprint.debugId) =
      (verdict intakeTypes root).map fun _ =>
        (⟨sha256 (encode (Sdk.DebugId.canonicalize true (.object root)))⟩ : Fingerprint).debugId := by
  have canonical := canonicalizes (withoutDebugId root) (distinct.filter _)
  rw [validateSourceMap_eq, Sdk.DebugId.canonicalize_root, canonical]
  cases verdict intakeTypes root with
  | error e => rfl
  | ok u => rfl

theorem sdk_of_document (sha256 : List UInt8 → List UInt8) (root : List (List Nat × Value)) :
    (do
      Sdk.DebugId.validateSourceMap root
      return (⟨sha256 (encode (Sdk.DebugId.canonicalize true (.object root)))⟩ : Fingerprint) :
        Except RejectReason Fingerprint).map (fun f => f.debugId) =
      (verdict sdkTypes root).map fun _ =>
        (⟨sha256 (encode (Sdk.DebugId.canonicalize true (.object root)))⟩ : Fingerprint).debugId := by
  rw [sdk_validateSourceMap_eq]
  cases verdict sdkTypes root with
  | error e => rfl
  | ok u => rfl

theorem readDocument_distinct {input : Codes} {v : Value} (read : readDocument input = .ok v) :
    v.NamesDistinct := by
  obtain ⟨⟨value, rest⟩, found, read⟩ := Except.of_bind read
  dsimp only at read
  split_ifs at read
  obtain rfl := Except.ok.inj read
  exact Grammar.value_distinct rfl _ found

/-- **One map, one debug id.** Both sides accept an input with the same id or refuse it for the
same reason exactly when they read it alike. -/
theorem compute_agrees_iff (jcs : Value → Option (List UInt8)) (canonicalizes : Canonicalizes jcs)
    (sha256 : List UInt8 → List UInt8) (input : List UInt8) :
    (compute jcs sha256 input).map (fun r => r.fingerprint.debugId) =
        (computeDebugId sha256 input).map (fun f => f.debugId) ↔
      Agreeing input := by
  unfold compute computeDebugId Agreeing
  by_cases bom : input.take 3 = byteOrderMark
  · have bom' : input.take 3 = Sdk.DebugId.byteOrderMark := bom
    rw [if_pos bom, if_pos bom']
    simp [bom, Except.map]
  have bom' : ¬input.take 3 = Sdk.DebugId.byteOrderMark := bom
  rw [if_neg bom, if_neg bom']
  unfold Sdk.DebugId.decodeText
  cases decoded : decodeUtf8 (input.map UInt8.toNat) with
  | none => simp [Except.map, bind, Except.bind]
  | some scalars =>
    obtain ⟨valid, bytes⟩ := decodeUtf8_eq_some decoded
    have same := sameText_of_scalars valid
    rw [← bytes] at same
    obtain ⟨alike, unlike⟩ := parse_eq same
    generalize input.map UInt8.toNat = codes at *
    simp only [bom, Option.isNone_some, Bool.false_eq_true, if_false, false_or]
    rw [scan_eq]
    unfold documentAgrees
    by_cases broken : BrokenRoot codes
    · have read := broken.1
      show _ = (Sdk.DebugId.parse (scalars.flatMap utf16) >>= _).map _ ↔ _
      rw [unlike broken, read]
      simp [broken.2, Except.map, Except.mapError, bind, Except.bind, Fault.intake]
    · show _ = (Sdk.DebugId.parse (scalars.flatMap utf16) >>= _).map _ ↔ _
      rw [alike broken]
      cases read : readDocument codes with
      | error e =>
        cases e with
        | brokenNumber =>
          have elsewhere : startsNumber (skipSpace codes) = false := by
            rw [Bool.eq_false_iff]
            exact fun digit => broken ⟨read, digit⟩
          simp [elsewhere, Except.map, Except.mapError, bind, Except.bind, Fault.intake, Fault.sdk]
        | _ => simp [Except.map, Except.mapError, bind, Except.bind, Fault.intake, Fault.sdk]
      | ok v =>
        have distinct := readDocument_distinct read
        cases v with
        | object root =>
          have left := compute_of_document canonicalizes sha256 distinct
          have right := sdk_of_document sha256 root
          have accepted (x y : Except RejectReason Unit) (id : CodeUnits) :
              x.map (fun _ => id) = y.map (fun _ => id) ↔ x = y := by
            cases x <;> cases y <;> simp [Except.map]
          refine Iff.trans (Eq.congr left right) ?_
          rw [accepted, verdict_eq_iff, Bool.not_eq_true']
        | _ =>
          simp [Except.map, Except.mapError, bind, Except.bind, unmarshalRoot, Sdk.DebugId.rootEntries]

def jcsTransform (v : Value) : Option (List UInt8) := some (encode (text v))

theorem jcsTransform_canonicalizes : Canonicalizes jcsTransform := fun _ _ => rfl

def document (s : String) : List UInt8 := s.toList.map fun c => c.toNat.toUInt8

theorem document_ofList (cs : List Char) :
    document (String.ofList cs) = cs.map fun c => c.toNat.toUInt8 := by
  rw [document, String.toList_ofList]

theorem document_append (s s' : String) : document (s ++ s') = document s ++ document s' := by
  rw [document, String.toList_append, List.map_append]
  rfl

def plainMap : List UInt8 :=
  document "\x7b\"version\":3,\"sources\":[\"a\"],\"names\":[],\"mappings\":\"\"\x7d"

def nullSourceMap : List UInt8 :=
  document "\x7b\"version\":3,\"sources\":[null],\"names\":[],\"mappings\":\"\"\x7d"

/-- A map without nulls has one id on both sides. -/
theorem plainMap_agrees :
    Agreeing plainMap ∧ (compute jcsTransform (List.take 32) plainMap).map (fun r => r.fingerprint.debugId) =
      (computeDebugId (List.take 32) plainMap).map (fun f => f.debugId) :=
  have agreeing : Agreeing plainMap := by
    rw [plainMap, document_ofList]
    decide +kernel
  ⟨agreeing, (compute_agrees_iff jcsTransform jcsTransform_canonicalizes (List.take 32) plainMap).mpr
    agreeing⟩

/-- The intake accepts a null among the sources, the SDK refuses it. -/
theorem nullSource_disagrees :
    ¬(compute jcsTransform (List.take 32) nullSourceMap).map (fun r => r.fingerprint.debugId) =
      (computeDebugId (List.take 32) nullSourceMap).map (fun f => f.debugId) := by
  have accepted : (compute jcsTransform (List.take 32) nullSourceMap).isOk = true := by
    rw [nullSourceMap, document_ofList]
    decide +kernel
  have refused : (computeDebugId (List.take 32) nullSourceMap).isOk = false := by
    rw [nullSourceMap, document_ofList]
    decide +kernel
  intro same
  cases found : compute jcsTransform (List.take 32) nullSourceMap with
  | error e => rw [found] at accepted; cases accepted
  | ok r =>
    cases found' : computeDebugId (List.take 32) nullSourceMap with
    | ok f => rw [found'] at refused; cases refused
    | error e =>
      rw [found, found'] at same
      cases same

end Opslane.Intake.DebugId

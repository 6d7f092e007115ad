import Opslane.Lib.Double
import Opslane.Lib.JsonReader

/-!
# Strings and numbers of JSON texts

What stands in a string literal, piece by piece, and the parts of a number. Escapes, digits and
signs are ASCII, so the pieces of a text are the same in either encoding, except that a
character outside ASCII is several codes.
-/

namespace JsonReader

open Unicode

inductive Piece where
  | close
  | plain (c : Nat)
  | escape (c : Nat)
  | unit (u : Nat)
  deriving DecidableEq

/-- The character a letter behind a backslash stands for. -/
def simpleEscape (c : Nat) : Option Nat :=
  if c = code '"' ∨ c = code '\\' ∨ c = code '/' then some c
  else if c = code 'b' then some 0x08
  else if c = code 'f' then some 0x0c
  else if c = code 'n' then some 0x0a
  else if c = code 'r' then some 0x0d
  else if c = code 't' then some 0x09
  else none

theorem simpleEscape_ascii {e c : Nat} (read : simpleEscape e = some c) : c < 0x80 := by
  have quoted : ∀ d ∈ [code '"', code '\\', code '/'], d < 0x80 := by decide +kernel
  unfold simpleEscape at read
  split at read
  · rename_i special
    exact Option.some.inj read ▸ quoted e (by simpa using special)
  · split_ifs at read
    all_goals
      obtain rfl := Option.some.inj read
      decide

def hexValue (c : Nat) : Option Nat :=
  if isDigit c then some (c - code '0')
  else if code 'a' ≤ c ∧ c ≤ code 'f' then some (c - code 'a' + 10)
  else if code 'A' ≤ c ∧ c ≤ code 'F' then some (c - code 'A' + 10)
  else none

/-- One hexadecimal digit, and the rest. -/
def hexDigit : Codes → Option (Nat × Codes)
  | c :: rest => (hexValue c).map (·, rest)
  | [] => none

/-- Four hexadecimal digits. -/
def hexUnit (text : Codes) : Option (Nat × Codes) := do
  let (a, text) ← hexDigit text
  let (b, text) ← hexDigit text
  let (c, text) ← hexDigit text
  let (d, text) ← hexDigit text
  return (((a * 16 + b) * 16 + c) * 16 + d, text)

/-- What stands behind a backslash. -/
def escaped : Codes → Option (Piece × Codes)
  | [] => none
  | e :: rest =>
    if e = code 'u' then (hexUnit rest).map fun (u, rest) => (.unit u, rest)
    else (simpleEscape e).map fun c => (.escape c, rest)

/-- The next piece of a string; nothing may stand where none is read. -/
def piece : Codes → Option (Piece × Codes)
  | [] => none
  | c :: rest =>
    if c = code '"' then some (.close, rest)
    else if c < 0x20 then none
    else if c ≠ code '\\' then some (.plain c, rest)
    else escaped rest

def isHigh (u : Nat) : Bool := 0xd800 ≤ u && u < 0xdc00

def isLow (u : Nat) : Bool := 0xdc00 ≤ u && u < 0xe000

def pairScalar (high low : Nat) : Nat := 0x10000 + (high - 0xd800) * 0x400 + (low - 0xdc00)

/-- The units of a string, from behind its opening quote on. -/
def unitsFrom : Nat → Codes → Option (List Nat × Codes)
  | 0, _ => none
  | fuel + 1, text =>
    match piece text with
    | none => none
    | some (.close, rest) => some ([], rest)
    | some (.plain u, rest) | some (.escape u, rest) | some (.unit u, rest) => do
      let (us, rest) ← unitsFrom fuel rest
      return (u :: us, rest)

def units (text : Codes) : Option (List Nat × Codes) := unitsFrom (text.length + 1) text

/-- The characters of units in which every surrogate has its other half. -/
def decodeUnits : List Nat → Option (List Nat)
  | [] => some []
  | [u] => if isHigh u || isLow u then none else some [u]
  | u :: v :: rest =>
    if isHigh u then
      if isLow v then (decodeUnits rest).map (pairScalar u v :: ·) else none
    else if isLow u then none
    else (decodeUnits (v :: rest)).map (u :: ·)

/-- A minus sign, if there is one. -/
def sign : Codes → Bool × Codes
  | c :: rest => if c = code '-' then (true, rest) else (false, c :: rest)
  | [] => (false, [])

/-- `0|[1-9]\d*` -/
def integerPart : Codes → Option (Codes × Codes)
  | c :: rest =>
    if c = code '0' then some ([c], rest)
    else if isDigit c then some (c :: rest.takeWhile isDigit, rest.dropWhile isDigit)
    else none
  | [] => none

/-- A sign of an exponent and the rest. -/
def exponentSign : Codes → Bool × Codes
  | c :: rest =>
    if c = code '-' then (true, rest) else if c = code '+' then (false, rest) else (false, c :: rest)
  | [] => (false, [])

def digitsValue (digits : Codes) : Nat := digits.foldl (fun n c => 10 * n + (c - code '0')) 0

def exponentValue (negative : Bool) (digits : Codes) : Int :=
  if negative then -digitsValue digits else digitsValue digits

/-- The number of an integer part, a fraction and an exponent. -/
def decimal (negative : Bool) (whole fraction : Codes) (exponent : Int) : Decimal :=
  ⟨negative, digitsValue (whole ++ fraction), exponent - fraction.length⟩

variable {text rest : Codes}

theorem hexDigit_eq_some {x : Nat} (read : hexDigit text = some (x, rest)) :
    ∃ c, text = c :: rest ∧ hexValue c = some x := by
  cases text with
  | nil => cases read
  | cons c text =>
    obtain ⟨y, value, same⟩ := Option.map_eq_some_iff.mp read
    obtain ⟨rfl, rfl⟩ := Prod.mk.inj same
    exact ⟨c, rfl, value⟩

theorem hexUnit_eq_some {u : Nat} (read : hexUnit text = some (u, rest)) :
    ∃ a b c d, text = a :: b :: c :: d :: rest := by
  obtain ⟨⟨x, text₁⟩, first, read⟩ := Option.bind_eq_some_iff.mp read
  obtain ⟨⟨y, text₂⟩, second, read⟩ := Option.bind_eq_some_iff.mp read
  obtain ⟨⟨z, text₃⟩, third, read⟩ := Option.bind_eq_some_iff.mp read
  obtain ⟨⟨w, text₄⟩, fourth, read⟩ := Option.bind_eq_some_iff.mp read
  obtain ⟨-, rfl⟩ := Prod.mk.inj (Option.some.inj read)
  obtain ⟨a, rfl, -⟩ := hexDigit_eq_some first
  obtain ⟨b, rfl, -⟩ := hexDigit_eq_some second
  obtain ⟨c, rfl, -⟩ := hexDigit_eq_some third
  obtain ⟨d, rfl, -⟩ := hexDigit_eq_some fourth
  exact ⟨a, b, c, d, rfl⟩

theorem escaped_shortens {p : Piece} (read : escaped text = some (p, rest)) :
    rest.length < text.length := by
  unfold escaped at read
  split at read
  · cases read
  split_ifs at read
  · obtain ⟨⟨u, rest'⟩, hex, same⟩ := Option.map_eq_some_iff.mp read
    obtain ⟨-, rfl⟩ := Prod.mk.inj same
    obtain ⟨a, b, c, d, rfl⟩ := hexUnit_eq_some hex
    simp only [List.length_cons]
    omega
  · obtain ⟨c, -, same⟩ := Option.map_eq_some_iff.mp read
    obtain ⟨-, rfl⟩ := Prod.mk.inj same
    exact Nat.lt_succ_self _

theorem piece_shortens {p : Piece} (read : piece text = some (p, rest)) :
    rest.length < text.length := by
  unfold piece at read
  split at read
  · cases read
  split_ifs at read
  · obtain ⟨-, rfl⟩ := Prod.mk.inj (Option.some.inj read)
    exact Nat.lt_succ_self _
  · obtain ⟨-, rfl⟩ := Prod.mk.inj (Option.some.inj read)
    exact Nat.lt_succ_self _
  · exact Nat.lt_succ_of_lt (escaped_shortens read)

theorem decodeRune_shortens {n : Nat} (read : decodeRune text = some (n, rest)) :
    rest.length < text.length := by
  obtain ⟨-, rfl⟩ := decodeRune_eq_some read
  have nonempty := List.length_pos_of_ne_nil (utf8_ne_nil n)
  rw [List.length_append]
  omega

theorem unitsFrom_eq {fuel fuel' : Nat} (enough : text.length < fuel)
    (enough' : text.length < fuel') : unitsFrom fuel text = unitsFrom fuel' text := by
  induction fuel generalizing fuel' text with
  | zero => omega
  | succ fuel ih =>
    cases fuel' with
    | zero => omega
    | succ fuel' =>
      unfold unitsFrom
      cases next : piece text with
      | none => rfl
      | some found =>
        obtain ⟨p, rest⟩ := found
        have shorter := piece_shortens next
        have later : unitsFrom fuel rest = unitsFrom fuel' rest := ih (by omega) (by omega)
        cases p with
        | close => rfl
        | plain u => simp only [later]
        | escape u => simp only [later]
        | unit u => simp only [later]

theorem units_eq (text : Codes) :
    units text = match piece text with
      | none => none
      | some (.close, rest) => some ([], rest)
      | some (.plain u, rest) | some (.escape u, rest) | some (.unit u, rest) =>
        (units rest).map fun (us, rest) => (u :: us, rest) := by
  rw [units, unitsFrom]
  cases next : piece text with
  | none => rfl
  | some found =>
    obtain ⟨p, rest⟩ := found
    have later : unitsFrom text.length rest = units rest :=
      unitsFrom_eq (piece_shortens next) (Nat.lt_succ_self _)
    cases p with
    | close => rfl
    | plain u => cases found : units rest <;> simp [later, found]
    | escape u => cases found : units rest <;> simp [later, found]
    | unit u => cases found : units rest <;> simp [later, found]

theorem units_shortens {us : List Nat} (read : units text = some (us, rest)) :
    rest.length < text.length := by
  generalize size : text.length = n
  induction n using Nat.strong_induction_on generalizing text us with
  | _ n ih =>
    have step {p : Piece} {after : Codes} {u : Nat} (next : piece text = some (p, after))
        (later : (units after).map (fun (us, rest) => (u :: us, rest)) = some (us, rest)) :
        rest.length < n := by
      have shorter := piece_shortens next
      obtain ⟨⟨us', rest'⟩, found, same⟩ := Option.map_eq_some_iff.mp later
      obtain ⟨-, rfl⟩ := Prod.mk.inj same
      have later := ih after.length (by omega) found rfl
      show rest'.length < n
      omega
    rw [units_eq] at read
    cases next : piece text with
    | none => rw [next] at read; cases read
    | some found =>
      obtain ⟨p, after⟩ := found
      rw [next] at read
      cases p with
      | close =>
        obtain ⟨-, rfl⟩ := Prod.mk.inj (Option.some.inj read)
        exact size ▸ piece_shortens next
      | plain u => exact step next read
      | escape u => exact step next read
      | unit u => exact step next read

theorem integerPart_shortens {text whole rest : Codes}
    (read : integerPart text = some (whole, rest)) : rest.length < text.length := by
  unfold integerPart at read
  split at read
  · split_ifs at read
    · obtain ⟨-, rfl⟩ := Prod.mk.inj (Option.some.inj read)
      simp
    · obtain ⟨-, rfl⟩ := Prod.mk.inj (Option.some.inj read)
      exact Nat.lt_succ_of_le (List.dropWhile_suffix _).length_le
  · cases read

theorem length_sign_le (text : Codes) : (sign text).2.length ≤ text.length := by
  unfold sign
  split
  · split_ifs <;> simp
  · simp

theorem length_exponentSign_le (text : Codes) : (exponentSign text).2.length ≤ text.length := by
  unfold exponentSign
  split
  · split_ifs <;> simp
  · simp

theorem isDigit_ascii (c : Nat) (digit : isDigit c = true) : c < 0x80 := by
  have bounds : code '9' = 0x39 := by decide
  simp only [isDigit, Bool.and_eq_true, decide_eq_true_eq, bounds] at digit
  omega

variable {c : Nat}

theorem hexValue_wide (wide : 0x80 ≤ c) : hexValue c = none := by
  have bounds : code '9' = 0x39 ∧ code 'f' = 0x66 ∧ code 'F' = 0x46 := by decide
  simp only [hexValue, isDigit, Bool.and_eq_true, decide_eq_true_eq, bounds]
  rw [if_neg (by omega), if_neg (by omega), if_neg (by omega)]

theorem simpleEscape_wide (wide : 0x80 ≤ c) : simpleEscape c = none := by
  have bounds : code '"' = 0x22 ∧ code '\\' = 0x5c ∧ code '/' = 0x2f ∧ code 'b' = 0x62 ∧
      code 'f' = 0x66 ∧ code 'n' = 0x6e ∧ code 'r' = 0x72 ∧ code 't' = 0x74 := by decide
  simp only [simpleEscape, bounds]
  rw [if_neg (by omega), if_neg (by omega), if_neg (by omega), if_neg (by omega), if_neg (by omega),
    if_neg (by omega)]

/-- The same lexeme in front of the same text, or none in front of either. -/
inductive SameRead {τ : Type} : Option (τ × Codes) → Option (τ × Codes) → Prop
  | none : SameRead none none
  | some {x : τ} {a b : Codes} (same : SameText a b) : SameRead (some (x, a)) (some (x, b))

theorem SameRead.bind {τ τ' : Type} {x y : Option (τ × Codes)} (same : SameRead x y)
    {k : τ × Codes → Option (τ' × Codes)}
    (next : ∀ z {a b}, SameText a b → SameRead (k (z, a)) (k (z, b))) :
    SameRead (x >>= k) (y >>= k) := by
  cases same with
  | none => exact .none
  | some same => exact next _ same

variable {a b : Codes}

theorem hexDigit_same (same : SameText a b) : SameRead (hexDigit a) (hexDigit b) := by
  rcases same.cases_front with ⟨rfl, rfl⟩ | ⟨c, a', b', -, rfl, rfl, behind⟩ |
    ⟨c, d, a', b', large, large', rfl, rfl⟩
  · exact .none
  · simp only [hexDigit]
    cases hexValue c with
    | none => exact .none
    | some x => exact .some behind
  · simp only [hexDigit, hexValue_wide large, hexValue_wide large']
    exact .none

theorem hexUnit_same (same : SameText a b) : SameRead (hexUnit a) (hexUnit b) := by
  apply (hexDigit_same same).bind
  intro x a b same
  apply (hexDigit_same same).bind
  intro y a b same
  apply (hexDigit_same same).bind
  intro z a b same
  apply (hexDigit_same same).bind
  intro w a b same
  exact .some same

theorem escaped_same (same : SameText a b) : SameRead (escaped a) (escaped b) := by
  rcases same.cases_front with ⟨rfl, rfl⟩ | ⟨e, a', b', -, rfl, rfl, behind⟩ |
    ⟨e, e', a', b', large, large', rfl, rfl⟩
  · exact .none
  · simp only [escaped]
    split_ifs with hex
    · have same := hexUnit_same behind
      generalize hexUnit a' = x at same
      generalize hexUnit b' = y at same
      cases same with
      | none => exact .none
      | some same => exact .some same
    · cases simpleEscape e with
      | none => exact .none
      | some c => exact .some behind
  · have other : e ≠ code 'u' ∧ e' ≠ code 'u' :=
      ⟨by rintro rfl; exact absurd large (by decide), by rintro rfl; exact absurd large' (by decide)⟩
    simp only [escaped, if_neg other.1, if_neg other.2, simpleEscape_wide large,
      simpleEscape_wide large', Option.map_none]
    exact .none

theorem piece_same (same : SameText a b) :
    (SameRead (piece a) (piece b) ∧ ∀ c ∈ a.head?, c < 0x80) ∨
      ∃ n a' b', IsScalar n ∧ 0x80 ≤ n ∧ a = utf8 n ++ a' ∧ b = utf16 n ++ b' ∧ SameText a' b' := by
  cases same with
  | nil => exact .inl ⟨.none, by simp⟩
  | wide valid wide rest => exact .inr ⟨_, _, _, valid, wide, rfl, rfl, rest⟩
  | @ascii c a b single rest =>
    refine .inl ⟨?_, by simpa using single⟩
    simp only [piece]
    split_ifs
    · exact .some rest
    · exact .none
    · exact .some rest
    · exact escaped_same rest

theorem piece_plain (read : piece text = some (.plain c, rest)) :
    text = c :: rest := by
  unfold piece at read
  split at read
  · cases read
  split_ifs at read
  · cases read
  · obtain ⟨same, rfl⟩ := Prod.mk.inj (Option.some.inj read)
    cases same
    rfl
  · unfold escaped at read
    split at read
    · cases read
    split_ifs at read
    · obtain ⟨⟨u, rest'⟩, -, same⟩ := Option.map_eq_some_iff.mp read
      cases same
    · obtain ⟨c, -, same⟩ := Option.map_eq_some_iff.mp read
      cases same

theorem piece_wide (wide : 0x80 ≤ c) (rest : Codes) :
    piece (c :: rest) = some (.plain c, rest) := by
  have bounds : code '"' = 0x22 ∧ code '\\' = 0x5c := by decide
  simp only [piece, bounds]
  rw [if_neg (by omega), if_neg (by omega), if_pos (by omega)]

theorem units_wide {w : Codes} (wide : ∀ c ∈ w, 0x80 ≤ c) (rest : Codes) :
    units (w ++ rest) = (units rest).map fun (us, rest) => (w ++ us, rest) := by
  induction w with
  | nil =>
    rw [List.nil_append]
    cases units rest <;> rfl
  | cons c w ih =>
    have first := wide c List.mem_cons_self
    have later := ih fun d member => wide d (List.mem_cons_of_mem _ member)
    rw [List.cons_append, units_eq, piece_wide first]
    dsimp only
    rw [later, Option.map_map]
    rfl

theorem units_isSome_same (same : SameText a b) :
    (units a).isSome = (units b).isSome := by
  generalize size : a.length = n
  induction n using Nat.strong_induction_on generalizing a b with
  | _ n ih =>
    rcases piece_same same with ⟨next, -⟩ | ⟨m, a', b', -, wide, rfl, rfl, behind⟩
    · rw [units_eq a, units_eq b]
      have shorter {p rest} := @piece_shortens a rest p
      generalize piece a = x at next shorter
      generalize piece b = y at next
      cases next with
      | none => rfl
      | @some p a' b' behind =>
        have bound := shorter rfl
        have later := ih a'.length (by omega) behind rfl
        cases p with
        | close => rfl
        | plain u => simpa using later
        | escape u => simpa using later
        | unit u => simpa using later
    · have nonempty := List.length_pos_of_ne_nil (utf8_ne_nil m)
      rw [List.length_append] at size
      rw [units_wide (utf8_wide wide), units_wide (utf16_wide wide), Option.isSome_map,
        Option.isSome_map]
      exact ih a'.length (by omega) behind rfl

theorem sign_same (same : SameText a b) :
    (sign a).1 = (sign b).1 ∧ SameText (sign a).2 (sign b).2 := by
  rcases same.cases_front with ⟨rfl, rfl⟩ | ⟨c, a', b', -, rfl, rfl, behind⟩ |
    ⟨c, d, a', b', large, large', rfl, rfl⟩
  · exact ⟨rfl, .nil⟩
  · simp only [sign]
    split_ifs
    · exact ⟨rfl, behind⟩
    · exact ⟨rfl, same⟩
  · have other : c ≠ code '-' ∧ d ≠ code '-' :=
      ⟨by rintro rfl; exact absurd large (by decide), by rintro rfl; exact absurd large' (by decide)⟩
    simp only [sign, if_neg other.1, if_neg other.2, true_and]
    exact same

theorem exponentSign_same (same : SameText a b) :
    (exponentSign a).1 = (exponentSign b).1 ∧ SameText (exponentSign a).2 (exponentSign b).2 := by
  rcases same.cases_front with ⟨rfl, rfl⟩ | ⟨c, a', b', -, rfl, rfl, behind⟩ |
    ⟨c, d, a', b', large, large', rfl, rfl⟩
  · exact ⟨rfl, .nil⟩
  · simp only [exponentSign]
    split_ifs
    · exact ⟨rfl, behind⟩
    · exact ⟨rfl, behind⟩
    · exact ⟨rfl, same⟩
  · have other : c ≠ code '-' ∧ d ≠ code '-' :=
      ⟨by rintro rfl; exact absurd large (by decide), by rintro rfl; exact absurd large' (by decide)⟩
    have other' : c ≠ code '+' ∧ d ≠ code '+' :=
      ⟨by rintro rfl; exact absurd large (by decide), by rintro rfl; exact absurd large' (by decide)⟩
    simp only [exponentSign, if_neg other.1, if_neg other.2, if_neg other'.1, if_neg other'.2, true_and]
    exact same

theorem integerPart_same (same : SameText a b) :
    SameRead (integerPart a) (integerPart b) := by
  rcases same.cases_front with ⟨rfl, rfl⟩ | ⟨c, a', b', -, rfl, rfl, behind⟩ |
    ⟨c, d, a', b', large, large', rfl, rfl⟩
  · exact .none
  · obtain ⟨equal, rest⟩ := behind.run isDigit_ascii
    simp only [integerPart]
    split_ifs
    · exact .some behind
    · rw [equal]
      exact .some rest
    · exact .none
  · have bounds : code '0' = 0x30 ∧ code '9' = 0x39 := by decide
    simp only [integerPart, isDigit, Bool.and_eq_true, decide_eq_true_eq, bounds]
    rw [if_neg (by omega), if_neg (by omega), if_neg (by omega), if_neg (by omega)]
    exact .none

end JsonReader

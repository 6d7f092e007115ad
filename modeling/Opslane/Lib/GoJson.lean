import Mathlib.Data.List.Lex
import Mathlib.Data.List.Sort
import Opslane.Lib.Bytes
import Opslane.Lib.JsonLexemes

/-!
# JSON as Go reads and writes it

A text is valid by its grammar and its nesting alone. Decoded into interfaces, a number is the
nearest one of 64 bits, and a text with a number beyond the finite ones is refused although it
is valid; in a string, what is no character becomes U+FFFD; of two members with one name the
last counts. Encoded, the members of an object are in the order of the bytes of their names,
and the characters that mean something in HTML are escaped.
-/

namespace JsonTree

variable {σ ν : Type}

mutual

/-- How deep arrays and objects are nested. -/
def height : JsonTree σ ν → Nat
  | .array items => itemsHeight items + 1
  | .object members => membersHeight members + 1
  | _ => 0

def itemsHeight : List (JsonTree σ ν) → Nat
  | [] => 0
  | v :: rest => max (height v) (itemsHeight rest)

def membersHeight : List (σ × JsonTree σ ν) → Nat
  | [] => 0
  | (_, v) :: rest => max (height v) (membersHeight rest)

end

mutual

/-- The numbers that stand in a value. -/
def numbers : JsonTree σ ν → List ν
  | .number n => [n]
  | .array items => itemsNumbers items
  | .object members => membersNumbers members
  | _ => []

def itemsNumbers : List (JsonTree σ ν) → List ν
  | [] => []
  | v :: rest => numbers v ++ itemsNumbers rest

def membersNumbers : List (σ × JsonTree σ ν) → List ν
  | [] => []
  | (_, v) :: rest => numbers v ++ membersNumbers rest

end

end JsonTree

namespace GoJson

open JsonReader Unicode

/-- A text that was scanned: its numbers are literals. -/
abbrev Document := JsonTree Bytes Decimal

/-- What is decoded into an interface. -/
abbrev Value := JsonTree Bytes Double

def replacement : Nat := 0xfffd

/-- The other half of a pair, and the text behind its escape. -/
def lowHalf (rest : Codes) : Option (Nat × Codes) :=
  if (codes "\\u").isPrefixOf rest then (hexUnit (rest.drop 2)).filter fun half => isLow half.1
  else none

/-- A string from behind its opening quote on. -/
def stringFrom : Nat → Codes → Option (Bytes × Codes)
  | 0, _ => none
  | fuel + 1, text =>
    let andThen (c : Nat) (rest : Codes) : Option (Bytes × Codes) :=
      (stringFrom fuel rest).map fun (s, rest) => (Bytes.ofScalar c ++ s, rest)
    match piece text with
    | none => none
    | some (.close, rest) => some ([], rest)
    | some (.plain _, rest) =>
      -- A byte of no character counts as one character.
      match decodeRune text with
      | some (rune, rest) => andThen rune rest
      | none => andThen replacement rest
    | some (.escape c, rest) => andThen c rest
    | some (.unit u, rest) =>
      if isHigh u then
        match lowHalf rest with
        | some (low, behind) => andThen (pairScalar u low) behind
        | none => andThen replacement rest
      else if isLow u then andThen replacement rest
      else andThen u rest

/-- The digits a point calls for. -/
def fraction : Codes → Option (Codes × Codes)
  | c :: rest =>
    if c = code '.' then
      if rest.takeWhile isDigit = [] then none
      else some (rest.takeWhile isDigit, rest.dropWhile isDigit)
    else some ([], c :: rest)
  | [] => some ([], [])

/-- The digits an `e` calls for. -/
def exponent : Codes → Option (Int × Codes)
  | c :: rest =>
    if c = code 'e' ∨ c = code 'E' then
      let (negative, digits) := exponentSign rest
      if digits.takeWhile isDigit = [] then none
      else some (exponentValue negative (digits.takeWhile isDigit), digits.dropWhile isDigit)
    else some (0, c :: rest)
  | [] => some (0, [])

def number (text : Codes) : Option (Decimal × Codes) := do
  let (negative, text) := sign text
  let (whole, text) ← integerPart text
  let (fraction, text) ← fraction text
  let (exponent, text) ← exponent text
  return (decimal negative whole fraction exponent, text)

def refused {τ : Type} : Option τ → Except Unit τ
  | some x => .ok x
  | none => .error ()

/-- The grammar, with numbers as they are read. -/
def grammarOf {ν : Type} (number : Codes → Option (ν × Codes)) : Grammar Unit Bytes ν where
  string text := refused (stringFrom text.length (text.drop 1))
  number text := refused (number text)
  invalid := ()
  tooDeep := ()
  duplicate := none

def grammar : Grammar Unit Bytes Decimal := grammarOf number

/-- A number with its literal. -/
def numberLiteral (text : Codes) : Option ((Bytes × Decimal) × Codes) :=
  (number text).map fun (n, rest) =>
    (((text.take (text.length - rest.length)).map Nat.toUInt8, n), rest)

/-- `maxNestingDepth` -/
def maxNestingDepth : Nat := 10000

/-- The document a text is, where nothing follows it. A scalar may stand inside the deepest
array. -/
def documentOf {ν : Type} (g : Grammar Unit Bytes ν) (data : Bytes) : Option (JsonTree Bytes ν) :=
  match g.value (maxNestingDepth + 1) (skipSpace (data.map UInt8.toNat)) with
  | .error _ => none
  | .ok (document, rest) =>
    if skipSpace rest = [] ∧ document.height ≤ maxNestingDepth then some document else none

def scan (data : Bytes) : Option Document := documentOf grammar data

/-- What is kept as `json.RawMessage`: every number with its literal. -/
abbrev RawDocument := JsonTree Bytes (Bytes × Decimal)

def scanRaw (data : Bytes) : Option RawDocument := documentOf (grammarOf numberLiteral) data

/-- `json.Valid` -/
def valid (data : Bytes) : Bool := (scan data).isSome

/-- A map, from the members in their order: the last value of a name is kept. -/
def assign (members : List (Bytes × Value)) : List (Bytes × Value) :=
  members.foldl (fun map member => map.filter (fun other => other.1 ≠ member.1) ++ [member]) []

mutual

def decode : Document → Option Value
  | .null => some .null
  | .bool b => some (.bool b)
  | .number d => (Double.ofDecimal d).map .number
  | .string s => some (.string s)
  | .array items => (decodeItems items).map .array
  | .object members => (decodeMembers members).map fun members => .object (assign members)

def decodeItems : List Document → Option (List Value)
  | [] => some []
  | d :: rest =>
    match decode d, decodeItems rest with
    | some v, some values => some (v :: values)
    | _, _ => none

def decodeMembers : List (Bytes × Document) → Option (List (Bytes × Value))
  | [] => some []
  | (name, d) :: rest =>
    match decode d, decodeMembers rest with
    | some v, some members => some ((name, v) :: members)
    | _, _ => none

end

/-- `json.Unmarshal` into an interface. -/
def unmarshal (data : Bytes) : Option Value := (scan data).bind decode

/-- A literal that a number of 64 bits is near to. -/
def Finite (d : Decimal) : Prop := (Double.ofDecimal d).isSome
  deriving Decidable

mutual

theorem decode_isSome : ∀ d : Document, (decode d).isSome ↔ ∀ n ∈ d.numbers, Finite n
  | .null | .bool _ | .string _ => by simp [decode, JsonTree.numbers]
  | .number n => by simp [decode, JsonTree.numbers, Finite]
  | .array items => by simpa [decode, JsonTree.numbers] using decodeItems_isSome items
  | .object members => by simpa [decode, JsonTree.numbers] using decodeMembers_isSome members

theorem decodeItems_isSome : ∀ items : List Document,
    (decodeItems items).isSome ↔ ∀ n ∈ JsonTree.itemsNumbers items, Finite n
  | [] => by simp [decodeItems, JsonTree.itemsNumbers]
  | d :: rest => by
    have first := decode_isSome d
    have others := decodeItems_isSome rest
    simp only [decodeItems, JsonTree.itemsNumbers, List.forall_mem_append, ← first, ← others]
    cases decode d <;> cases decodeItems rest <;> simp

theorem decodeMembers_isSome : ∀ members : List (Bytes × Document),
    (decodeMembers members).isSome ↔ ∀ n ∈ JsonTree.membersNumbers members, Finite n
  | [] => by simp [decodeMembers, JsonTree.membersNumbers]
  | (name, d) :: rest => by
    have first := decode_isSome d
    have others := decodeMembers_isSome rest
    simp only [decodeMembers, JsonTree.membersNumbers, List.forall_mem_append, ← first, ← others]
    cases decode d <;> cases decodeMembers rest <;> simp

end

def hexByte (c : Nat) : Codes := [code (Nat.digitChar (c / 16)), code (Nat.digitChar (c % 16))]

/-- One character of a string, escaped for HTML as well. -/
def quoteRune (c : Nat) : Codes :=
  if c = code '"' ∨ c = code '\\' then [code '\\', c]
  else if c = 0x08 then codes "\\b"
  else if c = 0x0c then codes "\\f"
  else if c = 0x0a then codes "\\n"
  else if c = 0x0d then codes "\\r"
  else if c = 0x09 then codes "\\t"
  else if c < 0x20 ∨ c = code '<' ∨ c = code '>' ∨ c = code '&' then codes "\\u00" ++ hexByte c
  else if c = 0x2028 ∨ c = 0x2029 then codes "\\u202" ++ [code (Nat.digitChar (c % 16))]
  else utf8 c

/-- Every character takes a byte, so the length of a string is fuel enough. -/
def quoteFrom : Nat → Codes → Codes
  | 0, _ | _, [] => []
  | fuel + 1, a :: rest =>
    match decodeRune (a :: rest) with
    | some (c, rest) => quoteRune c ++ quoteFrom fuel rest
    | none => codes "\\ufffd" ++ quoteFrom fuel rest

def quote (s : Bytes) : Codes :=
  code '"' :: quoteFrom s.length (s.map UInt8.toNat) ++ [code '"']

/-- A number as scripts print it, but for the sign of zero. -/
def numberText (x : Double) : Codes :=
  if x.significand = 0 ∧ x.negative then codes "-0" else x.text

def join (texts : List Codes) : Codes := [code ','].intercalate texts

def nameLe {τ : Type} (a b : Bytes × τ) : Prop := a.1.map UInt8.toNat ≤ b.1.map UInt8.toNat

instance {τ : Type} : DecidableRel (nameLe (τ := τ)) :=
  fun a b => inferInstanceAs (Decidable (a.1.map UInt8.toNat ≤ b.1.map UInt8.toNat))

mutual

def text : Value → Codes
  | .null => codes "null"
  | .bool b => if b then codes "true" else codes "false"
  | .number x => numberText x
  | .string s => quote s
  | .array items => code '[' :: join (itemTexts items) ++ [code ']']
  | .object members =>
    code '\x7b' :: join (((memberTexts members).insertionSort nameLe).map Prod.snd) ++ [code '\x7d']

def itemTexts : List Value → List Codes
  | [] => []
  | v :: rest => text v :: itemTexts rest

def memberTexts : List (Bytes × Value) → List (Bytes × Codes)
  | [] => []
  | (name, v) :: rest => (name, quote name ++ code ':' :: text v) :: memberTexts rest

end

/-- `json.Marshal` -/
def marshal (v : Value) : Bytes := (text v).map Nat.toUInt8

/-- A character that stands for itself between quotes. -/
def Plain (c : Nat) : Prop := c < 0x80 ∧ c ≠ code '"' ∧ c ≠ code '\\'
  deriving Decidable

/-- The text begins with no quotation mark, and with a plain character only where it is the
character `r` alone. -/
def Spells (r : Nat) (text : Codes) : Prop :=
  ∃ c more, text = c :: more ∧ c < 0x100 ∧ c ≠ code '"' ∧ (Plain c → c = r ∧ more = [])

theorem quoteRune_spells {r : Nat} (scalar : IsScalar r) : Spells r (quoteRune r) := by
  have escape (more : Codes) : Spells r (code '\\' :: more) :=
    ⟨code '\\', more, rfl, by decide, by decide, fun plain => absurd rfl plain.2.2⟩
  have lead (a : Nat) (more : Codes) (above : 0x80 ≤ a) (below : a < 0x100) : Spells r (a :: more) :=
    ⟨a, more, rfl, below, fun quote => absurd above (by rw [quote]; decide),
      fun plain => absurd plain.1 (Nat.not_lt.mpr above)⟩
  unfold quoteRune
  refine iteInduction (fun _ => escape _) fun quote => ?_
  iterate 7 refine iteInduction (fun _ => escape _) fun _ => ?_
  push Not at quote
  unfold IsScalar at scalar
  unfold utf8
  split_ifs
  · exact ⟨r, [], rfl, by omega, quote.1, fun _ => ⟨rfl, rfl⟩⟩
  all_goals exact lead _ _ (by omega) (by omega)

theorem toUInt8_inj {a b : Nat} (small : a < 0x100) (small' : b < 0x100) (same : a.toUInt8 = b.toUInt8) :
    a = b := by
  have values := congrArg UInt8.toNat same
  simp only [Nat.toUInt8_eq, UInt8.toNat_ofNat'] at values
  omega

theorem quoteFrom_eq {word : Codes} (plain : ∀ c ∈ word, Plain c) {text rest tail : Codes}
    (same : (quoteFrom text.length text ++ code '"' :: rest).map Nat.toUInt8 =
      (word ++ code '"' :: tail).map Nat.toUInt8) :
    text = word ∧ rest.map Nat.toUInt8 = tail.map Nat.toUInt8 := by
  induction word generalizing text with
  | nil =>
    cases text with
    | nil => exact ⟨rfl, (List.cons.inj same).2⟩
    | cons a t =>
      exfalso
      rw [List.length_cons, quoteFrom] at same
      cases rune : decodeRune (a :: t) with
      | none =>
        rw [rune] at same
        exact absurd (toUInt8_inj (by decide) (by decide) (List.cons.inj same).1) (by decide)
      | some read =>
        obtain ⟨c, more, quoted, small, other, -⟩ := quoteRune_spells (decodeRune_eq_some rune).1
        rw [rune] at same
        simp only [quoted] at same
        exact other (toUInt8_inj small (by decide) (List.cons.inj same).1)
  | cons w word ih =>
    have first := plain w List.mem_cons_self
    have small' : w < 0x100 := Nat.lt_trans first.1 (by decide)
    cases text with
    | nil => exact absurd (toUInt8_inj (by decide) small' (List.cons.inj same).1).symm first.2.1
    | cons a t =>
      rw [List.length_cons, quoteFrom] at same
      cases rune : decodeRune (a :: t) with
      | none =>
        rw [rune] at same
        exact absurd (toUInt8_inj (by decide) small' (List.cons.inj same).1).symm first.2.2
      | some read =>
        obtain ⟨scalar, text⟩ := decodeRune_eq_some rune
        obtain ⟨c, more, quoted, small, -, alone⟩ := quoteRune_spells scalar
        rw [rune] at same
        simp only [quoted] at same
        obtain rfl := toUInt8_inj small small' (List.cons.inj same).1
        obtain ⟨rfl, rfl⟩ := alone first
        rw [utf8, if_pos first.1] at text
        obtain ⟨rfl, rfl⟩ := List.cons.inj text
        obtain ⟨rfl, rests⟩ := ih (fun c member => plain c (List.mem_cons_of_mem _ member))
          (List.cons.inj same).2
        exact ⟨rfl, rests⟩

theorem decimalDigits_lt (n : Nat) : ∀ c ∈ Double.decimalDigits n, c < 0x7b := by
  intro c member
  obtain ⟨d, digit, rfl⟩ := List.mem_map.mp member
  have bound := (Nat.isDigit_of_mem_toDigits (by decide) (by decide) digit)
  simp only [Char.isDigit, Bool.and_eq_true, decide_eq_true_eq] at bound
  exact Nat.lt_of_le_of_lt bound.2 (by decide)

variable {s : Codes}

theorem layout_lt (below : ∀ c ∈ s, c < 0x7b) (n : Int) :
    ∀ c ∈ Double.layout s n, c < 0x7b := by
  have zeros : ∀ k, ∀ c ∈ Double.zeros k, c < 0x7b := by
    intro k c member
    rw [List.eq_of_mem_replicate member]
    decide
  have taken : ∀ k, ∀ c ∈ s.take k, c < 0x7b := fun k c member => below c (List.mem_of_mem_take member)
  have dropped : ∀ k, ∀ c ∈ s.drop k, c < 0x7b := fun k c member => below c (List.mem_of_mem_drop member)
  have exponent := decimalDigits_lt (n - 1).natAbs
  unfold Double.layout
  dsimp only
  split_ifs
  · exact List.forall_mem_append.mpr ⟨below, zeros _⟩
  · exact List.forall_mem_append.mpr ⟨taken _, List.forall_mem_cons.mpr ⟨by decide, dropped _⟩⟩
  · have both := List.forall_mem_append.mpr ⟨zeros (-n).toNat, below⟩
    exact List.forall_mem_cons.mpr ⟨by decide, List.forall_mem_cons.mpr ⟨by decide, both⟩⟩
  all_goals
    refine List.forall_mem_append.mpr ⟨List.forall_mem_append.mpr ⟨taken 1, ?_⟩,
      List.forall_mem_cons.mpr ⟨by decide, List.forall_mem_cons.mpr ⟨by decide, exponent⟩⟩⟩
  · exact nofun
  · exact nofun
  · exact List.forall_mem_cons.mpr ⟨by decide, dropped 1⟩
  · exact List.forall_mem_cons.mpr ⟨by decide, dropped 1⟩

theorem numberText_lt (x : Double) : ∀ c ∈ numberText x, c < 0x7b := by
  unfold numberText Double.text
  dsimp only
  split_ifs
  · decide
  · decide
  · exact List.forall_mem_append.mpr ⟨by decide, layout_lt (decimalDigits_lt _) _⟩
  · exact List.forall_mem_append.mpr ⟨by decide, layout_lt (decimalDigits_lt _) _⟩

theorem join_cons (t : Codes) (ts : List Codes) : ∃ more, join (t :: ts) = t ++ more := by
  cases ts with
  | nil => exact ⟨[], by simp [join, List.intercalate]⟩
  | cons u us => exact ⟨_, by simp [join, List.intercalate, List.intersperse]; rfl⟩

theorem mem_memberTexts {members : List (Bytes × Value)} {name : Bytes} {t : Codes}
    (member : (name, t) ∈ memberTexts members) :
    ∃ v, (name, v) ∈ members ∧ t = quote name ++ code ':' :: text v := by
  induction members with
  | nil => cases member
  | cons m rest ih =>
    obtain ⟨k, v⟩ := m
    rcases List.mem_cons.mp member with first | later
    · cases first
      exact ⟨v, List.mem_cons_self, rfl⟩
    · obtain ⟨v, old, same⟩ := ih later
      exact ⟨v, List.mem_cons_of_mem _ old, same⟩

theorem marshal_object {v : Value} {name rest : Codes} (plain : ∀ c ∈ name, Plain c)
    (same : marshal v = (codes "\x7b\"" ++ name ++ codes "\":" ++ rest).map Nat.toUInt8) :
    ∃ members k child more, v = .object members ∧ (k, child) ∈ members ∧ k.map UInt8.toNat = name ∧
      (text child ++ more).map Nat.toUInt8 = rest.map Nat.toUInt8 := by
  have begins : ∀ c t, text v = c :: t → c < 0x100 → c = code '\x7b' := by
    intro c t shown small
    rw [marshal, shown] at same
    exact toUInt8_inj small (by decide) (List.cons.inj same).1
  cases v with
  | null => cases begins _ _ rfl (by decide)
  | bool b => cases b <;> cases begins _ _ rfl (by decide)
  | number x =>
    cases shown : numberText x with
    | nil =>
      rw [marshal, text, shown] at same
      cases same
    | cons c t =>
      have small := numberText_lt x c (by rw [shown]; exact List.mem_cons_self)
      have brace := begins c t shown (Nat.lt_trans small (by decide))
      rw [brace] at small
      exact absurd small (by decide)
  | string s => cases begins _ _ rfl (by decide)
  | array items => cases begins _ _ rfl (by decide)
  | object members =>
    refine ⟨members, ?_⟩
    rw [marshal, text] at same
    cases sorted : ((memberTexts members).insertionSort nameLe).map Prod.snd with
    | nil =>
      rw [sorted] at same
      cases (List.cons.inj (List.cons.inj same).2).1
    | cons t ts =>
      obtain ⟨more, joined⟩ := join_cons t ts
      have listed : t ∈ ((memberTexts members).insertionSort nameLe).map Prod.snd := by
        rw [sorted]
        exact List.mem_cons_self
      obtain ⟨⟨k, t'⟩, inSorted, rfl⟩ := List.mem_map.mp listed
      obtain ⟨child, member, shown⟩ := mem_memberTexts
        ((List.perm_insertionSort nameLe (memberTexts members)).mem_iff.mp inSorted)
      rw [sorted, joined, shown, quote] at same
      have tails := (List.cons.inj (List.cons.inj same).2).2
      have word : (quoteFrom (k.map UInt8.toNat).length (k.map UInt8.toNat) ++
          code '"' :: (code ':' :: text child ++ more ++ [code '\x7d'])).map Nat.toUInt8 =
          (name ++ code '"' :: (code ':' :: rest)).map Nat.toUInt8 := by
        simpa [codes, List.append_assoc] using tails
      obtain ⟨names, values⟩ := quoteFrom_eq plain word
      refine ⟨k, child, more ++ [code '\x7d'], rfl, member, names, ?_⟩
      simpa [List.append_assoc] using (List.cons.inj values).2

/-- A character of one byte that may be written as it is or escaped. -/
def Printable (c : Nat) : Prop := 0x20 ≤ c ∧ c < 0x80
  deriving Decidable

variable {c : Nat}

theorem decodeRune_ascii (small : c < 0x80) (rest : Codes) :
    decodeRune (c :: rest) = some (c, rest) := by
  rw [decodeRune, if_pos small]

/-- A character that is written as it is. -/
def Unescaped (c : Nat) : Prop :=
  Printable c ∧ ¬(c = code '"' ∨ c = code '\\') ∧ ¬(c = code '<' ∨ c = code '>' ∨ c = code '&')
  deriving Decidable

theorem quoteRune_unescaped (unescaped : Unescaped c) : quoteRune c = [c] := by
  obtain ⟨⟨least, small⟩, quoted, html⟩ := unescaped
  have shown : ¬(c < 0x20 ∨ c = code '<' ∨ c = code '>' ∨ c = code '&') :=
    not_or.mpr ⟨Nat.not_lt.mpr least, html⟩
  rw [quoteRune, if_neg quoted, if_neg (by omega), if_neg (by omega), if_neg (by omega),
    if_neg (by omega), if_neg (by omega), if_neg shown, if_neg (by omega), utf8, if_pos small]

theorem stringFrom_quoteRune (printable : Printable c) (fuel : Nat) (rest : Codes) :
    stringFrom (fuel + 1) (quoteRune c ++ rest) =
      (stringFrom fuel rest).map fun (s, rest) => (c.toUInt8 :: s, rest) := by
  have scalar : Bytes.ofScalar c = [c.toUInt8] := if_pos printable.2
  by_cases quoted : c = code '"' ∨ c = code '\\'
  · rcases quoted with rfl | rfl <;> rfl
  by_cases html : c = code '<' ∨ c = code '>' ∨ c = code '&'
  · rcases html with rfl | rfl | rfl <;> rfl
  · have least := printable.1
    have plain : quoteRune c = [c] := quoteRune_unescaped ⟨printable, quoted, html⟩
    have closing : c ≠ code '"' := fun same => quoted (.inl same)
    have backslash : c ≠ code '\\' := fun same => quoted (.inr same)
    have read : piece (c :: rest) = some (.plain c, rest) := by
      rw [piece, if_neg closing, if_neg (Nat.not_lt.mpr least), if_pos backslash]
    rw [plain, List.singleton_append, stringFrom, read, decodeRune_ascii printable.2]
    dsimp only
    rw [scalar]
    rfl

theorem quoteFrom_cons (small : c < 0x80) (s : Codes) :
    quoteFrom (c :: s).length (c :: s) = quoteRune c ++ quoteFrom s.length s := by
  rw [List.length_cons, quoteFrom, decodeRune_ascii small]

theorem quoteFrom_unescaped (unescaped : ∀ c ∈ s, Unescaped c) : quoteFrom s.length s = s := by
  induction s with
  | nil => rfl
  | cons c s ih =>
    have first := unescaped c List.mem_cons_self
    rw [quoteFrom_cons first.1.2, quoteRune_unescaped first,
      ih fun d member => unescaped d (List.mem_cons_of_mem _ member)]
    rfl

theorem length_quoteFrom_ge (printable : ∀ c ∈ s, Printable c) :
    s.length ≤ (quoteFrom s.length s).length := by
  induction s with
  | nil => exact Nat.le_refl _
  | cons c s ih =>
    have first := printable c List.mem_cons_self
    have rest := ih fun d member => printable d (List.mem_cons_of_mem _ member)
    obtain ⟨d, more, quoted, -⟩ := quoteRune_spells (r := c) (.inl (Nat.lt_trans first.2 (by decide)))
    rw [quoteFrom_cons first.2, List.length_append, quoted, List.length_cons, List.length_cons]
    omega

theorem stringFrom_quoteFrom (printable : ∀ c ∈ s, Printable c) {fuel : Nat}
    (enough : s.length < fuel) (rest : Codes) :
    stringFrom fuel (quoteFrom s.length s ++ code '"' :: rest) =
      some (s.map Nat.toUInt8, rest) := by
  induction s generalizing fuel with
  | nil =>
    obtain ⟨fuel, rfl⟩ := Nat.exists_eq_succ_of_ne_zero (Nat.ne_of_gt enough)
    rfl
  | cons c s ih =>
    have first := printable c List.mem_cons_self
    obtain ⟨fuel, rfl⟩ := Nat.exists_eq_succ_of_ne_zero (Nat.ne_of_gt (Nat.zero_lt_of_lt enough))
    have tail := ih (fun d member => printable d (List.mem_cons_of_mem _ member)) (Nat.lt_of_succ_lt_succ enough)
    rw [quoteFrom_cons first.2, List.append_assoc, stringFrom_quoteRune first, tail]
    rfl

theorem quoteRune_lt (printable : Printable c) : ∀ d ∈ quoteRune c, d < 0x80 := by
  obtain ⟨least, small⟩ := printable
  revert least
  revert c
  decide +kernel

theorem quoteFrom_lt (printable : ∀ c ∈ s, Printable c) :
    ∀ d ∈ quoteFrom s.length s, d < 0x80 := by
  induction s with
  | nil => exact nofun
  | cons c s ih =>
    have first := printable c List.mem_cons_self
    rw [quoteFrom_cons first.2]
    exact List.forall_mem_append.mpr
      ⟨quoteRune_lt first, ih fun d member => printable d (List.mem_cons_of_mem _ member)⟩

theorem printable_toNat {s : Bytes} (printable : ∀ b ∈ s, Printable b.toNat) :
    ∀ c ∈ s.map UInt8.toNat, Printable c := by
  intro c member
  obtain ⟨b, inside, rfl⟩ := List.mem_map.mp member
  exact printable b inside

theorem quote_lt {s : Bytes} (printable : ∀ b ∈ s, Printable b.toNat) : ∀ d ∈ quote s, d < 0x80 := by
  have inside := quoteFrom_lt (printable_toNat printable)
  rw [List.length_map] at inside
  exact List.forall_mem_append.mpr ⟨List.forall_mem_cons.mpr ⟨by decide, inside⟩, by decide⟩

theorem stringFrom_quote {s : Bytes} (printable : ∀ b ∈ s, Printable b.toNat) (rest : Codes) :
    stringFrom (quote s ++ rest).length ((quote s ++ rest).drop 1) = some (s, rest) := by
  have codes_ := printable_toNat printable
  have long := length_quoteFrom_ge codes_
  rw [List.length_map] at long
  have text_ : quote s ++ rest = code '"' :: (quoteFrom s.length (s.map UInt8.toNat) ++ code '"' :: rest) := by
    simp [quote]
  have enough : (s.map UInt8.toNat).length < (quote s ++ rest).length := by
    rw [text_, List.length_map, List.length_cons, List.length_append, List.length_cons]
    omega
  have read := stringFrom_quoteFrom codes_ enough rest
  rw [List.length_map] at read
  rw [text_, List.drop_succ_cons, List.drop_zero, ← text_, read, List.map_map]
  have same : Nat.toUInt8 ∘ UInt8.toNat = id := by
    funext b
    exact UInt8.ofNat_toNat
  rw [same, List.map_id]

end GoJson

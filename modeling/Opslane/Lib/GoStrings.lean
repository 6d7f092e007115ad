import Opslane.Lib.Bytes
import Opslane.Lib.Scan

/-!
# Go's strings

A string is its bytes. A character of white space is taken off an end where the bytes of its
encoding stand there.
-/

namespace GoStrings

def byte (c : Char) : UInt8 := c.toNat.toUInt8

def spaces : List Bytes :=
  ([9, 10, 11, 12, 13, 0x20, 0x85, 0xa0, 0x1680] ++ (List.range 11).map (0x2000 + ·) ++
    [0x2028, 0x2029, 0x202f, 0x205f, 0x3000]).map Bytes.ofScalar

/-- The text without any of some beginnings; its length is fuel enough. -/
def trimFrom (beginnings : List Bytes) : Nat → Bytes → Bytes
  | 0, text => text
  | fuel + 1, text =>
    match beginnings.find? (·.isPrefixOf text) with
    | some beginning => trimFrom beginnings fuel (text.drop beginning.length)
    | none => text

/-- `strings.TrimSpace` -/
def trimSpace (text : Bytes) : Bytes :=
  let text := trimFrom spaces text.length text
  (trimFrom (spaces.map List.reverse) text.length text.reverse).reverse

example : trimSpace (Bytes.ascii "\t at f ") = Bytes.ascii "at f" := by decide +kernel

variable {text : Bytes}

theorem trimFrom_eq_self {beginnings : List Bytes} (fuel : Nat)
    (none_ : ∀ beginning ∈ beginnings, beginning.isPrefixOf text = false) :
    trimFrom beginnings fuel text = text := by
  cases fuel with
  | zero => rfl
  | succ fuel =>
    have missing : beginnings.find? (·.isPrefixOf text) = none :=
      List.find?_eq_none.mpr fun beginning member => by simp [none_ beginning member]
    rw [trimFrom, missing]

theorem length_trimFrom_le (beginnings : List Bytes) (fuel : Nat) (text : Bytes) :
    (trimFrom beginnings fuel text).length ≤ text.length := by
  induction fuel generalizing text with
  | zero => exact Nat.le_refl _
  | succ fuel ih =>
    rw [trimFrom]
    split
    · exact Nat.le_trans (ih _) (List.drop_sublist _ _).length_le
    · exact Nat.le_refl _

theorem length_trimSpace_le (text : Bytes) : (trimSpace text).length ≤ text.length := by
  unfold trimSpace
  dsimp only
  rw [List.length_reverse]
  refine Nat.le_trans (length_trimFrom_le ..) ?_
  rw [List.length_reverse]
  exact length_trimFrom_le ..

/-- A byte that no white space begins or ends with. -/
def Visible (b : UInt8) : Prop := ∀ space ∈ spaces, space.head? ≠ some b ∧ space.getLast? ≠ some b
  deriving Decidable

variable {b : UInt8}

theorem visible_of_graphic (low : 0x20 < b) (high : b < 0x80) : Visible b := by
  have outside : ∀ space ∈ spaces, (space.head?.all fun c => ¬(0x20 < c ∧ c < 0x80)) = true ∧
      (space.getLast?.all fun c => ¬(0x20 < c ∧ c < 0x80)) = true := by
    decide +kernel
  intro space member
  obtain ⟨first, last⟩ := outside space member
  refine ⟨fun begins => ?_, fun ends => ?_⟩
  · rw [begins, Option.all_some, decide_eq_true_eq] at first
    exact first ⟨low, high⟩
  · rw [ends, Option.all_some, decide_eq_true_eq] at last
    exact last ⟨low, high⟩

theorem trimSpace_eq_self (first : ∀ b ∈ text.head?, Visible b)
    (last : ∀ b ∈ text.getLast?, Visible b) : trimSpace text = text := by
  have nonempty : ∀ space ∈ spaces, space ≠ [] := by decide +kernel
  have front : ∀ space ∈ spaces, space.isPrefixOf text = false := by
    intro space member
    cases space with
    | nil => exact absurd rfl (nonempty _ member)
    | cons b rest =>
      rw [Bool.eq_false_iff]
      intro begins
      obtain ⟨more, rfl⟩ := List.isPrefixOf_iff_prefix.mp begins
      exact (first b rfl _ member).1 rfl
  have back : ∀ space ∈ spaces.map List.reverse, space.isPrefixOf text.reverse = false := by
    intro turned member
    obtain ⟨space, known, rfl⟩ := List.mem_map.mp member
    rw [Bool.eq_false_iff]
    intro ends
    obtain ⟨more, whole⟩ := List.isPrefixOf_iff_prefix.mp ends
    have same : text = more.reverse ++ space := by
      rw [← List.reverse_reverse text, ← whole]
      simp
    have shown := List.getLast?_eq_getLast_of_ne_nil (nonempty space known)
    have atEnd : text.getLast? = some (space.getLast (nonempty space known)) := by
      rw [same, List.getLast?_append_of_ne_nil _ (nonempty space known), shown]
    exact (last _ atEnd space known).2 shown
  rw [trimSpace, trimFrom_eq_self _ front]
  show (trimFrom (spaces.map List.reverse) text.length text.reverse).reverse = text
  rw [trimFrom_eq_self _ back, List.reverse_reverse]

/-- `strings.Split` at one byte. -/
def splitByte (b : UInt8) : Bytes → List Bytes
  | [] => [[]]
  | c :: rest =>
    if c = b then [] :: splitByte b rest
    else
      match splitByte b rest with
      | [] => [[c]]
      | line :: lines => (c :: line) :: lines

def lines (text : Bytes) : List Bytes := splitByte (byte '\n') text

theorem splitByte_ne_nil (b : UInt8) (text : Bytes) : splitByte b text ≠ [] := by
  cases text with
  | nil => exact List.cons_ne_nil _ _
  | cons c rest =>
    unfold splitByte
    split
    · exact List.cons_ne_nil _ _
    · split <;> exact List.cons_ne_nil _ _

variable {b c : UInt8}

theorem splitByte_cons_of_ne (inside : c ≠ b) (rest : Bytes) :
    ∃ line more, splitByte b rest = line :: more ∧ splitByte b (c :: rest) = (c :: line) :: more := by
  cases pieces : splitByte b rest with
  | nil => exact absurd pieces (splitByte_ne_nil b rest)
  | cons line more => exact ⟨line, more, rfl, by rw [splitByte, if_neg inside, pieces]⟩

theorem not_mem_of_mem_splitByte {text piece : Bytes} (member : piece ∈ splitByte b text) :
    b ∉ piece := by
  induction text generalizing piece with
  | nil =>
    rw [splitByte, List.mem_singleton] at member
    rw [member]
    exact List.not_mem_nil
  | cons c rest ih =>
    by_cases separates : c = b
    · rw [splitByte, if_pos separates] at member
      rcases List.mem_cons.mp member with rfl | later
      · exact List.not_mem_nil
      · exact ih later
    · obtain ⟨line, more, pieces, split_⟩ := splitByte_cons_of_ne separates rest
      rw [split_] at member
      rw [pieces] at ih
      rcases List.mem_cons.mp member with rfl | later
      · rw [List.mem_cons, not_or]
        exact ⟨Ne.symm separates, ih List.mem_cons_self⟩
      · exact ih (List.mem_cons_of_mem _ later)

theorem intercalate_splitByte (b : UInt8) (text : Bytes) : [b].intercalate (splitByte b text) = text := by
  induction text with
  | nil => rfl
  | cons c rest ih =>
    by_cases separates : c = b
    · rw [splitByte, if_pos separates, separates]
      cases pieces : splitByte b rest with
      | nil => exact absurd pieces (splitByte_ne_nil b rest)
      | cons line more =>
        rw [pieces] at ih
        rw [List.intercalate_cons_cons, ih]
        rfl
    · obtain ⟨line, more, pieces, split_⟩ := splitByte_cons_of_ne separates rest
      rw [split_]
      rw [pieces] at ih
      rw [← ih]
      cases more <;> simp [List.intercalate]

theorem splitByte_intercalate {pieces : List Bytes} (some_ : pieces ≠ [])
    (inside : ∀ piece ∈ pieces, b ∉ piece) : splitByte b ([b].intercalate pieces) = pieces := by
  have whole (piece rest : Bytes) (clean : b ∉ piece) {line : Bytes} {more : List Bytes}
      (split_ : splitByte b rest = line :: more) :
      splitByte b (piece ++ rest) = (piece ++ line) :: more := by
    induction piece with
    | nil => exact split_
    | cons c piece ih =>
      rw [List.mem_cons, not_or] at clean
      obtain ⟨line', more', pieces, cons_⟩ := splitByte_cons_of_ne (Ne.symm clean.1) (piece ++ rest)
      rw [ih clean.2] at pieces
      cases pieces
      exact cons_
  induction pieces with
  | nil => exact absurd rfl some_
  | cons piece rest ih =>
    have clean := inside piece List.mem_cons_self
    cases rest with
    | nil =>
      have single : splitByte b (piece ++ []) = [piece ++ []] := whole piece [] clean rfl
      rw [List.append_nil] at single
      rwa [List.intercalate_singleton]
    | cons next rest =>
      have behind := ih (List.cons_ne_nil _ _) fun piece member => inside piece (List.mem_cons_of_mem _ member)
      rw [List.intercalate_cons_cons, List.append_assoc]
      have split_ : splitByte b ([b] ++ [b].intercalate (next :: rest)) = [] :: next :: rest := by
        rw [List.singleton_append, splitByte, if_pos rfl, behind]
      have joined := whole piece _ clean split_
      rwa [List.append_nil] at joined

theorem splitByte_append (b : UInt8) (front back : Bytes) :
    splitByte b (front ++ b :: back) = splitByte b front ++ splitByte b back := by
  induction front with
  | nil =>
    have separated : splitByte b (b :: back) = [] :: splitByte b back := if_pos rfl
    rw [List.nil_append, separated]
    rfl
  | cons c front ih =>
    rw [List.cons_append]
    by_cases separates : c = b
    · rw [splitByte, if_pos separates, ih, splitByte, if_pos separates]
      rfl
    · obtain ⟨line, more, pieces, split_⟩ := splitByte_cons_of_ne separates front
      obtain ⟨line', more', pieces', split'⟩ := splitByte_cons_of_ne separates (front ++ b :: back)
      rw [ih, pieces, List.cons_append] at pieces'
      obtain ⟨rfl, rfl⟩ := List.cons.inj pieces'
      rw [split', split_]
      rfl

theorem splitByte_intercalate_flatMap {texts : List Bytes} (some_ : texts ≠ []) :
    splitByte b ([b].intercalate texts) = texts.flatMap (splitByte b) := by
  induction texts with
  | nil => exact absurd rfl some_
  | cons text rest ih =>
    cases rest with
    | nil => rw [List.intercalate_singleton, List.flatMap_cons, List.flatMap_nil, List.append_nil]
    | cons next rest =>
      rw [List.intercalate_cons_cons, List.append_assoc, List.singleton_append, splitByte_append,
        ih (List.cons_ne_nil _ _), ← List.flatMap_cons]

theorem mem_of_mem_splitByte {text piece : Bytes} (member : piece ∈ splitByte b text)
    (inside : c ∈ piece) : c ∈ text := by
  induction text generalizing piece with
  | nil =>
    rw [List.mem_singleton.mp member] at inside
    cases inside
  | cons d rest ih =>
    by_cases separates : d = b
    · rw [splitByte, if_pos separates] at member
      rcases List.mem_cons.mp member with rfl | later
      · cases inside
      · exact List.mem_cons_of_mem _ (ih later inside)
    · obtain ⟨line, more, pieces, split_⟩ := splitByte_cons_of_ne separates rest
      rw [split_] at member
      rw [pieces] at ih
      rcases List.mem_cons.mp member with rfl | later
      · rcases List.mem_cons.mp inside with rfl | found
        · exact List.mem_cons_self
        · exact List.mem_cons_of_mem _ (ih List.mem_cons_self found)
      · exact List.mem_cons_of_mem _ (ih (List.mem_cons_of_mem _ later) inside)

theorem exists_mem_splitByte (member : c ∈ text) (other : c ≠ b) :
    ∃ piece ∈ splitByte b text, c ∈ piece := by
  induction text with
  | nil => cases member
  | cons d rest ih =>
    by_cases separates : d = b
    · have later : c ∈ rest := (List.mem_cons.mp member).resolve_left fun same => other (same.trans separates)
      obtain ⟨piece, inside, found⟩ := ih later
      rw [splitByte, if_pos separates]
      exact ⟨piece, List.mem_cons_of_mem _ inside, found⟩
    · obtain ⟨line, more, pieces, split_⟩ := splitByte_cons_of_ne separates rest
      rw [split_]
      rw [pieces] at ih
      rcases List.mem_cons.mp member with rfl | later
      · exact ⟨_, List.mem_cons_self, List.mem_cons_self⟩
      · obtain ⟨piece, inside, found⟩ := ih later
        rcases List.mem_cons.mp inside with rfl | behind
        · exact ⟨_, List.mem_cons_self, List.mem_cons_of_mem _ found⟩
        · exact ⟨piece, List.mem_cons_of_mem _ behind, found⟩

def isDigit (b : UInt8) : Bool := byte '0' ≤ b && b ≤ byte '9'

def isLower (b : UInt8) : Bool := byte 'a' ≤ b && b ≤ byte 'z'

def isUpper (b : UInt8) : Bool := byte 'A' ≤ b && b ≤ byte 'Z'

def isLetter (b : UInt8) : Bool := isLower b || isUpper b

/-- `\s` of a regular expression. -/
def isBlank (b : UInt8) : Bool :=
  b == byte ' ' || b == byte '\t' || b == byte '\n' || b == 0x0c || b == byte '\r'

/-- A letter of ASCII in lower case. -/
def lower (b : UInt8) : UInt8 := if isUpper b then b + 0x20 else b

/-- A text without this beginning. -/
def after (beginning text : Bytes) : Option Bytes :=
  if beginning.isPrefixOf text then some (text.drop beginning.length) else none

/-- `strings.ToLower`, but for the letters outside ASCII that stay outside it. -/
def toLower : Bytes → Bytes
  | [] => []
  | b :: rest =>
    match b, rest with
    | 0xc4, 0xb0 :: rest => byte 'i' :: toLower rest
    | 0xe2, 0x84 :: 0xaa :: rest => byte 'k' :: toLower rest
    | b, rest => lower b :: toLower rest

theorem length_toLower_le (text : Bytes) : (toLower text).length ≤ text.length := by
  fun_induction toLower text with
  | case1 => exact Nat.le_refl _
  | case2 rest ih | case3 rest ih =>
    simp only [List.length_cons]
    omega
  | case4 c rest _ _ ih => exact Nat.succ_le_succ ih

theorem mem_toLower (member : b ∈ toLower text) :
    b = byte 'i' ∨ b = byte 'k' ∨ ∃ a ∈ text, b = lower a := by
  have deeper (front : Bytes) {rest : Bytes} (found : b = byte 'i' ∨ b = byte 'k' ∨ ∃ a ∈ rest, b = lower a) :
      b = byte 'i' ∨ b = byte 'k' ∨ ∃ a ∈ front ++ rest, b = lower a :=
    found.imp_right (Or.imp_right fun ⟨a, inside, same⟩ => ⟨a, List.mem_append_right _ inside, same⟩)
  fun_induction toLower text with
  | case1 => cases member
  | case2 rest ih =>
    rcases List.mem_cons.mp member with same | later
    · exact .inl same
    · exact deeper [0xc4, 0xb0] (ih later)
  | case3 rest ih =>
    rcases List.mem_cons.mp member with same | later
    · exact .inr (.inl same)
    · exact deeper [0xe2, 0x84, 0xaa] (ih later)
  | case4 c rest _ _ ih =>
    rcases List.mem_cons.mp member with same | later
    · exact .inr (.inr ⟨c, List.mem_cons_self, same⟩)
    · exact deeper [c] (ih later)

theorem forall_toLower {P : UInt8 → Prop} (lowers : ∀ b, P b → P (lower b))
    (letters : P (byte 'i') ∧ P (byte 'k')) (all : ∀ b ∈ text, P b) : ∀ b ∈ toLower text, P b := by
  intro b member
  rcases mem_toLower member with rfl | rfl | ⟨a, inside, rfl⟩
  · exact letters.1
  · exact letters.2
  · exact lowers a (all a inside)

theorem toLower_ascii (ascii : ∀ b ∈ text, b < 0x80) : toLower text = text.map lower := by
  fun_induction toLower text with
  | case1 => rfl
  | case2 rest ih | case3 rest ih => exact absurd (ascii _ List.mem_cons_self) (by decide)
  | case4 c rest _ _ ih =>
    rw [ih fun b member => ascii b (List.mem_cons_of_mem _ member)]
    rfl

theorem mem_toLower_iff (small : b < 0x80) (other : isLetter b = false) :
    b ∈ toLower text ↔ b ∈ text := by
  have differs {c : UInt8} (letter : isLetter c = true) : b ≠ c := by
    rintro rfl
    rw [letter] at other
    cases other
  have above {c : UInt8} (large : ¬c < 0x80) : b ≠ c := by
    rintro rfl
    exact large small
  have kept (c : UInt8) : b = lower c ↔ b = c := by
    have each : ∀ c, c = lower c ∨ isLetter c = true ∧ isLetter (lower c) = true :=
      Bytes.forall_byte (by decide +kernel)
    rcases each c with same | ⟨letter, lowered⟩
    · rw [← same]
    · exact iff_of_false (differs lowered) (differs letter)
  fun_induction toLower text with
  | case1 => rfl
  | case2 rest ih =>
    have i : b ≠ byte 'i' := differs (by decide)
    have first : b ≠ 0xc4 := above (by decide)
    have second : b ≠ 0xb0 := above (by decide)
    simp only [List.mem_cons, i, first, second, false_or, ih]
  | case3 rest ih =>
    have k : b ≠ byte 'k' := differs (by decide)
    have first : b ≠ 0xe2 := above (by decide)
    have second : b ≠ 0x84 := above (by decide)
    have third : b ≠ 0xaa := above (by decide)
    simp only [List.mem_cons, k, first, second, third, false_or, ih]
  | case4 c rest _ _ ih =>
    rw [List.mem_cons, List.mem_cons, kept]
    exact or_congr_right ih

theorem lower_of_mem_toLower (member : b ∈ toLower text) : lower b = b := by
  have twice : ∀ b, lower (lower b) = lower b := Bytes.forall_byte (by decide +kernel)
  rcases mem_toLower member with rfl | rfl | ⟨a, -, rfl⟩
  · decide
  · decide
  · exact twice a

end GoStrings

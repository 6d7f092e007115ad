import Mathlib.Data.List.Basic

/-!
# One text in two encodings

Texts as lists of codes, the bytes of UTF-8 and the 16-bit units of UTF-16. A character below
0x80 is one code in both, and no code of any other character is below 0x80, so readers that
tell characters apart by such codes see the same text in either encoding.
-/

abbrev Codes := List Nat

namespace Unicode

/-- A Unicode scalar value: no surrogate, nothing past U+10FFFF. -/
def IsScalar (n : Nat) : Prop := n < 0xd800 ∨ 0xe000 ≤ n ∧ n < 0x110000
  deriving Decidable

def utf8 (n : Nat) : Codes :=
  if n < 0x80 then [n]
  else if n < 0x800 then [0xc0 + n / 0x40, 0x80 + n % 0x40]
  else if n < 0x10000 then [0xe0 + n / 0x1000, 0x80 + n / 0x40 % 0x40, 0x80 + n % 0x40]
  else [0xf0 + n / 0x40000, 0x80 + n / 0x1000 % 0x40, 0x80 + n / 0x40 % 0x40, 0x80 + n % 0x40]

def utf16 (n : Nat) : Codes :=
  if n < 0x10000 then [n]
  else [0xd800 + (n - 0x10000) / 0x400, 0xdc00 + (n - 0x10000) % 0x400]

/-- A continuation byte. -/
def isTail (b : Nat) : Bool := 0x80 ≤ b && b < 0xc0

/-- A character of two bytes, from its second one on. -/
def twoBytes (a : Nat) : Codes → Option (Nat × Codes)
  | b :: rest => if isTail b then some ((a - 0xc0) * 0x40 + (b - 0x80), rest) else none
  | [] => none

/-- A character of three bytes: neither overlong nor a surrogate. -/
def threeBytes (a : Nat) : Codes → Option (Nat × Codes)
  | b :: c :: rest =>
    let n := (a - 0xe0) * 0x1000 + (b - 0x80) * 0x40 + (c - 0x80)
    if isTail b ∧ isTail c ∧ 0x800 ≤ n ∧ IsScalar n then some (n, rest) else none
  | _ => none

def fourBytes (a : Nat) : Codes → Option (Nat × Codes)
  | b :: c :: d :: rest =>
    let n := (a - 0xf0) * 0x40000 + (b - 0x80) * 0x1000 + (c - 0x80) * 0x40 + (d - 0x80)
    if isTail b ∧ isTail c ∧ isTail d ∧ 0x10000 ≤ n ∧ IsScalar n then some (n, rest) else none
  | _ => none

/-- The first character of a text in UTF-8, and the rest. -/
def decodeRune : Codes → Option (Nat × Codes)
  | [] => none
  | a :: rest =>
    if a < 0x80 then some (a, rest)
    else if a < 0xc2 then none
    else if a < 0xe0 then twoBytes a rest
    else if a < 0xf0 then threeBytes a rest
    else fourBytes a rest

/-- Every character takes a byte, so the length of a text is fuel enough. -/
def decodeFrom : Nat → Codes → Option (List Nat)
  | _, [] => some []
  | 0, _ :: _ => none
  | fuel + 1, text => do
    let (n, rest) ← decodeRune text
    let ns ← decodeFrom fuel rest
    return n :: ns

/-- The characters of a text in UTF-8. -/
def decodeUtf8 (text : Codes) : Option (List Nat) := decodeFrom text.length text

theorem isTail_iff {b : Nat} : isTail b = true ↔ 0x80 ≤ b ∧ b < 0xc0 := by
  simp [isTail]

theorem isTail_add_mod (n : Nat) : isTail (0x80 + n % 0x40) = true := by
  rw [isTail_iff]
  omega

variable {n : Nat}

theorem decodeRune_utf8 (valid : IsScalar n) (rest : Codes) :
    decodeRune (utf8 n ++ rest) = some (n, rest) := by
  have bound : n < 0x110000 := by
    unfold IsScalar at valid
    omega
  unfold utf8
  split_ifs with one two three
  · simp [decodeRune, one]
  · have value : (0xc0 + n / 0x40 - 0xc0) * 0x40 + (0x80 + n % 0x40 - 0x80) = n := by omega
    have lead : ¬0xc0 + n / 0x40 < 0x80 ∧ ¬0xc0 + n / 0x40 < 0xc2 ∧ 0xc0 + n / 0x40 < 0xe0 := by
      omega
    rw [List.cons_append, decodeRune, if_neg lead.1, if_neg lead.2.1, if_pos lead.2.2,
      List.singleton_append, twoBytes, if_pos (isTail_add_mod n), value]
  · have value : (0xe0 + n / 0x1000 - 0xe0) * 0x1000 + (0x80 + n / 0x40 % 0x40 - 0x80) * 0x40 +
        (0x80 + n % 0x40 - 0x80) = n := by omega
    have lead : ¬0xe0 + n / 0x1000 < 0x80 ∧ ¬0xe0 + n / 0x1000 < 0xc2 ∧
        ¬0xe0 + n / 0x1000 < 0xe0 ∧ 0xe0 + n / 0x1000 < 0xf0 := by omega
    rw [List.cons_append, decodeRune, if_neg lead.1, if_neg lead.2.1, if_neg lead.2.2.1,
      if_pos lead.2.2.2, List.cons_append, List.singleton_append, threeBytes,
      value, if_pos ⟨isTail_add_mod _, isTail_add_mod _, by omega, valid⟩]
  · have value : (0xf0 + n / 0x40000 - 0xf0) * 0x40000 + (0x80 + n / 0x1000 % 0x40 - 0x80) * 0x1000 +
        (0x80 + n / 0x40 % 0x40 - 0x80) * 0x40 + (0x80 + n % 0x40 - 0x80) = n := by omega
    have lead : ¬0xf0 + n / 0x40000 < 0x80 ∧ ¬0xf0 + n / 0x40000 < 0xc2 ∧
        ¬0xf0 + n / 0x40000 < 0xe0 ∧ ¬0xf0 + n / 0x40000 < 0xf0 := by omega
    rw [List.cons_append, decodeRune, if_neg lead.1, if_neg lead.2.1, if_neg lead.2.2.1,
      if_neg lead.2.2.2, List.cons_append, List.cons_append, List.singleton_append, fourBytes,
      value, if_pos ⟨isTail_add_mod _, isTail_add_mod _, isTail_add_mod _, by omega, valid⟩]

variable {text rest : Codes}

theorem twoBytes_eq_some {a n : Nat} (lead : 0xc2 ≤ a ∧ a < 0xe0)
    (decoded : twoBytes a text = some (n, rest)) : IsScalar n ∧ a :: text = utf8 n ++ rest := by
  unfold twoBytes at decoded
  split at decoded
  · rename_i b rest'
    split_ifs at decoded with tail
    rw [isTail_iff] at tail
    obtain ⟨value, rfl⟩ := Prod.mk.inj (Option.some.inj decoded)
    have bounds : ¬n < 0x80 ∧ n < 0x800 := by omega
    refine ⟨.inl (by omega), ?_⟩
    rw [utf8, if_neg bounds.1, if_pos bounds.2]
    simp only [List.cons_append, List.nil_append, List.cons.injEq, and_true]
    omega
  · cases decoded

theorem threeBytes_eq_some {a n : Nat} (lead : 0xe0 ≤ a ∧ a < 0xf0)
    (decoded : threeBytes a text = some (n, rest)) : IsScalar n ∧ a :: text = utf8 n ++ rest := by
  unfold threeBytes at decoded
  split at decoded
  · rename_i b c rest'
    dsimp only at decoded
    split_ifs at decoded with range
    obtain ⟨value, rfl⟩ := Prod.mk.inj (Option.some.inj decoded)
    rw [value, isTail_iff, isTail_iff] at range
    obtain ⟨tail, tail', wide, valid⟩ := range
    have bounds : ¬n < 0x80 ∧ ¬n < 0x800 ∧ n < 0x10000 := by omega
    refine ⟨valid, ?_⟩
    rw [utf8, if_neg bounds.1, if_neg bounds.2.1, if_pos bounds.2.2]
    simp only [List.cons_append, List.nil_append, List.cons.injEq, and_true]
    omega
  · cases decoded

theorem fourBytes_eq_some {a n : Nat} (lead : 0xf0 ≤ a)
    (decoded : fourBytes a text = some (n, rest)) : IsScalar n ∧ a :: text = utf8 n ++ rest := by
  unfold fourBytes at decoded
  split at decoded
  · rename_i b c d rest'
    dsimp only at decoded
    split_ifs at decoded with range
    obtain ⟨value, rfl⟩ := Prod.mk.inj (Option.some.inj decoded)
    rw [value, isTail_iff, isTail_iff, isTail_iff] at range
    obtain ⟨tail, tail', tail'', wide, valid⟩ := range
    have bounds : ¬n < 0x80 ∧ ¬n < 0x800 ∧ ¬n < 0x10000 := by omega
    refine ⟨valid, ?_⟩
    rw [utf8, if_neg bounds.1, if_neg bounds.2.1, if_neg bounds.2.2]
    simp only [List.cons_append, List.nil_append, List.cons.injEq, and_true]
    omega
  · cases decoded

theorem decodeRune_eq_some (decoded : decodeRune text = some (n, rest)) :
    IsScalar n ∧ text = utf8 n ++ rest := by
  unfold decodeRune at decoded
  split at decoded
  · cases decoded
  rename_i a rest'
  split_ifs at decoded with one none two three
  · obtain ⟨rfl, rfl⟩ := Prod.mk.inj (Option.some.inj decoded)
    exact ⟨.inl (by omega), by simp [utf8, one]⟩
  · exact twoBytes_eq_some ⟨by omega, two⟩ decoded
  · exact threeBytes_eq_some ⟨by omega, three⟩ decoded
  · exact fourBytes_eq_some (by omega) decoded

variable {ns : List Nat}

theorem decodeFrom_eq_some {fuel : Nat} (decoded : decodeFrom fuel text = some ns) :
    (∀ n ∈ ns, IsScalar n) ∧ text = ns.flatMap utf8 := by
  induction fuel generalizing text ns with
  | zero =>
    cases text with
    | nil =>
      obtain rfl := Option.some.inj decoded
      simp
    | cons a rest => cases decoded
  | succ fuel ih =>
    cases text with
    | nil =>
      obtain rfl := Option.some.inj decoded
      simp
    | cons a rest =>
      obtain ⟨⟨n, rest⟩, first, decoded⟩ := Option.bind_eq_some_iff.mp decoded
      obtain ⟨ns, later, decoded⟩ := Option.bind_eq_some_iff.mp decoded
      obtain rfl := Option.some.inj decoded
      obtain ⟨valid, text⟩ := decodeRune_eq_some first
      obtain ⟨valids, rest⟩ := ih later
      exact ⟨List.forall_mem_cons.mpr ⟨valid, valids⟩, by rw [text, rest, List.flatMap_cons]⟩

theorem decodeUtf8_eq_some (decoded : decodeUtf8 text = some ns) :
    (∀ n ∈ ns, IsScalar n) ∧ text = ns.flatMap utf8 :=
  decodeFrom_eq_some decoded

/-- A text in UTF-8 beside itself in UTF-16. -/
inductive SameText : Codes → Codes → Prop
  | nil : SameText [] []
  | ascii {c : Nat} {a b : Codes} (single : c < 0x80) (rest : SameText a b) :
      SameText (c :: a) (c :: b)
  | wide {n : Nat} {a b : Codes} (valid : IsScalar n) (wide : 0x80 ≤ n) (rest : SameText a b) :
      SameText (utf8 n ++ a) (utf16 n ++ b)

theorem utf8_wide (wide : 0x80 ≤ n) : ∀ c ∈ utf8 n, 0x80 ≤ c := by
  unfold utf8
  split_ifs
  · omega
  all_goals simp only [List.mem_cons, List.not_mem_nil, or_false, forall_eq_or_imp, forall_eq]
  all_goals omega

theorem utf16_wide (wide : 0x80 ≤ n) : ∀ c ∈ utf16 n, 0x80 ≤ c := by
  unfold utf16
  split_ifs
  · simpa using wide
  · simp only [List.mem_cons, List.not_mem_nil, or_false, forall_eq_or_imp, forall_eq]
    omega

theorem utf8_ne_nil (n : Nat) : utf8 n ≠ [] := by
  unfold utf8
  split_ifs <;> simp

theorem utf16_ne_nil (n : Nat) : utf16 n ≠ [] := by
  unfold utf16
  split_ifs <;> simp

theorem sameText_of_scalars (valid : ∀ n ∈ ns, IsScalar n) :
    SameText (ns.flatMap utf8) (ns.flatMap utf16) := by
  induction ns with
  | nil => exact .nil
  | cons n ns ih =>
    have tail := ih fun m member => valid m (List.mem_cons_of_mem _ member)
    rw [List.flatMap_cons, List.flatMap_cons]
    by_cases single : n < 0x80
    · have basic : n < 0x10000 := by omega
      rw [utf8, if_pos single, utf16, if_pos basic]
      exact .ascii single tail
    · exact .wide (valid n List.mem_cons_self) (Nat.le_of_not_lt single) tail

variable {a b : Codes}

theorem SameText.cases_front (same : SameText a b) :
    a = [] ∧ b = [] ∨
      (∃ c a' b', c < 0x80 ∧ a = c :: a' ∧ b = c :: b' ∧ SameText a' b') ∨
      ∃ c d a' b', 0x80 ≤ c ∧ 0x80 ≤ d ∧ a = c :: a' ∧ b = d :: b' := by
  cases same with
  | nil => exact .inl ⟨rfl, rfl⟩
  | ascii single rest => exact .inr (.inl ⟨_, _, _, single, rfl, rfl, rest⟩)
  | @wide n a b _ wide _ =>
    obtain ⟨c, a', front⟩ := List.exists_cons_of_ne_nil (utf8_ne_nil n)
    obtain ⟨d, b', front'⟩ := List.exists_cons_of_ne_nil (utf16_ne_nil n)
    have large := utf8_wide wide c (front ▸ List.mem_cons_self)
    have large' := utf16_wide wide d (front' ▸ List.mem_cons_self)
    exact .inr (.inr ⟨c, d, a' ++ a, b' ++ b, large, large', by rw [front]; rfl,
      by rw [front']; rfl⟩)

theorem SameText.of_cons {c : Nat} (single : c < 0x80) (same : SameText (c :: a) b) :
    ∃ b', b = c :: b' ∧ SameText a b' := by
  rcases same.cases_front with ⟨empty, -⟩ | ⟨d, a', b', -, front, front', rest⟩ |
    ⟨d, d', a', b', large, -, front, -⟩
  · cases empty
  · obtain ⟨rfl, rfl⟩ := List.cons.inj front
    exact ⟨b', front', rest⟩
  · obtain ⟨rfl, rfl⟩ := List.cons.inj front
    omega

theorem SameText.run {p : Nat → Bool} (ascii : ∀ c, p c = true → c < 0x80) (same : SameText a b) :
    a.takeWhile p = b.takeWhile p ∧ SameText (a.dropWhile p) (b.dropWhile p) := by
  have stop (c : Nat) (large : 0x80 ≤ c) : p c = false := by
    rw [Bool.eq_false_iff]
    intro inside
    have small := ascii c inside
    omega
  induction same with
  | nil => exact ⟨rfl, .nil⟩
  | @ascii c a b single rest ih =>
    cases inside : p c with
    | true =>
      rw [List.takeWhile_cons_of_pos inside, List.takeWhile_cons_of_pos inside,
        List.dropWhile_cons_of_pos inside, List.dropWhile_cons_of_pos inside, ih.1]
      exact ⟨rfl, ih.2⟩
    | false =>
      rw [List.takeWhile_cons_of_neg (by simp [inside]), List.takeWhile_cons_of_neg (by simp [inside]),
        List.dropWhile_cons_of_neg (by simp [inside]), List.dropWhile_cons_of_neg (by simp [inside])]
      exact ⟨rfl, .ascii single rest⟩
  | @wide n a b valid wide rest _ =>
    have whole := SameText.wide valid wide rest
    obtain ⟨c, a', front⟩ := List.exists_cons_of_ne_nil (utf8_ne_nil n)
    obtain ⟨d, b', front'⟩ := List.exists_cons_of_ne_nil (utf16_ne_nil n)
    have out := stop c (utf8_wide wide c (front ▸ List.mem_cons_self))
    have out' := stop d (utf16_wide wide d (front' ▸ List.mem_cons_self))
    rw [front, front', List.cons_append, List.cons_append] at whole ⊢
    rw [List.takeWhile_cons_of_neg (by simp [out]), List.takeWhile_cons_of_neg (by simp [out']),
      List.dropWhile_cons_of_neg (by simp [out]), List.dropWhile_cons_of_neg (by simp [out'])]
    exact ⟨rfl, whole⟩

theorem utf8_append_inj {m n : Nat} (valid : IsScalar m) (valid' : IsScalar n)
    (same : utf8 m ++ a = utf8 n ++ b) : m = n ∧ a = b := by
  have first := decodeRune_utf8 valid a
  rw [same, decodeRune_utf8 valid' b] at first
  obtain ⟨one, rests⟩ := Prod.mk.inj (Option.some.inj first)
  exact ⟨one.symm, rests.symm⟩

theorem utf16_append_inj {m n : Nat} (valid : IsScalar m) (valid' : IsScalar n)
    (same : utf16 m ++ a = utf16 n ++ b) : m = n ∧ a = b := by
  unfold IsScalar at valid valid'
  unfold utf16 at same
  split_ifs at same
  all_goals
    simp only [List.cons_append, List.nil_append, List.cons.injEq] at same
  · exact same
  · omega
  · omega
  · obtain ⟨high, low, rests⟩ := same
    exact ⟨by omega, rests⟩

theorem flatMap_inj {encode : Nat → Codes} (nonempty : ∀ n, encode n ≠ [])
    (inj : ∀ m n, IsScalar m → IsScalar n → ∀ a b, encode m ++ a = encode n ++ b → m = n ∧ a = b)
    {s t : List Nat} (valid : ∀ n ∈ s, IsScalar n) (valid' : ∀ n ∈ t, IsScalar n)
    (same : s.flatMap encode = t.flatMap encode) : s = t := by
  induction s generalizing t with
  | nil =>
    cases t with
    | nil => rfl
    | cons n t =>
      rw [List.flatMap_cons] at same
      exact absurd (List.append_eq_nil_iff.mp same.symm).1 (nonempty n)
  | cons m s ih =>
    cases t with
    | nil =>
      rw [List.flatMap_cons] at same
      exact absurd (List.append_eq_nil_iff.mp same).1 (nonempty m)
    | cons n t =>
      rw [List.flatMap_cons, List.flatMap_cons] at same
      obtain ⟨rfl, rests⟩ := inj m n (valid m List.mem_cons_self) (valid' n List.mem_cons_self) _ _ same
      rw [ih (fun k member => valid k (List.mem_cons_of_mem _ member))
        (fun k member => valid' k (List.mem_cons_of_mem _ member)) rests]

end Unicode

import Opslane.Lib.CodeUnits

/-!
# Texts in bytes

The UTF-8 bytes of a text in code units. A surrogate without its other half is written as
U+FFFD. A byte below 0x80 is a character of its own wherever it stands.
-/

abbrev Bytes := List UInt8

instance : LawfulBEq Bytes := inferInstance

namespace Bytes

/-- The bytes of an ASCII literal. -/
def ascii (s : String) : Bytes := s.toList.map fun c => c.toNat.toUInt8

theorem ascii_ofList (cs : List Char) : ascii (String.ofList cs) = cs.map fun c => c.toNat.toUInt8 := by
  rw [ascii, String.toList_ofList]

/-- A control character of one byte. -/
def isControl (b : UInt8) : Bool := b < 0x20 || b == 0x7f

theorem forall_mem {P : UInt8 → Prop} [DecidablePred P] {text : Bytes}
    (all : (text.all fun b => P b) = true) : ∀ b ∈ text, P b :=
  fun b member => of_decide_eq_true (List.all_eq_true.mp all b member)

theorem forall_byte {P : UInt8 → Prop} [DecidablePred P]
    (all : ((List.range 256).all fun n => P (UInt8.ofNat n)) = true) (b : UInt8) : P b := by
  have one := of_decide_eq_true (List.all_eq_true.mp all b.toNat (List.mem_range.mpr b.toNat_lt))
  rwa [UInt8.ofNat_toNat] at one

/-- The UTF-8 encoding of a scalar value. -/
def ofScalar (n : Nat) : Bytes :=
  if n < 0x80 then [n.toUInt8]
  else if n < 0x800 then [(0xc0 + n / 0x40).toUInt8, (0x80 + n % 0x40).toUInt8]
  else if n < 0x10000 then
    [(0xe0 + n / 0x1000).toUInt8, (0x80 + n / 0x40 % 0x40).toUInt8, (0x80 + n % 0x40).toUInt8]
  else
    [(0xf0 + n / 0x40000).toUInt8, (0x80 + n / 0x1000 % 0x40).toUInt8,
      (0x80 + n / 0x40 % 0x40).toUInt8, (0x80 + n % 0x40).toUInt8]

theorem length_ofScalar_pos (n : Nat) : 0 < (ofScalar n).length := by
  unfold ofScalar
  split_ifs <;> simp

end Bytes

namespace CodeUnits

def isHighSurrogate (u : UInt16) : Bool := 0xd800 ≤ u && u < 0xdc00

def isLowSurrogate (u : UInt16) : Bool := 0xdc00 ≤ u && u < 0xe000

def replacement : Nat := 0xfffd

/-- The scalar value of one unit that is no half of a pair. -/
def loneScalar (u : UInt16) : Nat :=
  if isHighSurrogate u || isLowSurrogate u then replacement else u.toNat

def pairScalar (high low : UInt16) : Nat :=
  0x10000 + (high.toNat - 0xd800) * 0x400 + (low.toNat - 0xdc00)

def scalars : CodeUnits → List Nat
  | [] => []
  | [u] => [loneScalar u]
  | u :: v :: rest =>
    if isHighSurrogate u && isLowSurrogate v then pairScalar u v :: scalars rest
    else loneScalar u :: scalars (v :: rest)

def encode (text : CodeUnits) : Bytes := text.scalars.flatMap Bytes.ofScalar

/-- The units of a scalar value. -/
def ofScalar (n : Nat) : CodeUnits :=
  if n < 0x10000 then [n.toUInt16]
  else [(0xd800 + (n - 0x10000) / 0x400).toUInt16, (0xdc00 + (n - 0x10000) % 0x400).toUInt16]

/-- A Unicode scalar value: no surrogate, nothing past U+10FFFF. -/
def IsScalar (n : Nat) : Prop := n < 0xd800 ∨ 0xe000 ≤ n ∧ n < 0x110000

theorem length_ofScalar_le (n : Nat) : (Bytes.ofScalar n).length ≤ 4 := by
  unfold Bytes.ofScalar
  split_ifs <;> simp

theorem loneScalar_lt (u : UInt16) : loneScalar u < 0x10000 := by
  unfold loneScalar
  split
  · decide
  · exact u.toNat_lt

theorem length_ofScalar_loneScalar (u : UInt16) : (Bytes.ofScalar (loneScalar u)).length ≤ 3 := by
  have bound := loneScalar_lt u
  unfold Bytes.ofScalar
  split_ifs
  all_goals simp

theorem length_encode_le (text : CodeUnits) : text.encode.length ≤ 3 * text.length := by
  unfold encode
  fun_induction scalars text with
  | case1 => simp
  | case2 u =>
    have bound := length_ofScalar_loneScalar u
    simpa using bound
  | case3 u v rest _ ih =>
    have bound := length_ofScalar_le (pairScalar u v)
    simp only [List.flatMap_cons, List.length_append, List.length_cons]
    omega
  | case4 u v rest _ ih =>
    have bound := length_ofScalar_loneScalar u
    simp only [List.flatMap_cons, List.length_append, List.length_cons] at ih ⊢
    omega

theorem encode_eq_nil_iff (text : CodeUnits) : text.encode = [] ↔ text = [] := by
  have nonempty (n : Nat) (rest : Bytes) : Bytes.ofScalar n ++ rest ≠ [] := by
    intro empty
    have length := congrArg List.length empty
    have pos := Bytes.length_ofScalar_pos n
    simp only [List.length_append, List.length_nil] at length
    omega
  unfold encode
  fun_cases scalars text with
  | case1 => simp
  | _ => simp only [List.flatMap_cons, nonempty, reduceCtorEq]

theorem scalars_cons {u : UInt16} (plain : isHighSurrogate u = false) (rest : CodeUnits) :
    scalars (u :: rest) = loneScalar u :: scalars rest := by
  cases rest with
  | nil => rfl
  | cons v rest => simp [scalars, plain]

theorem surrogate_iff (u : UInt16) :
    (isHighSurrogate u = true ↔ 0xd800 ≤ u.toNat ∧ u.toNat < 0xdc00) ∧
      (isLowSurrogate u = true ↔ 0xdc00 ≤ u.toNat ∧ u.toNat < 0xe000) := by
  simp only [isHighSurrogate, isLowSurrogate, Bool.and_eq_true, decide_eq_true_eq,
    UInt16.le_iff_toNat_le, UInt16.lt_iff_toNat_lt]
  exact ⟨Iff.rfl, Iff.rfl⟩

theorem plain_unit {u : UInt16} (plain : u.toNat < 0xd800 ∨ 0xe000 ≤ u.toNat) :
    isHighSurrogate u = false ∧ loneScalar u = u.toNat := by
  obtain ⟨high, low⟩ := surrogate_iff u
  have notHigh : isHighSurrogate u = false := by
    rw [Bool.eq_false_iff, ne_eq, high]
    omega
  have notLow : isLowSurrogate u = false := by
    rw [Bool.eq_false_iff, ne_eq, low]
    omega
  exact ⟨notHigh, by simp [loneScalar, notHigh, notLow]⟩

theorem encode_ascii {text : CodeUnits} (ascii : ∀ u ∈ text, u < 0x80) :
    text.encode = text.map UInt16.toUInt8 := by
  induction text with
  | nil => rfl
  | cons u rest ih =>
    have bound : u.toNat < 0x80 := UInt16.lt_iff_toNat_lt.mp (ascii u List.mem_cons_self)
    obtain ⟨plain, scalar⟩ := plain_unit (Or.inl (Nat.lt_trans bound (by decide)))
    have tail := ih fun v member => ascii v (List.mem_cons_of_mem _ member)
    have head : Bytes.ofScalar u.toNat = [u.toUInt8] := by
      rw [Bytes.ofScalar, if_pos bound]
      rfl
    rw [encode, scalars_cons plain, scalar, List.flatMap_cons, head, List.map_cons]
    rw [encode] at tail
    rw [tail]
    rfl

theorem mem_ofScalar {n : Nat} (valid : n < 0x110000) {b : UInt8} (small : b < 0x80)
    (member : b ∈ Bytes.ofScalar n) : b.toNat = n := by
  have bound : b.toNat < 0x80 := UInt8.lt_iff_toNat_lt.mp small
  have wide (k : Nat) (large : 0x80 ≤ k) (fits : k < 0x100) (same : b = k.toUInt8) : False := by
    have value : b.toNat = k := by
      rw [same]
      exact Nat.mod_eq_of_lt fits
    omega
  unfold Bytes.ofScalar at member
  split_ifs at member
  · rw [List.mem_singleton.mp member]
    exact Nat.mod_eq_of_lt (by omega)
  · simp only [List.mem_cons, List.not_mem_nil, or_false] at member
    rcases member with same | same
    all_goals exact (wide _ (by omega) (by omega) same).elim
  · simp only [List.mem_cons, List.not_mem_nil, or_false] at member
    rcases member with same | same | same
    all_goals exact (wide _ (by omega) (by omega) same).elim
  · simp only [List.mem_cons, List.not_mem_nil, or_false] at member
    rcases member with same | same | same | same
    all_goals exact (wide _ (by omega) (by omega) same).elim

theorem mem_of_mem_encode {text : CodeUnits} {b : UInt8} (small : b < 0x80)
    (member : b ∈ text.encode) : ∃ u ∈ text, u.toNat = b.toNat := by
  have lone (u : UInt16) (inside : b ∈ Bytes.ofScalar (loneScalar u)) : u.toNat = b.toNat := by
    have value := mem_ofScalar (Nat.lt_trans (loneScalar_lt u) (by decide)) small inside
    have bound : b.toNat < 0x80 := UInt8.lt_iff_toNat_lt.mp small
    unfold loneScalar at value
    split at value
    · simp only [replacement] at value
      omega
    · exact value.symm
  unfold encode at member
  fun_induction scalars text with
  | case1 => cases member
  | case2 u =>
    exact ⟨u, List.mem_singleton_self u, lone u (by simpa using member)⟩
  | case3 u v rest pair ih =>
    rcases List.mem_append.mp member with first | later
    · -- A pair is a scalar value past the basic plane: its bytes are all above 0x7f.
      obtain ⟨isHigh, isLow⟩ := Bool.and_eq_true_iff.mp pair
      have high := (surrogate_iff u).1.mp isHigh
      have low := (surrogate_iff v).2.mp isLow
      have bound : b.toNat < 0x80 := UInt8.lt_iff_toNat_lt.mp small
      have value := mem_ofScalar (by unfold pairScalar; omega) small first
      unfold pairScalar at value
      omega
    · obtain ⟨w, inside, same⟩ := ih later
      exact ⟨w, List.mem_cons_of_mem _ (List.mem_cons_of_mem _ inside), same⟩
  | case4 u v rest _ ih =>
    rcases List.mem_append.mp member with first | later
    · exact ⟨u, List.mem_cons_self, lone u first⟩
    · obtain ⟨w, inside, same⟩ := ih later
      exact ⟨w, List.mem_cons_of_mem _ inside, same⟩

theorem toNat_toUInt16 {k : Nat} (fits : k < 0x10000) : k.toUInt16.toNat = k :=
  Nat.mod_eq_of_lt fits

theorem pairScalar_eq {u v : UInt16} {q r : Nat} (high : u.toNat = 0xd800 + q)
    (low : v.toNat = 0xdc00 + r) : pairScalar u v = 0x10000 + q * 0x400 + r := by
  have highPart : u.toNat - 0xd800 = q := by
    rw [high]
    exact Nat.add_sub_cancel_left ..
  have lowPart : v.toNat - 0xdc00 = r := by
    rw [low]
    exact Nat.add_sub_cancel_left ..
  unfold pairScalar
  rw [highPart, lowPart]

theorem scalars_ofScalar_append {n : Nat} (valid : IsScalar n) (rest : CodeUnits) :
    scalars (ofScalar n ++ rest) = n :: scalars rest := by
  unfold IsScalar at valid
  unfold ofScalar
  split
  · rename_i basic
    have value := toNat_toUInt16 basic
    obtain ⟨plain, scalar⟩ := plain_unit (value.symm ▸ (by omega : n < 0xd800 ∨ 0xe000 ≤ n))
    rw [List.singleton_append, scalars_cons plain, scalar, value]
  · rename_i wide
    have bounds : (n - 0x10000) / 0x400 < 0x400 ∧ (n - 0x10000) % 0x400 < 0x400 := by omega
    have split := Nat.div_add_mod (n - 0x10000) 0x400
    generalize (n - 0x10000) / 0x400 = q at bounds split ⊢
    generalize (n - 0x10000) % 0x400 = r at bounds split ⊢
    have total : 0x10000 + q * 0x400 + r = n := by omega
    have high := toNat_toUInt16 (show 0xd800 + q < 0x10000 by omega)
    have low := toNat_toUInt16 (show 0xdc00 + r < 0x10000 by omega)
    have isHigh : isHighSurrogate (0xd800 + q).toUInt16 = true := by
      rw [(surrogate_iff _).1, high]
      omega
    have isLow : isLowSurrogate (0xdc00 + r).toUInt16 = true := by
      rw [(surrogate_iff _).2, low]
      omega
    have value := (pairScalar_eq high low).trans total
    simp only [List.cons_append, List.nil_append, scalars, isHigh, isLow, Bool.and_self, if_true,
      value]

theorem scalars_flatMap_ofScalar {ns : List Nat} (valid : ∀ n ∈ ns, IsScalar n) :
    scalars (ns.flatMap ofScalar) = ns := by
  induction ns with
  | nil => rfl
  | cons n ns ih =>
    rw [List.flatMap_cons, scalars_ofScalar_append (valid n List.mem_cons_self),
      ih fun m member => valid m (List.mem_cons_of_mem _ member)]

theorem isScalar_of_mem_scalars (text : CodeUnits) : ∀ n ∈ text.scalars, IsScalar n := by
  have lone (u : UInt16) : IsScalar (loneScalar u) := by
    have bound := u.toNat_lt
    obtain ⟨high, low⟩ := surrogate_iff u
    unfold loneScalar
    split
    · exact .inr ⟨by decide, by decide⟩
    · rename_i plain
      rw [Bool.or_eq_true, high, low] at plain
      unfold IsScalar
      omega
  have pair (u v : UInt16) (isPair : (isHighSurrogate u && isLowSurrogate v) = true) :
      IsScalar (pairScalar u v) := by
    obtain ⟨isHigh, isLow⟩ := Bool.and_eq_true_iff.mp isPair
    have high := (surrogate_iff u).1.mp isHigh
    have low := (surrogate_iff v).2.mp isLow
    obtain ⟨q, highPart⟩ := Nat.exists_eq_add_of_le high.1
    obtain ⟨r, lowPart⟩ := Nat.exists_eq_add_of_le low.1
    rw [pairScalar_eq highPart lowPart]
    exact .inr ⟨by omega, by omega⟩
  fun_induction scalars text with
  | case1 => simp
  | case2 u => simpa using lone u
  | case3 u v rest isPair ih =>
    intro n member
    rcases List.mem_cons.mp member with same | later
    · exact same ▸ pair u v isPair
    · exact ih n later
  | case4 u v rest _ ih =>
    intro n member
    rcases List.mem_cons.mp member with same | later
    · exact same ▸ lone u
    · exact ih n later

theorem encode_flatMap_ofScalar {ns : List Nat} (valid : ∀ n ∈ ns, IsScalar n) :
    encode (ns.flatMap ofScalar) = ns.flatMap Bytes.ofScalar := by
  rw [encode, scalars_flatMap_ofScalar valid]

end CodeUnits

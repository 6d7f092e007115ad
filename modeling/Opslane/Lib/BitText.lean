import Mathlib.Data.List.GetD
import Mathlib.Data.List.Induction
import Mathlib.Data.List.Nodup
import Opslane.Lib.Bytes

/-!
# Bytes spelled in letters

The encodings of RFC 4648 without padding: the bits of the bytes, the highest first, in groups
that each pick a letter. The last group is filled up with zeros, which decoding drops.
-/

namespace BitText

/-- The lowest bits of a number, the highest of them first. -/
def bitsOf : Nat → Nat → List Bool
  | 0, _ => []
  | width + 1, n => bitsOf width (n / 2) ++ [decide (n % 2 = 1)]

def ofBits (bits : List Bool) : Nat := bits.foldl (fun n b => 2 * n + b.toNat) 0

@[simp] theorem length_bitsOf (width n : Nat) : (bitsOf width n).length = width := by
  induction width generalizing n with
  | zero => rfl
  | succ width ih => simp [bitsOf, ih]

theorem ofBits_concat (bits : List Bool) (b : Bool) : ofBits (bits ++ [b]) = 2 * ofBits bits + b.toNat := by
  simp [ofBits]

theorem ofBits_bitsOf {width n : Nat} (small : n < 2 ^ width) : ofBits (bitsOf width n) = n := by
  induction width generalizing n with
  | zero =>
    have zero : n = 0 := by simpa using small
    rw [zero]
    rfl
  | succ width ih =>
    rw [Nat.pow_succ] at small
    have last : (decide (n % 2 = 1)).toNat = n % 2 := by
      rcases Nat.mod_two_eq_zero_or_one n with even | odd
      · rw [even]
        rfl
      · rw [odd]
        rfl
    rw [bitsOf, ofBits_concat, ih (by omega), last]
    omega

theorem ofBits_lt (bits : List Bool) : ofBits bits < 2 ^ bits.length := by
  induction bits using List.reverseRecOn with
  | nil => exact Nat.one_pos
  | append_singleton bits b ih =>
    have digit := Bool.toNat_lt b
    rw [ofBits_concat, List.length_append, List.length_singleton, Nat.pow_succ]
    omega

theorem bitsOf_ofBits (bits : List Bool) : bitsOf bits.length (ofBits bits) = bits := by
  induction bits using List.reverseRecOn with
  | nil => rfl
  | append_singleton bits b ih =>
    have digit := Bool.toNat_lt b
    have half : (2 * ofBits bits + b.toNat) / 2 = ofBits bits := by omega
    have last : (2 * ofBits bits + b.toNat) % 2 = b.toNat := by omega
    rw [ofBits_concat, List.length_append, List.length_singleton, bitsOf, half, ih, last]
    cases b <;> rfl

/-- So many groups of bits, zeros where there are no more. -/
def groups (width : Nat) : Nat → List Bool → List (List Bool)
  | 0, _ => []
  | count + 1, bits =>
    (bits.take width ++ List.replicate (width - bits.length) false) ::
      groups width count (bits.drop width)

theorem length_groups (width count : Nat) (bits : List Bool) : (groups width count bits).length = count := by
  induction count generalizing bits with
  | zero => rfl
  | succ count ih => rw [groups, List.length_cons, ih]

theorem length_of_mem_groups {width count : Nat} {bits group : List Bool}
    (member : group ∈ groups width count bits) : group.length = width := by
  induction count generalizing bits with
  | zero => cases member
  | succ count ih =>
    rcases List.mem_cons.mp member with rfl | later
    · rw [List.length_append, List.length_take, List.length_replicate]
      omega
    · exact ih later

theorem flatten_groups {width count : Nat} {bits : List Bool} (fits : bits.length ≤ count * width) :
    (groups width count bits).flatten = bits ++ List.replicate (count * width - bits.length) false := by
  induction count generalizing bits with
  | zero =>
    rw [Nat.zero_mul, Nat.le_zero, List.length_eq_zero_iff] at fits
    simp [groups, fits]
  | succ count ih =>
    rw [Nat.succ_mul] at fits
    have shorter : (bits.drop width).length ≤ count * width := by
      rw [List.length_drop]
      omega
    have rest := ih shorter
    rw [groups, List.flatten_cons, rest, List.length_drop]
    by_cases full : width ≤ bits.length
    · have none_ : width - bits.length = 0 := Nat.sub_eq_zero_of_le full
      have pad : count * width - (bits.length - width) = (count + 1) * width - bits.length := by
        rw [Nat.succ_mul]
        omega
      rw [none_, List.replicate_zero, List.append_nil, ← List.append_assoc, List.take_append_drop, pad]
    · have short : bits.length ≤ width := Nat.le_of_not_le full
      have pad : width - bits.length + (count * width - (bits.length - width)) =
          (count + 1) * width - bits.length := by
        rw [Nat.succ_mul]
        omega
      rw [List.take_of_length_le short, List.drop_of_length_le short, List.nil_append,
        List.append_assoc, ← List.replicate_add, pad]

/-- A letter for each group of so many bits. -/
structure Alphabet where
  width : Nat
  letters : Bytes
  width_pos : 0 < width
  width_le : width ≤ 8
  length_letters : letters.length = 2 ^ width
  nodup_letters : letters.Nodup

namespace Alphabet

variable (alphabet : Alphabet)

def letter (n : Nat) : UInt8 := alphabet.letters.getD n 0

def valueOf (b : UInt8) : Option Nat :=
  if b ∈ alphabet.letters then some (alphabet.letters.idxOf b) else none

/-- How many letters so many bytes are spelled in. -/
def spelledLength (count : Nat) : Nat := (count * 8 + (alphabet.width - 1)) / alphabet.width

def encode (bytes : Bytes) : Bytes :=
  ((groups alphabet.width (alphabet.spelledLength bytes.length)
    (bytes.flatMap fun b => bitsOf 8 b.toNat)).map ofBits).map alphabet.letter

/-- A whole letter may not be left over. -/
def decode (text : Bytes) : Option Bytes := do
  let values ← text.mapM alphabet.valueOf
  let bits := values.flatMap (bitsOf alphabet.width)
  if bits.length % 8 < alphabet.width then
    some ((groups 8 (bits.length / 8) bits).map fun group => (ofBits group).toUInt8)
  else none

theorem length_encode (bytes : Bytes) : (alphabet.encode bytes).length = alphabet.spelledLength bytes.length := by
  simp [encode, length_groups]

variable {alphabet}

theorem letter_mem {n : Nat} (small : n < 2 ^ alphabet.width) : alphabet.letter n ∈ alphabet.letters := by
  rw [← alphabet.length_letters] at small
  rw [letter, List.getD_eq_getElem _ _ small]
  exact List.getElem_mem small

theorem valueOf_letter {n : Nat} (small : n < 2 ^ alphabet.width) :
    alphabet.valueOf (alphabet.letter n) = some n := by
  rw [valueOf, if_pos (letter_mem small)]
  rw [← alphabet.length_letters] at small
  rw [letter, List.getD_eq_getElem _ _ small, alphabet.nodup_letters.idxOf_getElem]

theorem mapM_valueOf {ns : List Nat} (small : ∀ n ∈ ns, n < 2 ^ alphabet.width) :
    (ns.map alphabet.letter).mapM alphabet.valueOf = some ns := by
  induction ns with
  | nil => rfl
  | cons n ns ih =>
    rw [List.map_cons, List.mapM_cons, valueOf_letter (small n List.mem_cons_self),
      ih fun m member => small m (List.mem_cons_of_mem _ member)]
    rfl

theorem flatMap_bitsOf_ofBits {width : Nat} {groups : List (List Bool)}
    (filled : ∀ group ∈ groups, group.length = width) :
    (groups.map ofBits).flatMap (bitsOf width) = groups.flatten := by
  induction groups with
  | nil => rfl
  | cons group groups ih =>
    have first := bitsOf_ofBits group
    rw [filled group List.mem_cons_self] at first
    rw [List.map_cons, List.flatMap_cons, List.flatten_cons, first,
      ih fun g member => filled g (List.mem_cons_of_mem _ member)]

theorem groups_bytes (bytes : Bytes) (rest : List Bool) :
    (groups 8 bytes.length ((bytes.flatMap fun b => bitsOf 8 b.toNat) ++ rest)).map
      (fun group => (ofBits group).toUInt8) = bytes := by
  induction bytes with
  | nil => rfl
  | cons b bytes ih =>
    have eight : (bitsOf 8 b.toNat).length = 8 := length_bitsOf ..
    have taken (more : List Bool) : (bitsOf 8 b.toNat ++ more).take 8 = bitsOf 8 b.toNat := by
      rw [List.take_left' eight]
    have dropped (more : List Bool) : (bitsOf 8 b.toNat ++ more).drop 8 = more := by
      rw [List.drop_left' eight]
    have enough (more : List Bool) : 8 - (bitsOf 8 b.toNat ++ more).length = 0 := by
      rw [List.length_append, eight]
      omega
    rw [List.flatMap_cons, List.append_assoc, List.length_cons, groups, taken, dropped, enough,
      List.replicate_zero, List.append_nil, List.map_cons, ih, ofBits_bitsOf b.toNat_lt]
    simp

theorem length_flatMap_bitsOf (width : Nat) (ns : List Nat) :
    (ns.flatMap (bitsOf width)).length = ns.length * width := by
  induction ns with
  | nil => simp
  | cons n ns ih => rw [List.flatMap_cons, List.length_append, ih, length_bitsOf, List.length_cons, Nat.succ_mul, Nat.add_comm]

theorem decode_encode (bytes : Bytes) : alphabet.decode (alphabet.encode bytes) = some bytes := by
  let width := alphabet.width
  let bits := bytes.flatMap fun b => bitsOf 8 b.toNat
  let count := alphabet.spelledLength bytes.length
  have pos : 0 < width := alphabet.width_pos
  have small : width ≤ 8 := alphabet.width_le
  have long : bits.length = bytes.length * 8 := by
    have spelled := length_flatMap_bitsOf 8 (bytes.map UInt8.toNat)
    rwa [List.flatMap_map, List.length_map] at spelled
  have total : count * width + (bytes.length * 8 + (width - 1)) % width = bytes.length * 8 + (width - 1) :=
    Nat.div_add_mod' ..
  have remainder : (bytes.length * 8 + (width - 1)) % width < width := Nat.mod_lt _ pos
  have fits : bits.length ≤ count * width := by omega
  have values : ∀ n ∈ (groups width count bits).map ofBits, n < 2 ^ width := by
    intro n member
    obtain ⟨group, found, rfl⟩ := List.mem_map.mp member
    have bound := ofBits_lt group
    rwa [length_of_mem_groups found] at bound
  have read : alphabet.encode bytes = ((groups width count bits).map ofBits).map alphabet.letter := rfl
  have back : ((groups width count bits).map ofBits).flatMap (bitsOf width) =
      bits ++ List.replicate (count * width - bits.length) false := by
    rw [flatMap_bitsOf_ofBits fun _ => length_of_mem_groups, flatten_groups fits]
  have length : (bits ++ List.replicate (count * width - bits.length) false).length = count * width := by
    rw [List.length_append, List.length_replicate]
    omega
  have left_ : count * width % 8 < width := by omega
  have whole : count * width / 8 = bytes.length := by omega
  rw [decode, read, mapM_valueOf values]
  show (if _ then _ else _) = _
  rw [back, length, if_pos left_, whole]
  exact congrArg some (groups_bytes bytes _)

theorem mem_letters_of_mem_encode {bytes : Bytes} {b : UInt8} (member : b ∈ alphabet.encode bytes) :
    b ∈ alphabet.letters := by
  obtain ⟨n, value, rfl⟩ := List.mem_map.mp member
  obtain ⟨group, found, rfl⟩ := List.mem_map.mp value
  have bound := ofBits_lt group
  rw [length_of_mem_groups found] at bound
  exact letter_mem bound

end Alphabet

/-- `base64.RawURLEncoding` -/
def base64url : Alphabet where
  width := 6
  letters := Bytes.ascii "ABCDEFGHIJKLMNOPQRSTUVWXYZabcdefghijklmnopqrstuvwxyz0123456789-_"
  width_pos := by decide
  width_le := by decide
  length_letters := by decide +kernel
  nodup_letters := by decide +kernel

/-- `base32.StdEncoding` without padding. -/
def base32 : Alphabet where
  width := 5
  letters := Bytes.ascii "ABCDEFGHIJKLMNOPQRSTUVWXYZ234567"
  width_pos := by decide
  width_le := by decide
  length_letters := by decide +kernel
  nodup_letters := by decide +kernel

example : base64url.encode (Bytes.ascii "a?") = Bytes.ascii "YT8" := by decide +kernel

end BitText

import Mathlib.Data.List.TakeDrop
import Mathlib.Data.List.TakeWhile
import Opslane.Lib.NetUrl

/-!
# Hosts of URLs

What the host of a parsed URL is made of, and when a host is parsed back as it is written: no
percent sign may stand in it, for an escape is decoded to what is shorter.
-/

namespace NetUrl

variable {separator : UInt8}

theorem cut_eq_some {s front back : Bytes} (found : cut separator s = (front, some back)) :
    s = front ++ separator :: back ∧ separator ∉ front := by
  unfold cut at found
  rw [List.span_eq_takeWhile_dropWhile] at found
  have whole := List.takeWhile_append_dropWhile (p := (· != separator)) (l := s)
  cases rest : s.dropWhile (· != separator) with
  | nil =>
    rw [rest] at found
    cases found
  | cons b more =>
    have stop := List.head_dropWhile_not (· != separator) (by rw [rest]; exact List.cons_ne_nil _ _)
    simp only [rest, List.head_cons, bne_eq_false_iff_eq] at stop
    rw [rest] at found whole
    obtain ⟨rfl, same⟩ := Prod.mk.inj found
    obtain rfl := Option.some.inj same
    subst stop
    refine ⟨whole.symm, fun member => ?_⟩
    have other := List.mem_takeWhile_imp member
    simp at other

theorem cut_eq_none {s front : Bytes} :
    cut separator s = (front, none) ↔ front = s ∧ separator ∉ s := by
  unfold cut
  rw [List.span_eq_takeWhile_dropWhile]
  have whole := List.takeWhile_append_dropWhile (p := (· != separator)) (l := s)
  cases rest : s.dropWhile (· != separator) with
  | nil =>
    rw [rest, List.append_nil] at whole
    simp only [Prod.mk.injEq, and_true, whole]
    refine ⟨fun same => ⟨same.symm, fun member => ?_⟩, fun same => same.1.symm⟩
    rw [← whole] at member
    have other := List.mem_takeWhile_imp member
    simp at other
  | cons b more =>
    have stop := List.head_dropWhile_not (· != separator) (by rw [rest]; exact List.cons_ne_nil _ _)
    simp only [rest, List.head_cons, bne_eq_false_iff_eq] at stop
    rw [rest, stop] at whole
    simp only [Prod.mk.injEq, reduceCtorEq, and_false, false_iff, not_and, not_not]
    intro _
    rw [← whole]
    exact List.mem_append_right _ List.mem_cons_self

theorem cut_append {front : Bytes} (clean : separator ∉ front) (back : Bytes) :
    cut separator (front ++ separator :: back) = (front, some back) := by
  have inside : ∀ b ∈ front, (b != separator) = true := fun b member =>
    bne_iff_ne.mpr fun same => clean (same ▸ member)
  have taken : (front ++ separator :: back).takeWhile (· != separator) = front := by
    rw [List.takeWhile_append_of_pos inside, List.takeWhile_cons_of_neg (by simp), List.append_nil]
  have dropped : (front ++ separator :: back).dropWhile (· != separator) = separator :: back := by
    rw [List.dropWhile_append_of_pos inside, List.dropWhile_cons_of_neg (by simp)]
  unfold cut
  rw [List.span_eq_takeWhile_dropWhile, taken, dropped]

theorem cutLast_eq_some {s front back : Bytes} :
    cutLast separator s = some (front, back) ↔ s = front ++ separator :: back ∧ separator ∉ back := by
  constructor
  · intro found
    unfold cutLast at found
    split at found
    · cases found
    · rename_i back' front' cut_
      obtain ⟨whole, clean⟩ := cut_eq_some cut_
      obtain ⟨rfl, rfl⟩ := Prod.mk.inj (Option.some.inj found)
      have turned := congrArg List.reverse whole
      simp only [List.reverse_reverse, List.reverse_append, List.reverse_cons, List.append_assoc,
        List.singleton_append] at turned
      exact ⟨turned, fun member => clean (List.mem_reverse.mp member)⟩
  · rintro ⟨rfl, clean⟩
    have turned : (front ++ separator :: back).reverse = back.reverse ++ separator :: front.reverse := by simp
    have turnedClean : separator ∉ back.reverse := fun member => clean (List.mem_reverse.mp member)
    have cut_ := cut_append turnedClean front.reverse
    rw [cutLast, turned, cut_]
    simp

variable {s : Bytes}

theorem cutLast_eq_none : cutLast separator s = none ↔ separator ∉ s := by
  unfold cutLast
  split
  · rename_i front cut_
    have clean := (cut_eq_none.mp cut_).2
    exact ⟨fun _ member => clean (List.mem_reverse.mpr member), fun _ => rfl⟩
  · rename_i back front cut_
    have whole := (cut_eq_some cut_).1
    refine ⟨nofun, fun clean => absurd (List.mem_reverse.mp ?_) clean⟩
    rw [whole]
    exact List.mem_append_right _ List.mem_cons_self

/-- A byte that stands in a host, or in a zone, as it is. -/
def HostByte (b : UInt8) : Prop := b < 0x80 → shouldEscape b .host = false

/-- The marks that stand unescaped in a host. -/
def hostMarks : Bytes :=
  [33, 36, 38, 39, 40, 41, 42, 43, 44, 59, 61, 58, 91, 93, 60, 62, 34, 45, 95, 46, 126]

theorem hostByte_iff (b : UInt8) :
    HostByte b ↔ (b < 0x80 → isLetter b = true ∨ isDigit b = true ∨ b ∈ hostMarks) := by
  have marks : hostMarks = Bytes.ascii "!$&'()*+,;=:[]<>\"" ++ Bytes.ascii "-_.~" := by decide +kernel
  rw [HostByte, marks, List.mem_append]
  refine forall_congr' fun _ => ?_
  by_cases word : (isLetter b || isDigit b) = true
  · have listed : isLetter b = true ∨ isDigit b = true := by simpa using word
    unfold shouldEscape
    rw [if_pos word]
    exact iff_of_true rfl (listed.imp_right .inl)
  · have other : ¬(isLetter b = true ∨ isDigit b = true) := by simpa using word
    unfold shouldEscape
    rw [← or_assoc, or_iff_right other, if_neg word]
    by_cases mark : b ∈ Bytes.ascii "!$&'()*+,;=:[]<>\""
    · simp [mark]
    · simp [mark]

instance (b : UInt8) : Decidable (HostByte b) := decidable_of_iff _ (hostByte_iff b).symm

theorem shouldEscape_zone (b : UInt8) : shouldEscape b .zone = shouldEscape b .host := by
  simp [shouldEscape]

/-- The two parts of an authority in which few escapes are allowed. -/
def Encoding.IsHost (mode : Encoding) : Prop := mode = .host ∨ mode = .zone

variable {mode : Encoding}

theorem Encoding.IsHost.shouldEscape (isHost : mode.IsHost) (b : UInt8) :
    NetUrl.shouldEscape b mode = NetUrl.shouldEscape b .host := by
  rcases isHost with rfl | rfl
  · rfl
  · exact shouldEscape_zone b

/-- What an escape in a host or a zone may spell. -/
def Decoded (mode : Encoding) (b : UInt8) : Prop :=
  HostByte b ∨ b = char '%' ∨ mode = .zone ∧ b = char ' '
  deriving Decidable

variable {b : UInt8}

theorem Decoded.inZone (decoded : Decoded mode b) : Decoded .zone b :=
  decoded.imp_right (Or.imp_right fun space => ⟨rfl, space.2⟩)

variable {high low : UInt8}

theorem percent_of_digits (both : (high == char '2' && low == char '5') = true) :
    unhex high * 16 + unhex low = char '%' := by
  obtain ⟨two, five⟩ := Bool.and_eq_true_iff.mp both
  rw [beq_iff_eq.mp two, beq_iff_eq.mp five]
  decide

theorem allowsEscape_host (allowed : allowsEscape .host high low = true)
    (hexHigh : isHex high = true) (hexLow : isHex low = true) :
    ¬unhex high * 16 + unhex low < 0x80 ∨ unhex high * 16 + unhex low = char '%' := by
  have digit : ∀ b : UInt8, isHex b = true → unhex b < 16 := Bytes.forall_byte (by decide +kernel)
  have small := UInt8.lt_iff_toNat_lt.mp (digit low hexLow)
  have small' := UInt8.lt_iff_toNat_lt.mp (digit high hexHigh)
  rcases (Bool.or_eq_true _ _).mp allowed with above | both
  · refine .inl fun below => ?_
    have least := UInt8.le_iff_toNat_le.mp (decide_eq_true_eq.mp above)
    have most := UInt8.lt_iff_toNat_lt.mp below
    simp only [UInt8.toNat_add, UInt8.toNat_mul, UInt8.reduceToNat] at least most small small'
    omega
  · exact .inr (percent_of_digits both)

theorem decoded_of_allowsEscape (isHost : mode.IsHost) (allowed : allowsEscape mode high low = true)
    (hexHigh : isHex high = true) (hexLow : isHex low = true) :
    Decoded mode (unhex high * 16 + unhex low) := by
  rcases isHost with rfl | rfl
  · rcases allowsEscape_host allowed hexHigh hexLow with above | percent
    · exact .inl fun below => absurd below above
    · exact .inr (.inl percent)
  · rcases (Bool.or_eq_true _ _).mp allowed with first | plain
    · rcases (Bool.or_eq_true _ _).mp first with both | space
      · exact .inr (.inl (percent_of_digits both))
      · exact .inr (.inr ⟨rfl, beq_iff_eq.mp space⟩)
    · exact .inl fun _ => by simpa using plain

theorem unescape_cons_eq_some {rest t : Bytes} (read : unescape mode (b :: rest) = some t) :
    (b = char '%' ∧ ∃ high low more t', rest = high :: low :: more ∧ isHex high = true ∧
      isHex low = true ∧ allowsEscape mode high low = true ∧ unescape mode more = some t' ∧
      t = (unhex high * 16 + unhex low) :: t') ∨
    (b ≠ char '%' ∧ (mode.IsHost → HostByte b) ∧ ∃ t', unescape mode rest = some t' ∧ t = b :: t') := by
  by_cases percent : b = char '%'
  · left
    cases rest with
    | nil =>
      rw [unescape.eq_def] at read
      simp only [if_pos percent, reduceCtorEq] at read
    | cons high rest =>
      cases rest with
      | nil =>
        rw [unescape.eq_def] at read
        simp only [if_pos percent, reduceCtorEq] at read
      | cons low more =>
        rw [unescape.eq_def] at read
        simp only [if_pos percent] at read
        split_ifs at read with valid
        simp only [Bool.and_eq_true] at valid
        obtain ⟨t', decoded, rfl⟩ := Option.map_eq_some_iff.mp read
        exact ⟨percent, high, low, more, t', rfl, valid.1.1, valid.1.2, valid.2, decoded, rfl⟩
  · right
    rw [unescape.eq_def] at read
    simp only [if_neg percent] at read
    split_ifs at read with escaped
    obtain ⟨t', decoded, rfl⟩ := Option.map_eq_some_iff.mp read
    refine ⟨percent, fun isHost small => ?_, t', decoded, rfl⟩
    rw [← isHost.shouldEscape b]
    by_contra escape
    exact escaped ⟨isHost, small, by simpa using escape⟩

theorem unescape_of_plain (noPercent : char '%' ∉ s) (plain : mode.IsHost → ∀ b ∈ s, HostByte b) :
    unescape mode s = some s := by
  induction s with
  | nil => rfl
  | cons b rest ih =>
    rw [List.mem_cons, not_or] at noPercent
    have tail := ih noPercent.2 fun isHost c member => plain isHost c (List.mem_cons_of_mem _ member)
    have allowed : ¬((mode = .host ∨ mode = .zone) ∧ b < 0x80 ∧ shouldEscape b mode = true) := by
      rintro ⟨isHost, small, escaped⟩
      have kept := plain isHost b List.mem_cons_self small
      rw [← Encoding.IsHost.shouldEscape isHost b, escaped] at kept
      cases kept
    rw [unescape.eq_def]
    simp only [if_neg (Ne.symm noPercent.1), if_neg allowed, tail, Option.map_some]

variable {s t : Bytes}

theorem unescape_eq_some (read : unescape mode s = some t) :
    (mode.IsHost → ∀ b ∈ t, Decoded mode b) ∧
      (char '%' ∉ s ∧ t = s ∧ (mode.IsHost → ∀ b ∈ s, HostByte b) ∨
        char '%' ∈ s ∧ t.length < s.length) := by
  induction long : s.length using Nat.strong_induction_on generalizing s t with
  | h n ih =>
    cases s with
    | nil =>
      obtain rfl := Option.some.inj read
      exact ⟨fun _ => nofun, .inl ⟨List.not_mem_nil, rfl, fun _ => nofun⟩⟩
    | cons b rest =>
      rcases unescape_cons_eq_some read with
        ⟨rfl, high, low, more, t', rfl, hexHigh, hexLow, allowed, tail, rfl⟩ | ⟨other, plain, t', tail, rfl⟩
      · simp only [List.length_cons] at long
        obtain ⟨bytes, shape⟩ := ih more.length (by omega) tail rfl
        refine ⟨fun isHost => ?_, .inr ⟨List.mem_cons_self, ?_⟩⟩
        · exact List.forall_mem_cons.mpr ⟨decoded_of_allowsEscape isHost allowed hexHigh hexLow, bytes isHost⟩
        · have bound : t'.length ≤ more.length := by
            rcases shape with ⟨-, rfl, -⟩ | ⟨-, shorter⟩
            · exact Nat.le_refl _
            · exact Nat.le_of_lt shorter
          simp only [List.length_cons]
          omega
      · simp only [List.length_cons] at long
        obtain ⟨bytes, shape⟩ := ih rest.length (by omega) tail rfl
        refine ⟨fun isHost => ?_, ?_⟩
        · exact List.forall_mem_cons.mpr ⟨.inl (plain isHost), bytes isHost⟩
        · rcases shape with ⟨clean, rfl, plain'⟩ | ⟨escaped, shorter⟩
          · refine .inl ⟨?_, rfl, fun isHost => List.forall_mem_cons.mpr ⟨plain isHost, plain' isHost⟩⟩
            rw [List.mem_cons, not_or]
            exact ⟨Ne.symm other, clean⟩
          · refine .inr ⟨List.mem_cons_of_mem _ escaped, ?_⟩
            rw [List.length_cons]
            omega

theorem mem_of_mem_unescape (read : unescape .host s = some t) (member : b ∈ t) (small : b < 0x80)
    (other : b ≠ char '%') : b ∈ s := by
  induction long : s.length using Nat.strong_induction_on generalizing s t with
  | h n ih =>
    cases s with
    | nil =>
      obtain rfl := Option.some.inj read
      cases member
    | cons c rest =>
      rcases unescape_cons_eq_some read with
        ⟨rfl, high, low, more, t', rfl, hexHigh, hexLow, allowed, tail, rfl⟩ | ⟨-, -, t', tail, rfl⟩
      · simp only [List.length_cons] at long
        rcases List.mem_cons.mp member with same | later
        · rcases allowsEscape_host allowed hexHigh hexLow with above | percent
          · exact absurd (same ▸ small) above
          · exact absurd (same.trans percent) other
        · have found := ih more.length (by omega) tail later rfl
          exact List.mem_cons_of_mem _ (List.mem_cons_of_mem _ (List.mem_cons_of_mem _ found))
      · simp only [List.length_cons] at long
        rcases List.mem_cons.mp member with rfl | later
        · exact List.mem_cons_self
        · exact List.mem_cons_of_mem _ (ih rest.length (by omega) tail later rfl)

theorem length_unescape_le (read : unescape mode s = some t) :
    t.length ≤ s.length := by
  rcases (unescape_eq_some read).2 with ⟨-, rfl, -⟩ | ⟨-, shorter⟩
  · exact Nat.le_refl _
  · exact Nat.le_of_lt shorter

theorem unescape_eq_self (read : unescape mode s = some t) (clean : char '%' ∉ s) :
    t = s := by
  rcases (unescape_eq_some read).2 with ⟨-, same, -⟩ | ⟨escaped, -⟩
  · exact same
  · exact absurd escaped clean

theorem splitZone_append (s : Bytes) : (splitZone s).1 ++ (splitZone s).2 = s := by
  induction s with
  | nil => rfl
  | cons b rest ih =>
    rw [splitZone]
    split_ifs
    · rfl
    · exact congrArg (b :: ·) ih

theorem splitZone_of_clean (clean : char '%' ∉ s) : splitZone s = (s, []) := by
  induction s with
  | nil => rfl
  | cons b rest ih =>
    rw [List.mem_cons, not_or] at clean
    have other : (Bytes.ascii "%25").isPrefixOf (b :: rest) = false := by
      have differs : (char '%' == b) = false := beq_eq_false_iff_ne.mpr clean.1
      show ((char '%' == b) && _) = false
      rw [differs, Bool.false_and]
    rw [splitZone, other, ih clean.2]
    rfl

/-- A host that was parsed: a name without brackets, or an address in them. -/
inductive HostRead (text : Bytes) : Bytes → Prop where
  | name {host : Bytes} (noBracket : char '[' ∉ text) (decoded : unescape .host text = some host)
      (port : ∀ front back, cutLast (char ':') text = some (front, back) → back.all isDigit = true) :
      HostRead text host
  | address {name port address zone : Bytes}
      (whole : text = char '[' :: (name ++ char ']' :: port))
      (noBracket : char '[' ∉ name) (last : char ']' ∉ port)
      (valid : validOptionalPort port = true)
      (decoded : unescape .host (splitZone name).1 = some address)
      (decodedZone : unescape .zone (splitZone name).2 = some zone)
      (isIPv6 : isIPv6 (address ++ zone) = true) :
      HostRead text (char '[' :: ((address ++ zone) ++ char ']' :: port))

theorem validOptionalPort_iff {port : Bytes} :
    validOptionalPort port = true ↔
      port = [] ∨ ∃ digits, port = char ':' :: digits ∧ digits.all isDigit = true := by
  cases port with
  | nil => simp [validOptionalPort]
  | cons b rest => simp [validOptionalPort]

theorem hostByte_of_isDigit (digit : isDigit b = true) : HostByte b ∧ b ≠ char '%' := by
  exact Bytes.forall_byte (P := fun b => isDigit b = true → HostByte b ∧ b ≠ char '%') (by decide +kernel) b digit

theorem unescape_port {port : Bytes} (valid : validOptionalPort port = true) :
    unescape .host port = some port := by
  rcases validOptionalPort_iff.mp valid with rfl | ⟨digits, rfl, all⟩
  · rfl
  · have each : ∀ b ∈ char ':' :: digits, HostByte b ∧ b ≠ char '%' :=
      List.forall_mem_cons.mpr ⟨by decide, fun b member => hostByte_of_isDigit (List.all_eq_true.mp all b member)⟩
    exact unescape_of_plain (fun member => (each _ member).2 rfl) fun _ b member => (each b member).1

theorem parseBracketedHost_eq_some {inside host : Bytes} (noBracket : char '[' ∉ inside)
    (read : parseBracketedHost inside = some host) : HostRead (char '[' :: inside) host := by
  obtain ⟨⟨name, port⟩, cut_, read⟩ := Option.bind_eq_some_iff.mp read
  obtain ⟨whole, last⟩ := cutLast_eq_some.mp cut_
  simp only at read
  split_ifs at read with invalid
  have valid : validOptionalPort port = true := by simpa using invalid
  obtain ⟨port', decodedPort, read⟩ := Option.bind_eq_some_iff.mp read
  obtain ⟨address, decoded, read⟩ := Option.bind_eq_some_iff.mp read
  obtain ⟨zone, decodedZone, read⟩ := Option.bind_eq_some_iff.mp read
  split_ifs at read with six
  rw [unescape_port valid] at decodedPort
  obtain rfl := Option.some.inj decodedPort
  obtain rfl := Option.some.inj read
  subst whole
  exact .address rfl (fun member => noBracket (List.mem_append_left _ member)) last valid decoded
    decodedZone six

variable {text host : Bytes}

theorem hostRead_of_parseHost (read : parseHost text = some host) : HostRead text host := by
  unfold parseHost at read
  split at read
  · rename_i inside bracket
    obtain ⟨rfl, noBracket⟩ := cutLast_eq_some.mp bracket
    exact parseBracketedHost_eq_some noBracket read
  · cases read
  · rename_i bracket
    have noBracket := cutLast_eq_none.mp bracket
    split at read
    · rename_i front port colon
      split_ifs at read with digits
      refine .name noBracket read fun front' back found => ?_
      rw [colon] at found
      obtain ⟨-, rfl⟩ := Prod.mk.inj (Option.some.inj found)
      exact digits
    · rename_i colon
      refine .name noBracket read fun front' back found => ?_
      rw [colon] at found
      cases found

theorem parseHost_name (noBracket : char '[' ∉ text)
    (decoded : unescape .host text = some host)
    (port : ∀ front back, cutLast (char ':') text = some (front, back) → back.all isDigit = true) :
    parseHost text = some host := by
  have bracket : cutLast (char '[') text = none := cutLast_eq_none.mpr noBracket
  unfold parseHost
  rw [bracket]
  cases colon : cutLast (char ':') text with
  | none => exact decoded
  | some parts => exact (if_pos (port parts.1 parts.2 colon)).trans decoded

theorem parseHost_address {address port : Bytes} (noBracket : char '[' ∉ address)
    (last : char ']' ∉ port) (clean : char '%' ∉ address) (plain : ∀ b ∈ address, HostByte b)
    (valid : validOptionalPort port = true) (six : isIPv6 address = true) :
    parseHost (char '[' :: (address ++ char ']' :: port)) =
      some (char '[' :: (address ++ char ']' :: port)) := by
  have portNoBracket : char '[' ∉ port := by
    rcases validOptionalPort_iff.mp valid with rfl | ⟨digits, rfl, all⟩
    · exact List.not_mem_nil
    · refine fun member => ?_
      rcases List.mem_cons.mp member with same | digit
      · exact absurd same (by decide)
      · exact absurd (List.all_eq_true.mp all _ digit) (by decide)
  have bracket : cutLast (char '[') (char '[' :: (address ++ char ']' :: port)) =
      some ([], address ++ char ']' :: port) := by
    refine cutLast_eq_some.mpr ⟨rfl, fun member => ?_⟩
    rcases List.mem_append.mp member with inside | behind
    · exact noBracket inside
    · rcases List.mem_cons.mp behind with same | inPort
      · exact absurd same (by decide)
      · exact portNoBracket inPort
  have closing : cutLast (char ']') (address ++ char ']' :: port) = some (address, port) :=
    cutLast_eq_some.mpr ⟨rfl, last⟩
  have decoded : unescape .host address = some address := unescape_of_plain clean fun _ => plain
  have noZone : unescape .zone [] = some [] := rfl
  unfold parseHost parseBracketedHost
  rw [bracket]
  simp only [closing, Option.bind_eq_bind, Option.bind_some, valid, Bool.not_true, Bool.false_eq_true,
    if_false, unescape_port valid, splitZone_of_clean clean, decoded, noZone, List.append_nil, six, if_true]
  rfl

theorem isDigit_of_mem_port {port : Bytes} (valid : validOptionalPort port = true)
    (member : b ∈ port) : b = char ':' ∨ isDigit b = true := by
  rcases validOptionalPort_iff.mp valid with rfl | ⟨digits, rfl, all⟩
  · cases member
  · rcases List.mem_cons.mp member with same | digit
    · exact .inl same
    · exact .inr (List.all_eq_true.mp all b digit)

theorem HostRead.decoded {text host : Bytes} (read : HostRead text host) : ∀ b ∈ host, Decoded .zone b := by
  cases read with
  | name _ decoded _ => exact fun b member => ((unescape_eq_some decoded).1 (.inl rfl) b member).inZone
  | address whole _ _ valid decoded decodedZone _ =>
    have front := (unescape_eq_some decoded).1 (.inl rfl)
    have back := (unescape_eq_some decodedZone).1 (.inr rfl)
    intro b member
    rcases List.mem_cons.mp member with rfl | member
    · decide
    rcases List.mem_append.mp member with inside | member
    · rcases List.mem_append.mp inside with inAddress | inZone
      · exact (front b inAddress).inZone
      · exact back b inZone
    rcases List.mem_cons.mp member with rfl | inPort
    · decide
    · rcases isDigit_of_mem_port valid inPort with rfl | digit
      · decide
      · exact .inl (hostByte_of_isDigit digit).1

theorem HostRead.length (read : HostRead text host) :
    host.length ≤ text.length ∧ (char '%' ∈ text → host.length < text.length) := by
  cases read with
  | name _ decoded _ =>
    rcases (unescape_eq_some decoded).2 with ⟨clean, rfl, -⟩ | ⟨-, shorter⟩
    · exact ⟨Nat.le_refl _, fun escaped => absurd escaped clean⟩
    · exact ⟨Nat.le_of_lt shorter, fun _ => shorter⟩
  | @address name port address zone whole _ _ valid decoded decodedZone _ =>
    have front := length_unescape_le decoded
    have back := length_unescape_le decodedZone
    have parts := congrArg List.length (splitZone_append name)
    rw [List.length_append] at parts
    subst whole
    simp only [List.length_cons, List.length_append]
    refine ⟨by omega, fun escaped => ?_⟩
    have inName : char '%' ∈ name := by
      rcases List.mem_cons.mp escaped with same | member
      · exact absurd same (by decide)
      rcases List.mem_append.mp member with inside | member
      · exact inside
      rcases List.mem_cons.mp member with same | inPort
      · exact absurd same (by decide)
      · rcases isDigit_of_mem_port valid inPort with same | digit
        · exact absurd same (by decide)
        · exact absurd rfl (hostByte_of_isDigit digit).2
    rw [← splitZone_append name] at inName
    have strict : address.length + zone.length < (splitZone name).1.length + (splitZone name).2.length := by
      rcases List.mem_append.mp inName with inAddress | inZone
      · rcases (unescape_eq_some decoded).2 with ⟨clean, -⟩ | ⟨-, shorter⟩
        · exact absurd inAddress clean
        · omega
      · rcases (unescape_eq_some decodedZone).2 with ⟨clean, -⟩ | ⟨-, shorter⟩
        · exact absurd inZone clean
        · omega
    omega

/-- What an address is written in. -/
def AddressByte (b : UInt8) : Prop := isHex b = true ∨ b = char ':' ∨ b = char '.'
  deriving Decidable

theorem decimalOctet_eq_true (octet : decimalOctet s = true) :
    s.length ≤ 3 ∧ ∀ b ∈ s, AddressByte b := by
  cases s with
  | nil => cases octet
  | cons first rest =>
    simp only [decimalOctet, Bool.and_eq_true, decide_eq_true_eq] at octet
    refine ⟨octet.1.2, fun b member => .inl ?_⟩
    rw [isHex, List.all_eq_true.mp octet.1.1.1 b member]
    rfl

theorem isIPv4_eq_true (four : isIPv4 s = true) : s.length ≤ 15 ∧ ∀ b ∈ s, AddressByte b := by
  simp only [isIPv4, Bool.and_eq_true, decide_eq_true_eq] at four
  obtain ⟨count, octets⟩ := four
  have whole : [char '.'].intercalate (s.splitOn (char '.')) = s := List.intercalate_splitOn _
  match parts : s.splitOn (char '.'), count with
  | [a, b, c, d], _ =>
    rw [parts] at octets whole
    simp only [List.all_cons, List.all_nil, Bool.and_true, Bool.and_eq_true] at octets
    have first := decimalOctet_eq_true octets.1
    have second := decimalOctet_eq_true octets.2.1
    have third := decimalOctet_eq_true octets.2.2.1
    have fourth := decimalOctet_eq_true octets.2.2.2
    have dot : AddressByte (char '.') := by decide
    rw [← whole]
    simp only [List.intercalate_cons_cons, List.intercalate_singleton, List.length_append,
      List.length_singleton]
    refine ⟨by omega, ?_⟩
    simp only [List.forall_mem_append, List.forall_mem_singleton]
    exact ⟨⟨first.2, dot⟩, ⟨second.2, dot⟩, ⟨third.2, dot⟩, fourth.2⟩

theorem hexGroup_eq_some {s rest : Bytes} (read : hexGroup s = some rest) :
    ∃ digits, s = digits ++ rest ∧ digits.length ≤ 4 ∧ ∀ b ∈ digits, AddressByte b := by
  simp only [hexGroup] at read
  split_ifs at read with count
  obtain rfl := Option.some.inj read
  refine ⟨_, List.takeWhile_append_dropWhile.symm, by omega, fun b member => .inl ?_⟩
  exact List.mem_takeWhile_imp member

theorem ipv6Groups_eq_true {fuel count : Nat} {ellipsis : Bool}
    (read : ipv6Groups fuel count ellipsis s = true) :
    s.length ≤ 6 * (8 - count) + 15 ∧ ∀ b ∈ s, AddressByte b := by
  induction fuel generalizing count ellipsis s with
  | zero => cases read
  | succ fuel ih =>
    rw [ipv6Groups] at read
    by_cases full : 8 ≤ count
    · rw [if_pos full] at read
      cases read
    rw [if_neg full] at read
    by_cases four : isIPv4 s = true
    · have short := isIPv4_eq_true four
      exact ⟨by omega, short.2⟩
    · rw [if_neg four] at read
      split at read
      · cases read
      · rename_i group
        obtain ⟨digits, rfl, short, hex⟩ := hexGroup_eq_some group
        rw [List.append_nil]
        exact ⟨by omega, hex⟩
      · rename_i b rest group
        obtain ⟨digits, rfl, short, hex⟩ := hexGroup_eq_some group
        by_cases other : b ≠ char ':'
        · rw [if_pos other] at read
          cases read
        rw [if_neg other] at read
        have colonByte : AddressByte b := .inr (.inl (not_not.mp other))
        cases rest with
        | nil => cases read
        | cons c rest =>
          simp only at read
          simp only [List.forall_mem_append, List.forall_mem_cons, List.length_append, List.length_cons]
          by_cases double : c = char ':'
          · rw [if_pos double] at read
            split_ifs at read with already ended
            · have none_ : rest = [] := List.isEmpty_iff.mp ended
              rw [none_, List.length_nil]
              exact ⟨by omega, hex, colonByte, .inr (.inl double), List.forall_mem_nil _⟩
            · have later := ih read
              exact ⟨by omega, hex, colonByte, .inr (.inl double), later.2⟩
          · rw [if_neg double] at read
            have later := ih read
            rw [List.length_cons, List.forall_mem_cons] at later
            exact ⟨by omega, hex, colonByte, later.2⟩

theorem isIPv6_eq_true (clean : char '%' ∉ s) (six : isIPv6 s = true) :
    s.length ≤ 65 ∧ ∀ b ∈ s, AddressByte b := by
  have whole : cut (char '%') s = (s, none) := cut_eq_none.mpr ⟨rfl, clean⟩
  unfold isIPv6 at six
  rw [whole] at six
  simp only [ne_eq, reduceCtorEq, not_false_eq_true, decide_true, Bool.true_and] at six
  have parts := List.take_append_drop 2 s
  split_ifs at six with colons
  · rcases (Bool.or_eq_true _ _).mp six with empty | groups
    · rw [List.isEmpty_iff.mp empty, colons] at parts
      rw [← parts]
      exact ⟨by decide, by decide +kernel⟩
    · have read := ipv6Groups_eq_true groups
      rw [← parts, colons, List.length_append, List.forall_mem_append]
      exact ⟨Nat.le_trans (Nat.add_le_add_left read.1 _) (by decide), by decide +kernel, read.2⟩
  · have read := ipv6Groups_eq_true six
    exact ⟨by omega, read.2⟩

theorem colon_mem_of_isIPv6 (six : isIPv6 s = true) : char ':' ∈ s := by
  have front : char ':' ∈ (cut (char '%') s).1 := by
    simp only [isIPv6, Bool.and_eq_true] at six
    have read := six.2
    split_ifs at read with colons
    · refine List.mem_of_mem_take (i := 2) ?_
      rw [colons]
      decide
    · cases long : (cut (char '%') s).1.length with
      | zero =>
        rw [long] at read
        cases read
      | succ fuel =>
        rw [long, ipv6Groups, if_neg (by decide)] at read
        by_cases four : isIPv4 (cut (char '%') s).1 = true
        · rw [if_pos four] at read
          cases read
        rw [if_neg four] at read
        split at read
        · cases read
        · cases read
        · rename_i b rest group
          obtain ⟨digits, same, -⟩ := hexGroup_eq_some group
          by_cases other : b ≠ char ':'
          · rw [if_pos other] at read
            cases read
          · rw [same, ← not_not.mp other]
            exact List.mem_append_right _ List.mem_cons_self
  cases parts : cut (char '%') s with
  | mk address back =>
    rw [parts] at front
    cases back with
    | none =>
      obtain ⟨rfl, -⟩ := cut_eq_none.mp parts
      exact front
    | some rest =>
      rw [(cut_eq_some parts).1]
      exact List.mem_append_left _ front

/-- A port with its colon, where there is one. -/
def portText (port : Bytes) : Bytes := if port = [] then [] else char ':' :: port

theorem takePort_of_digits {host port : Bytes} (digits : port.all isDigit = true) :
    takePort (host ++ char ':' :: port) = (host, port) := by
  have colon : char ':' ∉ port := fun member =>
    absurd (List.all_eq_true.mp digits _ member) (by decide)
  rw [takePort, cutLast_eq_some.mpr ⟨rfl, colon⟩]
  exact if_pos digits

theorem takePort_spec (h : Bytes) : (takePort h).2.all isDigit = true ∧
    (takePort h = (h, []) ∨ h = (takePort h).1 ++ char ':' :: (takePort h).2) := by
  unfold takePort
  split
  · rename_i host port cut_
    split_ifs with digits
    · exact ⟨digits, .inr (cutLast_eq_some.mp cut_).1⟩
    · exact ⟨rfl, .inl rfl⟩
  · exact ⟨rfl, .inl rfl⟩

theorem takePort_bracket (s : Bytes) : takePort (s ++ [char ']']) = (s ++ [char ']'], []) := by
  obtain ⟨digits, same | whole⟩ := takePort_spec (s ++ [char ']'])
  · exact same
  · have bracket : char ']' ∈ char ':' :: (takePort (s ++ [char ']'])).2 := by
      have last := congrArg List.getLast? whole
      rw [List.getLast?_concat, List.getLast?_append_of_ne_nil _ (List.cons_ne_nil _ _)] at last
      exact List.mem_of_getLast? last.symm
    rcases List.mem_cons.mp bracket with same | member
    · exact absurd same (by decide)
    · exact absurd (List.all_eq_true.mp digits _ member) (by decide)

theorem splitHostPort_name {host port : Bytes} (noBracket : host.head? ≠ some (char '['))
    (noColon : char ':' ∉ host) (digits : port.all isDigit = true) :
    splitHostPort (host ++ portText port) = (host, port) := by
  have taken : takePort (host ++ portText port) = (host, port) := by
    unfold portText
    split_ifs with empty
    · rw [List.append_nil, takePort, cutLast_eq_none.mpr noColon, empty]
    · exact takePort_of_digits digits
  rw [splitHostPort, taken]
  exact if_neg fun brackets => noBracket brackets.1

theorem splitHostPort_address {address port : Bytes} (valid : validOptionalPort port = true) :
    splitHostPort (char '[' :: (address ++ char ']' :: port)) = (address, port.tail) := by
  have taken : takePort (char '[' :: (address ++ char ']' :: port)) =
      (char '[' :: (address ++ [char ']']), port.tail) := by
    rcases validOptionalPort_iff.mp valid with rfl | ⟨digits, rfl, all⟩
    · exact takePort_bracket (char '[' :: address)
    · have port_ : takePort ((char '[' :: (address ++ [char ']'])) ++ char ':' :: digits) =
          (char '[' :: (address ++ [char ']']), digits) := takePort_of_digits all
      simpa using port_
  have strip : (char '[' :: (address ++ [char ']'])).head? = some (char '[') ∧
      (char '[' :: (address ++ [char ']'])).getLast? = some (char ']') :=
    ⟨rfl, by rw [← List.cons_append, List.getLast?_concat]⟩
  rw [splitHostPort, taken]
  show (if _ then _ else _) = _
  rw [if_pos strip, List.tail_cons, List.dropLast_concat]

theorem splitHostPort_spec (h : Bytes) :
    (splitHostPort h).2.all isDigit = true ∧ (∀ b ∈ (splitHostPort h).1, b ∈ h) ∧
      (splitHostPort h).1.length + (portText (splitHostPort h).2).length ≤ h.length := by
  obtain ⟨digits, shape⟩ := takePort_spec h
  have inside : ∀ b ∈ (takePort h).1, b ∈ h := by
    intro b member
    rcases shape with same | whole
    · rwa [same] at member
    · rw [whole]
      exact List.mem_append_left _ member
  have length : (takePort h).1.length + (portText (takePort h).2).length ≤ h.length := by
    rcases shape with same | whole
    · rw [same]
      exact Nat.le_refl _
    · have total := congrArg List.length whole
      rw [List.length_append, List.length_cons] at total
      unfold portText
      split_ifs
      · rw [List.length_nil]
        omega
      · rw [List.length_cons]
        omega
  rw [splitHostPort]
  dsimp only
  split_ifs
  · refine ⟨digits, fun b member => inside b ?_, ?_⟩
    · exact List.mem_of_mem_tail ((List.dropLast_sublist _).mem member)
    · show ((takePort h).1.tail.dropLast).length + (portText (takePort h).2).length ≤ h.length
      rw [List.length_dropLast, List.length_tail]
      omega
  · exact ⟨digits, inside, length⟩

theorem HostRead.outsideBrackets (read : HostRead text host)
    (noColon : char ':' ∉ (splitHostPort host).1) :
    char '[' ∉ text ∧ unescape .host text = some host := by
  cases read with
  | name noBracket decoded port => exact ⟨noBracket, decoded⟩
  | address whole noBracket last valid decoded decodedZone six =>
    rw [splitHostPort_address valid] at noColon
    exact absurd (colon_mem_of_isIPv6 six) noColon

/-- What ends an authority, or begins its host, and what no URL may contain. -/
def AuthorityByte (b : UInt8) : Prop :=
  b ≠ char '/' ∧ b ≠ char '?' ∧ b ≠ char '#' ∧ b ≠ char '@' ∧ Bytes.isControl b = false
  deriving Decidable

theorem authorityByte_of_decoded (decoded : Decoded .zone b) : AuthorityByte b :=
  Bytes.forall_byte (P := fun b => Decoded .zone b → AuthorityByte b) (by decide +kernel) b decoded

/-- A scheme in the form in which it is kept. -/
structure PlainScheme (scheme : Bytes) : Prop where
  bytes : ∀ b ∈ scheme, isSchemeByte b = true ∧ AuthorityByte b ∧ toLower b = b
  letter : ∃ b rest, scheme = b :: rest ∧ isLetter b = true

theorem getScheme_origin {scheme rest : Bytes} (plain : PlainScheme scheme) :
    getScheme (scheme ++ char ':' :: rest) = some (scheme, rest) := by
  have inside : ∀ b ∈ scheme, isSchemeByte b = true := fun b member => (plain.bytes b member).1
  have colon : isSchemeByte (char ':') = false := by decide
  have taken : (scheme ++ char ':' :: rest).takeWhile isSchemeByte = scheme := by
    rw [List.takeWhile_append_of_pos inside, List.takeWhile_cons_of_neg (by simp [colon]), List.append_nil]
  have dropped : (scheme ++ char ':' :: rest).dropWhile isSchemeByte = char ':' :: rest := by
    rw [List.dropWhile_append_of_pos inside, List.dropWhile_cons_of_neg (by simp [colon])]
  obtain ⟨b, more, rfl, letter⟩ := plain.letter
  unfold getScheme
  rw [List.span_eq_takeWhile_dropWhile, taken, dropped]
  simp [letter]

theorem parseAuthority_host {authority : Bytes} (clean : char '@' ∉ authority) :
    parseAuthority authority = (parseHost authority).map fun host => (none, host) := by
  unfold parseAuthority
  rw [cutLast_eq_none.mpr clean]
  cases parseHost authority <;> rfl

theorem hostRead_of_parseAuthority {authority host : Bytes}
    (read : parseAuthority authority = some (none, host)) : HostRead authority host := by
  unfold parseAuthority at read
  split at read
  · obtain ⟨host', hosted, same⟩ := Option.bind_eq_some_iff.mp read
    obtain ⟨-, rfl⟩ := Prod.mk.inj (Option.some.inj same)
    exact hostRead_of_parseHost hosted
  · obtain ⟨host', -, read⟩ := Option.bind_eq_some_iff.mp read
    obtain ⟨user, -, same⟩ := Option.bind_eq_some_iff.mp read
    cases (Prod.mk.inj (Option.some.inj same)).1

theorem parse_origin {scheme authority : Bytes} (plain : PlainScheme scheme)
    (clean : ∀ b ∈ authority, AuthorityByte b) :
    parse (scheme ++ Bytes.ascii "://" ++ authority) =
      (parseHost authority).map fun host => { scheme, host } := by
  have spelled : scheme ++ Bytes.ascii "://" ++ authority =
      scheme ++ char ':' :: (Bytes.ascii "//" ++ authority) := by
    rw [List.append_assoc]
    rfl
  have slashes : ∀ b ∈ Bytes.ascii "//" ++ authority, b ≠ char '?' ∧ b ≠ char '#' ∧ Bytes.isControl b = false := by
    refine List.forall_mem_append.mpr ⟨Bytes.forall_mem (by decide +kernel), fun b member => ?_⟩
    obtain ⟨-, query, fragment, -, control⟩ := clean b member
    exact ⟨query, fragment, control⟩
  have all_ : ∀ b ∈ scheme ++ char ':' :: (Bytes.ascii "//" ++ authority),
      b ≠ char '#' ∧ Bytes.isControl b = false := by
    refine List.forall_mem_append.mpr ⟨fun b member => ?_, List.forall_mem_cons.mpr ⟨by decide, fun b member => ?_⟩⟩
    · obtain ⟨-, ⟨-, -, fragment, -, control⟩, -⟩ := plain.bytes b member
      exact ⟨fragment, control⟩
    · exact (slashes b member).2
  have noFragment : cut (char '#') (scheme ++ char ':' :: (Bytes.ascii "//" ++ authority)) =
      (scheme ++ char ':' :: (Bytes.ascii "//" ++ authority), none) :=
    cut_eq_none.mpr ⟨rfl, fun member => (all_ _ member).1 rfl⟩
  have noControl : (scheme ++ char ':' :: (Bytes.ascii "//" ++ authority)).any Bytes.isControl = false :=
    List.any_eq_false.mpr fun b member => by simp [(all_ b member).2]
  have notStar : scheme ++ char ':' :: (Bytes.ascii "//" ++ authority) ≠ [char '*'] := by
    intro same
    have long := congrArg List.length same
    rw [List.length_append] at long
    obtain ⟨b, rest, rfl, -⟩ := plain.letter
    simp only [List.length_cons, List.length_nil] at long
    omega
  have lowered : scheme.map toLower = scheme :=
    List.map_congr_left (fun b member => (plain.bytes b member).2.2) |>.trans (List.map_id' scheme)
  have nonempty : scheme ≠ [] := by
    obtain ⟨b, rest, rfl, -⟩ := plain.letter
    exact List.cons_ne_nil _ _
  have noQuery : splitQuery (Bytes.ascii "//" ++ authority) = (Bytes.ascii "//" ++ authority, [], false) := by
    have clean' : char '?' ∉ Bytes.ascii "//" ++ authority := fun member => (slashes _ member).1 rfl
    have last : (Bytes.ascii "//" ++ authority).getLast? ≠ some (char '?') := fun same =>
      clean' (List.mem_of_getLast? same)
    unfold splitQuery
    rw [if_neg fun both => last both.1, cut_eq_none.mpr ⟨rfl, clean'⟩]
    rfl
  have authority_ : splitAuthority authority = (authority, []) := by
    have inside : ∀ b ∈ authority, (b != char '/') = true := fun b member => bne_iff_ne.mpr (clean b member).1
    unfold splitAuthority
    rw [List.span_eq_takeWhile_dropWhile, List.takeWhile_eq_self_iff.mpr inside,
      List.dropWhile_eq_nil_iff.mpr inside]
  have noUser : char '@' ∉ authority := fun member => (clean _ member).2.2.2.1 rfl
  have read : parseBeforeFragment (scheme ++ char ':' :: (Bytes.ascii "//" ++ authority)) =
      (parseHost authority).map fun host => { scheme, host } := by
    have slash : startsWith (Bytes.ascii "//" ++ authority) "/" = true := rfl
    have twoSlashes : startsWith (Bytes.ascii "//" ++ authority) "//" = true := rfl
    have behind : (Bytes.ascii "//" ++ authority).drop 2 = authority := rfl
    have some_ : (scheme != []) = true := bne_iff_ne.mpr nonempty
    have path : ∀ u : Url, u.path = [] → u.rawPath = [] → Url.setPath u [] = some u := by
      rintro ⟨⟩ rfl rfl
      rfl
    unfold parseBeforeFragment
    rw [noControl]
    simp only [Bool.false_eq_true, if_false, if_neg notStar, getScheme_origin plain, Option.bind_eq_bind,
      Option.bind_some, lowered, noQuery, slash, twoSlashes, some_, Bool.not_true, Bool.false_and,
      Bool.true_or, Bool.true_and, if_true, behind, authority_, parseAuthority_host noUser]
    cases parseHost authority with
    | none => rfl
    | some host => exact path _ rfl rfl
  rw [spelled, parse, noFragment]
  simp only [read]
  cases parseHost authority <;> rfl

theorem setPath_eq_some {u u' : Url} {p : Bytes} (set_ : u.setPath p = some u') :
    u'.scheme = u.scheme ∧ u'.user = u.user ∧ u'.host = u.host := by
  obtain ⟨path, -, same⟩ := Option.bind_eq_some_iff.mp set_
  obtain rfl := Option.some.inj same
  exact ⟨rfl, rfl, rfl⟩

theorem setFragment_eq_some {u u' : Url} {f : Bytes} (set_ : u.setFragment f = some u') :
    u'.scheme = u.scheme ∧ u'.user = u.user ∧ u'.host = u.host := by
  obtain ⟨fragment, -, same⟩ := Option.bind_eq_some_iff.mp set_
  obtain rfl := Option.some.inj same
  exact ⟨rfl, rfl, rfl⟩

theorem length_getScheme {s scheme rest : Bytes} (read : getScheme s = some (scheme, rest)) :
    (scheme ≠ [] → scheme.length + 1 + rest.length ≤ s.length) := by
  intro some_
  unfold getScheme at read
  rw [List.span_eq_takeWhile_dropWhile] at read
  have whole := congrArg List.length (List.takeWhile_append_dropWhile (p := isSchemeByte) (l := s))
  rw [List.length_append] at whole
  cases behind : s.dropWhile isSchemeByte with
  | nil =>
    rw [behind] at read
    obtain ⟨rfl, -⟩ := Prod.mk.inj (Option.some.inj read)
    exact absurd rfl some_
  | cons b back =>
    rw [behind] at read whole
    simp only at read
    split at read
    · split_ifs at read
      obtain ⟨rfl, -⟩ := Prod.mk.inj (Option.some.inj read)
      exact absurd rfl some_
    · split_ifs at read
      · obtain ⟨same, rfl⟩ := Prod.mk.inj (Option.some.inj read)
        rw [← same]
        rw [List.length_cons] at whole
        omega
      · obtain ⟨rfl, -⟩ := Prod.mk.inj (Option.some.inj read)
        exact absurd rfl some_

theorem length_splitQuery (rest : Bytes) : (splitQuery rest).1.length ≤ rest.length := by
  unfold splitQuery
  split_ifs
  · rw [List.length_dropLast]
    omega
  · cases parts : cut (char '?') rest with
    | mk front back =>
      cases back with
      | none => exact (cut_eq_none.mp parts).1 ▸ Nat.le_refl _
      | some back =>
        rw [(cut_eq_some parts).1]
        simp

theorem authority_of_parse {raw : Bytes} {u : Url} (read : parse raw = some u) (host : u.host ≠ [])
    (absolute : u.scheme ≠ []) :
    ∃ authority, parseAuthority authority = some (u.user, u.host) ∧
      u.scheme.length + 3 + authority.length ≤ raw.length := by
  unfold parse at read
  cases parts : cut (char '#') raw with
  | mk front fragment =>
    rw [parts] at read
    have short : front.length ≤ raw.length := by
      cases fragment with
      | none => exact (cut_eq_none.mp parts).1 ▸ Nat.le_refl _
      | some back =>
        rw [(cut_eq_some parts).1]
        simp
    obtain ⟨u', before, read⟩ := Option.bind_eq_some_iff.mp read
    have kept : u.scheme = u'.scheme ∧ u.user = u'.user ∧ u.host = u'.host := by
      split at read
      · cases read
        exact ⟨rfl, rfl, rfl⟩
      · cases read
        exact ⟨rfl, rfl, rfl⟩
      · exact setFragment_eq_some read
    rw [kept.1, kept.2.1, kept.2.2]
    rw [kept.2.2] at host
    rw [kept.1] at absolute
    unfold parseBeforeFragment at before
    split_ifs at before with control star
    · obtain rfl := Option.some.inj before
      exact absurd rfl host
    obtain ⟨⟨scheme, rest⟩, schemed, before⟩ := Option.bind_eq_some_iff.mp before
    have schemeLength := length_getScheme schemed
    have queryLength := length_splitQuery rest
    dsimp only at before
    split_ifs at before with opaque_ colon slashes
    · obtain rfl := Option.some.inj before
      exact absurd rfl host
    · obtain ⟨⟨user, host'⟩, authority, before⟩ := Option.bind_eq_some_iff.mp before
      obtain ⟨sameScheme, sameUser, sameHost⟩ := setPath_eq_some before
      have nonempty : scheme ≠ [] := by
        rintro rfl
        exact absolute sameScheme
      have spelled := schemeLength nonempty
      have two : (splitQuery rest).1.length ≥ 2 :=
        (List.isPrefixOf_iff_prefix.mp (Bool.and_eq_true_iff.mp slashes).2).length_le
      have taken : (splitAuthority ((splitQuery rest).1.drop 2)).1.length ≤ (splitQuery rest).1.length - 2 := by
        unfold splitAuthority
        rw [List.span_eq_takeWhile_dropWhile, ← List.length_drop]
        exact (List.takeWhile_prefix _).length_le
      refine ⟨(splitAuthority ((splitQuery rest).1.drop 2)).1, ?_, ?_⟩
      · rw [sameUser, sameHost]
        exact authority
      · rw [sameScheme, List.length_map]
        omega
    · have same := setPath_eq_some before
      exact absurd same.2.2 host

end NetUrl

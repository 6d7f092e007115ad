import Opslane.Intake.DebugIdAgreement
import Opslane.Sdk.CanonicalText

/-!
# One debug id for one content

What is hashed of a source map tells the map apart from every other that is accepted, on
either side: two maps have one preimage exactly when they are one value without the root debug
id, numbers compared as the 64-bit numbers they are read as. Writing a debug id into a map, or
replacing it, leaves the id as it was.
-/

namespace Opslane.Intake.DebugId

open CanonicalJson JsonReader Unicode
open Sdk.DebugId (Clean SameNumber computeDebugId encode_text_eq_iff)
open Sdk.Stamp (RejectReason Fingerprint)

inductive Side where
  | sdk | intake
  deriving DecidableEq

abbrev Members := List (List Nat × Value)

/-- The members of the map at the root, before its fields are checked. -/
def rootMembers : Side → List UInt8 → Except RejectReason Members
  | .sdk, bytes =>
    if bytes.take 3 = Sdk.DebugId.byteOrderMark then .error .bom
    else do
      let source ← Sdk.DebugId.decodeText bytes
      let value ← Sdk.DebugId.parse source
      Sdk.DebugId.rootEntries value
  | .intake, input =>
    if input.take 3 = byteOrderMark then .error .bom
    else if (decodeUtf8 (input.map UInt8.toNat)).isNone then .error .invalidUtf8
    else do
      let value ← scan (input.map UInt8.toNat)
      unmarshalRoot value

/-- The digest of the accepted map, with `hash` for the hash function. -/
def digest (jcs : Value → Option (List UInt8)) (hash : List UInt8 → List UInt8) :
    Side → List UInt8 → Except RejectReason (List UInt8)
  | .sdk, bytes => (computeDebugId hash bytes).map fun f => f.digest
  | .intake, input => (compute jcs hash input).map fun r => r.fingerprint.digest

/-- The canonical bytes themselves. -/
def preimage (jcs : Value → Option (List UInt8)) (side : Side) (bytes : List UInt8) :
    Except RejectReason (List UInt8) := digest jcs id side bytes

section
variable {jcs : Value → Option (List UInt8)}

/-- What is done with the members: their fields are checked, and they are hashed. -/
def accept (hash : List UInt8 → List UInt8) (side : Side) (members : Members) :
    Except RejectReason (List UInt8) :=
  (match side with
    | .sdk => Sdk.DebugId.validateSourceMap members
    | .intake => validateSourceMap members).map fun _ =>
      hash (encode (text (.object (withoutDebugId members))))

theorem digest_sdk (hash : List UInt8 → List UInt8) (bytes : List UInt8) :
    digest jcs hash .sdk bytes = rootMembers .sdk bytes >>= accept hash .sdk := by
  unfold digest rootMembers computeDebugId
  dsimp only
  split_ifs with bom
  · rfl
  · cases Sdk.DebugId.decodeText bytes with
    | error e => rfl
    | ok source =>
      show (Sdk.DebugId.parse source >>= _ : Except RejectReason Fingerprint).map _
        = (Sdk.DebugId.parse source >>= _) >>= _
      cases Sdk.DebugId.parse source with
      | error e => rfl
      | ok value =>
        cases value with
        | object members =>
          show (Sdk.DebugId.validateSourceMap members >>= _ : Except RejectReason Fingerprint).map _
            = accept hash .sdk members
          rw [accept, Sdk.DebugId.canonicalize_root]
          cases Sdk.DebugId.validateSourceMap members with
          | error e => rfl
          | ok u => rfl
        | _ => rfl

theorem scan_distinct {input : Codes} {v : Value} (read : scan input = .ok v) : v.NamesDistinct := by
  obtain ⟨⟨value, rest⟩, found, read⟩ := Except.of_bind read
  dsimp only at read
  split_ifs at read
  obtain rfl := Except.ok.inj read
  exact Grammar.value_distinct rfl _ found

theorem digest_intake (canonicalizes : Canonicalizes jcs) (hash : List UInt8 → List UInt8)
    (input : List UInt8) :
    digest jcs hash .intake input = rootMembers .intake input >>= accept hash .intake := by
  unfold digest rootMembers compute
  dsimp only
  split_ifs with bom utf8
  · rfl
  · rfl
  · show (scan (input.map UInt8.toNat) >>= _ : Except RejectReason Result).map _
      = (scan (input.map UInt8.toNat) >>= _) >>= _
    cases read : scan (input.map UInt8.toNat) with
    | error e => rfl
    | ok value =>
      cases value with
      | object members =>
        have canonical := canonicalizes (withoutDebugId members) ((scan_distinct read).filter _)
        show (validateSourceMap members >>= _ : Except RejectReason Result).map _
          = accept hash .intake members
        rw [accept, canonical]
        cases validateSourceMap members with
        | error e => rfl
        | ok u => rfl
      | _ => rfl

theorem digest_eq (canonicalizes : Canonicalizes jcs) (hash : List UInt8 → List UInt8) (side : Side)
    (bytes : List UInt8) : digest jcs hash side bytes = rootMembers side bytes >>= accept hash side := by
  cases side with
  | sdk => exact digest_sdk hash bytes
  | intake => exact digest_intake canonicalizes hash bytes

end

/-- Bytes, as codes. -/
def Bytes (text : Codes) : Prop := ∀ c ∈ text, c < 0x100

theorem bytes_suffix (text rest : Codes) (bytes : Bytes text) (suffix : rest <:+ text) : Bytes rest :=
  fun c member => bytes c (suffix.subset member)

theorem hexUnit_bound {text rest : Codes} {u : Nat} (read : hexUnit text = some (u, rest)) :
    u < 0x10000 ∧ rest <:+ text := by
  have digit {text rest : Codes} {x : Nat} (read : JsonReader.hexDigit text = some (x, rest)) : x < 16 := by
    obtain ⟨c, -, value⟩ := hexDigit_eq_some read
    unfold hexValue at value
    have codes : code '0' = 48 ∧ code '9' = 57 ∧ code 'a' = 97 ∧ code 'f' = 102 ∧ code 'A' = 65 ∧
        code 'F' = 70 := by decide
    split_ifs at value with decimal lower upper
    · simp only [isDigit, Bool.and_eq_true, decide_eq_true_eq] at decimal
      have same := Option.some.inj value
      omega
    · have same := Option.some.inj value
      omega
    · have same := Option.some.inj value
      omega
  obtain ⟨a, b, c, d, rfl⟩ := hexUnit_eq_some read
  refine ⟨?_, ⟨[a, b, c, d], rfl⟩⟩
  obtain ⟨⟨x, text₁⟩, first, read⟩ := Option.bind_eq_some_iff.mp read
  obtain ⟨⟨y, text₂⟩, second, read⟩ := Option.bind_eq_some_iff.mp read
  obtain ⟨⟨z, text₃⟩, third, read⟩ := Option.bind_eq_some_iff.mp read
  obtain ⟨⟨w, text₄⟩, fourth, read⟩ := Option.bind_eq_some_iff.mp read
  obtain ⟨rfl, -⟩ := Prod.mk.inj (Option.some.inj read)
  have bounds := And.intro (digit first) (And.intro (digit second) (And.intro (digit third) (digit fourth)))
  omega

/-- What a piece of a text in bytes holds. -/
def PieceBound : Piece → Prop
  | .close => True
  | .plain c | .escape c => c < 0x100
  | .unit u => u < 0x10000

theorem piece_bound {text rest : Codes} {p : Piece} (bytes : Bytes text)
    (read : piece text = some (p, rest)) : rest <:+ text ∧ PieceBound p := by
  cases text with
  | nil => cases read
  | cons c after =>
    rw [piece] at read
    have behind := List.suffix_cons c after
    split_ifs at read
    · obtain ⟨rfl, rfl⟩ := Prod.mk.inj (Option.some.inj read)
      exact ⟨behind, trivial⟩
    · obtain ⟨rfl, rfl⟩ := Prod.mk.inj (Option.some.inj read)
      exact ⟨behind, bytes c List.mem_cons_self⟩
    · unfold escaped at read
      split at read
      · cases read
      · rename_i e later
        split_ifs at read
        · obtain ⟨⟨u, last⟩, hex, same⟩ := Option.map_eq_some_iff.mp read
          obtain ⟨rfl, rfl⟩ := Prod.mk.inj same
          obtain ⟨bound, suffix⟩ := hexUnit_bound hex
          exact ⟨(suffix.trans (List.suffix_cons e later)).trans behind, bound⟩
        · obtain ⟨d, simple, same⟩ := Option.map_eq_some_iff.mp read
          obtain ⟨rfl, rfl⟩ := Prod.mk.inj same
          have small := simpleEscape_ascii simple
          exact ⟨(List.suffix_cons e later).trans behind, Nat.lt_trans small (by decide)⟩

variable {ε : Type}

theorem stringFrom_draws {invalid : ε} {lone : Codes → ε} (fuel : Nat) :
    Draws Bytes (fun s => ∀ c ∈ s, IsScalar c) (stringFrom invalid lone fuel) := by
  induction fuel with
  | zero =>
    intro text s rest _ read
    cases read
  | succ fuel ih =>
    intro text s rest bytes read
    have behind {c : Nat} {after : Codes} (scalar : IsScalar c) (suffix : after <:+ text)
        (read : (do let p ← stringFrom invalid lone fuel after; return (c :: p.1, p.2) :
          Except ε (List Nat × Codes)) = .ok (s, rest)) :
        (∀ d ∈ s, IsScalar d) ∧ rest <:+ text := by
      obtain ⟨⟨s', rest'⟩, later, same⟩ := Except.of_bind read
      obtain ⟨rfl, rfl⟩ := Prod.mk.inj (Except.ok.inj same)
      obtain ⟨scalars, final⟩ := ih _ _ _ (bytes_suffix _ _ bytes suffix) later
      exact ⟨List.forall_mem_cons.mpr ⟨scalar, scalars⟩, final.trans suffix⟩
    unfold stringFrom at read
    dsimp only at read
    split at read
    · cases read
    · rename_i next
      obtain ⟨rfl, rfl⟩ := Prod.mk.inj (Except.ok.inj read)
      exact ⟨by simp, (piece_bound bytes next).1⟩
    · rename_i next
      obtain ⟨suffix, small⟩ := piece_bound bytes next
      split at read
      · rename_i decoded
        obtain ⟨scalar, split⟩ := decodeRune_eq_some decoded
        exact behind scalar (split ▸ List.suffix_append _ _) read
      · exact behind (.inl (Nat.lt_trans small (by decide))) suffix read
    · rename_i next
      obtain ⟨suffix, small⟩ := piece_bound bytes next
      exact behind (.inl (Nat.lt_trans small (by decide))) suffix read
    · rename_i u after next
      obtain ⟨suffix, small⟩ := piece_bound bytes next
      change u < 0x10000 at small
      split_ifs at read with high far low
      · split at read
        · cases read
        · rename_i low later hex
          split_ifs at read with paired
          have end_ := (hexUnit_bound hex).2.trans (List.drop_suffix 2 after)
          refine behind ?_ (end_.trans suffix) read
          simp only [isHigh, isLow, Bool.and_eq_true, decide_eq_true_eq] at high paired
          right
          unfold pairScalar
          omega
      · simp only [isHigh, isLow, Bool.and_eq_true, decide_eq_true_eq] at high low
        exact behind (by unfold IsScalar; omega) suffix read

theorem string_draws {invalid : ε} {lone : Codes → ε} :
    Draws Bytes (fun s => ∀ c ∈ s, IsScalar c) (string invalid lone) := by
  intro text s rest bytes read
  have dropped := List.drop_suffix 1 text
  obtain ⟨scalars, final⟩ := stringFrom_draws text.length _ _ _ (bytes_suffix _ _ bytes dropped) read
  exact ⟨scalars, final.trans dropped⟩

theorem sign_suffix (text : Codes) : (sign text).2 <:+ text := by
  unfold sign
  split
  · split_ifs
    · exact List.suffix_cons _ _
    · exact List.suffix_rfl
  · exact List.suffix_rfl

theorem exponentSign_suffix (text : Codes) : (exponentSign text).2 <:+ text := by
  unfold exponentSign
  split
  · split_ifs
    · exact List.suffix_cons _ _
    · exact List.suffix_cons _ _
    · exact List.suffix_rfl
  · exact List.suffix_rfl

theorem integerPart_suffix {text whole rest : Codes} (read : integerPart text = some (whole, rest)) :
    rest <:+ text := by
  unfold integerPart at read
  split at read
  · split_ifs at read
    · obtain ⟨-, rfl⟩ := Prod.mk.inj (Option.some.inj read)
      exact List.suffix_cons _ _
    · obtain ⟨-, rfl⟩ := Prod.mk.inj (Option.some.inj read)
      exact (List.dropWhile_suffix _).trans (List.suffix_cons _ _)
  · cases read

theorem fraction_suffix {refused : ε} {text digits rest : Codes}
    (read : fraction refused text = .ok (digits, rest)) : rest <:+ text := by
  unfold fraction at read
  split at read
  · split_ifs at read
    · obtain ⟨-, rfl⟩ := Prod.mk.inj (Except.ok.inj read)
      exact (List.dropWhile_suffix _).trans (List.suffix_cons _ _)
    · obtain ⟨-, rfl⟩ := Prod.mk.inj (Except.ok.inj read)
      exact List.suffix_rfl
  · obtain ⟨-, rfl⟩ := Prod.mk.inj (Except.ok.inj read)
    exact List.suffix_rfl

theorem exponent_suffix {refused : ε} {text rest : Codes} {e : Int}
    (read : exponent refused text = .ok (e, rest)) : rest <:+ text := by
  unfold exponent at read
  split at read
  · rename_i c after
    split_ifs at read
    · dsimp only at read
      split_ifs at read
      obtain ⟨-, rfl⟩ := Prod.mk.inj (Except.ok.inj read)
      exact (List.dropWhile_suffix _).trans
        ((exponentSign_suffix after).trans (List.suffix_cons c after))
    · obtain ⟨-, rfl⟩ := Prod.mk.inj (Except.ok.inj read)
      exact List.suffix_rfl
  · obtain ⟨-, rfl⟩ := Prod.mk.inj (Except.ok.inj read)
    exact List.suffix_rfl

theorem number_draws {invalid : ε} {broken : Decimal → ε} {infinite : ε} :
    Draws Bytes Double.Canonical (number invalid broken infinite) := by
  intro text x rest _ read
  unfold number at read
  dsimp only at read
  split at read
  · cases read
  · rename_i whole rest₁ integer
    split_ifs at read
    obtain ⟨⟨digits, rest₂⟩, fractional, read⟩ := Except.of_bind read
    obtain ⟨⟨e, rest₃⟩, exponential, read⟩ := Except.of_bind read
    dsimp only at read exponential
    split at read
    · cases read
    · rename_i value rounded
      obtain ⟨rfl, rfl⟩ := Prod.mk.inj (Except.ok.inj read)
      exact ⟨Double.ofDecimal_canonical rounded, (exponent_suffix exponential).trans
        ((fraction_suffix fractional).trans ((integerPart_suffix integer).trans (sign_suffix text)))⟩

theorem readDocument_clean {input : Codes} (bytes : Bytes input) {v : Value}
    (read : readDocument input = .ok v) : Clean v := by
  obtain ⟨⟨value, rest⟩, found, read⟩ := Except.of_bind read
  dsimp only at read
  split_ifs at read
  obtain rfl := Except.ok.inj read
  have skipped : Bytes (skipSpace input) := bytes_suffix _ _ bytes (List.dropWhile_suffix _)
  exact (Grammar.value_draws bytes_suffix string_draws number_draws maxDepth _ _ _ skipped found).1

theorem readDocument_of_scan {input : Codes} {v : Value} (read : scan input = .ok v) :
    readDocument input = .ok v := by
  rw [scan_eq] at read
  cases found : readDocument input with
  | error e =>
    rw [found] at read
    cases read
  | ok w =>
    rw [found] at read
    obtain rfl := Except.ok.inj read
    rfl

theorem readDocument_of_parse {a b : Codes} (same : SameText a b) {v : Value}
    (read : Sdk.DebugId.parse b = .ok v) : readDocument a = .ok v := by
  obtain ⟨alike, unlike⟩ := parse_eq same
  by_cases broken : BrokenRoot a
  · rw [unlike broken] at read
    cases read
  · rw [alike broken] at read
    cases found : readDocument a with
    | error e =>
      rw [found] at read
      cases read
    | ok w =>
      rw [found] at read
      obtain rfl := Except.ok.inj read
      rfl

theorem rootMembers_clean {side : Side} {bytes : List UInt8} {members : Members}
    (read : rootMembers side bytes = .ok members) :
    Clean (.object members) ∧ (JsonTree.object members).NamesDistinct := by
  have small : Bytes (bytes.map UInt8.toNat) := by
    intro c member
    obtain ⟨byte, -, rfl⟩ := List.mem_map.mp member
    exact byte.toNat_lt
  suffices found : readDocument (bytes.map UInt8.toNat) = .ok (.object members) from
    ⟨readDocument_clean small found, readDocument_distinct found⟩
  unfold rootMembers at read
  cases side with
  | intake =>
    dsimp only at read
    split_ifs at read
    obtain ⟨value, scanned, read⟩ := Except.of_bind read
    cases value with
    | object root =>
      obtain rfl := Except.ok.inj read
      exact readDocument_of_scan scanned
    | _ => cases read
  | sdk =>
    dsimp only at read
    split_ifs at read
    obtain ⟨source, decoded, read⟩ := Except.of_bind read
    obtain ⟨value, parsed, read⟩ := Except.of_bind read
    unfold Sdk.DebugId.decodeText at decoded
    split at decoded
    · cases decoded
    · rename_i scalars decodes
      obtain rfl := Except.ok.inj decoded
      obtain ⟨valid, text⟩ := decodeUtf8_eq_some decodes
      have same := sameText_of_scalars valid
      rw [← text] at same
      cases value with
      | object root =>
        obtain rfl := Except.ok.inj read
        exact readDocument_of_parse same parsed
      | _ => cases read

theorem lookup_filter {τ : Type} (p : List Nat → Bool) (members : List (List Nat × τ)) {name : List Nat}
    (kept : p name = true) : (members.filter fun m => p m.1).lookup name = members.lookup name := by
  induction members with
  | nil => rfl
  | cons m rest ih =>
    obtain ⟨key, value⟩ := m
    by_cases same : name = key
    · subst same
      simp [kept]
    · have other : (name == key) = false := by simpa using same
      cases found : p key with
      | true => simp [found, List.lookup_cons, other, ih]
      | false => simp [found, List.lookup_cons, other, ih]

theorem field_withoutDebugId (root : Members) (name : String) (other : codes name ≠ codes "debugId") :
    field (withoutDebugId root) name = field root name :=
  lookup_filter (fun key => key != codes "debugId") root (by simpa using other)

theorem validate_withoutDebugId (root : Members) :
    validateSourceMap (withoutDebugId root) = validateSourceMap root := by
  unfold validateSourceMap
  simp only [field_withoutDebugId root "version" (by decide),
    field_withoutDebugId root "sections" (by decide), field_withoutDebugId root "sources" (by decide),
    field_withoutDebugId root "names" (by decide), field_withoutDebugId root "mappings" (by decide),
    field_withoutDebugId root "sourcesContent" (by decide)]

theorem sdk_validate_withoutDebugId (root : Members) :
    Sdk.DebugId.validateSourceMap (withoutDebugId root) = Sdk.DebugId.validateSourceMap root := by
  have same (name : String) (other : codes name ≠ codes "debugId") :
      Sdk.DebugId.getMember (withoutDebugId root) name = Sdk.DebugId.getMember root name :=
    field_withoutDebugId root name other
  unfold Sdk.DebugId.validateSourceMap Sdk.DebugId.hasShape
  simp only [same "version" (by decide), same "sections" (by decide), same "sources" (by decide),
    same "names" (by decide), same "mappings" (by decide), same "sourcesContent" (by decide)]

theorem withoutDebugId_twice (root : Members) :
    withoutDebugId (withoutDebugId root) = withoutDebugId root := by
  unfold withoutDebugId
  rw [List.filter_filter]
  simp only [Bool.and_self]

theorem accept_withoutDebugId (hash : List UInt8 → List UInt8) (side : Side) (root : Members) :
    accept hash side (withoutDebugId root) = accept hash side root := by
  unfold accept
  rw [withoutDebugId_twice]
  cases side with
  | sdk => rw [← sdk_validate_withoutDebugId root]
  | intake => rw [← validate_withoutDebugId root]

/-- Two maps are one, but for the root debug id. -/
def SameContent (first second : Members) : Prop :=
  (JsonTree.object (withoutDebugId first)).Alike SameNumber (.object (withoutDebugId second))

section
variable {jcs : Value → Option (List UInt8)}

theorem preimage_eq_ok (canonicalizes : Canonicalizes jcs) {side : Side} {bytes canonical : List UInt8}
    (accepted : preimage jcs side bytes = .ok canonical) :
    ∃ members, rootMembers side bytes = .ok members ∧
      canonical = encode (text (.object (withoutDebugId members))) := by
  rw [preimage, digest_eq canonicalizes] at accepted
  obtain ⟨members, read, accepted⟩ := Except.of_bind accepted
  refine ⟨members, read, ?_⟩
  obtain ⟨u, -, same⟩ := Except.map_eq_ok_iff.mp accepted
  exact same.symm

/-- **Content identity.** Whichever sides accept two maps, they have one preimage exactly when
they are one value without the root debug id; and a map that differs in its debug id only has
the same digest or the same refusal. -/
theorem preimage_eq_iff (canonicalizes : Canonicalizes jcs) {first second : Side}
    {a b canonical canonical' : List UInt8} (accepted : preimage jcs first a = .ok canonical)
    (accepted' : preimage jcs second b = .ok canonical') :
    ∃ m n, rootMembers first a = .ok m ∧ rootMembers second b = .ok n ∧
      (canonical = canonical' ↔ SameContent m n) ∧
      ∀ c stamped, rootMembers first c = .ok stamped → withoutDebugId stamped = withoutDebugId m →
        ∀ hash, digest jcs hash first c = digest jcs hash first a := by
  obtain ⟨m, read, rfl⟩ := preimage_eq_ok canonicalizes accepted
  obtain ⟨n, read', rfl⟩ := preimage_eq_ok canonicalizes accepted'
  obtain ⟨clean, distinct⟩ := rootMembers_clean read
  obtain ⟨clean', distinct'⟩ := rootMembers_clean read'
  refine ⟨m, n, read, read', ?_, ?_⟩
  · have kept {members : Members} (clean : Clean (.object members)) :
        Clean (.object (withoutDebugId members)) :=
      JsonTree.membersHold_iff.mpr fun member inside =>
        JsonTree.membersHold_iff.mp clean member (List.mem_of_mem_filter inside)
    exact encode_text_eq_iff (kept clean) (kept clean') (distinct.filter _) (distinct'.filter _)
  · intro c stamped found same hash
    rw [digest_eq canonicalizes, digest_eq canonicalizes, found, read]
    show accept hash first stamped = accept hash first m
    rw [← accept_withoutDebugId, same, accept_withoutDebugId]

end

def respelledMap : List UInt8 :=
  document "\x7b\"mappings\":\"\", \"names\":[],\n\"debugId\":\"x\",\"sources\":[\"\\u0061\"],\"version\":3.0\x7d"

theorem respelledMap_same : ∃ m n, rootMembers .sdk plainMap = .ok m ∧
    rootMembers .intake respelledMap = .ok n ∧ SameContent m n := by
  obtain ⟨canonical, accepted⟩ : ∃ x, preimage jcsTransform .sdk plainMap = .ok x := by
    rw [plainMap, document_ofList]
    exact Except.exists_of_isOk (by decide +kernel)
  obtain ⟨canonical', accepted'⟩ : ∃ x, preimage jcsTransform .intake respelledMap = .ok x := by
    rw [respelledMap, document_ofList]
    exact Except.exists_of_isOk (by decide +kernel)
  have same : (preimage jcsTransform .sdk plainMap).toOption
      = (preimage jcsTransform .intake respelledMap).toOption := by
    rw [plainMap, respelledMap, document_ofList, document_ofList]
    decide +kernel
  obtain ⟨m, n, read, read', identity, -⟩ := preimage_eq_iff jcsTransform_canonicalizes accepted accepted'
  rw [accepted, accepted'] at same
  exact ⟨m, n, read, read', identity.mp (Option.some.inj same)⟩

/-- The strict parser with every number kept as its literal. -/
def exactJson : Grammar RejectReason (List Nat) Decimal where
  string := Sdk.DebugId.parseString
  number text := (Sdk.DebugId.matchNumber text).orError .invalidJson
  invalid := .invalidJson
  tooDeep := .depthExceeded
  duplicate := some .duplicateKey

def exactMembers (bytes : List UInt8) :
    Except RejectReason (List (List Nat × JsonTree (List Nat) Decimal)) := do
  let source ← Sdk.DebugId.decodeText bytes
  let (value, _) ← exactJson.value Sdk.DebugId.maxDepth (skipSpace source)
  match value with
  | .object members => return members.filter fun member => member.1 != codes "debugId"
  | _ => .error .badFieldType

/-- What a literal denotes. -/
def exactValue (d : Decimal) : ℚ := (if d.negative then -1 else 1) * d.digits * 10 ^ d.exponent

def exactNumber : JsonTree (List Nat) Decimal → Option Decimal
  | .number d => some d
  | _ => none

def mapWith (number : String) : List UInt8 :=
  document ("\x7b\"version\":3,\"sources\":[],\"names\":[],\"mappings\":\"\",\"x\":" ++ number ++ "\x7d")

theorem mapWith_eq (number : String) : mapWith number =
    document "\x7b\"version\":3,\"sources\":[],\"names\":[],\"mappings\":\"\",\"x\":" ++
      document number ++ document "\x7d" := by
  rw [mapWith, document_append, document_append]

/-- The two numbers are one number of 64 bits, so the maps have one preimage. -/
theorem preimage_eq_of_rounded :
    (preimage jcsTransform .sdk (mapWith "9007199254740993")).isOk = true ∧
      (preimage jcsTransform .sdk (mapWith "9007199254740993")).toOption
        = (preimage jcsTransform .sdk (mapWith "9007199254740992")).toOption ∧
      ∃ m n, exactMembers (mapWith "9007199254740993") = .ok m ∧
        exactMembers (mapWith "9007199254740992") = .ok n ∧
        ¬(JsonTree.object m).Alike (fun d e => exactValue d = exactValue e) (.object n) := by
  have spelled := mapWith_eq "9007199254740993"
  have spelled' := mapWith_eq "9007199254740992"
  rw [document_ofList, document_ofList, document_ofList] at spelled spelled'
  obtain ⟨m, read⟩ : ∃ m, exactMembers (mapWith "9007199254740993") = .ok m := by
    rw [spelled]
    exact Except.exists_of_isOk (by decide +kernel)
  obtain ⟨n, read'⟩ : ∃ n, exactMembers (mapWith "9007199254740992") = .ok n := by
    rw [spelled']
    exact Except.exists_of_isOk (by decide +kernel)
  have numbers : (exactMembers (mapWith "9007199254740993")).toOption.map
      (fun members => (members.filter fun member => member.1 == codes "x").map
        fun member => exactNumber member.2) = some [some ⟨false, 9007199254740993, 0⟩] := by
    rw [spelled]
    decide +kernel
  have numbers' : (exactMembers (mapWith "9007199254740992")).toOption.map
      (fun members => (members.filter fun member => member.1 == codes "x").map
        fun member => exactNumber member.2) = some [some ⟨false, 9007199254740992, 0⟩] := by
    rw [spelled']
    decide +kernel
  rw [read] at numbers
  rw [read'] at numbers'
  replace numbers := Option.some.inj numbers
  replace numbers' := Option.some.inj numbers'
  refine ⟨?_, ?_, m, n, read, read', ?_⟩
  · rw [spelled]
    decide +kernel
  · rw [spelled, spelled']
    decide +kernel
  rintro ⟨-, members⟩
  obtain ⟨member, inside, spelled⟩ := List.mem_map.mp (numbers ▸ List.mem_singleton_self _)
  obtain ⟨inside, named⟩ := List.mem_filter.mp inside
  obtain ⟨w, found, alike⟩ := JsonTree.membersAlike_iff.mp members member inside
  have other : exactNumber w ∈ ([some ⟨false, 9007199254740992, 0⟩] : List (Option Decimal)) := by
    rw [← numbers']
    exact List.mem_map.mpr ⟨_, List.mem_filter.mpr ⟨found, named⟩, rfl⟩
  replace other := List.mem_singleton.mp other
  cases value : member.2 with
  | number d =>
    rw [value] at spelled alike
    obtain rfl := Option.some.inj spelled
    cases w with
    | number e =>
      obtain rfl := Option.some.inj other
      have equal : exactValue ⟨false, 9007199254740993, 0⟩ = exactValue ⟨false, 9007199254740992, 0⟩ :=
        alike
      norm_num [exactValue] at equal
    | _ => cases other
  | _ =>
    rw [value] at spelled
    cases spelled

end Opslane.Intake.DebugId
